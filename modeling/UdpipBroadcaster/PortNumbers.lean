import Mathlib.Data.List.Induction
import UdpipBroadcaster.Startup

/-!
# Port numbers

A port is the decimal integer at the front of the text of its option.  What
follows the integer is not looked at; a port between 1 and 65535 is the one
that the address structures hold.
-/

namespace UdpipBroadcaster

open Programs

/-! ## Decimal integers in a text -/

/-- The number that a string of decimal digits denotes. -/
def decimalValue (digits : List UInt8) : Nat :=
  Nat.ofDigits 10 (digits.reverse.map fun digit => digit.toNat - 48)

/-- The sign of a decimal integer. -/
inductive Sign where
  | none
  | plus
  | minus

namespace Sign

def text : Sign → List UInt8
  | .none => []
  | .plus => [43]
  | .minus => [45]

def apply (magnitude : Nat) : Sign → Int
  | .minus => -magnitude
  | _ => magnitude

end Sign

/-- The text is white space, then the decimal integer `value`, then
`rest`. -/
def StartsWith (text : List UInt8) (value : Int) (rest : List UInt8) :
    Prop :=
  ∃ (space : List UInt8) (sign : Sign) (digits : List UInt8),
    text = space ++ sign.text ++ digits ++ rest ∧
      (∀ byte ∈ space, isspace byte) ∧
      digits ≠ [] ∧ (∀ byte ∈ digits, isdigit byte) ∧
      (∀ byte, rest.head? = some byte → isdigit byte = false) ∧
      value = sign.apply (decimalValue digits)

theorem leadingNatural_eq (text : List UInt8) :
    leadingNatural text = decimalValue (text.takeWhile isdigit) := by
  rw [leadingNatural]
  induction text.takeWhile isdigit using List.reverseRecOn with
  | nil => rfl
  | append_singleton digits digit inductionHypothesis =>
      rw [List.foldl_append, inductionHypothesis, decimalValue,
        decimalValue, List.reverse_append, List.map_append]
      simp [Nat.ofDigits_cons, Nat.add_comm]

/-- A sign and at least one digit other than zero behind the white space. -/
private theorem startsWith_of_sign
    {text body : List UInt8} (sign : Sign)
    (shape : text.dropWhile isspace = sign.text ++ body)
    (nonzero : leadingNatural body ≠ 0) :
    ∃ rest, StartsWith text (sign.apply (leadingNatural body)) rest := by
  refine ⟨body.dropWhile isdigit, text.takeWhile isspace, sign,
    body.takeWhile isdigit, ?_, ?_, ?_, ?_, ?_, ?_⟩
  · rw [List.append_assoc, List.takeWhile_append_dropWhile,
      List.append_assoc, ← shape, List.takeWhile_append_dropWhile]
  · exact fun byte member => List.mem_takeWhile_imp member
  · intro empty
    rw [leadingNatural_eq, empty] at nonzero
    exact nonzero rfl
  · exact fun byte member => List.mem_takeWhile_imp member
  · intro byte first
    have stop := List.head?_dropWhile_not isdigit body
    rw [first] at stop
    simpa using stop
  · rw [leadingNatural_eq]

/-- Unless the value is zero, there is an integer at the front. -/
theorem startsWith_leadingInteger
    {text : List UInt8} (nonzero : leadingInteger text ≠ 0) :
    ∃ rest, StartsWith text (leadingInteger text) rest := by
  simp only [leadingInteger] at nonzero ⊢
  by_cases minus : (text.dropWhile isspace).head? = some 45
  · rw [if_pos minus] at nonzero ⊢
    exact startsWith_of_sign .minus
      (List.eq_cons_of_mem_head? minus) (by omega)
  · rw [if_neg minus] at nonzero ⊢
    by_cases plus : (text.dropWhile isspace).head? = some 43
    · rw [if_pos plus] at nonzero ⊢
      exact startsWith_of_sign .plus
        (List.eq_cons_of_mem_head? plus) (by omega)
    · rw [if_neg plus] at nonzero ⊢
      exact startsWith_of_sign .none rfl (by omega)

/-- A text that nothing follows ends in a digit. -/
theorem StartsWith.getLast?
    {text : List UInt8} {value : Int}
    (starts : StartsWith text value []) :
    ∃ byte, text.getLast? = some byte ∧ isdigit byte := by
  rcases starts with ⟨space, sign, digits, shape, -, nonempty, all, -⟩
  refine ⟨digits.getLast nonempty, ?_, all _ (List.getLast_mem nonempty)⟩
  rw [shape, List.append_nil, List.getLast?_append,
    List.getLast?_eq_some_getLast nonempty]
  rfl

/-! ## What `atoi` returns -/

/-- In the range of an `int` the integer is neither cut nor narrowed. -/
theorem atoi_eq_leadingInteger
    {nptr : CString} (above : -2 ^ 31 ≤ leadingInteger nptr.bytes)
    (below : leadingInteger nptr.bytes < 2 ^ 31) :
    atoi nptr = leadingInteger nptr.bytes := by
  have upper :
      min (2 ^ 63 - 1) (leadingInteger nptr.bytes) =
        leadingInteger nptr.bytes := by
    omega
  have lower :
      max (-2 ^ 63) (leadingInteger nptr.bytes) =
        leadingInteger nptr.bytes := by
    omega
  rw [atoi, upper, lower]
  apply Int.bmod_eq_of_le_mul_two
  · norm_num
    omega
  · norm_num
    omega

theorem leadingInteger_ne_zero
    {nptr : CString} (positive : 0 < atoi nptr) :
    leadingInteger nptr.bytes ≠ 0 := by
  intro zero
  rw [atoi, zero] at positive
  exact absurd positive (by decide)

/-! ## The four ports -/

/-- The options that name a port. -/
inductive PortName where
  | nettx
  | netrx
  | apptx
  | apprx
  deriving DecidableEq

namespace PortName

def option : PortName → OptName
  | .nettx => .nettx
  | .netrx => .netrx
  | .apptx => .apptx
  | .apprx => .apprx

/-- The field that the option sets. -/
def field (cfg : Configuration) : PortName → Int
  | .nettx => cfg.txPort
  | .netrx => cfg.rxPort
  | .apptx => cfg.appTxPort
  | .apprx => cfg.appRxPort

end PortName

/-- The program builds an address with the port `value`. -/
def BuildsPort (build : Program SockaddrIn) (value : Int) : Prop :=
  ∀ world addr next,
    build world = .ok addr next → (addr.port.toNat : Int) = value

/-- Every address built from `port` has the port `value`. -/
structure EncodedAs (platform : Platform) (port value : Int) : Prop where
  any : BuildsPort (initAnySockaddrIn platform port) value
  broadcast : BuildsPort (initBroadcastSockaddrIn platform port) value
  given : ∀ address,
    BuildsPort (initSockaddrIn platform address port) value

private theorem buildsPort_of_wp
    {build : Program SockaddrIn} {value : Int}
    (run : ∀ world, wp (fun _ => True) build
      (fun addr _ => (addr.port.toNat : Int) = value) world) :
    BuildsPort build value := by
  intro world addr next built
  have port := post_of_returned (run world) built
  exact port

/-- The three constructors narrow the port alike. -/
theorem encodedAs_emod (platform : Platform) (port : Int) :
    EncodedAs platform port (port % 65536) := by
  have converts (address : UInt32) :
      ((SockaddrIn.mk afInet (htons (toUInt16 port)) address).port.toNat :
        Int) = port % 65536 := by
    rw [SockaddrIn.port, ntohs_htons, toNat_toUInt16_emod]
  constructor
  · apply buildsPort_of_wp
    intro world
    exact wp_initAnySockaddrIn (fun _ => trivial) (converts _)
  · apply buildsPort_of_wp
    intro world
    exact wp_initBroadcastSockaddrIn (fun _ => trivial) (converts _)
  · intro address
    apply buildsPort_of_wp
    intro world
    exact wp_initSockaddrIn (fun _ => trivial) (converts _)

/-- A port in range is the port of every address built from it. -/
theorem encodedAs_of_inRange
    (platform : Platform) {port : Int} (positive : 1 ≤ port)
    (inRange : port ≤ 65535) : EncodedAs platform port port := by
  have narrowed := encodedAs_emod platform port
  rw [Int.emod_eq_of_lt (by omega) (by omega)] at narrowed
  exact narrowed

/-! ## Accepted ports -/

theorem checkConfiguration_eq_ok
    {cfg : Configuration} (accepted : checkConfiguration cfg = .ok ()) :
    (0 < cfg.txPort ∧ 0 < cfg.rxPort) ∧ 0 < strlen cfg.ifName.text ∧
      0 < cfg.appTxPort ∧ 0 < cfg.appRxPort := by
  rw [checkConfiguration] at accepted
  split at accepted
  · cases accepted
  · split at accepted
    · cases accepted
    · split at accepted
      · cases accepted
      · split at accepted
        · cases accepted
        · omega

variable {opts : List Opt} {settings : Settings}

/-- The field of a port holds what `atoi` returns for the last text, and
that is positive. -/
theorem field_of_accepted
    (accepted : createConfiguration opts = .ok settings)
    (name : PortName) :
    ∃ optarg, lastArgument name.option opts = some optarg ∧
      name.field settings.cfg = atoi optarg ∧ 0 < atoi optarg := by
  have last := lastWins_createConfiguration accepted
  have checked :=
    checkConfiguration_eq_ok (createConfiguration_eq_ok accepted).2
  have set : name.field settings.cfg =
      ((lastArgument name.option opts).map atoi).getD 0 := by
    cases name with
    | nettx => exact last.txPort
    | netrx => exact last.rxPort
    | apptx => exact last.appTxPort
    | apprx => exact last.appRxPort
  have positive : 0 < name.field settings.cfg := by
    cases name with
    | nettx => exact checked.1.1
    | netrx => exact checked.1.2
    | apptx => exact checked.2.2.1
    | apprx => exact checked.2.2.2
  cases given : lastArgument name.option opts with
  | none =>
      rw [given] at set
      rw [set] at positive
      exact absurd positive (by decide)
  | some optarg =>
      rw [given] at set
      rw [set] at positive
      exact ⟨optarg, rfl, set, positive⟩

/-- The port named on the command line is the one that is used: its text is
a decimal integer in range and nothing else, and every address built from
the field has that port. -/
def UsedAsConfigured
    (platform : Platform) (opts : List Opt) (cfg : Configuration)
    (name : PortName) : Prop :=
  ∃ optarg value, lastArgument name.option opts = some optarg ∧
    StartsWith optarg.bytes value [] ∧ 1 ≤ value ∧ value ≤ 65535 ∧
    EncodedAs platform (name.field cfg) value

/-- The text of every port of an accepted command line starts with a decimal
integer.  If that fits in an `int`, it is positive and what the field holds,
and if it is a port at all, every address built from the field has that
port. -/
theorem portTexts_of_accepted
    (platform : Platform)
    (accepted : createConfiguration opts = .ok settings)
    (name : PortName) :
    ∃ optarg value rest, lastArgument name.option opts = some optarg ∧
      StartsWith optarg.bytes value rest ∧
      (-2 ^ 31 ≤ value → value < 2 ^ 31 →
        1 ≤ value ∧ name.field settings.cfg = value ∧
          (value ≤ 65535 →
            EncodedAs platform (name.field settings.cfg) value)) := by
  rcases field_of_accepted accepted name with
    ⟨optarg, given, set, positive⟩
  rcases startsWith_leadingInteger (leadingInteger_ne_zero positive) with
    ⟨rest, starts⟩
  refine ⟨optarg, _, rest, given, starts, fun above below => ?_⟩
  have read := atoi_eq_leadingInteger above below
  rw [read] at set positive
  refine ⟨positive, set, fun inRange => ?_⟩
  rw [set]
  exact encodedAs_of_inRange platform positive inRange

theorem portTexts_relayOptions :
    ∃ optarg value rest,
      lastArgument .nettx relayOptions = some optarg ∧
        StartsWith optarg.bytes value rest ∧
        (-2 ^ 31 ≤ value → value < 2 ^ 31 →
          1 ≤ value ∧ relaySettings.cfg.txPort = value ∧
            (value ≤ 65535 →
              EncodedAs workingHost relaySettings.cfg.txPort value)) :=
  portTexts_of_accepted workingHost createConfiguration_relayOptions .nettx

/-- `-i eth0 -t 5000 -r 5000 -u 6000 -w 6001 -t 5000x` -/
def trailingOptions : List Opt :=
  relayOptions ++ [.nettx ⟨[53, 48, 48, 48, 120], by decide⟩]

/-- `5000x` is accepted. -/
theorem not_usedAsConfigured_trailingOptions :
    createConfiguration trailingOptions = .ok relaySettings ∧
      ∀ platform, ¬ UsedAsConfigured platform trailingOptions
        relaySettings.cfg .nettx := by
  refine ⟨rfl, fun platform used => ?_⟩
  rcases used with ⟨optarg, value, given, starts, -⟩
  cases given
  rcases starts.getLast? with ⟨byte, last, digit⟩
  cases last
  exact absurd digit (by decide)

end UdpipBroadcaster
