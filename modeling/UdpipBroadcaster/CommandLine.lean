import UdpipBroadcaster.Library.Getopt
import UdpipBroadcaster.Library.PrintedTexts
import UdpipBroadcaster.PortNumbers

/-!
# The command line

The words of the command line are read by `getopt_long` with the tables of
`read_configuration`, and its `switch` takes what was returned.  The
arguments of `main` decide the configuration, and every configuration has
arguments that give it back.
-/

namespace UdpipBroadcaster

open Getopt PrintedTexts

/-! ## The tables and the `switch` -/

/-- The option string, `nhsevt:r:i:u:w:d:` -/
def optstring : Word :=
  utf8 "nhsevt:r:i:u:w:d:"

/-- The table `args`, without the entry that ends it. -/
def args : List LongOption :=
  [⟨utf8 "help", false, 'h'.toUInt8⟩,
    ⟨utf8 "verbose", false, 'e'.toUInt8⟩,
    ⟨utf8 "version", false, 'v'.toUInt8⟩,
    ⟨utf8 "nettx", true, 't'.toUInt8⟩,
    ⟨utf8 "netrx", true, 'r'.toUInt8⟩,
    ⟨utf8 "apptx", true, 'u'.toUInt8⟩,
    ⟨utf8 "apprx", true, 'w'.toUInt8⟩,
    ⟨utf8 "appaddr", true, 'd'.toUInt8⟩,
    ⟨utf8 "ifname", true, 'i'.toUInt8⟩,
    ⟨utf8 "txtest", false, 's'.toUInt8⟩,
    ⟨utf8 "nec", false, 'n'.toUInt8⟩]

theorem wellFormed_args : WellFormed optstring args where
  hyphen := by decide
  distinct := by decide
  noValue := by decide

/-- The string that starts at the front of some bytes. -/
def CString.ofBytes (bytes : List UInt8) : CString where
  bytes := bytes.takeWhile (· ≠ 0)
  noNul := by
    intro member
    simpa using List.mem_takeWhile_imp member

theorem CString.ofBytes_bytes (text : CString) :
    CString.ofBytes text.bytes = text := by
  rw [CString.mk.injEq]
  apply List.takeWhile_eq_self_iff.mpr
  intro byte member
  apply decide_eq_true
  intro zero
  exact text.noNul (zero ▸ member)

/-- The `switch` over a returned value. -/
def Opt.ofReturned (returned : Returned) : Opt :=
  let read := returned.val
  -- set by `getopt_long` for every option of the tables that takes it
  let optarg := CString.ofBytes (returned.optarg.getD [])
  if read = 't'.toUInt8 then .nettx optarg
  else if read = 'r'.toUInt8 then .netrx optarg
  else if read = 'd'.toUInt8 then .appaddr optarg
  else if read = 'u'.toUInt8 then .apptx optarg
  else if read = 'w'.toUInt8 then .apprx optarg
  else if read = 's'.toUInt8 then .txtest
  else if read = 'i'.toUInt8 then .ifname optarg
  else if read = 'n'.toUInt8 then .nec
  else if read = 'e'.toUInt8 then .verbose
  else if read = 'v'.toUInt8 then .version
  else if read = 'h'.toUInt8 then .help
  else .unrecognised

/-- The words behind the name of the program. -/
def wordsOf (argv : List CString) : List Word :=
  argv.tail.map CString.bytes

/-- The options that the loop of `read_configuration` is given, in the
default ordering of `getopt_long`: `POSIXLY_CORRECT` is not in the
environment. -/
def optionsOf (argv : List CString) : List Opt :=
  (getoptLong optstring args (wordsOf argv)).map Opt.ofReturned

/-! ## Accepted command lines -/

variable {opts : List Opt} {settings : Settings}

/-- No option ends the program, each field is decided by the last occurrence
of its option, all ports are positive and the interface has a name. -/
structure Configures (opts : List Opt) (settings : Settings) : Prop where
  accepted : ∀ opt ∈ opts, opt.Accepted
  last : LastWins opts settings
  ports : ∀ name : PortName, 0 < name.field settings.cfg
  interface : 0 < strlen settings.cfg.ifName.text

theorem mem_of_lastArgument
    {optarg : CString} (given : lastArgument .appaddr opts = some optarg) :
    Opt.appaddr optarg ∈ opts := by
  have occurs := List.mem_of_getLast? given
  rcases List.mem_filterMap.mp occurs with ⟨opt, listed, argument⟩
  rcases List.mem_filter.mp listed with ⟨member, named⟩
  cases opt with
  | appaddr text =>
      cases argument
      exact member
  | _ => simp [Opt.name] at named

theorem createConfiguration_eq_ok_iff :
    createConfiguration opts = .ok settings ↔ Configures opts settings := by
  constructor
  · intro created
    rcases createConfiguration_eq_ok created with ⟨read, check⟩
    rcases checkConfiguration_eq_ok check with
      ⟨⟨tx, rx⟩, interface, appTx, appRx⟩
    refine ⟨(readConfiguration_eq_ok.mp read).1,
      lastWins_readConfiguration read, ?_, interface⟩
    intro name
    cases name
    · exact tx
    · exact rx
    · exact appTx
    · exact appRx
  · intro configures
    have read :
        readConfiguration ⟨newConfiguration, false⟩ opts =
          .ok (opts.foldl Opt.assign ⟨newConfiguration, false⟩) :=
      readConfiguration_eq_ok.mpr ⟨configures.accepted, rfl⟩
    rw [(lastWins_readConfiguration read).unique configures.last] at read
    have check : checkConfiguration settings.cfg = .ok () := by
      have tx := configures.ports .nettx
      have rx := configures.ports .netrx
      have appTx := configures.ports .apptx
      have appRx := configures.ports .apprx
      have interface := configures.interface
      simp only [PortName.field] at tx rx appTx appRx
      rw [checkConfiguration, if_neg (by omega), if_neg (by omega),
        if_neg, if_neg (by omega)]
      · rfl
      · rw [configures.last.appAddress]
        cases given : lastArgument .appaddr opts with
        | none => simp
        | some optarg =>
            have nonempty :=
              (configures.accepted _ (mem_of_lastArgument given)).1
            simp only [Option.map_some, Option.any_some,
              decide_eq_true_eq]
            omega
    rw [createConfiguration, read]
    simp only [Bind.bind, Except.bind, check]
    rfl

/-- The arguments of `main` give a configuration exactly if the grammar of
command lines reads them as options that configure the program so. -/
theorem createConfiguration_optionsOf_iff
    (argv : List CString) (settings : Settings) :
    createConfiguration (optionsOf argv) = .ok settings ↔
      ∃ returned, CommandLine optstring args (wordsOf argv) returned ∧
        Configures (returned.map Opt.ofReturned) settings := by
  have known {returned : List Returned}
      (configures : Configures (returned.map Opt.ofReturned) settings) :
      unknown ∉ returned := by
    intro member
    exact configures.accepted _ (List.mem_map_of_mem member)
  rw [createConfiguration_eq_ok_iff, optionsOf]
  constructor
  · intro configures
    exact ⟨_, (getoptLong_eq_iff wellFormed_args (known configures)).mp rfl,
      configures⟩
  · rintro ⟨returned, line, configures⟩
    rw [(getoptLong_eq_iff wellFormed_args (known configures)).mpr line]
    exact configures

/-! ## The command line of a configuration -/

/-- The word of a one-letter option. -/
def optionWord (letter : Char) : CString :=
  CString.ofBytes [45, letter.toUInt8]

/-- The decimal text of a port. -/
def portText (port : Int) : CString where
  bytes := digits port.toNat
  noNul := by
    intro member
    exact absurd (isDigit_of_mem_digits member).1 (by decide)

/-- Arguments of `main` that give these settings. -/
def Settings.argv (settings : Settings) (program : CString) :
    List CString :=
  [program, optionWord 't', portText settings.cfg.txPort,
    optionWord 'r', portText settings.cfg.rxPort,
    optionWord 'u', portText settings.cfg.appTxPort,
    optionWord 'w', portText settings.cfg.appRxPort,
    optionWord 'i', settings.cfg.ifName.text] ++
  settings.cfg.appAddress.toList.flatMap
    (fun address => [optionWord 'd', address]) ++
  (if settings.cfg.txTest then [optionWord 's'] else []) ++
  (if settings.cfg.necMode then [optionWord 'n'] else []) ++
  (if settings.cfg.verbose then [optionWord 'e'] else [])

/-- The options in these arguments. -/
def Settings.options (settings : Settings) : List Opt :=
  [.nettx (portText settings.cfg.txPort),
    .netrx (portText settings.cfg.rxPort),
    .apptx (portText settings.cfg.appTxPort),
    .apprx (portText settings.cfg.appRxPort),
    .ifname settings.cfg.ifName.text] ++
  settings.cfg.appAddress.toList.map Opt.appaddr ++
  (if settings.cfg.txTest then [.txtest] else []) ++
  (if settings.cfg.necMode then [.nec] else []) ++
  (if settings.cfg.verbose then [.verbose] else [])

/-- `atoi` reads the text of a positive `int` back. -/
theorem atoi_portText
    {port : Int} (positive : 0 < port) (fits : port < 2 ^ 31) :
    atoi (portText port) = port := by
  have each : ∀ byte ∈ digits port.toNat, isdigit byte := by
    intro byte member
    have digit := isDigit_of_mem_digits member
    simp only [isdigit, Bool.and_eq_true, decide_eq_true_eq,
      UInt8.le_iff_toNat_le]
    exact digit
  have noSpace :
      (digits port.toNat).dropWhile isspace = digits port.toNat := by
    apply List.dropWhile_eq_self_iff.mpr
    intro nonempty
    rw [isspace_eq_false_of_isdigit (each _ (List.getElem_mem nonempty))]
    decide
  have noSign (sign : UInt8) (other : isdigit sign = false) :
      (digits port.toNat).head? ≠ some sign := by
    intro first
    rw [each sign (List.mem_of_mem_head? first)] at other
    cases other
  have value : leadingInteger (portText port).bytes = port := by
    simp only [leadingInteger, portText, noSpace,
      if_neg (noSign 45 (by decide)), if_neg (noSign 43 (by decide))]
    rw [leadingNatural, List.takeWhile_eq_self_iff.mpr each]
    have read : ((digits port.toNat).foldl
        (fun value digit => 10 * value + (digit.toNat - 48)) 0 : Nat) =
          port.toNat :=
      digitsValue_digits port.toNat
    rw [read]
    omega
  rw [atoi_eq_leadingInteger, value]
  · rw [value]
    omega
  · rw [value]
    exact fits

private theorem getoptLong_argument
    (letter : Char)
    (notEnd : (optionWord letter).bytes ≠ [45, 45])
    (read : readWord optstring args (optionWord letter).bytes =
      ([], some letter.toUInt8))
    (arg : Word) (rest : List Word) :
    getoptLong optstring args ((optionWord letter).bytes :: arg :: rest) =
      ⟨letter.toUInt8, some arg⟩ :: getoptLong optstring args rest :=
  (Reads.withNext _ arg _ _ notEnd read).getoptLong

private theorem getoptLong_flag
    (given : Bool) (letter : Char)
    (notEnd : (optionWord letter).bytes ≠ [45, 45])
    (read : readWord optstring args (optionWord letter).bytes =
      ([⟨letter.toUInt8, none⟩], none))
    (rest : List Word) :
    getoptLong optstring args
        ((if given then [(optionWord letter).bytes] else []) ++ rest) =
      (if given then [⟨letter.toUInt8, none⟩] else []) ++
        getoptLong optstring args rest := by
  cases given with
  | false => rfl
  | true => exact (Reads.alone _ _ notEnd read).getoptLong

/-- The program reads these options. -/
theorem optionsOf_argv (settings : Settings) (program : CString) :
    optionsOf (settings.argv program) = settings.options := by
  have words : wordsOf (settings.argv program) =
      (optionWord 't').bytes :: (portText settings.cfg.txPort).bytes ::
      (optionWord 'r').bytes :: (portText settings.cfg.rxPort).bytes ::
      (optionWord 'u').bytes :: (portText settings.cfg.appTxPort).bytes ::
      (optionWord 'w').bytes :: (portText settings.cfg.appRxPort).bytes ::
      (optionWord 'i').bytes :: settings.cfg.ifName.text.bytes ::
      (settings.cfg.appAddress.toList.flatMap
        (fun address => [(optionWord 'd').bytes, address.bytes]) ++
      ((if settings.cfg.txTest then [(optionWord 's').bytes] else []) ++
      ((if settings.cfg.necMode then [(optionWord 'n').bytes] else []) ++
      ((if settings.cfg.verbose then [(optionWord 'e').bytes] else []) ++
        [])))) := by
    rw [wordsOf, Settings.argv]
    cases settings.cfg.appAddress <;> cases settings.cfg.txTest <;>
      cases settings.cfg.necMode <;> cases settings.cfg.verbose <;> rfl
  have address (rest : List Word) :
      getoptLong optstring args
          (settings.cfg.appAddress.toList.flatMap
            (fun address => [(optionWord 'd').bytes, address.bytes]) ++
            rest) =
        settings.cfg.appAddress.toList.map
            (fun address => ⟨'d'.toUInt8, some address.bytes⟩) ++
          getoptLong optstring args rest := by
    cases settings.cfg.appAddress with
    | none => rfl
    | some address =>
        exact getoptLong_argument 'd' (by decide) (by decide) _ rest
  have read (option : CString → Opt) (text : CString) :
      option (CString.ofBytes text.bytes) = option text :=
    congrArg option text.ofBytes_bytes
  rw [optionsOf, words,
    getoptLong_argument 't' (by decide) (by decide),
    getoptLong_argument 'r' (by decide) (by decide),
    getoptLong_argument 'u' (by decide) (by decide),
    getoptLong_argument 'w' (by decide) (by decide),
    getoptLong_argument 'i' (by decide) (by decide), address,
    getoptLong_flag _ 's' (by decide) (by decide),
    getoptLong_flag _ 'n' (by decide) (by decide),
    getoptLong_flag _ 'e' (by decide) (by decide), Settings.options]
  simp only [List.map_cons, List.map_append, List.cons_append,
    List.nil_append, List.append_assoc]
  congr 1
  · exact read .nettx _
  congr 1
  · exact read .netrx _
  congr 1
  · exact read .apptx _
  congr 1
  · exact read .apprx _
  congr 1
  · exact read .ifname _
  congr 1
  · cases settings.cfg.appAddress with
    | none => rfl
    | some address => exact congrArg List.singleton (read .appaddr address)
  · cases settings.cfg.txTest <;> cases settings.cfg.necMode <;>
      cases settings.cfg.verbose <;> rfl

private theorem lastArgument_options (settings : Settings) :
    lastArgument .nettx settings.options =
        some (portText settings.cfg.txPort) ∧
      lastArgument .netrx settings.options =
        some (portText settings.cfg.rxPort) ∧
      lastArgument .apptx settings.options =
        some (portText settings.cfg.appTxPort) ∧
      lastArgument .apprx settings.options =
        some (portText settings.cfg.appRxPort) ∧
      lastArgument .ifname settings.options =
        some settings.cfg.ifName.text ∧
      lastArgument .appaddr settings.options =
        settings.cfg.appAddress := by
  rw [Settings.options]
  cases settings.cfg.appAddress <;> cases settings.cfg.txTest <;>
    cases settings.cfg.necMode <;> cases settings.cfg.verbose <;>
    exact ⟨rfl, rfl, rfl, rfl, rfl, rfl⟩

private theorem field_lt
    (configures : Configures opts settings) (name : PortName) :
    name.field settings.cfg < 2 ^ 31 := by
  rcases field_of_accepted (createConfiguration_eq_ok_iff.mpr configures)
    name with ⟨optarg, -, set, -⟩
  rw [set, atoi]
  have bound :
      (max (-2 ^ 63) (min (2 ^ 63 - 1)
        (leadingInteger optarg.bytes))).bmod (2 ^ 32) <
          ((2 ^ 32 : Nat) + 1) / 2 :=
    Int.bmod_lt (by decide)
  omega

/-- The options of an accepted configuration configure it. -/
theorem configures_options
    (configures : Configures opts settings) :
    Configures settings.options settings := by
  have created := createConfiguration_eq_ok_iff.mpr configures
  rcases lastArgument_options settings with
    ⟨tx, rx, appTx, appRx, interface, address⟩
  have port (name : PortName) :
      atoi (portText (name.field settings.cfg)) =
        name.field settings.cfg :=
    atoi_portText (configures.ports name) (field_lt configures name)
  refine ⟨?_, ⟨?_, ?_, ?_, ?_, ?_, ?_, ?_, ?_, ?_, ?_, ?_⟩,
    configures.ports, configures.interface⟩
  · intro opt member
    cases opt with
    | appaddr optarg =>
        have given : settings.cfg.appAddress = some optarg := by
          simpa [Settings.options] using member
        rw [configures.last.appAddress] at given
        exact configures.accepted _ (mem_of_lastArgument given)
    | version | help | unrecognised =>
        simp [Settings.options] at member
    | _ => trivial
  · rw [tx]
    exact (port .nettx).symm
  · rw [rx]
    exact (port .netrx).symm
  · rw [appTx]
    exact (port .apptx).symm
  · rw [appRx]
    exact (port .apprx).symm
  · exact address.symm
  · rw [address, configures.last.appAddress]
    exact configures.last.appInetAddr
  · rw [interface, configures.last.ifName, interfaceBytes,
      interfaceBytes, Option.map_some, Option.getD_some,
      text_ifName created, List.take_take, min_self]
  · simp [Settings.options]
  · simp [Settings.options]
  · simp [Settings.options]
  · exact configures.last.globalVerbose

/-- The arguments of a configuration, which name each option once, give it
back, and the program does the same with them. -/
theorem createConfiguration_argv
    {argv : List CString} {settings : Settings}
    (created : createConfiguration (optionsOf argv) = .ok settings)
    (program : CString) :
    createConfiguration (optionsOf (settings.argv program)) =
        .ok settings ∧
      ∀ platform, main platform (optionsOf (settings.argv program)) =
        main platform (optionsOf argv) := by
  have again :
      createConfiguration (optionsOf (settings.argv program)) =
        .ok settings := by
    rw [optionsOf_argv]
    exact createConfiguration_eq_ok_iff.mpr
      (configures_options (createConfiguration_eq_ok_iff.mp created))
  refine ⟨again, fun platform => ?_⟩
  rw [main, main, loadConfiguration, loadConfiguration, again, created]

/-- `udpip -i eth0 --nettx=5000 -r5000 --appt 6000 -ew 6001` -/
def mixedArgv : List CString :=
  [CString.ofBytes (utf8 "udpip"),
    optionWord 'i', interfaceText,
    CString.ofBytes (utf8 "--nettx=5000"),
    CString.ofBytes (utf8 "-r5000"),
    CString.ofBytes (utf8 "--appt"), portText 6000,
    CString.ofBytes (utf8 "-ew"), portText 6001]

/-- What `mixedArgv` configures. -/
def mixedSettings : Settings where
  cfg := { relaySettings.cfg with verbose := true }
  verbose := true

theorem createConfiguration_argv_mixedArgv :
    createConfiguration
        (optionsOf (mixedSettings.argv interfaceText)) =
          .ok mixedSettings ∧
      ∀ platform,
        main platform (optionsOf (mixedSettings.argv interfaceText)) =
          main platform (optionsOf mixedArgv) :=
  createConfiguration_argv (by rfl) interfaceText

end UdpipBroadcaster
