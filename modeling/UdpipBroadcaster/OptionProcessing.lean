import UdpipBroadcaster.Configuration
import UdpipBroadcaster.Library.LastWrites

/-!
# Option processing

`read_configuration` exits at the first option that ends the program, and
otherwise leaves in each field what the last occurrence of its option gave.
The order of different options is of no importance.
-/

namespace UdpipBroadcaster

open ByteStrings LastWrites

/-! ## What one option does -/

namespace Opt

/-- The option does not end the program. -/
def Accepted : Opt → Prop
  | .appaddr optarg => 0 < strlen optarg ∧ inetAddr optarg ≠ inaddrNone
  | .version | .help | .unrecognised => False
  | _ => True

/-- The assignments of the option. -/
def assign (settings : Settings) : Opt → Settings
  | .nettx optarg => { settings with cfg.txPort := atoi optarg }
  | .netrx optarg => { settings with cfg.rxPort := atoi optarg }
  | .appaddr optarg =>
      { settings with
        cfg.appAddress := some optarg
        cfg.appInetAddr := inetAddr optarg }
  | .apptx optarg => { settings with cfg.appTxPort := atoi optarg }
  | .apprx optarg => { settings with cfg.appRxPort := atoi optarg }
  | .txtest => { settings with cfg.txTest := true }
  | .ifname optarg =>
      { settings with
        cfg.ifName := strncpy settings.cfg.ifName optarg ifNamesize }
  | .nec => { settings with cfg.necMode := true }
  | .verbose => { settings with verbose := true, cfg.verbose := true }
  | .version | .help | .unrecognised => settings

end Opt

theorem readOption_eq_ok
    {settings next : Settings} {opt : Opt} :
    readOption settings opt = .ok next ↔
      opt.Accepted ∧ opt.assign settings = next := by
  cases opt with
  | appaddr optarg =>
      simp only [readOption, Opt.Accepted, Opt.assign]
      by_cases empty : strlen optarg ≤ 0
      · rw [if_pos empty]
        constructor
        · intro stopped
          cases stopped
        · intro accepted
          omega
      · rw [if_neg empty]
        have nonempty : 0 < strlen optarg := by omega
        by_cases wrong : inetAddr optarg = 0xFFFFFFFF
        · rw [if_pos wrong]
          constructor
          · intro stopped
            cases stopped
          · intro accepted
            exact absurd wrong accepted.1.2
        · rw [if_neg wrong]
          constructor
          · intro read
            cases read
            exact ⟨⟨nonempty, wrong⟩, rfl⟩
          · intro accepted
            exact congrArg Except.ok accepted.2
  | version | help | unrecognised =>
      constructor
      · intro stopped
        cases stopped
      · intro accepted
        exact accepted.1.elim
  | _ =>
      constructor
      · intro read
        cases read
        exact ⟨trivial, rfl⟩
      · intro accepted
        exact congrArg Except.ok accepted.2

/-- The loop returns exactly if no option ends the program, and then it has
made the assignments in order. -/
theorem readConfiguration_eq_ok
    {settings last : Settings} {opts : List Opt} :
    readConfiguration settings opts = .ok last ↔
      (∀ opt ∈ opts, opt.Accepted) ∧ opts.foldl Opt.assign settings = last := by
  induction opts generalizing settings with
  | nil =>
      constructor
      · intro read
        cases read
        exact ⟨by simp, rfl⟩
      · intro accepted
        exact congrArg Except.ok accepted.2
  | cons opt rest inductionHypothesis =>
      rw [readConfiguration, List.foldlM_cons, List.forall_mem_cons,
        List.foldl_cons, and_assoc]
      cases first : readOption settings opt with
      | error reason =>
          have refused : ¬ opt.Accepted := by
            intro accepted
            rw [readOption_eq_ok.mpr ⟨accepted, rfl⟩] at first
            cases first
          constructor
          · intro read
            cases read
          · intro accepted
            exact absurd accepted.1 refused
      | ok next =>
          rcases readOption_eq_ok.mp first with ⟨accepted, rfl⟩
          exact inductionHypothesis.trans (and_iff_right accepted).symm

variable {opts other : List Opt} {settings : Settings}

/-! ## The occurrences of an option -/

/-- The options, without their arguments. -/
inductive OptName where
  | nettx
  | netrx
  | appaddr
  | apptx
  | apprx
  | txtest
  | ifname
  | nec
  | verbose
  | version
  | help
  | unrecognised
  deriving DecidableEq

namespace Opt

def name : Opt → OptName
  | .nettx _ => .nettx
  | .netrx _ => .netrx
  | .appaddr _ => .appaddr
  | .apptx _ => .apptx
  | .apprx _ => .apprx
  | .txtest => .txtest
  | .ifname _ => .ifname
  | .nec => .nec
  | .verbose => .verbose
  | .version => .version
  | .help => .help
  | .unrecognised => .unrecognised

def argument : Opt → Option CString
  | .nettx optarg | .netrx optarg | .appaddr optarg => some optarg
  | .apptx optarg | .apprx optarg | .ifname optarg => some optarg
  | _ => none

end Opt

/-- The occurrences of one option, in order. -/
def occurrences (name : OptName) (opts : List Opt) : List Opt :=
  opts.filter (·.name = name)

/-- The argument of the last occurrence of an option. -/
def lastArgument (name : OptName) (opts : List Opt) : Option CString :=
  ((occurrences name opts).filterMap Opt.argument).getLast?

/-- The same options were given the same arguments in the same order, option
by option. -/
def SameOccurrences (opts other : List Opt) : Prop :=
  ∀ name, occurrences name opts = occurrences name other

theorem SameOccurrences.mem
    (same : SameOccurrences opts other) {opt : Opt} (member : opt ∈ other) :
    opt ∈ opts := by
  have occurs : opt ∈ occurrences opt.name other := by
    simp [occurrences, member]
  rw [← same opt.name] at occurs
  exact List.mem_of_mem_filter occurs

/-- A field that one option sets to a value of its argument, the others
leaving it alone, is decided by the last occurrence of that option. -/
theorem field_readConfiguration
    {β : Type} (field : Settings → β) (name : OptName)
    (value : CString → β)
    (step : ∀ settings opt, field (Opt.assign settings opt) =
      (((if opt.name = name then opt.argument else none).map value)).getD
        (field settings))
    {last : Settings} (read : readConfiguration settings opts = .ok last) :
    field last =
      ((lastArgument name opts).map value).getD (field settings) := by
  rcases readConfiguration_eq_ok.mp read with ⟨-, rfl⟩
  rw [field_foldl field _ step, ← List.map_filterMap, List.getLast?_map,
    lastArgument, occurrences, List.filterMap_filter]
  simp only [decide_eq_true_eq]

/-! ## The last occurrence wins -/

/-- The bytes of `if_name`: the first bytes of the name, padded with NUL. -/
def interfaceBytes (optarg : Option CString) : List UInt8 :=
  let name := ((optarg.map CString.bytes).getD []).take ifNamesize
  name ++ List.replicate (ifNamesize + 1 - name.length) 0

/-- Each field holds what the last occurrence of its option gave, or what
`new_configuration` left there. -/
structure LastWins (opts : List Opt) (settings : Settings) : Prop where
  txPort : settings.cfg.txPort =
    ((lastArgument .nettx opts).map atoi).getD 0
  rxPort : settings.cfg.rxPort =
    ((lastArgument .netrx opts).map atoi).getD 0
  appTxPort : settings.cfg.appTxPort =
    ((lastArgument .apptx opts).map atoi).getD 0
  appRxPort : settings.cfg.appRxPort =
    ((lastArgument .apprx opts).map atoi).getD 0
  appAddress : settings.cfg.appAddress = lastArgument .appaddr opts
  appInetAddr : settings.cfg.appInetAddr =
    ((lastArgument .appaddr opts).map inetAddr).getD 0
  ifName : settings.cfg.ifName.bytes =
    interfaceBytes (lastArgument .ifname opts)
  necMode : settings.cfg.necMode = true ↔ Opt.nec ∈ opts
  txTest : settings.cfg.txTest = true ↔ Opt.txtest ∈ opts
  verbose : settings.cfg.verbose = true ↔ Opt.verbose ∈ opts
  globalVerbose : settings.verbose = settings.cfg.verbose

section LastOccurrence

variable
  (read : readConfiguration ⟨newConfiguration, false⟩ opts = .ok settings)

include read

private theorem flag_readConfiguration
    (flag : Settings → Bool) (option : Opt)
    (initially : flag ⟨newConfiguration, false⟩ = false)
    (step : ∀ settings opt,
      flag (Opt.assign settings opt) = true ↔
        flag settings = true ∨ opt = option) :
    flag settings = true ↔ option ∈ opts := by
  rcases readConfiguration_eq_ok.mp read with ⟨-, rfl⟩
  rw [flag_foldl flag _ step, initially]
  simp

private theorem verbose_readConfiguration :
    settings.cfg.verbose = true ↔ Opt.verbose ∈ opts :=
  flag_readConfiguration read (·.cfg.verbose) .verbose rfl
    (by intro _ opt; cases opt <;> simp [Opt.assign])

/-- The copy into `if_name` leaves its last byte alone and sets all
others. -/
private theorem ifName_readConfiguration :
    settings.cfg.ifName.bytes =
      interfaceBytes (lastArgument .ifname opts) := by
  let padded (optarg : CString) : List UInt8 :=
    optarg.bytes.take ifNamesize ++
      List.replicate (ifNamesize - strlen optarg) 0
  have length_padded (optarg : CString) :
      (padded optarg).length = ifNamesize := by
    simp only [padded, List.length_append, List.length_take,
      List.length_replicate, strlen]
    omega
  have copied (settings : Settings) (optarg : CString) :
      (strncpy settings.cfg.ifName optarg ifNamesize).bytes =
        padded optarg ++ settings.cfg.ifName.bytes.drop ifNamesize := by
    have fits :
        (padded optarg).length ≤ settings.cfg.ifName.bytes.length := by
      rw [length_padded, settings.cfg.ifName.length_bytes]
      omega
    have written := overwrite_eq_append fits
    rw [length_padded] at written
    exact written
  have front :=
    field_readConfiguration
      (fun settings => settings.cfg.ifName.bytes.take ifNamesize)
      .ifname padded
      (by
        intro settings opt
        cases opt with
        | ifname optarg =>
            simp only [Opt.assign, copied]
            exact List.take_left' (length_padded optarg)
        | _ => rfl)
      read
  have last :
      settings.cfg.ifName.bytes.drop ifNamesize = [0] := by
    rcases readConfiguration_eq_ok.mp read with ⟨-, rfl⟩
    apply field_foldl_of_untouched
      (fun settings : Settings => settings.cfg.ifName.bytes.drop ifNamesize)
    intro settings opt
    cases opt with
    | ifname optarg =>
        simp only [Opt.assign, copied]
        exact List.drop_left' (length_padded optarg)
    | _ => rfl
  rw [← List.take_append_drop ifNamesize settings.cfg.ifName.bytes, front,
    last]
  cases lastArgument .ifname opts with
  | none => rfl
  | some optarg =>
      have short : (optarg.bytes.take ifNamesize).length ≤ ifNamesize :=
        List.length_take_le _ _
      simp only [interfaceBytes, padded, Option.map_some, Option.getD_some,
        List.append_assoc, strlen]
      rw [Nat.succ_sub short, List.replicate_succ']
      congr 3
      rw [List.length_take]
      omega

theorem lastWins_readConfiguration : LastWins opts settings where
  txPort :=
    field_readConfiguration (·.cfg.txPort) .nettx atoi
      (by intro _ opt; cases opt <;> rfl) read
  rxPort :=
    field_readConfiguration (·.cfg.rxPort) .netrx atoi
      (by intro _ opt; cases opt <;> rfl) read
  appTxPort :=
    field_readConfiguration (·.cfg.appTxPort) .apptx atoi
      (by intro _ opt; cases opt <;> rfl) read
  appRxPort :=
    field_readConfiguration (·.cfg.appRxPort) .apprx atoi
      (by intro _ opt; cases opt <;> rfl) read
  appAddress := by
    rw [field_readConfiguration (·.cfg.appAddress) .appaddr some
      (by intro _ opt; cases opt <;> rfl) read]
    cases lastArgument .appaddr opts <;> rfl
  appInetAddr :=
    field_readConfiguration (·.cfg.appInetAddr) .appaddr inetAddr
      (by intro _ opt; cases opt <;> rfl) read
  ifName := ifName_readConfiguration read
  necMode :=
    flag_readConfiguration read (·.cfg.necMode) .nec rfl
      (by intro _ opt; cases opt <;> simp [Opt.assign])
  txTest :=
    flag_readConfiguration read (·.cfg.txTest) .txtest rfl
      (by intro _ opt; cases opt <;> simp [Opt.assign])
  verbose := verbose_readConfiguration read
  globalVerbose := by
    have ofProcess :=
      flag_readConfiguration read (·.verbose) .verbose rfl
        (by intro _ opt; cases opt <;> simp [Opt.assign])
    rw [Bool.eq_iff_iff, ofProcess, verbose_readConfiguration read]

end LastOccurrence

/-! ## The order of different options -/

theorem lastArgument_congr
    (same : SameOccurrences opts other) (name : OptName) :
    lastArgument name opts = lastArgument name other := by
  rw [lastArgument, lastArgument, same name]

theorem LastWins.congr
    (same : SameOccurrences opts other) (last : LastWins opts settings) :
    LastWins other settings := by
  have argument := lastArgument_congr same
  have sameMembers (opt : Opt) : opt ∈ opts ↔ opt ∈ other :=
    ⟨SameOccurrences.mem fun name => (same name).symm, same.mem⟩
  constructor
  · rw [last.txPort, argument]
  · rw [last.rxPort, argument]
  · rw [last.appTxPort, argument]
  · rw [last.appRxPort, argument]
  · rw [last.appAddress, argument]
  · rw [last.appInetAddr, argument]
  · rw [last.ifName, argument]
  · rw [last.necMode, sameMembers]
  · rw [last.txTest, sameMembers]
  · rw [last.verbose, sameMembers]
  · exact last.globalVerbose

/-- The last occurrences decide the whole configuration. -/
theorem LastWins.unique
    {settings next : Settings} (first : LastWins opts settings)
    (second : LastWins opts next) : settings = next := by
  have sameConfiguration : settings.cfg = next.cfg := by
    rw [Configuration.mk.injEq]
    refine ⟨?_, ?_, ?_, ?_, ?_, ?_, ?_, ?_, ?_, ?_⟩
    · rw [first.appTxPort, second.appTxPort]
    · rw [first.appRxPort, second.appRxPort]
    · rw [first.appAddress, second.appAddress]
    · rw [first.appInetAddr, second.appInetAddr]
    · rw [first.txPort, second.txPort]
    · rw [first.rxPort, second.rxPort]
    · rw [CharArray.mk.injEq, first.ifName, second.ifName]
    · rw [Bool.eq_iff_iff, first.necMode, second.necMode]
    · rw [Bool.eq_iff_iff, first.txTest, second.txTest]
    · rw [Bool.eq_iff_iff, first.verbose, second.verbose]
  rw [Settings.mk.injEq]
  refine ⟨sameConfiguration, ?_⟩
  rw [first.globalVerbose, second.globalVerbose, sameConfiguration]

/-! ## Accepted configurations -/

theorem createConfiguration_eq_ok
    (accepted : createConfiguration opts = .ok settings) :
    readConfiguration ⟨newConfiguration, false⟩ opts = .ok settings ∧
      checkConfiguration settings.cfg = .ok () := by
  rw [createConfiguration] at accepted
  cases read : readConfiguration ⟨newConfiguration, false⟩ opts with
  | error reason =>
      rw [read] at accepted
      cases accepted
  | ok last =>
      rw [read] at accepted
      cases check : checkConfiguration last.cfg with
      | error reason =>
          simp only [Bind.bind, Except.bind, check] at accepted
          cases accepted
      | ok value =>
          simp only [Bind.bind, Except.bind, check] at accepted
          cases accepted
          exact ⟨rfl, check⟩

theorem lastWins_createConfiguration
    (accepted : createConfiguration opts = .ok settings) :
    LastWins opts settings :=
  lastWins_readConfiguration (createConfiguration_eq_ok accepted).1

/-- The transmission test is on exactly if its option was given. -/
theorem txTest_createConfiguration
    (accepted : createConfiguration opts = .ok settings) :
    settings.cfg.txTest = true ↔ Opt.txtest ∈ opts :=
  (lastWins_createConfiguration accepted).txTest

/-- The argument of `-d`. -/
def Opt.appaddrArgument : Opt → Option CString
  | .appaddr optarg => some optarg
  | _ => none

/-- The argument of the last `-d`. -/
def lastAppaddr (opts : List Opt) : Option CString :=
  (opts.filterMap Opt.appaddrArgument).getLast?

theorem lastAppaddr_eq (opts : List Opt) :
    lastAppaddr opts = lastArgument .appaddr opts := by
  rw [lastAppaddr, lastArgument, occurrences, List.filterMap_filter]
  congr 2
  funext opt
  cases opt <;> rfl

/-- The application address is kept in both forms, and both are those of
the last `-d`. -/
theorem appAddress_createConfiguration
    (accepted : createConfiguration opts = .ok settings) :
    settings.cfg.appAddress = lastAppaddr opts ∧
      settings.cfg.appInetAddr =
        ((lastAppaddr opts).map inetAddr).getD 0 := by
  have last := lastWins_createConfiguration accepted
  rw [lastAppaddr_eq]
  exact ⟨last.appAddress, last.appInetAddr⟩

/-- The string in `if_name`. -/
theorem text_ifName
    (accepted : createConfiguration opts = .ok settings) :
    settings.cfg.ifName.text.bytes =
      (((lastArgument .ifname opts).map CString.bytes).getD []).take
        ifNamesize := by
  apply CharArray.text_padded (lastWins_createConfiguration accepted).ifName
  intro member
  cases given : lastArgument .ifname opts with
  | none => simp [given] at member
  | some optarg =>
      rw [given] at member
      exact optarg.noNul (List.mem_of_mem_take member)

/-- The interface name fits in a device name. -/
theorem strlen_ifName_le
    (accepted : createConfiguration opts = .ok settings) :
    strlen settings.cfg.ifName.text ≤ ifNamesize := by
  rw [strlen, text_ifName accepted]
  exact List.length_take_le _ _

/-! ## A command line -/

/-- `eth0` -/
def interfaceText : CString := ⟨[101, 116, 104, 48], by decide⟩

/-- `5000` -/
def networkPortText : CString := ⟨[53, 48, 48, 48], by decide⟩

/-- `6001` -/
def applicationPortText : CString := ⟨[54, 48, 48, 49], by decide⟩

/-- `-i eth0 -t 5000 -r 5000 -u 6000 -w 6001` -/
def relayOptions : List Opt :=
  [.ifname interfaceText, .nettx networkPortText, .netrx networkPortText,
    .apptx ⟨[54, 48, 48, 48], by decide⟩, .apprx applicationPortText]

/-- What `relayOptions` configures. -/
def relaySettings : Settings where
  cfg :=
    { newConfiguration with
      appTxPort := 6000
      appRxPort := 6001
      txPort := 5000
      rxPort := 5000
      ifName := ⟨[101, 116, 104, 48] ++ List.replicate 13 0, rfl⟩ }
  verbose := false

theorem createConfiguration_relayOptions :
    createConfiguration relayOptions = .ok relaySettings := by
  rfl

/-! ## Whole command lines -/

/-- When no option ends the program, each field is decided by the last
occurrence of its option, and the order of different options is of no
importance. -/
theorem readConfiguration_by_occurrences
    (read : readConfiguration ⟨newConfiguration, false⟩ opts =
      .ok settings) :
    LastWins opts settings ∧
      ∀ other, SameOccurrences opts other →
        readConfiguration ⟨newConfiguration, false⟩ other =
          .ok settings := by
  have last := lastWins_readConfiguration read
  refine ⟨last, fun other same => ?_⟩
  have accepted : ∀ opt ∈ other, opt.Accepted :=
    fun opt member =>
      (readConfiguration_eq_ok.mp read).1 opt (same.mem member)
  obtain ⟨lastOther, readOther⟩ :
      ∃ lastOther,
        readConfiguration ⟨newConfiguration, false⟩ other =
          .ok lastOther :=
    ⟨_, readConfiguration_eq_ok.mpr ⟨accepted, rfl⟩⟩
  have sameSettings : settings = lastOther :=
    (last.congr same).unique (lastWins_readConfiguration readOther)
  rw [sameSettings]
  exact readOther

/-- `-i wlan0 -d 10.0.0.9` before `relayOptions`, and `-d 10.0.0.1` behind
them -/
def repeatedOptions : List Opt :=
  .ifname ⟨[119, 108, 97, 110, 48], by decide⟩ ::
    .appaddr (dottedQuad 10 0 0 9) ::
    relayOptions ++ [.appaddr (dottedQuad 10 0 0 1)]

/-- What `repeatedOptions` configure. -/
def repeatedSettings : Settings :=
  { relaySettings with
    cfg.appAddress := some (dottedQuad 10 0 0 1)
    cfg.appInetAddr := quadAddress 10 0 0 1 }

theorem readConfiguration_by_occurrences_repeatedOptions :
    LastWins repeatedOptions repeatedSettings ∧
      ∀ other, SameOccurrences repeatedOptions other →
        readConfiguration ⟨newConfiguration, false⟩ other =
          .ok repeatedSettings :=
  readConfiguration_by_occurrences rfl

end UdpipBroadcaster
