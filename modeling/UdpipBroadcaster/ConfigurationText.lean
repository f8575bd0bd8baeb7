import UdpipBroadcaster.CommandLine
import UdpipBroadcaster.Console

/-!
# What `configuration.c` prints

The warnings about names that are cut, and the configuration that was read.
The text of a configuration decides it, whatever the name of the interface
is and whatever is printed later on.
-/

namespace UdpipBroadcaster

open HexTexts Outputs PrintedTexts Programs

/-! ## Texts -/

/-- A line of `print_configuration`. -/
def fieldText (label : String) (value : List UInt8) : List UInt8 :=
  utf8 label ++ (value ++ utf8 "\n")

/-- What `%s` prints; the C library writes `(null)` for `NULL`. -/
def stringText : Option CString → List UInt8
  | none => utf8 "(null)"
  | some text => text.bytes

def boolText (flag : Bool) : List UInt8 :=
  utf8 (if flag = true then "true" else "false")

/-- The text of `print_configuration` behind the line of the address. -/
def fieldsText (cfg : Configuration) : List UInt8 :=
  fieldText "\t.app_inet_addr = " (hexText 2 cfg.appInetAddr.toNat) ++
    (fieldText "\t.app_tx_port = " (signedText 1 cfg.appTxPort) ++
    (fieldText "\t.app_rx_port = " (signedText 1 cfg.appRxPort) ++
    (fieldText "\t.tx_port = " (signedText 1 cfg.txPort) ++
    (fieldText "\t.rx_port = " (signedText 1 cfg.rxPort) ++
    (fieldText "\t.if_name = " cfg.ifName.text.bytes ++
    (fieldText "\t.nec_mode = " (boolText cfg.necMode) ++
    (fieldText "\t.__tx_test = " (boolText cfg.txTest) ++
    (fieldText "\t.__verbose = " (boolText cfg.verbose) ++
      utf8 "\x7d\n"))))))))

/-- The text of `print_configuration`. -/
def configurationText (cfg : Configuration) : List UInt8 :=
  utf8 ">>> Configuration = \n\x7b\n" ++
    (fieldText "\t.app_addr = " (stringText cfg.appAddress) ++
      fieldsText cfg)

/-- The line that warns about a name of the interface that is cut. -/
def cutWarning (optarg : CString) : List UInt8 :=
  utf8 "[WARNING] if_name length = " ++
    (signedText 1 ((strlen optarg : Int).bmod (2 ^ 32)) ++
    (utf8 ", maximum = " ++
    (signedText 1 ifNamesize ++ utf8 ".\t\t\t\t\t\t\t\tTRUNCATING!")))

/-- The warnings of `read_configuration` about an option. -/
def Opt.warnings : Opt → List (List UInt8)
  | .ifname optarg =>
      if strlen optarg > ifNamesize then [cutWarning optarg] else []
  | _ => []

namespace Session

def printVersion : Session Unit :=
  write (utf8 "Version = 0.1\n")

def printHelp : Session Unit :=
  write (utf8 "HELP, udpip-broadcaster\n")

/-- One turn of the loop of `read_configuration`. -/
def readOption (settings : Settings) (opt : Opt) : Session Settings := do
  match opt with
  | .ifname optarg =>
      if strlen optarg > ifNamesize then
        write (cutWarning optarg ++ utf8 "\n")
  | .version => printVersion
  | .help | .unrecognised => printHelp
  | _ => pure ()
  ofExcept (UdpipBroadcaster.readOption settings opt)

def readConfiguration (settings : Settings) (opts : List Opt) :
    Session Settings :=
  opts.foldlM readOption settings

def createConfiguration (opts : List Opt) : Session Settings := do
  let settings ← readConfiguration ⟨newConfiguration, false⟩ opts
  ofExcept (checkConfiguration settings.cfg)
  pure settings

def printConfiguration (cfg : Configuration) : Session Unit := do
  write (utf8 ">>> Configuration = \n\x7b\n")
  write (fieldText "\t.app_addr = " (stringText cfg.appAddress))
  write (fieldText "\t.app_inet_addr = " (hexText 2 cfg.appInetAddr.toNat))
  write (fieldText "\t.app_tx_port = " (signedText 1 cfg.appTxPort))
  write (fieldText "\t.app_rx_port = " (signedText 1 cfg.appRxPort))
  write (fieldText "\t.tx_port = " (signedText 1 cfg.txPort))
  write (fieldText "\t.rx_port = " (signedText 1 cfg.rxPort))
  write (fieldText "\t.if_name = " cfg.ifName.text.bytes)
  write (fieldText "\t.nec_mode = " (boolText cfg.necMode))
  write (fieldText "\t.__tx_test = " (boolText cfg.txTest))
  write (fieldText "\t.__verbose = " (boolText cfg.verbose))
  write (utf8 "\x7d\n")

end Session

/-! ## What is written -/

variable {world : World} {opts otherOpts : List Opt}
  {settings other : Settings}

private theorem writes_readOption (settings : Settings) (opt : Opt) :
    Writes (Session.readOption settings opt)
      (ofExcept (readOption settings opt)) world
      (linesText opt.warnings) := by
  have quiet :
      Writes (ofExcept (readOption settings opt) : Session Settings)
        (ofExcept (readOption settings opt)) world [] :=
    writes_ofExcept _ world
  have stops {title : List UInt8} {reason : Stop}
      (stopped : readOption settings opt = .error reason) :
      Writes
        (do
          write title
          ofExcept (readOption settings opt) : Session Settings)
        (ofExcept (readOption settings opt)) world [] := by
    rw [stopped]
    exact fun out => ⟨out ++ title, rfl⟩
  cases opt with
  | ifname optarg =>
      rw [Session.readOption, Opt.warnings]
      by_cases long : strlen optarg > ifNamesize
      · simp only [if_pos long]
        rw [linesText_cons]
        exact quiet.write _
      · simp only [if_neg long]
        exact quiet
  | version => exact stops rfl
  | help => exact stops rfl
  | unrecognised => exact stops rfl
  | _ => exact quiet

/-- Reading the options writes the warnings about them. -/
theorem writes_createConfiguration (opts : List Opt) :
    Writes (Session.createConfiguration opts)
      (ofExcept (createConfiguration opts)) world
      (linesText (opts.flatMap Opt.warnings)) := by
  rw [createConfiguration, ofExcept_bind, readConfiguration,
    ofExcept_foldlM, linesText_flatMap,
    ← List.append_nil (opts.flatMap _)]
  apply Writes.bind
  · exact writes_foldlM (fun settings opt _ => writes_readOption settings opt)
      opts _ _
  · intro settings next _
    rw [ofExcept_bind]
    exact (writes_ofExcept _ next).bind fun _ _ _ => writes_pure settings _

theorem writes_printConfiguration (cfg : Configuration) :
    Writes (Session.printConfiguration cfg) (pure ()) world
      (configurationText cfg) := by
  rw [Session.printConfiguration, configurationText, fieldsText]
  iterate 11 apply Writes.write
  exact writes_write _ world

/-! ## Reading the text -/

private theorem newline_not_mem_hexText (precision value : Nat) :
    10 ∉ hexText precision value := by
  intro member
  rcases hexValue_of_mem_hexText member with ⟨number, isDigit⟩
  cases isDigit

private theorem newline_not_mem_boolText (flag : Bool) :
    10 ∉ boolText flag := by
  cases flag <;> decide

private theorem boolText_injective : Function.Injective boolText := by
  intro flag other same
  cases flag <;> cases other <;> first | rfl | exact absurd same (by decide)

/-- A line whose value holds no newline. -/
private theorem fieldText_append_inj
    {label : String} {value otherValue rest more : List UInt8}
    (notValue : 10 ∉ value) (notOther : 10 ∉ otherValue)
    (same : fieldText label value ++ rest =
      fieldText label otherValue ++ more) :
    value = otherValue ∧ rest = more := by
  simp only [fieldText, List.append_assoc] at same
  exact append_cons_inj notValue notOther (List.append_cancel_left same)

private theorem signedField_append_inj
    {label : String} {value otherValue : Int} {rest more : List UInt8}
    (same : fieldText label (signedText 1 value) ++ rest =
      fieldText label (signedText 1 otherValue) ++ more) :
    value = otherValue ∧ rest = more := by
  rcases fieldText_append_inj (newline_not_mem_signedText 1 value)
      (newline_not_mem_signedText 1 otherValue) same with ⟨texts, rests⟩
  exact ⟨signedText_injective 1 texts, rests⟩

private theorem boolField_append_inj
    {label : String} {flag otherFlag : Bool} {rest more : List UInt8}
    (same : fieldText label (boolText flag) ++ rest =
      fieldText label (boolText otherFlag) ++ more) :
    flag = otherFlag ∧ rest = more := by
  rcases fieldText_append_inj (newline_not_mem_boolText flag)
      (newline_not_mem_boolText otherFlag) same with ⟨texts, rests⟩
  exact ⟨boolText_injective texts, rests⟩

/-- The name of the interface may hold newlines, but it is shorter than the
line that follows it. -/
private theorem nameField_append_inj
    {name otherName : CString} {flag otherFlag : Bool}
    {rest more : List UInt8}
    (short : strlen name ≤ ifNamesize)
    (otherShort : strlen otherName ≤ ifNamesize)
    (same : fieldText "\t.if_name = " name.bytes ++
        (fieldText "\t.nec_mode = " (boolText flag) ++ rest) =
      fieldText "\t.if_name = " otherName.bytes ++
        (fieldText "\t.nec_mode = " (boolText otherFlag) ++ more)) :
    name = otherName ∧ flag = otherFlag ∧ rest = more := by
  have notNext (flag : Bool) :
      10 ∉ utf8 "\t.nec_mode = " ++ boolText flag := by
    cases flag <;> decide
  have long (flag : Bool) :
      ifNamesize ≤ (utf8 "\t.nec_mode = " ++ boolText flag).length := by
    cases flag <;> decide
  have split (name : CString) (flag : Bool) (rest : List UInt8) :
      fieldText "\t.if_name = " name.bytes ++
          (fieldText "\t.nec_mode = " (boolText flag) ++ rest) =
        utf8 "\t.if_name = " ++ (name.bytes ++ 10 ::
          (utf8 "\t.nec_mode = " ++ boolText flag ++ (10 :: rest))) := by
    have newline : utf8 "\n" = [10] := by decide
    simp [fieldText, newline]
  rw [split, split] at same
  rcases append_stop_inj (notNext flag) (notNext otherFlag)
      (Nat.le_trans short (long otherFlag))
      (Nat.le_trans otherShort (long flag))
      (List.append_cancel_left same) with ⟨names, tails⟩
  have fields :
      fieldText "\t.nec_mode = " (boolText flag) ++ rest =
        fieldText "\t.nec_mode = " (boolText otherFlag) ++ more := by
    have newline : utf8 "\n" = [10] := by decide
    simpa [fieldText, newline] using tails
  rcases boolField_append_inj fields with ⟨flags, rests⟩
  exact ⟨by rw [CString.mk.injEq, names], flags, rests⟩

/-- `NULL` is printed like no accepted address. -/
private theorem stringText_appAddress_inj
    (accepted : createConfiguration opts = .ok settings)
    (otherAccepted : createConfiguration otherOpts = .ok other)
    (same : stringText settings.cfg.appAddress =
      stringText other.cfg.appAddress) :
    settings.cfg.appAddress = other.cfg.appAddress := by
  have wrong (text : CString) (null : text.bytes = utf8 "(null)") :
      inetAddr text = inaddrNone := by
    rw [inetAddr, null]
    decide
  have notNull {opts : List Opt} {settings : Settings}
      (accepted : createConfiguration opts = .ok settings) {text : CString}
      (given : settings.cfg.appAddress = some text) :
      text.bytes ≠ utf8 "(null)" := by
    intro null
    have configures := createConfiguration_eq_ok_iff.mp accepted
    rw [configures.last.appAddress] at given
    exact (configures.accepted _ (mem_of_lastArgument given)).2
      (wrong text null)
  cases given : settings.cfg.appAddress with
  | none =>
      cases otherGiven : other.cfg.appAddress with
      | none => rfl
      | some text =>
          rw [given, otherGiven] at same
          exact (notNull otherAccepted otherGiven same.symm).elim
  | some text =>
      cases otherGiven : other.cfg.appAddress with
      | none =>
          rw [given, otherGiven] at same
          exact (notNull accepted given same).elim
      | some otherText =>
          rw [given, otherGiven] at same
          have texts : text = otherText := by
            rw [CString.mk.injEq]
            exact same
          rw [texts]

/-- The options that spell a configuration decide it. -/
private theorem eq_of_options
    (accepted : createConfiguration opts = .ok settings)
    (otherAccepted : createConfiguration otherOpts = .ok other)
    (same : settings.options = other.options) : settings = other := by
  have again {opts : List Opt} {settings : Settings}
      (accepted : createConfiguration opts = .ok settings) :
      createConfiguration settings.options = .ok settings :=
    createConfiguration_eq_ok_iff.mpr
      (configures_options (createConfiguration_eq_ok_iff.mp accepted))
  have created := again accepted
  rw [same, again otherAccepted] at created
  exact (Except.ok.inj created).symm

/-- The text of `print_configuration` decides the configuration, whatever is
printed behind it, if the application addresses hold no newline. -/
theorem configurationText_inj
    (accepted : createConfiguration opts = .ok settings)
    (otherAccepted : createConfiguration otherOpts = .ok other)
    (oneLine : 10 ∉ stringText settings.cfg.appAddress)
    (otherOneLine : 10 ∉ stringText other.cfg.appAddress)
    {rest more : List UInt8}
    (same : configurationText settings.cfg ++ rest =
      configurationText other.cfg ++ more) :
    settings = other ∧ rest = more := by
  simp only [configurationText, fieldsText, List.append_assoc] at same
  rcases fieldText_append_inj oneLine otherOneLine
      (List.append_cancel_left same) with ⟨addressText, tail⟩
  rcases fieldText_append_inj (newline_not_mem_hexText _ _)
      (newline_not_mem_hexText _ _) tail with ⟨-, tail⟩
  rcases signedField_append_inj tail with ⟨appTx, tail⟩
  rcases signedField_append_inj tail with ⟨appRx, tail⟩
  rcases signedField_append_inj tail with ⟨tx, tail⟩
  rcases signedField_append_inj tail with ⟨rx, tail⟩
  rcases nameField_append_inj (strlen_ifName_le accepted)
      (strlen_ifName_le otherAccepted) tail with ⟨name, nec, tail⟩
  rcases boolField_append_inj tail with ⟨test, tail⟩
  rcases boolField_append_inj tail with ⟨verbose, tail⟩
  refine ⟨eq_of_options accepted otherAccepted ?_,
    List.append_cancel_left tail⟩
  have address :=
    stringText_appAddress_inj accepted otherAccepted addressText
  rw [Settings.options, Settings.options, tx, rx, appTx, appRx, name, nec,
    test, verbose, address]

/-! ## Addresses with newlines -/

private theorem nul_not_mem_signedText (precision : Nat) (value : Int) :
    0 ∉ signedText precision value := by
  intro member
  rcases mem_signedText member with hyphen | digit
  · exact absurd hyphen (by decide)
  · exact absurd digit.1 (by decide)

private theorem nul_not_mem_fieldsText (cfg : Configuration) :
    0 ∉ fieldsText cfg := by
  have hexNumeral (value : Nat) : 0 ∉ hexText 2 value := by
    intro member
    rcases hexValue_of_mem_hexText member with ⟨number, isDigit⟩
    cases isDigit
  have boolean (flag : Bool) : 0 ∉ boolText flag := by
    cases flag <;> decide
  have newline : 0 ∉ utf8 "\n" := by decide
  simp only [fieldsText, fieldText, List.mem_append, not_or]
  exact ⟨⟨by decide, hexNumeral _, newline⟩,
    ⟨by decide, nul_not_mem_signedText _ _, newline⟩,
    ⟨by decide, nul_not_mem_signedText _ _, newline⟩,
    ⟨by decide, nul_not_mem_signedText _ _, newline⟩,
    ⟨by decide, nul_not_mem_signedText _ _, newline⟩,
    ⟨by decide, cfg.ifName.text.noNul, newline⟩,
    ⟨by decide, boolean _, newline⟩, ⟨by decide, boolean _, newline⟩,
    ⟨by decide, boolean _, newline⟩, by decide⟩

/-- `inet_addr` does not read what is behind a newline. -/
private theorem inetAddr_append_newline
    {address longer : CString} {tail : List UInt8}
    (shape : longer.bytes = address.bytes ++ 10 :: tail) :
    inetAddr longer = inetAddr address := by
  have front :
      longer.bytes.takeWhile (!isspace ·) =
        address.bytes.takeWhile (!isspace ·) := by
    rw [shape, List.takeWhile_append]
    split
    case isTrue whole =>
      rw [List.takeWhile_cons_of_neg (by decide), List.append_nil,
        (List.takeWhile_prefix _).eq_of_length whole]
    case isFalse => rfl
  rw [inetAddr, inetAddr, front]

/-- One more `-d` replaces the address. -/
private theorem createConfiguration_append_appaddr
    (accepted : createConfiguration opts = .ok settings) {optarg : CString}
    (valid : (Opt.appaddr optarg).Accepted) :
    createConfiguration (opts ++ [.appaddr optarg]) =
      .ok
        { settings with
          cfg.appAddress := some optarg
          cfg.appInetAddr := inetAddr optarg } := by
  have configures := createConfiguration_eq_ok_iff.mp accepted
  have acceptedAll : ∀ opt ∈ opts ++ [.appaddr optarg], opt.Accepted := by
    intro opt member
    rcases List.mem_append.mp member with before | new
    · exact configures.accepted opt before
    · rw [List.mem_singleton.mp new]
      exact valid
  have assigned :
      opts.foldl Opt.assign ⟨newConfiguration, false⟩ = settings :=
    (readConfiguration_eq_ok.mp (createConfiguration_eq_ok accepted).1).2
  have read :
      readConfiguration ⟨newConfiguration, false⟩
          (opts ++ [.appaddr optarg]) =
        .ok (Opt.assign settings (.appaddr optarg)) := by
    rw [readConfiguration_eq_ok, List.foldl_append, assigned]
    exact ⟨acceptedAll, rfl⟩
  apply createConfiguration_eq_ok_iff.mpr
  refine ⟨acceptedAll, lastWins_readConfiguration read, ?_,
    configures.interface⟩
  intro name
  have port := configures.ports name
  cases name <;> exact port

/-- The condition on the addresses is needed: behind any accepted command
line with an address, one more `-d` is accepted that changes the
configuration, and what is then printed begins with the whole text of the
configuration without it. -/
theorem configurationText_forged
    (accepted : createConfiguration opts = .ok settings)
    {address : CString} (given : settings.cfg.appAddress = some address) :
    ∃ forged other rest,
      createConfiguration (opts ++ [.appaddr forged]) = .ok other ∧
        other ≠ settings ∧
        configurationText other.cfg =
          configurationText settings.cfg ++ rest := by
  have noNul : 0 ∉ address.bytes ++ 10 :: fieldsText settings.cfg := by
    simp only [List.mem_append, List.mem_cons, not_or]
    exact ⟨address.noNul, by decide, nul_not_mem_fieldsText _⟩
  let forged : CString := ⟨_, noNul⟩
  have configures := createConfiguration_eq_ok_iff.mp accepted
  have occurs : lastArgument .appaddr opts = some address := by
    rw [← configures.last.appAddress, given]
  have sameAddr : inetAddr forged = inetAddr address :=
    inetAddr_append_newline rfl
  have valid : (Opt.appaddr forged).Accepted := by
    refine ⟨by simp [strlen, forged], ?_⟩
    rw [sameAddr]
    exact (configures.accepted _ (mem_of_lastArgument occurs)).2
  refine ⟨forged, _, utf8 "\n" ++ fieldsText settings.cfg,
    createConfiguration_append_appaddr accepted valid, ?_, ?_⟩
  · intro same
    have addresses : some forged = settings.cfg.appAddress :=
      congrArg (·.cfg.appAddress) same
    rw [given] at addresses
    have lengths := congrArg strlen (Option.some.inj addresses)
    simp [strlen, forged] at lengths
  · have kept : inetAddr forged = settings.cfg.appInetAddr := by
      rw [sameAddr, configures.last.appInetAddr, occurs]
      rfl
    have fields :
        fieldsText
            { settings.cfg with
              appAddress := some forged
              appInetAddr := inetAddr forged } =
          fieldsText settings.cfg := by
      rw [kept]
      rfl
    have newline : utf8 "\n" = [10] := by decide
    rw [configurationText, configurationText, given, fields]
    simp [forged, stringText, fieldText, newline]

theorem configurationText_forged_relayOptions :
    ∃ opts settings forged other rest,
      createConfiguration opts = .ok settings ∧
        createConfiguration (opts ++ [.appaddr forged]) = .ok other ∧
        other ≠ settings ∧
        configurationText other.cfg =
          configurationText settings.cfg ++ rest := by
  have valid : (Opt.appaddr (dottedQuad 127 0 0 1)).Accepted := by
    refine ⟨by decide, ?_⟩
    rw [inetAddr_dottedQuad]
    decide
  have accepted :=
    createConfiguration_append_appaddr createConfiguration_relayOptions valid
  obtain ⟨forged, other, rest, forges⟩ :=
    configurationText_forged accepted rfl
  exact ⟨_, _, forged, other, rest, accepted, forges⟩

end UdpipBroadcaster
