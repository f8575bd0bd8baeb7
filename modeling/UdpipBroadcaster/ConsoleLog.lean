import UdpipBroadcaster.Console
import UdpipBroadcaster.Resources

/-!
# The log of the relay

What a relay writes to the standard output.  In verbose mode the text tells
every payload that was passed on.
-/

namespace UdpipBroadcaster

open ByteStrings Frames HexTexts Outputs PrintedTexts Programs

/-! ## Lines -/

/-- The port a side listens on, as the watcher of the side shows it. -/
def Settings.listeningPort (settings : Settings) : Side → Int
  | .net => settings.cfg.rxPort
  | .app => settings.cfg.appRxPort

/-- The port a side passes payloads on to. -/
def Settings.forwardingPort (settings : Settings) : Side → Int
  | .net => settings.cfg.appTxPort
  | .app => settings.cfg.txPort

/-- A payload that was passed on, with the result. -/
structure Entry where
  side : Side
  port : Int
  forwardingPort : Int
  fwdBytes : Int
  payload : List UInt8
  deriving DecidableEq

/-- What an event passes on. -/
def Event.entry (settings : Settings) (event : Event) : Option Entry :=
  event.outgoing.map fun payload =>
    { side := event.side
      port := settings.listeningPort event.side
      forwardingPort := settings.forwardingPort event.side
      fwdBytes := event.answers.send.fwdBytes payload.length
      payload := payload }

namespace Side

/-- What is written once `send_message` has returned, without the end of the
line. -/
def sent : Side → List UInt8
  | net => []
  | app => utf8 "aqui tamén fago un envío"

def received : Side → List UInt8
  | net => utf8 ">>> RECEIVED11111 forward UDP MESSAGE >>>"
  | app => utf8 ">>> RECEIVED222222 broadcast UDP MESSAGE >>>"

def notReceived : Side → List UInt8
  | net => utf8 "cb_forward_recvfrom: <recv_msg> Could not receive message."
  | app =>
      utf8 "cb_broadcast_recvfrom: <recv_msg> Could not receive message."

def title : Side → String
  | net => ">>> fwd(net:"
  | app => ">>> BROADCAST(app:"

def toward : Side → String
  | net => ">app:"
  | app => ">net:"

end Side

def Entry.line (entry : Entry) : List UInt8 :=
  entry.side.sent ++
    (forwardingHead entry.side.title entry.port entry.side.toward
        entry.forwardingPort entry.fwdBytes ++
      (dumpText entry.payload ++ utf8 "\x7d"))

/-- The last lines for a payload that was passed on. -/
def Entry.lines (entry : Entry) (verbose : Bool) : List (List UInt8) :=
  if verbose then [entry.line, utf8 ">>> todo ben >>>"]
  else [entry.side.sent ++ utf8 ">>> todo ben >>>"]

/-- The lines of a callback whose datagram, if it has one, is known. -/
def Event.callbackLines (settings : Settings) (event : Event) :
    List (List UInt8) :=
  event.side.received ::
    if event.answers.received.isNone then [event.side.notReceived]
    else
      utf8 ">>> esto ben >>>" ::
        match event.entry settings with
        | none => [utf8 ">>>@cb_forward_recvfrom: Message blocked!"]
        | some entry =>
            event.answers.send.shortLines entry.payload.length ++
              entry.lines settings.verbose

def Event.lines (settings : Settings) (event : Event) : List (List UInt8) :=
  utf8 "cb_common en udp_events" ::
    if evError &&& event.revents ≠ 0 then []
    else event.callbackLines settings

def Event.text (settings : Settings) (event : Event) : List UInt8 :=
  linesText (event.lines settings)

/-! ## What an event writes -/

variable {platform : Platform} {settings : Settings} {side : Side}
  {world : World} {room : Nat}

private theorem linesText_entry (entry : Entry) (verbose : Bool) :
    linesText (entry.lines verbose) =
      entry.side.sent ++
        (if verbose then
          forwardingHead entry.side.title entry.port entry.side.toward
              entry.forwardingPort entry.fwdBytes ++
            (dumpText entry.payload ++ (utf8 "\x7d\n" ++
              (utf8 ">>> todo ben >>>\n" ++ [])))
          else utf8 ">>> todo ben >>>\n" ++ []) := by
  have brace : utf8 "\x7d\n" = utf8 "\x7d" ++ [10] := by decide
  have done :
      utf8 ">>> todo ben >>>\n" = utf8 ">>> todo ben >>>" ++ [10] := by
    decide
  cases verbose with
  | false => simp [Entry.lines, linesText, done]
  | true => simp [Entry.lines, Entry.line, linesText, brace, done]

/-- What a watcher shows of itself. -/
def PublicEvArg.labels (arg : PublicEvArg) : Int × Int × Bool :=
  (arg.port, arg.forwardingPort, arg.printForwardingMessage)

def Settings.labels (settings : Settings) (side : Side) :
    Int × Int × Bool :=
  (settings.listeningPort side, settings.forwardingPort side,
    settings.verbose)

section Callbacks

variable {arg : PublicEvArg} {event : Event}
  (signed : Bool)
  (labels : arg.labels = settings.labels side)
include labels

/-- The end of a callback that has passed a payload on. -/
private theorem writes_entry
    {buffer payload : List UInt8} {fwdBytes : Int}
    (inside : payload.length ≤ buffer.length)
    (stored : buffer.take payload.length = payload)
    (counted : arg.len = payload.length) :
    Writes
      (do
        if arg.printForwardingMessage = true then
          write (forwardingHead side.title arg.port side.toward
            arg.forwardingPort fwdBytes)
          let _ ← onOutput (printHexData signed buffer arg.len)
          write (utf8 "\x7d\n")
        write (utf8 ">>> todo ben >>>\n")
        pure arg)
      (pure arg) world
      (if settings.verbose then
        forwardingHead side.title (settings.listeningPort side) side.toward
            (settings.forwardingPort side) fwdBytes ++
          (dumpText payload ++ (utf8 "\x7d\n" ++
            (utf8 ">>> todo ben >>>\n" ++ [])))
        else utf8 ">>> todo ben >>>\n" ++ []) := by
  have port : arg.port = settings.listeningPort side :=
    congrArg Prod.fst labels
  have forwardingPort :
      arg.forwardingPort = settings.forwardingPort side :=
    congrArg (·.2.1) labels
  have verbose : arg.printForwardingMessage = settings.verbose :=
    congrArg (·.2.2) labels
  have dump (out : List UInt8) :
      printHexData signed buffer arg.len out =
        .ok exOk (out ++ dumpText payload) := by
    rw [counted, printHexData_eq signed (by omega) (by omega),
      Int.toNat_natCast, stored]
  have done :
      Writes
        (do
          write (utf8 ">>> todo ben >>>\n")
          pure arg : Session PublicEvArg)
        (pure arg : Program PublicEvArg) world
        (utf8 ">>> todo ben >>>\n" ++ []) :=
    (writes_pure arg world).write _
  rw [port, forwardingPort, verbose]
  cases settings.verbose with
  | false => exact done
  | true =>
      exact ((done.write _).onOutput dump).write _

omit labels in
/-- Sending what was just stored in the buffer of a side. -/
private theorem writes_send
    {dest : SockaddrIn}
    (sends : arg.data = some side.watcher ∧ arg.forwardingAddr = some dest)
    (buffer : world.HasBuffer side) {answer : SendAnswer}
    {payload : List UInt8} (short : payload.length ≤ udpBufferLen)
    (counted : arg.len = payload.length)
    {rest : List UInt8 → Int → Session PublicEvArg} {text : List UInt8}
    (follows : ∀ data next, payload.length ≤ data.length →
      data.take payload.length = payload →
        Writes (rest data (answer.fwdBytes payload.length)) (pure arg) next
          text) :
    Writes
      (do
        let data ← silently (readBlock arg.data)
        let fwdBytes ←
          Session.sendMessage answer arg.forwardingAddr
            arg.forwardingSocketFd data arg.len
        rest data fwdBytes)
      (do
        let data ← readBlock arg.data
        let _fwdBytes ←
          sendMessage answer arg.forwardingAddr arg.forwardingSocketFd
            data arg.len
        pure arg)
      (world.fill side.watcher payload)
      (linesText (answer.shortLines payload.length) ++ text) := by
  rcases buffer with ⟨block, found, length⟩
  have fits : payload.length ≤ block.length := by
    rw [length]
    exact short
  have inside : payload.length ≤ (overwrite block payload).length := by
    rw [length_overwrite]
    exact fits
  have stored :
      ((world.fill side.watcher payload).heap[side.watcher]?).getD [] =
        overwrite block payload := by
    simp [World.fill, found]
  apply Writes.silently
  intro bytes next read
  rw [sends.1] at read
  cases read
  rw [Option.bind_some, stored, sends.2, counted]
  apply (writes_sendMessage inside).bind
  intro fwdBytes last sent
  rw [sendMessage_returned inside sent]
  apply follows _ _ inside
  rw [take_overwrite fits le_rfl, List.take_length]

/-- What a callback of the relay writes. -/
private theorem writes_call
    (platform : Platform) (serves : arg.Serves settings side room)
    (buffer : world.HasBuffer side) (onSide : event.side = side)
    (noError : ¬ (evError &&& event.revents ≠ 0)) :
    Writes (Session.call signed platform event.answers side.callback arg)
      (side.callback.call platform event.answers arg) world
      (linesText (event.callbackLines settings)) := by
  have outgoing :
      event.outgoing = event.payload.map (List.take udpBufferLen) := by
    rw [Event.outgoing, if_neg noError]
  rcases serves.localAddr with ⟨addr, localAddr, any⟩
  rcases serves.msgHeader with ⟨msg, header, described, -⟩
  have sends (datagram : Datagram) :
      (arg.holding datagram msg).data = some side.watcher ∧
        (arg.holding datagram msg).forwardingAddr =
          some (settings.destination side) :=
    ⟨serves.data, serves.forwardingAddr⟩
  cases side with
  | net =>
      simp only [Session.call, Side.callback, Session.cbForwardRecvfrom,
        EvCb.call, cbForwardRecvfrom]
      rw [Event.callbackLines, linesText_cons, onSide]
      apply writes_receive localAddr header described
      · intro answer
        have negative : exErr < 0 := by decide
        simp only [negative, if_true, answer, Option.isNone_none]
        exact (writes_pure _ _).write _
      · intro datagram answer
        have notNegative :
            ¬ ((datagram.payload.take udpBufferLen).length : Int) < 0 := by
          omega
        simp only [notNegative, if_false, answer, Option.isNone_some,
          Bool.false_eq_true, linesText_cons, any]
        apply Writes.write
        by_cases own : datagram.source.sAddr = inaddrAny
        · have entry : event.entry settings = none := by
            simp [Event.entry, outgoing, Event.payload, answer, onSide, own]
          simp only [own, decide_true, if_true, entry]
          exact (writes_pure _ _).write _
        · have foreign : ¬ inaddrAny = datagram.source.sAddr :=
            fun same => own same.symm
          have payload :
              event.outgoing = some (datagram.payload.take udpBufferLen) := by
            simp [outgoing, Event.payload, answer, own]
          simp only [foreign, decide_false, Bool.false_eq_true, if_false,
            Event.entry, payload, Option.map_some, linesText_append]
          apply writes_send (sends datagram) buffer
            (List.length_take_le _ _) rfl
          intro data next inside stored
          rw [linesText_entry, onSide]
          have labelsLater :
              (arg.holding datagram msg).labels = settings.labels .net :=
            labels
          exact writes_entry signed labelsLater inside stored rfl
  | app =>
      simp only [Session.call, Side.callback, Session.cbBroadcastRecvfrom,
        EvCb.call, cbBroadcastRecvfrom]
      rw [Event.callbackLines, linesText_cons, onSide]
      apply writes_receive localAddr header described
      · intro answer
        have negative : exErr < 0 := by decide
        simp only [negative, if_true, answer, Option.isNone_none]
        exact (writes_pure _ _).write _
      · intro datagram answer
        have notNegative :
            ¬ ((datagram.payload.take udpBufferLen).length : Int) < 0 := by
          omega
        have payload :
            event.outgoing = some (datagram.payload.take udpBufferLen) := by
          simp [outgoing, Event.payload, answer, onSide]
        simp only [notNegative, if_false, answer, Option.isNone_some,
          Bool.false_eq_true, linesText_cons, Event.entry, payload,
          Option.map_some, linesText_append]
        apply Writes.write
        apply writes_send (sends datagram) buffer
          (List.length_take_le _ _) rfl
        intro data next inside stored
        rw [linesText_entry, onSide]
        apply Writes.write
        have labelsLater :
            (arg.holding datagram msg).labels = settings.labels .app :=
          labels
        exact writes_entry signed labelsLater inside stored rfl

end Callbacks

/-! ## Runs -/

def World.labels (world : World) : List (Int × Int × Bool) :=
  world.args.map fun arg => arg.publicArg.labels

private theorem wp_call_labels
    {answers : Answers} (callback : EvCb) (arg : PublicEvArg)
    {post : PublicEvArg → World → Prop}
    (continues : ∀ result after, world.Keeps after →
      result.labels = arg.labels → post result after) :
    wp anyStop (callback.call platform answers arg) post world := by
  cases callback with
  | cbPrintRecvfrom =>
      apply wp_receive_keeps
      intro result after kept _
      exact continues _ after kept rfl
  | cbBroadcastSendto =>
      simp only [EvCb.call, cbBroadcastSendto, wp_bind, wp_pure]
      apply wp_initBroadcastSockaddrIn_keeps
      intro destAddr after kept
      apply wp_sendMessage_keeps
      intro _ last keptLast
      exact continues _ last (kept.trans keptLast) rfl
  | cbForwardRecvfrom =>
      apply wp_receive_keeps
      intro result after kept _
      simp only [wp_ite]
      refine ⟨fun _ => ?_, fun _ => ⟨fun _ => ?_, fun _ => ?_⟩⟩
      · exact continues _ after kept rfl
      · exact continues _ after kept rfl
      · apply wp_forward_keeps
        intro last keptLast
        exact continues _ last (kept.trans keptLast) rfl
  | cbBroadcastRecvfrom =>
      apply wp_receive_keeps
      intro result after kept _
      simp only [wp_ite]
      refine ⟨fun _ => ?_, fun _ => ?_⟩
      · exact continues _ after kept rfl
      · apply wp_forward_keeps
        intro last keptLast
        exact continues _ last (kept.trans keptLast) rfl

/-- No event changes what the watchers show. -/
theorem labels_dispatch
    {event : Event} {after : World}
    (returned : dispatch platform event world = .ok () after) :
    after.labels = world.labels := by
  have written (next : World) (sameArgs : next.args = world.args)
      {watcher : Nat} {arg : EvIoArg} {publicArg : PublicEvArg}
      (found : world.args[watcher]? = some arg)
      (same : publicArg.labels = arg.publicArg.labels) :
      World.labels
          { next with
            args := next.args.modify watcher
              fun arg => { arg with publicArg } } =
        world.labels := by
    simp only [World.labels, sameArgs]
    apply map_modify_eq
    intro item here
    rw [found] at here
    cases here
    exact same
  have run :
      wp anyStop (dispatch platform event)
        (fun _ next => next.labels = world.labels) world := by
    simp only [dispatch, cbCommon, wp_ite, wp_bind, wp_pure, wp_get]
    refine ⟨fun _ => trivial, fun _ => ?_⟩
    cases found : world.args[event.watcher]? with
    | none => trivial
    | some arg =>
        simp only [deref, wp_pure]
        cases arg.cbSpecfic with
        | none =>
            simp only [updateArg, deref, wp_bind, wp_pure, wp_modify]
            exact written world rfl found rfl
        | some callback =>
            simp only [wp_bind]
            apply wp_call_labels
            intro result next kept same
            simp only [updateArg, deref, wp_bind, wp_pure, wp_modify]
            exact written next kept.args found same
  have result := post_of_returned run returned
  exact result

/-- The process is a relay whose watchers show this configuration. -/
structure Reports (settings : Settings) (world : World) : Prop where
  implements : ∃ relay, Implements settings world relay
  labels : world.labels = [settings.labels .net, settings.labels .app]

theorem Reports.labels_eq
    (reports : Reports settings world) (side : Side) {arg : EvIoArg}
    (found : world.args[side.watcher]? = some arg) :
    arg.publicArg.labels = settings.labels side := by
  have shown :
      world.labels[side.watcher]? = some arg.publicArg.labels := by
    rw [World.labels, List.getElem?_map, found, Option.map_some]
  rw [reports.labels] at shown
  cases side <;> exact (Option.some.inj shown).symm

/-- An event of a relay writes its lines and does what it does without
them. -/
theorem writes_dispatch
    (signed : Bool) (platform : Platform) {event : Event}
    (onRelay : event.OnRelay) (reports : Reports settings world) :
    Writes (Session.dispatch signed platform event)
      (dispatch platform event) world (event.text settings) := by
  rcases reports.implements with ⟨relay, implements⟩
  rcases implements.watchers event.side with
    ⟨arg, found, callback, serves⟩
  have labels := reports.labels_eq event.side found
  rw [← onRelay] at found
  apply writes_dispatch_callback found callback
  intro noError
  have servesEvent :
      PublicEvArg.Serves { arg.publicArg with socketFd := arg.watcher.fd }
        settings event.side (relay.room event.side) :=
    ⟨serves.localAddr, serves.data, serves.msgHeader,
      serves.forwardingAddr, serves.forwardingSocketFd⟩
  have labelsEvent :
      PublicEvArg.labels
          { arg.publicArg with socketFd := arg.watcher.fd } =
        settings.labels event.side :=
    labels
  exact writes_call signed labelsEvent platform servesEvent
    (implements.buffers event.side) rfl noError

theorem Reports.dispatch
    {event : Event} (onRelay : event.OnRelay) {after : World}
    (reports : Reports settings world)
    (returned : dispatch platform event world = .ok () after) :
    Reports settings after := by
  rcases reports.implements with ⟨relay, implements⟩
  have agrees := dispatch_agrees platform onRelay implements
  rw [returned] at agrees
  rcases agrees.modelReturns with ⟨later, -, implementsLater⟩
  exact ⟨⟨later, implementsLater⟩,
    (labels_dispatch returned).trans reports.labels⟩

variable {opts : List Opt} {stdin : Stdin}

theorem Started.reports
    (started : Started platform opts stdin settings world) :
    Reports settings world := by
  refine ⟨⟨_, started.implements⟩, ?_⟩
  rcases started.eq_relayWorld with ⟨calls, netPktinfo, appPktinfo, rfl⟩
  rfl

theorem writes_evLoop
    (started : Started platform opts stdin settings world)
    {events : List Event}
    (onStarted : ∀ event ∈ events, event.watcher ∈ world.started)
    (signed : Bool) :
    Writes (Session.evLoop signed platform events)
      (evLoop platform events) world
      (events.flatMap (Event.text settings)) :=
  writes_runAll
    (fun event member _ reports =>
      writes_dispatch signed platform
        (started.onRelay (onStarted event member)) reports)
    (fun event member _ _ reports returned =>
      reports.dispatch (started.onRelay (onStarted event member)) returned)
    started.reports

/-! ## Reading the log -/

/-- The line begins like one for a payload that was passed on. -/
def isEntryLine (line : List UInt8) : Bool :=
  (Side.net.sent ++ utf8 Side.net.title).isPrefixOf line ||
    (Side.app.sent ++ utf8 Side.app.title).isPrefixOf line

theorem isEntryLine_line (entry : Entry) :
    isEntryLine entry.line = true := by
  have begins :
      (entry.side.sent ++ utf8 entry.side.title).isPrefixOf entry.line =
        true := by
    rw [List.isPrefixOf_iff_prefix, Entry.line, forwardingHead]
    simp only [List.append_assoc]
    rw [← List.append_assoc]
    exact List.prefix_append _ _
  rw [isEntryLine, Bool.or_eq_true]
  cases side : entry.side with
  | net =>
      rw [side] at begins
      exact .inl begins
  | app =>
      rw [side] at begins
      exact .inr begins

/-- In verbose mode the lines of an event have one like that if the event
passes a payload on. -/
theorem filter_isEntryLine (settings : Settings) (event : Event) :
    (event.lines settings).filter isEntryLine =
      if settings.verbose then
        ((event.entry settings).map Entry.line).toList
      else [] := by
  have first : isEntryLine (utf8 "cb_common en udp_events") = false := by
    decide
  have received : isEntryLine event.side.received = false := by
    cases event.side <;> decide
  have notReceived : isEntryLine event.side.notReceived = false := by
    cases event.side <;> decide
  have known : isEntryLine (utf8 ">>> esto ben >>>") = false := by decide
  have blocked :
      isEntryLine (utf8 ">>>@cb_forward_recvfrom: Message blocked!") =
        false := by
    decide
  have done : isEntryLine (utf8 ">>> todo ben >>>") = false := by decide
  have quiet (side : Side) :
      isEntryLine (side.sent ++ utf8 ">>> todo ben >>>") = false := by
    cases side <;> decide
  have short (len : Nat) (answer : SendAnswer) :
      ∀ line ∈ answer.shortLines len, isEntryLine line = false := by
    intro line member
    rw [SendAnswer.shortLines.eq_def] at member
    split at member
    · cases member
    · split at member
      · rw [List.mem_singleton.mp member]
        rfl
      · cases member
  rw [Event.lines, List.filter_cons_of_neg (by simp [first])]
  by_cases error : evError &&& event.revents ≠ 0
  · simp [error, Event.entry, Event.outgoing]
  · rw [if_neg error, Event.callbackLines,
      List.filter_cons_of_neg (by simp [received])]
    by_cases none : event.answers.received.isNone = true
    · have noAnswer := Option.isNone_iff_eq_none.mp none
      simp [noAnswer, notReceived, Event.entry, Event.outgoing,
        Event.payload]
    · rw [if_neg none, List.filter_cons_of_neg (by simp [known])]
      cases event.entry settings with
      | none => simp [blocked]
      | some entry =>
          cases verbose : settings.verbose with
          | false =>
              simpa [Entry.lines, quiet] using
                short entry.payload.length event.answers.send
          | true =>
              simpa [Entry.lines, isEntryLine_line, done] using
                short entry.payload.length event.answers.send

/-- A payload as the relay passes it on fills at most one line of a dump. -/
def Entry.Short (entry : Entry) : Prop :=
  entry.payload.length ≤ bytesPerLine

theorem short_of_entry
    {event : Event} {entry : Entry}
    (passed : event.entry settings = some entry) : entry.Short := by
  rcases Option.map_eq_some_iff.mp passed with ⟨payload, outgoing, rfl⟩
  rw [Event.outgoing] at outgoing
  split at outgoing
  · cases outgoing
  · rcases Option.map_eq_some_iff.mp outgoing with ⟨whole, -, rfl⟩
    exact List.length_take_le _ _

private theorem forwardingHead_append
    (title : String) (port : Int) (toward : String)
    (forwardingPort fwdBytes : Int) (rest : List UInt8) :
    forwardingHead title port toward forwardingPort fwdBytes ++ rest =
      utf8 title ++ (signedText 1 port ++ (utf8 toward ++
        (signedText 1 forwardingPort ++ (utf8 "), msg[" ++
          (signedText 2 fwdBytes ++ (utf8 "] = \x7b" ++ rest)))))) := by
  simp only [forwardingHead, List.append_assoc]

private theorem head?_line (entry : Entry) :
    entry.line.head? =
      (entry.side.sent ++ utf8 entry.side.title).head? := by
  rw [Entry.line, forwardingHead_append, ← List.append_assoc,
    List.head?_append_of_ne_nil]
  cases entry.side <;> decide

/-- A line can be read in one way only. -/
theorem Entry.line_inj
    {entry other : Entry} (short : entry.Short) (otherShort : other.Short)
    (same : entry.line = other.line) : entry = other := by
  have sameSide : entry.side = other.side := by
    have heads := congrArg List.head? same
    rw [head?_line, head?_line] at heads
    revert heads
    cases entry.side <;> cases other.side <;> decide
  rw [Entry.line, Entry.line, sameSide, forwardingHead_append,
    forwardingHead_append] at same
  have fields := List.append_cancel_left (List.append_cancel_left same)
  have toward : endsNumeral (utf8 other.side.toward) = true := by
    cases other.side <;> decide
  rcases signedText_append_inj toward fields with ⟨port, afterPort⟩
  rcases signedText_append_inj (by decide) afterPort with
    ⟨forwardingPort, afterForwarding⟩
  rcases signedText_append_inj (by decide) afterForwarding with
    ⟨fwdBytes, dumps⟩
  have outside (bytes : List UInt8) (short : bytes.length ≤ bytesPerLine) :
      125 ∉ dumpText bytes :=
    not_mem_dumpText (by decide) rfl short
  have payload : entry.payload = other.payload := by
    rcases append_cons_inj (outside _ short) (outside _ otherShort) dumps
      with ⟨sameDump, -⟩
    have decodes := decodes_dumpText entry.payload
    rw [sameDump] at decodes
    exact decodes.unique (decodes_dumpText other.payload)
  rw [Entry.mk.injEq]
  exact ⟨sameSide, port, forwardingPort, fwdBytes, payload⟩

private theorem newline_not_mem_line
    {entry : Entry} (short : entry.Short) : 10 ∉ entry.line := by
  have sent : 10 ∉ entry.side.sent := by cases entry.side <;> decide
  have title : 10 ∉ utf8 entry.side.title := by
    cases entry.side <;> decide
  have toward : 10 ∉ utf8 entry.side.toward := by
    cases entry.side <;> decide
  have numeral := newline_not_mem_signedText
  have dump : 10 ∉ dumpText entry.payload :=
    not_mem_dumpText (by decide) rfl short
  have labels :
      10 ∉ utf8 "), msg[" ∧ 10 ∉ utf8 "] = \x7b" ∧ 10 ∉ utf8 "\x7d" := by
    decide
  rw [Entry.line, forwardingHead_append]
  simp only [List.mem_append, not_or]
  exact ⟨sent, title, numeral _ _, toward, numeral _ _, labels.1,
    numeral _ _, labels.2.1, dump, labels.2.2⟩

private theorem newline_not_mem_shortLines
    (len : Nat) (answer : SendAnswer) :
    ∀ line ∈ answer.shortLines len, 10 ∉ line := by
  have numeral := newline_not_mem_signedText
  have labels :
      10 ∉ utf8 "send_message: sent " ∧
        10 ∉ utf8 " bytes, requested " ∧ 10 ∉ utf8 "." := by
    decide
  cases answer with
  | error => simp [SendAnswer.shortLines]
  | accepts limit =>
      rw [SendAnswer.shortLines]
      split
      · rw [List.forall_mem_singleton]
        simp only [List.mem_append, not_or]
        exact ⟨labels.1, numeral _ _, labels.2.1, numeral _ _, labels.2.2⟩
      · simp

/-- No line is broken. -/
theorem newline_not_mem_lines (settings : Settings) (event : Event) :
    ∀ line ∈ event.lines settings, 10 ∉ line := by
  have received : 10 ∉ event.side.received := by
    cases event.side <;> decide
  have notReceived : 10 ∉ event.side.notReceived := by
    cases event.side <;> decide
  rw [Event.lines, List.forall_mem_cons]
  refine ⟨by decide, ?_⟩
  split
  · simp
  · rw [Event.callbackLines, List.forall_mem_cons]
    refine ⟨received, ?_⟩
    split
    · exact List.forall_mem_singleton.mpr notReceived
    · rw [List.forall_mem_cons]
      refine ⟨by decide, ?_⟩
      cases passed : event.entry settings with
      | none => exact List.forall_mem_singleton.mpr (by decide)
      | some entry =>
          have line := newline_not_mem_line (short_of_entry passed)
          have sent : 10 ∉ entry.side.sent := by
            cases entry.side <;> decide
          rw [List.forall_mem_append]
          refine ⟨newline_not_mem_shortLines _ _, ?_⟩
          rw [Entry.lines]
          split
          · exact List.forall_mem_cons.mpr
              ⟨line, List.forall_mem_singleton.mpr (by decide)⟩
          · rw [List.forall_mem_singleton, List.mem_append, not_or]
            exact ⟨sent, by decide⟩

theorem filter_lines (settings : Settings) (events : List Event) :
    (events.flatMap (Event.lines settings)).filter isEntryLine =
      if settings.verbose then
        (events.filterMap (Event.entry settings)).map Entry.line
      else [] := by
  rw [List.filter_flatMap, List.filterMap_eq_flatMap_toList,
    List.map_flatMap]
  simp only [filter_isEntryLine]
  cases settings.verbose with
  | false => simp
  | true =>
      congr 1
      funext event
      cases event.entry settings <;> rfl

/-- What the log tells of a call of `sendto`. -/
def Sendto.entry (settings : Settings) (call : Sendto) : Entry :=
  let side := if call.socketFd = Side.net.forwardingFd then .net else .app
  { side := side
    port := settings.listeningPort side
    forwardingPort := settings.forwardingPort side
    fwdBytes :=
      match call.sentBytes with
      | some count => if count < call.len then exErr else call.len
      | none => exErr
    payload := call.buffer }

private theorem map_attempts (settings : Settings) (event : Event) :
    (event.attempts settings).map (Sendto.entry settings) =
      (event.entry settings).toList := by
  rw [Event.attempts, Event.entry]
  cases event.outgoing with
  | none => rfl
  | some payload =>
      cases event.side <;> cases event.answers.send with
      | error => rfl
      | accepts limit =>
          by_cases short : limit < payload.length
          · simp [Sendto.entry, Settings.call, SendAnswer.fwdBytes,
              Side.forwardingFd, short]
          · simp [Sendto.entry, Settings.call, SendAnswer.fwdBytes,
              Side.forwardingFd, short]

private theorem map_flatMap_attempts
    (settings : Settings) (events : List Event) :
    (events.flatMap (Event.attempts settings)).map (Sendto.entry settings) =
      events.filterMap (Event.entry settings) := by
  rw [List.map_flatMap, List.filterMap_eq_flatMap_toList]
  congr 1
  funext event
  exact map_attempts settings event

/-- What a run has passed on, if it returned. -/
theorem entries_of_run
    (started : Started platform opts stdin settings world)
    {events : List Event}
    (onStarted : ∀ event ∈ events, event.watcher ∈ world.started)
    {last : World} (returned : evLoop platform events world = .ok () last) :
    last.sent.map (Sendto.entry settings) =
      events.filterMap (Event.entry settings) := by
  have sent : last.sent = events.flatMap (Event.attempts settings) :=
    (started.of_returned onStarted returned).2.sent
  rw [sent, map_flatMap_attempts]

/-- Writing to the console changes nothing else in any run of the relay.  A
run that returns has written the lines of its events in their order; in
verbose mode these hold one line for every call of `sendto`, which tells its
side, its ports, its result and its payload, and otherwise none. -/
theorem evLoop_logs
    (started : Started platform opts stdin settings world)
    {events : List Event}
    (onStarted : ∀ event ∈ events, event.watcher ∈ world.started)
    (signed : Bool) :
    Writes (Session.evLoop signed platform events)
        (evLoop platform events) world
        (linesText (events.flatMap (Event.lines settings))) ∧
      ∀ last, evLoop platform events world = .ok () last →
        (events.flatMap (Event.lines settings)).filter isEntryLine =
          if settings.verbose then
            last.sent.map fun call => (call.entry settings).line
          else [] := by
  rw [linesText_flatMap]
  refine ⟨writes_evLoop started onStarted signed, ?_⟩
  intro last returned
  have lines :
      last.sent.map (fun call => (call.entry settings).line) =
        (events.filterMap (Event.entry settings)).map Entry.line := by
    rw [← entries_of_run started onStarted returned, List.map_map]
    rfl
  rw [filter_lines, lines]

section Log

variable {signed : Bool} {events : List Event} {last : World}
  {text : List UInt8}

/-- What a run has written and passed on, if it returned. -/
private theorem log_of_run
    (started : Started platform opts stdin settings world)
    (onStarted : ∀ event ∈ events, event.watcher ∈ world.started)
    (run : Session.evLoop signed platform events (world, []) =
      .ok () (last, text)) :
    linesText (events.flatMap (Event.lines settings)) = text ∧
      last.sent.map (Sendto.entry settings) =
        events.filterMap (Event.entry settings) := by
  rcases (writes_evLoop started onStarted signed).of_returned run with
    ⟨returned, written⟩
  rw [linesText_flatMap]
  exact ⟨written, entries_of_run started onStarted returned⟩

/-- A line that tells nothing of a payload. -/
def IsPlainLine (line : List UInt8) : Prop :=
  10 ∉ line ∧ isEntryLine line = false

/-- The lines of verbose relays, behind others that tell nothing of a
payload, decide what was passed on, whatever is written later on. -/
theorem entries_of_linesText
    {otherSettings : Settings} {otherEvents : List Event}
    {lines otherLines : List (List UInt8)} {rest : List UInt8}
    (plain : ∀ line ∈ lines, IsPlainLine line)
    (otherPlain : ∀ line ∈ otherLines, IsPlainLine line)
    (verbose : settings.verbose = true)
    (otherVerbose : otherSettings.verbose = true)
    (same :
      linesText (lines ++ events.flatMap (Event.lines settings)) ++ rest =
        linesText
          (otherLines ++ otherEvents.flatMap (Event.lines otherSettings))) :
    events.filterMap (Event.entry settings) <+:
      otherEvents.filterMap (Event.entry otherSettings) := by
  have unbroken {lines : List (List UInt8)} (settings : Settings)
      (events : List Event) (plain : ∀ line ∈ lines, IsPlainLine line) :
      ∀ line ∈ lines ++ events.flatMap (Event.lines settings),
        10 ∉ line := by
    intro line member
    rcases List.mem_append.mp member with before | listed
    · exact (plain line before).1
    · rcases List.mem_flatMap.mp listed with ⟨event, -, written⟩
      exact newline_not_mem_lines settings event line written
  have filtered {lines : List (List UInt8)} {settings : Settings}
      (events : List Event) (plain : ∀ line ∈ lines, IsPlainLine line)
      (verbose : settings.verbose = true) :
      (lines ++ events.flatMap (Event.lines settings)).filter isEntryLine =
        (events.filterMap (Event.entry settings)).map Entry.line := by
    have none : lines.filter isEntryLine = [] := by
      rw [List.filter_eq_nil_iff]
      intro line member
      simp [(plain line member).2]
    rw [List.filter_append, none, List.nil_append, filter_lines,
      if_pos verbose]
  have short (settings : Settings) (events : List Event) :
      ∀ entry ∈ events.filterMap (Event.entry settings), entry.Short := by
    intro entry member
    rcases List.mem_filterMap.mp member with ⟨event, -, passed⟩
    exact short_of_entry passed
  have begins :=
    (lines_begin (unbroken settings events plain)
      (unbroken otherSettings otherEvents otherPlain) same).filter isEntryLine
  rw [filtered events plain verbose,
    filtered otherEvents otherPlain otherVerbose] at begins
  exact map_prefix_of_mem
    (fun entry member other otherMember =>
      Entry.line_inj (short _ _ entry member) (short _ _ other otherMember))
    begins

/-- The log of a relay in verbose mode can be read in one way only: whatever
the two relays, their configurations, hosts and events, if they have written
the same text they have passed on the same payloads between the same ports,
with the same results and in the same order. -/
theorem entries_of_log
    {otherPlatform : Platform} {otherOpts : List Opt}
    {otherStdin : Stdin} {otherSettings : Settings}
    {otherWorld otherLast : World} {otherSigned : Bool}
    {otherEvents : List Event}
    (started : Started platform opts stdin settings world)
    (otherStarted : Started otherPlatform otherOpts otherStdin
      otherSettings otherWorld)
    (onStarted : ∀ event ∈ events, event.watcher ∈ world.started)
    (otherOnStarted :
      ∀ event ∈ otherEvents, event.watcher ∈ otherWorld.started)
    (verbose : settings.verbose = true)
    (otherVerbose : otherSettings.verbose = true)
    (run : Session.evLoop signed platform events (world, []) =
      .ok () (last, text))
    (otherRun :
      Session.evLoop otherSigned otherPlatform otherEvents
          (otherWorld, []) =
        .ok () (otherLast, text)) :
    last.sent.map (Sendto.entry settings) =
      otherLast.sent.map (Sendto.entry otherSettings) := by
  rcases log_of_run started onStarted run with ⟨written, sent⟩
  rcases log_of_run otherStarted otherOnStarted otherRun with
    ⟨otherWritten, otherSent⟩
  have same :
      linesText (events.flatMap (Event.lines settings)) =
        linesText (otherEvents.flatMap (Event.lines otherSettings)) :=
    written.trans otherWritten.symm
  have none : ∀ line ∈ ([] : List (List UInt8)), IsPlainLine line := by simp
  have begins :
      events.filterMap (Event.entry settings) <+:
        otherEvents.filterMap (Event.entry otherSettings) :=
    entries_of_linesText none none verbose otherVerbose
      ((List.append_nil _).trans same)
  have covers :
      otherEvents.filterMap (Event.entry otherSettings) <+:
        events.filterMap (Event.entry settings) :=
    entries_of_linesText none none otherVerbose verbose
      ((List.append_nil _).trans same.symm)
  rw [sent, otherSent]
  exact begins.eq_of_length_le covers.length_le

end Log

/-- A verbose relay, with a run that returns. -/
theorem exists_run_mixedEvents :
    ∃ opts world last,
      Started workingHost opts .silent chattySettings world ∧
        (∀ event ∈ mixedEvents, event.watcher ∈ world.started) ∧
        evLoop workingHost mixedEvents world = .ok () last := by
  have accepted :
      createConfiguration
          (relayOptions ++
            [.nettx ⟨[55, 48, 53, 51, 54], by decide⟩, .verbose]) =
        .ok chattySettings :=
    rfl
  obtain ⟨world, started⟩ :=
    exists_started_workingHost accepted rfl rfl .silent
  have onStarted : ∀ event ∈ mixedEvents, event.watcher ∈ world.started := by
    rw [started.started_eq]
    decide
  have stored :=
    pktinfoStored_of_plain (lenPktinfo_le_initial .silent) isPlain_mixedEvents
  obtain ⟨last, returned⟩ :=
    started.exists_last onStarted stored (by decide)
  exact ⟨_, world, last, started, onStarted, returned⟩

theorem evLoop_logs_mixedEvents :
    ∃ opts world last,
      Started workingHost opts .silent chattySettings world ∧
        evLoop workingHost mixedEvents world = .ok () last ∧
        (mixedEvents.flatMap (Event.lines chattySettings)).filter
            isEntryLine =
          last.sent.map fun call => (call.entry chattySettings).line := by
  obtain ⟨opts, world, last, started, onStarted, returned⟩ :=
    exists_run_mixedEvents
  exact ⟨opts, world, last, started, returned,
    (evLoop_logs started onStarted true).2 last returned⟩

theorem entries_of_log_mixedEvents :
    ∃ opts world last text,
      Started workingHost opts .silent chattySettings world ∧
        Session.evLoop true workingHost mixedEvents (world, []) =
          .ok () (last, text) ∧
        ∀ (otherEvents : List Event) (otherLast : World),
          (∀ event ∈ otherEvents, event.watcher ∈ world.started) →
          Session.evLoop true workingHost otherEvents (world, []) =
              .ok () (otherLast, text) →
            last.sent.map (Sendto.entry chattySettings) =
              otherLast.sent.map (Sendto.entry chattySettings) := by
  obtain ⟨opts, world, last, started, onStarted, returned⟩ :=
    exists_run_mixedEvents
  have printed :=
    (writes_evLoop started onStarted true).returned returned []
  refine ⟨opts, world, last, _, started, printed, ?_⟩
  intro otherEvents otherLast otherOnStarted otherRun
  exact entries_of_log started started onStarted otherOnStarted rfl rfl
    printed otherRun

end UdpipBroadcaster
