import UdpipBroadcaster.Console
import UdpipBroadcaster.RelayFidelity
import UdpipBroadcaster.StartupFailures

/-!
# The listener

A manager that `init_rx_udp_events` has set up for `cb_print_recvfrom` prints
every datagram it receives and does nothing else.  The printed text tells the
payloads.
-/

namespace UdpipBroadcaster

open ByteStrings HexTexts Outputs PrintedTexts Programs

/-! ## One event -/

/-- The datagram that an event hands to the callback. -/
def Event.arrival (event : Event) : Option Datagram :=
  if evError &&& event.revents ≠ 0 then none else event.answers.received

/-- The room for control records after an event. -/
def Event.roomLeft (event : Event) (room : Nat) : Nat :=
  match event.arrival with
  | none => room
  | some datagram => (datagram.storedControl room).length

/-- Packet information is stored for every datagram, in the room that the
earlier ones leave. -/
def PktinfoArrives : Nat → List Event → Prop
  | _, [] => True
  | room, event :: rest =>
      (∀ datagram ∈ event.arrival,
          HasPktinfo (datagram.storedControl room)) ∧
        PktinfoArrives (event.roomLeft room) rest

/-- The lines of the callback. -/
def printedLines (answers : Answers) : List (List UInt8) :=
  utf8 ">>> RECEIVED UDP MESSAGE >>>" ::
    match answers.received with
    | none =>
        [utf8 "cb_print_recvfrom: <recv_msg> Could not receive message."]
    | some datagram =>
        [utf8 ">>> RECEIVED UDP MESSAGE >>>",
          dumpText (datagram.payload.take udpBufferLen)]

/-- The lines of an event of a listener. -/
def Event.linesHeard (event : Event) : List (List UInt8) :=
  utf8 "cb_common en udp_events" ::
    if evError &&& event.revents ≠ 0 then []
    else printedLines event.answers

/-- The arguments of a listener with its buffer, which offers `room` bytes
for control records. -/
structure PublicEvArg.Listens
    (arg : PublicEvArg) (pointer room : Nat) : Prop where
  localAddr : ∃ addr, arg.localAddr = some addr
  data : arg.data = some pointer
  msgHeader : ∃ msg, arg.msgHeader = some msg ∧
    msg.Describes pointer udpBufferLen ∧ msg.msgControllen = room

/-- The watcher is one of a listener. -/
structure World.Listens
    (world : World) (watcher pointer room : Nat) : Prop where
  arg : ∃ arg, world.args[watcher]? = some arg ∧
    arg.cbSpecfic = some .cbPrintRecvfrom ∧
    arg.publicArg.Listens pointer room
  block : ∃ block, world.heap[pointer]? = some block ∧
    block.length = udpBufferLen

variable {platform : Platform} {world : World} {watcher pointer room : Nat}

section Callback

variable {arg : PublicEvArg} (listens : arg.Listens pointer room)
  {answers : Answers}
include listens

/-- What the callback does with what was received. -/
private theorem cbPrintRecvfrom_cases :
    (answers.received = none ∧
      ∃ later, cbPrintRecvfrom answers arg world = .ok later world ∧
        later.Listens pointer room) ∨
    ∃ datagram, answers.received = some datagram ∧
      ((HasPktinfo (datagram.storedControl room) ∧
        ∃ later,
          cbPrintRecvfrom answers arg world =
            .ok later
              (world.fill pointer (datagram.payload.take udpBufferLen)) ∧
          later.Listens pointer (datagram.storedControl room).length) ∨
      (¬ HasPktinfo (datagram.storedControl room) ∧
        cbPrintRecvfrom answers arg world =
          .error .segmentationFault
            (world.fill pointer
              (datagram.payload.take udpBufferLen)))) := by
  rcases listens.localAddr with ⟨addr, localAddr⟩
  rcases listens.msgHeader with ⟨msg, header, described, rfl⟩
  have read : (deref arg.localAddr : Program SockaddrIn) world =
      .ok addr world := by
    rw [localAddr]
    rfl
  cases received : answers.received with
  | none =>
      refine .inl ⟨rfl, { arg with len := exErr }, ?_, ?_⟩
      · rw [cbPrintRecvfrom, bind_ok _ read, received,
          bind_ok _ (recvMsg_none ..)]
        rfl
      · exact ⟨listens.localAddr, listens.data, listens.msgHeader⟩
  | some datagram =>
      have run := recvMsg_eq described datagram addr.sAddr false world
      refine .inr ⟨datagram, rfl, ?_⟩
      by_cases classified :
          HasPktinfo (datagram.storedControl msg.msgControllen)
      · rw [if_pos classified] at run
        refine .inl ⟨classified, arg.holding datagram msg, ?_, ?_⟩
        · rw [cbPrintRecvfrom, bind_ok _ read, received, header,
            bind_ok _ run]
          rfl
        · exact ⟨listens.localAddr, listens.data,
            ⟨_, rfl, describes_receivedHeader described datagram, rfl⟩⟩
      · rw [if_neg classified] at run
        refine .inr ⟨classified, ?_⟩
        rw [cbPrintRecvfrom, bind_ok _ read, received, header,
          bind_error _ run]

/-- What the callback writes. -/
private theorem writes_cbPrintRecvfrom
    (signed : Bool) {block : List UInt8}
    (found : world.heap[pointer]? = some block)
    (length : block.length = udpBufferLen) :
    Writes (Session.cbPrintRecvfrom signed answers arg)
      (cbPrintRecvfrom answers arg) world
      (linesText (printedLines answers)) := by
  rcases listens.localAddr with ⟨addr, localAddr⟩
  rcases listens.msgHeader with ⟨msg, header, described, -⟩
  rw [Session.cbPrintRecvfrom, cbPrintRecvfrom, printedLines, linesText_cons]
  apply writes_receive localAddr header described
  · intro answer
    have negative : exErr < 0 := by decide
    simp only [negative, if_true, answer]
    exact (writes_pure _ _).write _
  · intro datagram answer
    have notNegative :
        ¬ ((datagram.payload.take udpBufferLen).length : Int) < 0 := by
      omega
    have fits :
        (datagram.payload.take udpBufferLen).length ≤ block.length := by
      rw [length]
      exact List.length_take_le _ _
    have stored :
        readBlock arg.data
            (world.fill pointer (datagram.payload.take udpBufferLen)) =
          .ok (overwrite block (datagram.payload.take udpBufferLen))
            (world.fill pointer (datagram.payload.take udpBufferLen)) := by
      rw [listens.data]
      exact readBlock_fill found _
    have dump (out : List UInt8) :
        printHexData signed
            (overwrite block (datagram.payload.take udpBufferLen))
            (datagram.payload.take udpBufferLen).length out =
          .ok exOk (out ++ dumpText (datagram.payload.take udpBufferLen)) := by
      rw [printHexData_eq signed (by omega)
          (by rw [length_overwrite]; exact_mod_cast fits),
        Int.toNat_natCast, take_overwrite fits le_rfl, List.take_length]
    simp only [notNegative, if_false, answer]
    rw [linesText_cons, linesText_cons, List.append_assoc (dumpText _)]
    apply Writes.write
    apply Writes.reads stored
    apply Writes.onOutput dump
    exact (writes_pure _ _).write _

end Callback

/-- The state after the callback, with its result written back. -/
private theorem World.Listens.update
    (listens : world.Listens watcher pointer room) {later : PublicEvArg}
    {left : Nat} (laterListens : later.Listens pointer left) {next : World}
    (args : next.args = world.args)
    (block : ∃ block, next.heap[pointer]? = some block ∧
      block.length = udpBufferLen) :
    World.Listens
      { next with
        args := next.args.modify watcher
          fun arg => { arg with publicArg := later } }
      watcher pointer left := by
  rcases listens.arg with ⟨arg, found, callback, -⟩
  refine ⟨⟨{ arg with publicArg := later }, ?_, callback, laterListens⟩,
    block⟩
  simp [args, found]

private theorem World.Listens.block_fill
    (listens : world.Listens watcher pointer room) (bytes : List UInt8) :
    ∃ block, (world.fill pointer bytes).heap[pointer]? = some block ∧
      block.length = udpBufferLen := by
  rcases listens.block with ⟨block, found, length⟩
  refine ⟨overwrite block bytes, by simp [World.fill, found], ?_⟩
  rw [length_overwrite, length]

/-- An event that can be classified leaves a listener; any other stops the
process.  Nothing is sent or read. -/
theorem dispatch_listens
    (platform : Platform) (listens : world.Listens watcher pointer room)
    {event : Event} (watched : event.watcher = watcher) :
    ((∀ datagram ∈ event.arrival,
        HasPktinfo (datagram.storedControl room)) ∧
      ∃ after, dispatch platform event world = .ok () after ∧
        after.Listens watcher pointer (event.roomLeft room) ∧
        after.streams = world.streams) ∨
    ((¬ ∀ datagram ∈ event.arrival,
        HasPktinfo (datagram.storedControl room)) ∧
      ∃ after, dispatch platform event world =
          .error .segmentationFault after ∧
        after.streams = world.streams) := by
  rcases listens.arg with ⟨arg, found, callback, listensArg⟩
  rw [dispatch, cbCommon, watched, Event.roomLeft, Event.arrival]
  by_cases error : evError &&& event.revents ≠ 0
  · refine .inl ⟨?_, world, ?_, ?_, rfl⟩
    · simp [error]
    · rw [if_pos error]
      rfl
    · simp only [if_pos error]
      exact listens
  · have read :
        (deref world.args[watcher]? : Program EvIoArg) world =
          .ok arg world := by
      rw [found]
      rfl
    have listensHere :
        PublicEvArg.Listens
          { arg.publicArg with socketFd := arg.watcher.fd } pointer room :=
      ⟨listensArg.localAddr, listensArg.data, listensArg.msgHeader⟩
    simp only [if_neg error]
    rw [get_bind, bind_ok _ read]
    simp only [callback, EvCb.call]
    rcases cbPrintRecvfrom_cases listensHere with
      ⟨received, later, run, laterListens⟩ |
        ⟨datagram, received, ⟨classified, later, run, laterListens⟩ |
          ⟨missing, run⟩⟩
    · rw [received, bind_ok _ run]
      exact .inl ⟨by simp, _, rfl,
        listens.update laterListens rfl listens.block, rfl⟩
    · rw [received, bind_ok _ run]
      exact .inl ⟨by simpa using classified, _, rfl,
        listens.update laterListens rfl (listens.block_fill _), rfl⟩
    · rw [received, bind_error _ run]
      exact .inr ⟨by simpa using missing, _, rfl, rfl⟩

theorem writes_dispatch_listens
    (signed : Bool) (platform : Platform)
    (listens : world.Listens watcher pointer room) {event : Event}
    (watched : event.watcher = watcher) :
    Writes (Session.dispatch signed platform event)
      (dispatch platform event) world (linesText event.linesHeard) := by
  rcases listens.arg with ⟨arg, found, callback, listensArg⟩
  rcases listens.block with ⟨block, here, length⟩
  rw [← watched] at found
  apply writes_dispatch_callback found callback
  intro _
  have listensHere :
      PublicEvArg.Listens
        { arg.publicArg with socketFd := arg.watcher.fd } pointer room :=
    ⟨listensArg.localAddr, listensArg.data, listensArg.msgHeader⟩
  exact writes_cbPrintRecvfrom listensHere signed here length

/-! ## Runs -/

/-- A run of a listener returns exactly if every datagram can be classified;
in any case it has sent and read nothing. -/
private theorem evLoop_listens
    (platform : Platform) (listens : world.Listens watcher pointer room)
    {events : List Event}
    (watched : ∀ event ∈ events, event.watcher = watcher) :
    ((∃ last, evLoop platform events world = .ok () last) ↔
        PktinfoArrives room events) ∧
      (finalState (evLoop platform events world)).streams =
        world.streams := by
  induction events generalizing world room with
  | nil => exact ⟨⟨fun _ => trivial, fun _ => ⟨world, rfl⟩⟩, rfl⟩
  | cons event rest inductionHypothesis =>
      have here := watched event (by simp)
      have later : ∀ event ∈ rest, event.watcher = watcher :=
        fun event member => watched event (by simp [member])
      rcases dispatch_listens platform listens here with
        ⟨arrives, after, step, listensAfter, same⟩ |
          ⟨missing, after, step, same⟩
      · rcases inductionHypothesis listensAfter later with
          ⟨returns, streams⟩
        rw [evLoop, runAll_cons_ok step, PktinfoArrives]
        exact ⟨returns.trans (and_iff_right arrives).symm,
          streams.trans same⟩
      · rw [evLoop, runAll_cons_error step, PktinfoArrives]
        refine ⟨⟨?_, fun arrives => (missing arrives.1).elim⟩, same⟩
        rintro ⟨last, returned⟩
        cases returned

private theorem writes_evLoop_listens
    (signed : Bool) (platform : Platform)
    (listens : world.Listens watcher pointer room) {events : List Event}
    (watched : ∀ event ∈ events, event.watcher = watcher) :
    Writes (Session.evLoop signed platform events)
      (evLoop platform events) world
      (events.flatMap fun event => linesText event.linesHeard) := by
  have follows : ∀ event ∈ events, ∀ before,
      (∃ room, World.Listens before watcher pointer room) →
        Writes (Session.dispatch signed platform event)
          (dispatch platform event) before
          (linesText event.linesHeard) := by
    rintro event member before ⟨room, listens⟩
    exact writes_dispatch_listens signed platform listens
      (watched event member)
  have preserved : ∀ event ∈ events, ∀ before after,
      (∃ room, World.Listens before watcher pointer room) →
        dispatch platform event before = .ok () after →
          ∃ room, World.Listens after watcher pointer room := by
    rintro event member before after ⟨room, listens⟩ returned
    rcases dispatch_listens platform listens (watched event member) with
      ⟨-, next, step, listensNext, -⟩ | ⟨-, next, step, -⟩
    · rw [returned] at step
      cases step
      exact ⟨_, listensNext⟩
    · rw [returned] at step
      cases step
  exact writes_runAll follows preserved ⟨room, listens⟩

/-! ## Reading the text -/

/-- What is kept of the payload that an event brings. -/
def Event.heard (event : Event) : Option (List UInt8) :=
  event.arrival.map fun datagram => datagram.payload.take udpBufferLen

/-- The line holds digits and colons only, like a dump. -/
def isDump (line : List UInt8) : Bool :=
  line.all fun char => char = 58 ∨ (hexValue char).isSome

theorem isDump_dumpText
    {bytes : List UInt8} (short : bytes.length ≤ bytesPerLine) :
    isDump (dumpText bytes) = true := by
  apply List.all_eq_true.mpr
  intro char member
  by_contra other
  simp only [Bool.decide_or, decide_eq_true_eq, Bool.or_eq_true, not_or,
    Bool.not_eq_true, Option.isSome_eq_false_iff, Option.isNone_iff_eq_none]
    at other
  exact not_mem_dumpText other.1 other.2 short member

/-- An event has one line like a dump if it brings a payload. -/
theorem filter_linesHeard (event : Event) :
    event.linesHeard.filter isDump = (event.heard.map dumpText).toList := by
  have first : isDump (utf8 "cb_common en udp_events") = false := by decide
  have title : isDump (utf8 ">>> RECEIVED UDP MESSAGE >>>") = false := by
    decide
  have failed :
      isDump
          (utf8
            "cb_print_recvfrom: <recv_msg> Could not receive message.") =
        false := by
    decide
  have dump (payload : List UInt8) :
      isDump (dumpText (payload.take udpBufferLen)) = true :=
    isDump_dumpText (List.length_take_le _ _)
  rw [Event.linesHeard, Event.heard, Event.arrival,
    List.filter_cons_of_neg (by simp [first])]
  by_cases error : evError &&& event.revents ≠ 0
  · simp [error]
  · rw [if_neg error, if_neg error, printedLines,
      List.filter_cons_of_neg (by simp [title])]
    cases event.answers.received with
    | none => simp [failed]
    | some datagram => simp [title, dump]

theorem newline_not_mem_linesHeard (event : Event) :
    ∀ line ∈ event.linesHeard, 10 ∉ line := by
  rw [Event.linesHeard, List.forall_mem_cons]
  refine ⟨by decide, ?_⟩
  split
  · simp
  · rw [printedLines, List.forall_mem_cons]
    refine ⟨by decide, ?_⟩
    cases event.answers.received with
    | none => exact List.forall_mem_singleton.mpr (by decide)
    | some datagram =>
        exact List.forall_mem_cons.mpr ⟨by decide,
          List.forall_mem_singleton.mpr
            (not_mem_dumpText (by decide) rfl (List.length_take_le _ _))⟩

/-- The text of some events tells what they brought. -/
theorem heard_of_text
    {events others : List Event}
    (same : linesText (events.flatMap Event.linesHeard) =
      linesText (others.flatMap Event.linesHeard)) :
    events.filterMap Event.heard = others.filterMap Event.heard := by
  have unbroken (events : List Event) :
      ∀ line ∈ events.flatMap Event.linesHeard, 10 ∉ line := by
    intro line member
    rcases List.mem_flatMap.mp member with ⟨event, -, listed⟩
    exact newline_not_mem_linesHeard event line listed
  have dumps (events : List Event) :
      (events.flatMap Event.linesHeard).filter isDump =
        (events.filterMap Event.heard).map dumpText := by
    rw [List.filter_flatMap, List.filterMap_eq_flatMap_toList,
      List.map_flatMap]
    congr 1
    funext event
    rw [filter_linesHeard]
    cases event.heard <;> rfl
  have lines := lines_inj (unbroken events) (unbroken others) same
  have filtered := congrArg (List.filter isDump) lines
  rw [dumps, dumps] at filtered
  apply map_inj_of_mem _ filtered
  intro payload _ other _ sameDump
  have decodes := decodes_dumpText payload
  rw [sameDump] at decodes
  exact decodes.unique (decodes_dumpText other)

/-! ## The listener from its start -/

section Started

variable {ifName otherName : CString} {port otherPort : Int}
  {before otherBefore otherWorld : World} {manager otherManager : UdpEvents}
  {otherPlatform : Platform} {events otherEvents : List Event}

private theorem wp_startListener (before : World) (port : Int) :
    wp (fun _ => StartFault platform ifName)
      (initRxUdpEvents platform port ifName (some .cbPrintRecvfrom))
      (fun manager world =>
        manager.watcher = some before.args.length ∧
          world.Listens before.args.length before.heap.length
            controlBufferLen ∧
          world.streams = before.streams)
      before := by
  apply wp_initRxUdpEvents
  intro calls pktinfo _
  have block : (freshBlock platform before.heap.length udpBufferLen).length =
      udpBufferLen :=
    length_freshBlock _ _
  refine ⟨rfl, ⟨⟨_, List.getElem?_concat_length, rfl, ?_⟩, ?_⟩, rfl⟩
  · exact ⟨⟨_, rfl⟩, rfl, ⟨_, rfl, describes_freshHeader _, rfl⟩⟩
  · exact ⟨_, List.getElem?_concat_length, block⟩

private theorem text_of_run
    {signed : Bool} {last : World} {text : List UInt8}
    (started :
      initRxUdpEvents platform port ifName (some .cbPrintRecvfrom) before =
        .ok manager world)
    (watched : ∀ event ∈ events, manager.watcher = some event.watcher)
    (run : Session.evLoop signed platform events (world, []) =
      .ok () (last, text)) :
    linesText (events.flatMap Event.linesHeard) = text := by
  rcases post_of_returned (wp_startListener before port)
      started with ⟨watcher, listens, -⟩
  have writes :=
    writes_evLoop_listens signed platform listens
      (watched_of_manager watcher watched)
  rw [linesText_flatMap]
  exact (writes.of_returned run).2

/-- A listener keeps to itself in every run: it prints its lines, sends and
reads nothing, and returns exactly if packet information is stored for every
datagram. -/
theorem evLoop_prints
    (started :
      initRxUdpEvents platform port ifName (some .cbPrintRecvfrom) before =
        .ok manager world)
    (watched : ∀ event ∈ events, manager.watcher = some event.watcher)
    (signed : Bool) :
    Writes (Session.evLoop signed platform events) (evLoop platform events)
        world (linesText (events.flatMap Event.linesHeard)) ∧
      ((∃ last, evLoop platform events world = .ok () last) ↔
        PktinfoArrives controlBufferLen events) ∧
      (finalState (evLoop platform events world)).sent = before.sent ∧
      (finalState (evLoop platform events world)).stdin = before.stdin := by
  rcases post_of_returned (wp_startListener before port)
      started with ⟨watcher, listens, streams⟩
  have onWatcher := watched_of_manager watcher watched
  rcases evLoop_listens platform listens onWatcher with ⟨returns, same⟩
  rcases Prod.mk.inj (same.trans streams) with ⟨sent, stdin⟩
  refine ⟨?_, returns, sent, stdin⟩
  rw [linesText_flatMap]
  exact writes_evLoop_listens signed platform listens onWatcher

/-- The text that a listener prints can be read in one way only: whatever the
two hosts and events, if two listeners have printed the same text, they have
received the same payloads in the same order. -/
theorem heard_of_run
    {signed otherSigned : Bool} {last otherLast : World} {text : List UInt8}
    (started :
      initRxUdpEvents platform port ifName (some .cbPrintRecvfrom) before =
        .ok manager world)
    (otherStarted :
      initRxUdpEvents otherPlatform otherPort otherName
          (some .cbPrintRecvfrom) otherBefore =
        .ok otherManager otherWorld)
    (watched : ∀ event ∈ events, manager.watcher = some event.watcher)
    (otherWatched :
      ∀ event ∈ otherEvents, otherManager.watcher = some event.watcher)
    (run : Session.evLoop signed platform events (world, []) =
      .ok () (last, text))
    (otherRun :
      Session.evLoop otherSigned otherPlatform otherEvents
          (otherWorld, []) =
        .ok () (otherLast, text)) :
    events.filterMap Event.heard = otherEvents.filterMap Event.heard := by
  apply heard_of_text
  rw [text_of_run started watched run,
    text_of_run otherStarted otherWatched otherRun]

end Started

/-- Datagrams with packet information only never stop a listener. -/
theorem pktinfoArrives_of_plain
    {events : List Event} (enough : lenPktinfo ≤ room)
    (plain : ∀ event ∈ events, ∀ datagram ∈ event.answers.received,
      datagram.IsPlain) :
    PktinfoArrives room events := by
  induction events generalizing room with
  | nil => trivial
  | cons event rest inductionHypothesis =>
      have known := plain event (by simp)
      have later : ∀ event ∈ rest, ∀ datagram ∈ event.answers.received,
          datagram.IsPlain :=
        fun event member => plain event (by simp [member])
      rw [PktinfoArrives, Event.roomLeft, Event.arrival]
      by_cases error : evError &&& event.revents ≠ 0
      · rw [if_pos error]
        exact ⟨by simp, inductionHypothesis enough later⟩
      · rw [if_neg error]
        refine ⟨fun datagram received =>
          hasPktinfo_of_plain (known datagram received) enough, ?_⟩
        apply inductionHypothesis _ later
        cases received : event.answers.received with
        | none => exact enough
        | some datagram =>
            exact lenPktinfo_le_storedControl (known datagram received)
              enough

/-- A datagram, a failed receive and an empty datagram. -/
def heardEvents : List Event :=
  [plainEvent .net [72, 105] 1, ⟨0, evRead, ⟨none, .error⟩⟩,
    plainEvent .net [] 2]

theorem isPlain_heardEvents :
    ∀ event ∈ heardEvents, ∀ datagram ∈ event.answers.received,
      datagram.IsPlain := by
  intro event member datagram received
  simp only [heardEvents, List.mem_cons, List.not_mem_nil, or_false] at member
  rcases member with rfl | rfl | rfl
  · cases received
    exact isPlain_plainDatagram _ _
  · cases received
  · cases received
    exact isPlain_plainDatagram _ _

/-- A listener on a working host and its run. -/
private theorem exists_run_heardEvents :
    ∃ manager world last text,
      initRxUdpEvents workingHost 5000 relaySettings.cfg.ifName.text
          (some .cbPrintRecvfrom) (World.initial .silent) =
        .ok manager world ∧
      (∀ event ∈ heardEvents, manager.watcher = some event.watcher) ∧
      Session.evLoop true workingHost heardEvents (world, []) =
        .ok () (last, text) := by
  have noFault : ¬ StartFault workingHost relaySettings.cfg.ifName.text :=
    not_startFault createConfiguration_relayOptions hasInetEntry_workingHost
      succeeds_workingHost
  obtain ⟨manager, world, started, watcher, listens, -⟩ :=
    returns_of_wp (wp_startListener (World.initial .silent) 5000)
      fun _ => noFault
  have watched :
      ∀ event ∈ heardEvents, manager.watcher = some event.watcher := by
    rw [watcher]
    decide
  have onWatcher := watched_of_manager watcher watched
  obtain ⟨last, returned⟩ :=
    (evLoop_listens workingHost listens onWatcher).1.mpr
      (pktinfoArrives_of_plain (by decide) isPlain_heardEvents)
  have written :=
    (writes_evLoop_listens true workingHost listens onWatcher).returned
      returned []
  exact ⟨manager, world, last, _, started, watched, written⟩

theorem evLoop_prints_heardEvents :
    ∃ manager world last,
      initRxUdpEvents workingHost 5000 relaySettings.cfg.ifName.text
          (some .cbPrintRecvfrom) (World.initial .silent) =
        .ok manager world ∧
      evLoop workingHost heardEvents world = .ok () last ∧
      last.sent = [] := by
  obtain ⟨manager, world, -, -, started, watched, -⟩ :=
    exists_run_heardEvents
  obtain ⟨-, returns, sent, -⟩ := evLoop_prints started watched true
  obtain ⟨last, returned⟩ :=
    returns.mpr (pktinfoArrives_of_plain (by decide) isPlain_heardEvents)
  rw [returned] at sent
  exact ⟨manager, world, last, started, returned, sent⟩

theorem heard_of_run_heardEvents :
    ∃ manager world last text,
      initRxUdpEvents workingHost 5000 relaySettings.cfg.ifName.text
          (some .cbPrintRecvfrom) (World.initial .silent) =
        .ok manager world ∧
      Session.evLoop true workingHost heardEvents (world, []) =
        .ok () (last, text) ∧
      ∀ (otherEvents : List Event) (otherLast : World),
        (∀ event ∈ otherEvents, manager.watcher = some event.watcher) →
        Session.evLoop true workingHost otherEvents (world, []) =
            .ok () (otherLast, text) →
          otherEvents.filterMap Event.heard = [[72, 105], []] := by
  obtain ⟨manager, world, last, text, started, watched, run⟩ :=
    exists_run_heardEvents
  refine ⟨manager, world, last, text, started, run, ?_⟩
  intro otherEvents otherLast otherWatched otherRun
  rw [← heard_of_run started started watched otherWatched run otherRun]
  decide

end UdpipBroadcaster
