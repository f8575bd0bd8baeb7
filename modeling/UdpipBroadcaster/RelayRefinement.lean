import UdpipBroadcaster.Relay

/-!
# The process implements the relay

In relay mode the process and the machine take the same steps: they make the
same calls of `sendto`, take the same characters of the standard input and
stop for the same reasons.
-/

namespace UdpipBroadcaster

open ByteStrings Programs

/-! ## The process that implements a machine -/

/-- The arguments of the watcher of a side, when it offers `room` bytes for
control records. -/
structure PublicEvArg.Serves
    (arg : PublicEvArg) (settings : Settings) (side : Side) (room : Nat) :
    Prop where
  localAddr : ∃ addr, arg.localAddr = some addr ∧ addr.sAddr = inaddrAny
  data : arg.data = some side.watcher
  msgHeader : ∃ msg, arg.msgHeader = some msg ∧
    msg.Describes side.watcher udpBufferLen ∧ msg.msgControllen = room
  forwardingAddr : arg.forwardingAddr = some (settings.destination side)
  forwardingSocketFd : arg.forwardingSocketFd = side.forwardingFd

/-- The buffer of a side. -/
def World.HasBuffer (world : World) (side : Side) : Prop :=
  ∃ block, world.heap[side.watcher]? = some block ∧
    block.length = udpBufferLen

/-- The process is in a state that the machine describes. -/
structure Implements
    (settings : Settings) (world : World) (relay : Relay) : Prop where
  watchers : ∀ side : Side, ∃ arg : EvIoArg,
    world.args[side.watcher]? = some arg ∧
    arg.cbSpecfic = some side.callback ∧
    arg.publicArg.Serves settings side (relay.room side)
  buffers : ∀ side, world.HasBuffer side
  sent : world.sent = relay.sent
  stdin : world.stdin = relay.stdin

/-- The room for control records that the header of a watcher offers. -/
def World.offered (world : World) (watcher : Nat) : Nat :=
  match (world.args[watcher]?).bind (·.publicArg.msgHeader) with
  | some msg => msg.msgControllen
  | none => 0

theorem Implements.offered
    {settings : Settings} {world : World} {relay : Relay}
    (implements : Implements settings world relay) (side : Side) :
    world.offered side.watcher = relay.room side := by
  rcases implements.watchers side with ⟨arg, found, -, serves⟩
  rcases serves.msgHeader with ⟨msg, header, -, room⟩
  simp [World.offered, found, header, room]

/-- What the process and the machine share when they have stopped. -/
def SameOutput (world : World) (relay : Relay) : Prop :=
  world.sent = relay.sent ∧ world.stdin = relay.stdin

theorem implements_relayWorld
    (platform : Platform) (settings : Settings) (stdin : Stdin)
    (calls : Nat) (netPktinfo appPktinfo : Bool) :
    Implements settings
      (relayWorld platform settings stdin calls netPktinfo appPktinfo)
      (Relay.initial stdin) where
  watchers := by
    intro side
    cases side with
    | net =>
        refine ⟨netArg settings, rfl, rfl, ⟨_, rfl, rfl⟩, rfl, ?_, rfl, rfl⟩
        exact ⟨_, rfl, describes_freshHeader 0, rfl⟩
    | app =>
        refine ⟨appArg settings, rfl, rfl, ⟨_, rfl, rfl⟩, rfl, ?_, rfl, rfl⟩
        exact ⟨_, rfl, describes_freshHeader 1, rfl⟩
  buffers := by
    intro side
    cases side with
    | net => exact ⟨_, rfl, length_freshBlock 0 udpBufferLen⟩
    | app => exact ⟨_, rfl, length_freshBlock 1 udpBufferLen⟩
  sent := rfl
  stdin := rfl

/-- The effect of a call of `sendto` with its consequences on the process;
the machine has the same in `Relay.transmit`. -/
def World.transmit (world : World) (call : Sendto) :
    EStateM.Result Stop World Unit :=
  let world := { world with sent := world.sent ++ [call] }
  match call.sentBytes, world.stdin.next with
  | some _, _ => .ok () world
  | none, none => .error .waitsForStdin world
  | none, some rest => .ok () { world with stdin := rest }

variable {platform : Platform} {settings : Settings} {side : Side}
  {world : World} {relay : Relay}

/-! ## Sending -/

/-- The call of `sendto` for the front of a buffer. -/
def frontCall
    (answer : SendAnswer) (dest : SockaddrIn) (socketFd : Int)
    (buffer : List UInt8) (count : Nat) : Sendto where
  socketFd := socketFd
  buffer := buffer.take count
  len := count
  destAddr := some dest
  sentBytes :=
    match answer with
    | .error => none
    | .accepts limit => some (min limit count)

private theorem sendto_front
    (world : World) (answer : SendAnswer) (dest : SockaddrIn)
    (socketFd : Int) {buffer : List UInt8} {count : Nat}
    (inside : count ≤ buffer.length) :
    sendto answer socketFd buffer count (some dest) world =
      .ok
        (match answer with
          | .error => -1
          | .accepts limit => (min limit count : Nat))
        { world with
          sent := world.sent ++
            [frontCall answer dest socketFd buffer count] } := by
  cases answer with
  | error => rfl
  | accepts limit =>
      have bounds :
          (0 : Int) ≤ count ∧ (count : Int) ≤ buffer.length := by
        omega
      simp only [sendto, bounds, and_self, if_true, Int.toNat_natCast]
      rfl

private theorem getchar_waits (empty : world.stdin.next = none) :
    getchar world = .error .waitsForStdin world := by
  rw [getchar, get_bind, empty]
  rfl

private theorem getchar_reads
    {rest : Stdin} (available : world.stdin.next = some rest) :
    getchar world = .ok () { world with stdin := rest } := by
  rw [getchar, get_bind, available]
  rfl

/-- Sending the front of a buffer, where the result is not used. -/
theorem sendMessage_bind
    {α : Type} (value : α) (answer : SendAnswer) (dest : SockaddrIn)
    (socketFd : Int) {buffer : List UInt8} {count : Nat}
    (inside : count ≤ buffer.length) :
    (sendMessage answer (some dest) socketFd buffer count >>=
        fun _ => pure value : Program α) world =
      match world.transmit
        (frontCall answer dest socketFd buffer count) with
      | .ok _ next => .ok value next
      | .error reason next => .error reason next := by
  have sent := sendto_front world answer dest socketFd inside
  rw [sendMessage, bind_assoc, bind_ok _ sent]
  cases answer with
  | error =>
      simp only [Int.reduceNeg, Int.reduceLT, if_true]
      cases input : world.stdin.next with
      | none =>
          simp only [World.transmit, frontCall, input]
          apply bind_error
          apply bind_error
          exact getchar_waits input
      | some rest =>
          simp only [World.transmit, frontCall, input]
          rw [bind_assoc]
          apply bind_ok
          exact getchar_reads input
  | accepts limit =>
      have counted : ¬ ((min limit count : Nat) : Int) < 0 := by
        omega
      simp only [counted, if_false]
      split
      · rfl
      · rfl

/-! ## The callbacks -/

/-- The block of a buffer after a payload was stored. -/
theorem readBlock_fill
    {pointer : Nat} {block : List UInt8}
    (found : world.heap[pointer]? = some block) (bytes : List UInt8) :
    readBlock (some pointer) (world.fill pointer bytes) =
      .ok (overwrite block bytes) (world.fill pointer bytes) := by
  have stored :
      (world.fill pointer bytes).heap[pointer]? =
        some (overwrite block bytes) := by
    simp [World.fill, found]
  rw [readBlock, get_bind]
  simp only [Option.bind_some, stored]
  rfl

/-- Sending what was just stored in the buffer of a side. -/
private theorem forward_fill
    {α : Type} (value : α) (settings : Settings)
    (buffer : world.HasBuffer side) (answer : SendAnswer)
    (payload : List UInt8) :
    (do
        let data ← readBlock (some side.watcher)
        let _fwdBytes ←
          sendMessage answer (some (settings.destination side))
            side.forwardingFd data (payload.take udpBufferLen).length
        pure value : Program α)
        (world.fill side.watcher (payload.take udpBufferLen)) =
      match
        (world.fill side.watcher (payload.take udpBufferLen)).transmit
          (settings.call side (payload.take udpBufferLen) answer) with
      | .ok _ next => .ok value next
      | .error reason next => .error reason next := by
  rcases buffer with ⟨block, found, length⟩
  have fits : (payload.take udpBufferLen).length ≤ block.length := by
    rw [length]
    exact List.length_take_le _ _
  have sameCall :
      frontCall answer (settings.destination side) side.forwardingFd
          (overwrite block (payload.take udpBufferLen))
          (payload.take udpBufferLen).length =
        settings.call side (payload.take udpBufferLen) answer := by
    cases answer <;>
      simp only [frontCall, Settings.call, take_overwrite fits le_rfl,
        List.take_length]
  rw [bind_ok _ (readBlock_fill found _), sendMessage_bind, sameCall]
  rw [length_overwrite]
  exact fits

/-- What a callback of the relay does after its receive: the network side
returns if the datagram is blocked. -/
private def afterReceive
    (side : Side) (answers : Answers) (arg : PublicEvArg)
    (blocked : Bool) : Program PublicEvArg :=
  if arg.len < 0 then pure arg
  else if side = .net ∧ blocked = true then pure arg
  else do
    let data ← readBlock arg.data
    let _fwdBytes ←
      sendMessage answers.send arg.forwardingAddr arg.forwardingSocketFd
        data arg.len
    pure arg

private theorem call_eq
    {arg : PublicEvArg} {addr : SockaddrIn}
    (localAddr : arg.localAddr = some addr) (side : Side)
    (answers : Answers) :
    side.callback.call platform answers arg =
      (do
        let result ←
          recvMsg answers.received arg.msgHeader addr.sAddr false
        afterReceive side answers
          { arg with len := result.rxBytes, msgHeader := result.msg }
          result.blocked) := by
  cases side with
  | net =>
      simp only [Side.callback, EvCb.call, cbForwardRecvfrom, localAddr,
        deref, pure_bind, afterReceive, true_and]
  | app =>
      simp only [Side.callback, EvCb.call, cbBroadcastRecvfrom, localAddr,
        deref, pure_bind, afterReceive, reduceCtorEq, false_and, if_false]

section Callbacks

variable {arg : PublicEvArg} {answers : Answers} {room : Nat}
variable (serves : arg.Serves settings side room)
include serves

/-- Nothing was received. -/
private theorem call_idle (failed : answers.received = none) :
    ∃ later,
      side.callback.call platform answers arg world = .ok later world ∧
        later.Serves settings side room := by
  rcases serves.localAddr with ⟨addr, localAddr, -⟩
  refine ⟨{ arg with len := exErr }, ?_, ?_⟩
  · rw [call_eq localAddr, failed, bind_ok _ (recvMsg_none ..)]
    rfl
  · exact ⟨serves.localAddr, serves.data, serves.msgHeader,
      serves.forwardingAddr, serves.forwardingSocketFd⟩

variable {datagram : Datagram}

/-- No packet information was stored. -/
private theorem call_fault
    (received : answers.received = some datagram)
    (missing : ¬ HasPktinfo (datagram.storedControl room)) :
    side.callback.call platform answers arg world =
      .error .segmentationFault
        (world.fill side.watcher (datagram.payload.take udpBufferLen)) := by
  rcases serves.localAddr with ⟨addr, localAddr, -⟩
  rcases serves.msgHeader with ⟨msg, header, described, rfl⟩
  have stopped := recvMsg_eq described datagram addr.sAddr false world
  rw [if_neg missing] at stopped
  rw [call_eq localAddr, received, header]
  exact bind_error _ stopped

/-- A datagram whose source is known is handed to the second half of the
callback. -/
private theorem call_received
    (received : answers.received = some datagram)
    (classified : HasPktinfo (datagram.storedControl room)) :
    ∃ later : PublicEvArg,
      later.Serves settings side (datagram.storedControl room).length ∧
        later.len = (datagram.payload.take udpBufferLen).length ∧
        side.callback.call platform answers arg world =
          afterReceive side answers later
            (decide (inaddrAny = datagram.source.sAddr))
            (world.fill side.watcher
              (datagram.payload.take udpBufferLen)) := by
  rcases serves.localAddr with ⟨addr, localAddr, any⟩
  rcases serves.msgHeader with ⟨msg, header, described, rfl⟩
  have run := recvMsg_eq described datagram addr.sAddr false world
  rw [if_pos classified] at run
  refine ⟨{ arg with
    len := (datagram.payload.take udpBufferLen).length
    msgHeader := some (receivedHeader datagram udpBufferLen msg) },
    ?_, rfl, ?_⟩
  · exact ⟨serves.localAddr, serves.data,
      ⟨_, rfl, describes_receivedHeader described datagram, rfl⟩,
      serves.forwardingAddr, serves.forwardingSocketFd⟩
  · rw [call_eq localAddr, received, header, bind_ok _ run, any]

/-- The network side discards a datagram from the relay's own address. -/
private theorem call_discard
    (net : side = .net)
    (received : answers.received = some datagram)
    (classified : HasPktinfo (datagram.storedControl room))
    (own : datagram.source.sAddr = inaddrAny) :
    ∃ later,
      side.callback.call platform answers arg world =
          .ok later
            (world.fill side.watcher
              (datagram.payload.take udpBufferLen)) ∧
        later.Serves settings side
          (datagram.storedControl room).length := by
  obtain ⟨later, servesLater, counted, run⟩ :=
    call_received serves received classified
  refine ⟨later, ?_, servesLater⟩
  have notNegative : ¬ later.len < 0 := by
    rw [counted]
    omega
  rw [run, afterReceive, if_neg notNegative, own, decide_eq_true rfl,
    if_pos ⟨net, rfl⟩]
  rfl

/-- Every other datagram is passed on. -/
private theorem call_pass
    (buffer : world.HasBuffer side)
    (received : answers.received = some datagram)
    (classified : HasPktinfo (datagram.storedControl room))
    (other : ¬ (side = .net ∧ datagram.source.sAddr = inaddrAny)) :
    ∃ later : PublicEvArg,
      later.Serves settings side (datagram.storedControl room).length ∧
        side.callback.call platform answers arg world =
          match
            (world.fill side.watcher
              (datagram.payload.take udpBufferLen)).transmit
              (settings.call side (datagram.payload.take udpBufferLen)
                answers.send) with
          | .ok _ next => .ok later next
          | .error reason next => .error reason next := by
  obtain ⟨later, servesLater, counted, run⟩ :=
    call_received serves received classified
  refine ⟨later, servesLater, ?_⟩
  have notNegative : ¬ later.len < 0 := by
    rw [counted]
    omega
  have notBlocked :
      ¬ (side = .net ∧
        decide (inaddrAny = datagram.source.sAddr) = true) := by
    intro own
    rcases own with ⟨net, blocked⟩
    exact other ⟨net, (of_decide_eq_true blocked).symm⟩
  rw [run, afterReceive, if_neg notNegative, if_neg notBlocked,
    servesLater.data, servesLater.forwardingAddr,
    servesLater.forwardingSocketFd, counted]
  exact forward_fill later settings buffer answers.send datagram.payload

end Callbacks

/-! ## One event -/

/-- The event is on one of the two watchers of the relay. -/
def Event.OnRelay (event : Event) : Prop :=
  event.watcher = event.side.watcher

theorem onRelay_of_started
    {event : Event} (started : event.watcher ∈ [0, 1]) : event.OnRelay := by
  have eitherOne : event.watcher = 0 ∨ event.watcher = 1 := by
    simpa using started
  rcases eitherOne with net | app
  · simp [Event.OnRelay, Event.side, Side.watcher, net]
  · simp [Event.OnRelay, Event.side, Side.watcher, app]

theorem hasBuffer_fill
    (buffer : ∀ side, world.HasBuffer side) (pointer : Nat)
    (bytes : List UInt8) (side : Side) :
    (world.fill pointer bytes).HasBuffer side := by
  rcases buffer side with ⟨block, found, length⟩
  by_cases same : pointer = side.watcher
  · exact ⟨overwrite block bytes, by simp [World.fill, found, same],
      by rw [length_overwrite, length]⟩
  · exact ⟨block, by simp [World.fill, found, same], length⟩

/-- The process after the arguments of one watcher were written back. -/
private theorem Implements.update
    (implements : Implements settings world relay)
    {later : PublicEvArg} {room : Nat}
    (serves : later.Serves settings side room)
    {next : World} {relayNext : Relay}
    (args : next.args = world.args)
    (buffers : ∀ side, next.HasBuffer side)
    (rooms : relayNext.room = Function.update relay.room side room)
    (same : SameOutput next relayNext) :
    Implements settings
      { next with
        args := next.args.modify side.watcher
          fun arg => { arg with publicArg := later } }
      relayNext where
  watchers := by
    intro other
    obtain ⟨arg, found, callback, servesOther⟩ :=
      implements.watchers other
    by_cases equal : other = side
    · subst equal
      refine ⟨{ arg with publicArg := later }, ?_, callback, ?_⟩
      · simp [args, found]
      · rw [rooms, Function.update_self]
        exact serves
    · refine ⟨arg, ?_, callback, ?_⟩
      · have different : side.watcher ≠ other.watcher := by
          cases side <;> cases other <;> simp_all [Side.watcher]
        simp [args, found, different]
      · rw [rooms, Function.update_of_ne equal]
        exact servesOther
  buffers := buffers
  sent := same.1
  stdin := same.2

/-- Both sides record a call and its consequences alike. -/
private theorem transmit_agrees
    (same : SameOutput world relay) (call : Sendto) :
    Agree
      (fun next relayNext => SameOutput next relayNext ∧
        next.args = world.args ∧ next.heap = world.heap ∧
        relayNext.room = relay.room)
      SameOutput (world.transmit call) (relay.transmit call) := by
  rcases same with ⟨sent, stdin⟩
  simp only [World.transmit, Relay.transmit, sent, stdin]
  cases call.sentBytes with
  | some count => exact ⟨⟨rfl, rfl⟩, rfl, rfl, rfl⟩
  | none =>
      cases input : relay.stdin.next with
      | none => exact ⟨rfl, rfl, rfl⟩
      | some rest => exact ⟨⟨rfl, rfl⟩, rfl, rfl, rfl⟩

private theorem filled_sameOutput
    (same : SameOutput world relay) (side : Side) (bytes : List UInt8)
    (room : Nat) :
    SameOutput (world.fill side.watcher bytes) (relay.withRoom side room) :=
  same

/-- What `cb_common` does on a started watcher, unless libev reports an
error. -/
private theorem dispatch_eq
    {event : Event} {arg : EvIoArg} {callback : EvCb}
    (noError : ¬ evError &&& event.revents ≠ 0)
    (found : world.args[event.watcher]? = some arg)
    (specific : arg.cbSpecfic = some callback) :
    dispatch platform event world =
      match
        callback.call platform event.answers
          { arg.publicArg with socketFd := arg.watcher.fd } world with
      | .ok later next =>
          .ok ()
            { next with
              args := next.args.modify event.watcher
                fun arg => { arg with publicArg := later } }
      | .error reason next => .error reason next := by
  rw [dispatch, cbCommon, if_neg noError, get_bind, found]
  simp only [deref, pure_bind, specific]
  cases result :
      callback.call platform event.answers
        { arg.publicArg with socketFd := arg.watcher.fd } world with
  | ok later next => exact bind_ok _ result
  | error reason next => exact bind_error _ result

/-- The process and the machine take the same step on every event. -/
theorem dispatch_agrees
    (platform : Platform) {event : Event} (onRelay : event.OnRelay)
    (implements : Implements settings world relay) :
    Agree (Implements settings) SameOutput
      (dispatch platform event world)
      (Relay.step settings event relay) := by
  have same : SameOutput world relay :=
    ⟨implements.sent, implements.stdin⟩
  by_cases ignored : evError &&& event.revents ≠ 0
  · have idle : event.fate (relay.room event.side) = .idle :=
      if_pos ignored
    rw [dispatch, cbCommon, if_pos ignored, Relay.step, idle]
    exact implements
  · have fate :
        event.fate (relay.room event.side) =
          event.answers.fate event.side (relay.room event.side) :=
      if_neg ignored
    obtain ⟨arg, found, specific, servesBefore⟩ :=
      implements.watchers event.side
    have serves :
        PublicEvArg.Serves
          { arg.publicArg with socketFd := arg.watcher.fd }
          settings event.side (relay.room event.side) :=
      ⟨servesBefore.localAddr, servesBefore.data, servesBefore.msgHeader,
        servesBefore.forwardingAddr, servesBefore.forwardingSocketFd⟩
    rw [← onRelay] at found
    rw [dispatch_eq ignored found specific, onRelay, Relay.step, fate]
    cases received : event.answers.received with
    | none =>
        rcases call_idle serves received with ⟨later, run, servesLater⟩
        rw [run]
        simp only [Answers.fate, received]
        exact implements.update servesLater rfl implements.buffers
          (Function.update_eq_self _ _).symm same
    | some datagram =>
        simp only [Answers.fate, received]
        by_cases classified :
            HasPktinfo
              (datagram.storedControl (relay.room event.side))
        · rw [if_neg (not_not_intro classified)]
          by_cases own :
              event.side = .net ∧ datagram.source.sAddr = inaddrAny
          · obtain ⟨later, run, servesLater⟩ :=
              call_discard serves own.1 received classified own.2
            rw [run, if_pos own]
            exact implements.update servesLater rfl
              (hasBuffer_fill implements.buffers _ _) rfl same
          · obtain ⟨later, servesLater, run⟩ :=
              call_pass serves (implements.buffers event.side) received
                classified own
            have buffers :=
              hasBuffer_fill implements.buffers event.side.watcher
                (datagram.payload.take udpBufferLen)
            have sends :=
              transmit_agrees
                (filled_sameOutput same event.side
                  (datagram.payload.take udpBufferLen)
                  (datagram.storedControl
                    (relay.room event.side)).length)
                (settings.call event.side
                  (datagram.payload.take udpBufferLen)
                  event.answers.send)
            rw [run, if_neg own]
            dsimp only
            generalize World.transmit _ _ = sent at sends ⊢
            generalize Relay.transmit _ _ = modelSent at sends ⊢
            cases sent with
            | ok _ next =>
                cases modelSent with
                | ok _ relayNext =>
                    rcases sends with ⟨sameNext, args, heap, rooms⟩
                    exact implements.update servesLater args
                      (fun side => by
                        rw [World.HasBuffer, heap]
                        exact buffers side)
                      rooms sameNext
                | error _ _ => exact sends.elim
            | error _ next =>
                cases modelSent with
                | ok _ _ => exact sends.elim
                | error _ relayNext => exact sends
        · rw [if_pos classified, call_fault serves received classified]
          exact ⟨rfl, same⟩

/-- An event makes the calls that the machine makes with the room the
process offers. -/
theorem Implements.newCalls
    (implements : Implements settings world relay) (platform : Platform)
    {event : Event} (onRelay : event.OnRelay) :
    (finalState (dispatch platform event world)).sent.drop
        world.sent.length =
      event.calls settings (world.offered event.watcher) := by
  have next :=
    ((dispatch_agrees platform onRelay implements).finalStates
      fun _ _ later => ⟨later.sent, later.stdin⟩).1
  have offered :
      world.offered event.watcher = relay.room event.side := by
    rw [onRelay]
    exact implements.offered event.side
  rw [next, Relay.sent_finalState_step, implements.sent, offered,
    List.drop_left]

/-- The process and the machine make the same run of any events. -/
theorem evLoop_agrees
    {events : List Event} (onRelay : ∀ event ∈ events, event.OnRelay)
    (implements : Implements settings world relay) :
    Agree (Implements settings) SameOutput (evLoop platform events world)
      (runAll (Relay.step settings) events relay) :=
  runAll_agree
    (fun event member _ _ before =>
      dispatch_agrees platform (onRelay event member) before)
    implements

/-! ## The relay that was started -/

/-- `main` entered the event loop with this configuration. -/
structure Started
    (platform : Platform) (opts : List Opt) (stdin : Stdin)
    (settings : Settings) (world : World) : Prop where
  accepted : createConfiguration opts = .ok settings
  returned : ∃ loop,
    main platform opts (World.initial stdin) = .ok loop world

namespace Started

variable {opts : List Opt} {stdin : Stdin}
  (started : Started platform opts stdin settings world)
include started

private theorem found_and_eq :
    HasInetEntry platform settings.cfg.ifName.text ∧
      ∃ calls netPktinfo appPktinfo,
        world =
          relayWorld platform settings stdin calls netPktinfo
            appPktinfo := by
  rcases started.returned with ⟨loop, returned⟩
  rcases main_returned returned with ⟨-, other, created, -, -, rest⟩
  rw [started.accepted] at created
  cases created
  exact rest

/-- The interface of the configuration was found. -/
theorem hasInetEntry : HasInetEntry platform settings.cfg.ifName.text :=
  started.found_and_eq.1

theorem eq_relayWorld :
    ∃ calls netPktinfo appPktinfo,
      world =
        relayWorld platform settings stdin calls netPktinfo
          appPktinfo :=
  started.found_and_eq.2

theorem implements : Implements settings world (Relay.initial stdin) := by
  rcases started.eq_relayWorld with ⟨calls, netPktinfo, appPktinfo, rfl⟩
  exact implements_relayWorld platform settings stdin calls netPktinfo
    appPktinfo

theorem started_eq : world.started = [0, 1] := by
  rcases started.eq_relayWorld with ⟨calls, netPktinfo, appPktinfo, rfl⟩
  rfl

theorem onRelay
    {event : Event} (onStarted : event.watcher ∈ world.started) :
    event.OnRelay := by
  apply onRelay_of_started
  rw [← started.started_eq]
  exact onStarted

/-- Every run of the process from its start is a run of the machine. -/
theorem agrees
    {events : List Event}
    (onStarted : ∀ event ∈ events, event.watcher ∈ world.started) :
    Agree (Implements settings) SameOutput (evLoop platform events world)
      (runAll (Relay.step settings) events (Relay.initial stdin)) := by
  exact evLoop_agrees
    (fun event member => started.onRelay (onStarted event member))
    started.implements

/-- Whether or not it returns, the process has made the calls of the
machine. -/
theorem sent_finalState
    {events : List Event}
    (onStarted : ∀ event ∈ events, event.watcher ∈ world.started) :
    (finalState (evLoop platform events world)).sent =
      (finalState (runAll (Relay.step settings) events
        (Relay.initial stdin))).sent :=
  ((started.agrees onStarted).finalStates
    fun _ _ implements => ⟨implements.sent, implements.stdin⟩).1

/-- After any run that returned, an event makes the calls that the machine
makes with the room the process offers. -/
theorem newCalls
    {events : List Event} {before : World}
    (onStarted : ∀ event ∈ events, event.watcher ∈ world.started)
    (returned : evLoop platform events world = .ok () before)
    {event : Event} (onWatcher : event.watcher ∈ world.started) :
    (finalState (dispatch platform event before)).sent.drop
        before.sent.length =
      event.calls settings (before.offered event.watcher) := by
  have agrees := started.agrees onStarted
  rw [returned] at agrees
  rcases agrees.modelReturns with ⟨relay, -, implements⟩
  exact implements.newCalls platform (started.onRelay onWatcher)

end Started

/-- A host whose calls succeed starts with every accepted relay
configuration of an interface that has an address. -/
theorem exists_started
    {opts : List Opt} {settings : Settings}
    (accepted : createConfiguration opts = .ok settings)
    (relay : settings.cfg.txTest = false)
    (found : HasInetEntry platform settings.cfg.ifName.text)
    (succeeds : platform.Succeeds) (stdin : Stdin) :
    ∃ world, Started platform opts stdin settings world := by
  have noFault := not_startFault accepted found succeeds
  obtain ⟨loop, world, returned⟩ :=
    main_returns accepted relay noFault stdin
  exact ⟨world, accepted, loop, returned⟩

theorem exists_started_workingHost
    {opts : List Opt} {settings : Settings}
    (accepted : createConfiguration opts = .ok settings)
    (relay : settings.cfg.txTest = false)
    (iface : settings.cfg.ifName = relaySettings.cfg.ifName)
    (stdin : Stdin) :
    ∃ world, Started workingHost opts stdin settings world := by
  apply exists_started accepted relay _ succeeds_workingHost stdin
  rw [iface]
  exact hasInetEntry_workingHost

end UdpipBroadcaster
