import UdpipBroadcaster.RelayRefinement

/-!
# Relay fidelity

On datagrams as Linux supplies them the relay passes on exactly what it
received.  The room for control records shrinks after the first datagram of
each side, but it stays large enough for the record of the next one.
-/

namespace UdpipBroadcaster

open Programs

/-! ## Events as Linux delivers them -/

/-- A received datagram is plain and fits the buffer, and `sendto` accepts
all of it.  A receive may also fail. -/
structure Event.LinuxReceive (event : Event) : Prop where
  noError : evError &&& event.revents = 0
  plain : ∀ datagram ∈ event.answers.received,
    datagram.IsPlain ∧ datagram.payload.length ≤ udpBufferLen
  accepted : ∀ datagram ∈ event.answers.received,
    ∃ limit, event.answers.send = .accepts limit ∧
      datagram.payload.length ≤ limit

/-- The payload that an event asks the relay to pass on. -/
def Event.payload (event : Event) : Option (List UInt8) :=
  event.answers.received.bind fun datagram =>
    if event.side = .net ∧ datagram.source.sAddr = inaddrAny then none
    else some datagram.payload

variable {platform : Platform} {settings : Settings} {relay : Relay}

/-- The call by which the relay passes a payload on without loss. -/
def Settings.deliver
    (settings : Settings) (side : Side) (payload : List UInt8) : Sendto :=
  settings.call side payload (.accepts payload.length)

@[simp]
theorem socketFd_deliver (side : Side) (payload : List UInt8) :
    (settings.deliver side payload).socketFd = side.forwardingFd :=
  rfl

@[simp]
theorem destAddr_deliver (side : Side) (payload : List UInt8) :
    (settings.deliver side payload).destAddr =
      some (settings.destination side) :=
  rfl

@[simp]
theorem transmitted_deliver (side : Side) (payload : List UInt8) :
    (settings.deliver side payload).transmitted = some payload := by
  simp [Settings.deliver, Settings.call, Sendto.transmitted]

/-- The calls for a sequence of events. -/
def Settings.deliveries
    (settings : Settings) (events : List Event) : List Sendto :=
  events.filterMap fun event =>
    event.payload.map (settings.deliver event.side)

private theorem deliveries_cons (event : Event) (rest : List Event) :
    settings.deliveries (event :: rest) =
      (event.payload.map (settings.deliver event.side)).toList ++
        settings.deliveries rest := by
  cases payload : event.payload <;> simp [Settings.deliveries, payload]

private theorem call_accepts
    {side : Side} {payload : List UInt8} {limit : Nat}
    (whole : payload.length ≤ limit) :
    settings.call side payload (.accepts limit) =
      settings.deliver side payload := by
  simp [Settings.deliver, Settings.call, whole]

/-- With enough room, what becomes of such an event depends on the datagram
only. -/
private theorem calls_linuxReceive
    (settings : Settings) {event : Event} {room : Nat}
    (linux : event.LinuxReceive)
    (enough : lenPktinfo ≤ room) :
    event.fate room ≠ .fault ∧
      event.calls settings room =
        (event.payload.map (settings.deliver event.side)).toList ∧
      lenPktinfo ≤ event.left room := by
  obtain ⟨known, left⟩ :=
    fate_of_plain (fun datagram member => (linux.plain datagram member).1)
      enough
  refine ⟨known, ?_, left⟩
  cases received : event.answers.received with
  | none =>
      simp [Event.calls, Event.fate, Answers.fate, Event.payload, received]
  | some datagram =>
      rcases linux.plain datagram received with ⟨plain, fits⟩
      rcases linux.accepted datagram received with ⟨limit, send, whole⟩
      have pktinfo := hasPktinfo_of_plain plain enough
      have wholePayload :
          datagram.payload.take udpBufferLen = datagram.payload :=
        List.take_of_length_le fits
      rcases event.calls_received settings received room with
        ⟨passes, calls⟩ | ⟨stays, calls⟩
      · rw [calls, wholePayload, send, call_accepts whole]
        simp [Event.payload, received, passes.foreign]
      · have own :
            event.side = .net ∧ datagram.source.sAddr = inaddrAny := by
          by_contra foreign
          exact stays ⟨linux.noError, pktinfo, foreign⟩
        rw [calls]
        simp [Event.payload, received, own]

/-- The run of the machine on such events. -/
theorem runAll_linuxReceive
    (settings : Settings) {events : List Event}
    (linux : ∀ event ∈ events, event.LinuxReceive)
    (enough : ∀ side, lenPktinfo ≤ relay.room side) :
    ∃ last, runAll (Relay.step settings) events relay = .ok () last ∧
      last.sent = relay.sent ++ settings.deliveries events ∧
      last.stdin = relay.stdin ∧
      ∀ side, lenPktinfo ≤ last.room side := by
  induction events generalizing relay with
  | nil => exact ⟨relay, rfl, by simp [Settings.deliveries], rfl, enough⟩
  | cons event rest inductionHypothesis =>
      obtain ⟨known, calls, left⟩ :=
        calls_linuxReceive settings (linux event (by simp))
          (enough event.side)
      have accepted :
          ∀ call ∈ event.calls settings (relay.room event.side),
            call.sentBytes ≠ none := by
        rw [calls]
        intro call member
        obtain ⟨payload, -, rfl⟩ :=
          Option.map_eq_some_iff.mp (Option.mem_toList.mp member)
        simp [Settings.deliver, Settings.call]
      have enoughNext (side : Side) :
          lenPktinfo ≤ (relay.advance settings event).room side := by
        by_cases same : side = event.side
        · subst same
          simpa [Relay.advance] using left
        · simpa [Relay.advance, same] using enough side
      obtain ⟨last, run, sent, stdin, enoughLast⟩ :=
        inductionHypothesis
          (fun later member => linux later (by simp [member])) enoughNext
      refine ⟨last, ?_, ?_, stdin, enoughLast⟩
      · rw [runAll_cons_ok (Relay.step_eq_advance known accepted)]
        exact run
      · rw [sent, Relay.advance, calls, List.append_assoc]
        rw [deliveries_cons]

theorem mem_deliveries
    {events : List Event} {call : Sendto}
    (member : call ∈ settings.deliveries events) :
    ∃ side payload, call = settings.deliver side payload := by
  rcases List.mem_filterMap.mp member with ⟨event, -, made⟩
  rcases Option.map_eq_some_iff.mp made with ⟨payload, -, rfl⟩
  exact ⟨event.side, payload, rfl⟩

/-! ## Datagrams in and out -/

/-- The datagrams that were received on a watcher. -/
def receivedOn (watcher : Nat) (events : List Event) : List Datagram :=
  (events.filter (·.watcher = watcher)).filterMap (·.answers.received)

/-- The datagrams that left through a socket, with their destinations. -/
def World.datagramsOn (world : World) (fd : Int) :
    List (List UInt8 × Option SockaddrIn) :=
  (world.sent.filter (·.socketFd = fd)).filterMap fun call =>
    call.transmitted.map (·, call.destAddr)

private theorem receivedOn_cons
    (watcher : Nat) (event : Event) (rest : List Event) :
    receivedOn watcher (event :: rest) =
      (if event.watcher = watcher then event.answers.received.toList
        else []) ++ receivedOn watcher rest := by
  by_cases same : event.watcher = watcher
  · cases received : event.answers.received <;>
      simp [receivedOn, same, received]
  · simp [receivedOn, same]

/-- What leaves through the forwarding socket of a side. -/
private theorem filterMap_deliveries
    (settings : Settings) (side : Side) {events : List Event}
    (onRelay : ∀ event ∈ events, event.OnRelay) :
    ((settings.deliveries events).filter
        (·.socketFd = side.forwardingFd)).filterMap
        (fun call => call.transmitted.map (·, call.destAddr)) =
      ((receivedOn side.watcher events).filter fun datagram =>
          ¬ (side = .net ∧ datagram.source.sAddr = inaddrAny)).map
        fun datagram =>
          (datagram.payload, some (settings.destination side)) := by
  induction events with
  | nil => rfl
  | cons event rest inductionHypothesis =>
      have tail :=
        inductionHypothesis
          fun later member => onRelay later (by simp [member])
      have here : event.watcher = event.side.watcher :=
        onRelay event (by simp)
      rw [deliveries_cons, receivedOn_cons, List.filter_append,
        List.filterMap_append, List.filter_append, List.map_append, tail]
      congr 1
      by_cases same : event.side = side
      · subst same
        rw [if_pos here]
        cases received : event.answers.received with
        | none => simp [Event.payload, received]
        | some datagram =>
            by_cases own :
                event.side = .net ∧ datagram.source.sAddr = inaddrAny
            · simp [Event.payload, received, own]
            · have kept := not_and_or.mp own
              simp [Event.payload, received, own, kept]
      · have otherWatcher : ¬ event.watcher = side.watcher := by
          rw [here]
          revert same
          cases event.side <;> cases side <;> simp [Side.watcher]
        have otherFd :
            ¬ event.side.forwardingFd = side.forwardingFd := by
          revert same
          cases event.side <;> cases side <;> simp [Side.forwardingFd]
        rw [if_neg otherWatcher]
        cases event.payload <;> simp [otherFd]

/-! ## Whole runs of the process -/

/-- In the run on these events, the datagrams that leave on the network
watcher's forwarding socket are those received from the network whose source
is not the local address, and on the application watcher's those received
from the application, in order and byte for byte; nothing else is sent, and
the standard input is not read. -/
def RelaysFaithfully
    (platform : Platform) (events : List Event) (world : World) : Prop :=
  ∃ (net app : EvIoArg) (localAddr : SockaddrIn) (last : World),
    world.args = [net, app] ∧
      net.cbSpecfic = some .cbForwardRecvfrom ∧
      app.cbSpecfic = some .cbBroadcastRecvfrom ∧
      net.publicArg.localAddr = some localAddr ∧
      evLoop platform events world = .ok () last ∧
      last.datagramsOn net.publicArg.forwardingSocketFd =
        ((receivedOn 0 events).filter
          (·.source.sAddr ≠ localAddr.sAddr)).map
          (fun datagram =>
            (datagram.payload, net.publicArg.forwardingAddr)) ∧
      last.datagramsOn app.publicArg.forwardingSocketFd =
        (receivedOn 1 events).map
          (fun datagram =>
            (datagram.payload, app.publicArg.forwardingAddr)) ∧
      (∀ call ∈ last.sent,
        (call.socketFd = net.publicArg.forwardingSocketFd ∨
            call.socketFd = app.publicArg.forwardingSocketFd) ∧
          call.transmitted ≠ none) ∧
      last.stdin = world.stdin

theorem relaysFaithfully
    {platform : Platform} {opts : List Opt} {stdin : Stdin}
    {settings : Settings} {world : World}
    (started : Started platform opts stdin settings world)
    {events : List Event}
    (onStarted : ∀ event ∈ events, event.watcher ∈ world.started)
    (linux : ∀ event ∈ events, event.LinuxReceive) :
    RelaysFaithfully platform events world := by
  have onRelay : ∀ event ∈ events, event.OnRelay :=
    fun event member => started.onRelay (onStarted event member)
  obtain ⟨model, run, sent, input, -⟩ :=
    runAll_linuxReceive settings linux (lenPktinfo_le_initial stdin)
  have agrees := started.agrees onStarted
  rw [run] at agrees
  rcases agrees.returns with ⟨last, returned, implements⟩
  have lastSent : last.sent = settings.deliveries events :=
    implements.sent.trans sent
  rcases started.eq_relayWorld with ⟨calls, netPktinfo, appPktinfo, rfl⟩
  refine ⟨netArg settings, appArg settings, lookedUp settings.cfg.rxPort,
    last, rfl, rfl, rfl, rfl, returned, ?_, ?_, ?_, ?_⟩
  · change last.datagramsOn Side.net.forwardingFd = _
    rw [World.datagramsOn, lastSent,
      filterMap_deliveries settings .net onRelay]
    congr 1
    apply List.filter_congr
    intro datagram _
    by_cases own : datagram.source.sAddr = 0 <;>
      simp [lookedUp, inaddrAny, own]
  · change last.datagramsOn Side.app.forwardingFd = _
    rw [World.datagramsOn, lastSent,
      filterMap_deliveries settings .app onRelay]
    congr 1
    apply List.filter_eq_self.mpr
    intro datagram _
    simp
  · intro call member
    rw [lastSent] at member
    rcases mem_deliveries member with ⟨side, payload, rfl⟩
    rw [transmitted_deliver]
    cases side with
    | net => exact ⟨.inl rfl, by simp⟩
    | app => exact ⟨.inr rfl, by simp⟩
  · exact implements.stdin.trans input

/-- A datagram with packet information. -/
def plainDatagram (payload : List UInt8) (source : UInt32) : Datagram :=
  Datagram.withRecords payload ⟨afInet, 0, source⟩
    [pktinfoRecord (CharArray.zero 12)]

/-- The receipt of such a datagram, whose payload the kernel accepts. -/
def plainEvent
    (side : Side) (payload : List UInt8) (source : UInt32) : Event where
  watcher := side.watcher
  revents := evRead
  answers :=
    { received := some (plainDatagram payload source)
      send := .accepts payload.length }

theorem isPlain_plainDatagram (payload : List UInt8) (source : UInt32) :
    (plainDatagram payload source).IsPlain :=
  ⟨CharArray.zero 12, rfl⟩

theorem passes_plainEvent
    {side : Side} {payload : List UInt8} {source : UInt32} {room : Nat}
    (foreign : source ≠ inaddrAny) (enough : lenPktinfo ≤ room) :
    (plainEvent side payload source).Passes room
      (plainDatagram payload source) where
  noError := show evError &&& evRead = 0 by decide
  pktinfo := hasPktinfo_of_plain (isPlain_plainDatagram _ _) enough
  foreign := fun own => foreign own.2

theorem linuxReceive_plainEvent
    (side : Side) {payload : List UInt8} (source : UInt32)
    (fits : payload.length ≤ udpBufferLen) :
    (plainEvent side payload source).LinuxReceive where
  noError := show evError &&& evRead = 0 by decide
  plain := by
    rintro _ ⟨⟩
    exact ⟨isPlain_plainDatagram _ _, fits⟩
  accepted := by
    rintro _ ⟨⟩
    exact ⟨_, rfl, le_rfl⟩

theorem relaysFaithfully_exchange :
    ∃ world, Started workingHost relayOptions .silent relaySettings world ∧
      RelaysFaithfully workingHost
        [plainEvent .app [72, 105] (quadAddress 127 0 0 1),
          plainEvent .net [] (quadAddress 192 168 1 7)] world := by
  obtain ⟨world, started⟩ :=
    exists_started_workingHost createConfiguration_relayOptions rfl rfl
      .silent
  refine ⟨world, started, relaysFaithfully started ?_ ?_⟩
  · rw [started.started_eq]
    decide
  · intro event member
    rcases List.mem_cons.mp member with app | net
    · rw [app]
      exact linuxReceive_plainEvent .app _ (by decide)
    · rw [List.mem_singleton.mp net]
      exact linuxReceive_plainEvent .net _ (by decide)

end UdpipBroadcaster
