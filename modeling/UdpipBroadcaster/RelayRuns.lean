import UdpipBroadcaster.FailedOperations
import UdpipBroadcaster.Library.Interleavings

/-!
# What decides a run

Which runs of the relay return, what has happened then, and what it does not
depend on: neither on the order in which libev reports the events of the two
sides, nor on anything of the configuration but the two destination ports.
-/

namespace UdpipBroadcaster

open Interleavings Programs

/-! ## Which runs return -/

variable {platform : Platform} {opts : List Opt} {stdin : Stdin}
  {settings : Settings} {world : World}

/-- A run of the relay returns exactly if packet information is stored for
every datagram and the standard input has a character for every failed
`sendto` or ends; then it has made the calls of its events, in order, and
taken those characters. -/
theorem evLoop_returns_iff
    (started : Started platform opts stdin settings world)
    {events : List Event}
    (onStarted : ∀ event ∈ events, event.watcher ∈ world.started) :
    ((∃ last, evLoop platform events world = .ok () last) ↔
        PktinfoStored (fun _ => controlBufferLen) events ∧
          stdin.Serves (events.countP Event.sendFails)) ∧
      ∀ last, evLoop platform events world = .ok () last →
        last.sent = events.flatMap (Event.attempts settings) ∧
          last.stdin = stdin.drop (events.countP Event.sendFails) ∧
          ∀ side : Side, last.offered side.watcher =
            roomsLeft (fun _ => controlBufferLen) events side := by
  constructor
  · constructor
    · intro run
      rcases run with ⟨last, run⟩
      exact (started.of_returned onStarted run).1
    · intro returns
      exact started.exists_last onStarted returns.1 returns.2
  · intro last run
    have implements := (started.of_returned onStarted run).2
    exact ⟨implements.sent, implements.stdin, implements.offered⟩

theorem evLoop_returns_iff_refusedEvent :
    ∃ world,
      Started workingHost relayOptions ⟨[10], false⟩ relaySettings world ∧
        ((∃ last, evLoop workingHost [refusedEvent, refusedEvent] world =
              .ok () last) ↔
          PktinfoStored (fun _ => controlBufferLen)
              [refusedEvent, refusedEvent] ∧
            (⟨[10], false⟩ : Stdin).Serves
              ([refusedEvent, refusedEvent].countP Event.sendFails)) := by
  obtain ⟨world, started⟩ :=
    exists_started_workingHost createConfiguration_relayOptions rfl rfl
      ⟨[10], false⟩
  refine ⟨world, started, (evLoop_returns_iff started ?_).1⟩
  rw [started.started_eq]
  decide

/-! ## The order of the two sides -/

namespace Relay

/-- The states differ at most in the order of calls on different sockets. -/
structure SameTraffic (relay other : Relay) : Prop where
  room : relay.room = other.room
  stdin : relay.stdin = other.stdin
  sent : ∀ fd, relay.sent.filter (·.socketFd = fd) =
    other.sent.filter (·.socketFd = fd)

theorem SameTraffic.after
    {relay other : Relay} (same : relay.SameTraffic other)
    (settings : Settings) (event : Event) :
    (relay.after settings event).SameTraffic
      (other.after settings event) where
  room := by simp only [Relay.after, advance, same.room]
  stdin := by simp only [Relay.after, same.room, same.stdin]
  sent := by
    intro fd
    simp only [Relay.after, advance, List.filter_append, same.sent fd,
      same.room]

/-- The calls of an event are made on the socket of its side. -/
private theorem socketFd_of_mem_calls
    {settings : Settings} {event : Event} {room : Nat} {call : Sendto}
    (member : call ∈ event.calls settings room) :
    call.socketFd = event.side.forwardingFd := by
  rw [Event.calls] at member
  split at member
  · rw [List.mem_singleton.mp member]
    rfl
  · cases member

/-- Events of different sides can be exchanged. -/
theorem sameTraffic_after_after
    (settings : Settings) {first second : Event}
    (apart : first.side ≠ second.side) (relay : Relay) :
    ((relay.after settings first).after settings second).SameTraffic
      ((relay.after settings second).after settings first) where
  room := by
    simp only [after, advance, Function.update_of_ne apart,
      Function.update_of_ne apart.symm]
    exact Function.update_comm apart _ _ _
  stdin := by
    simp only [after, advance, Function.update_of_ne apart,
      Function.update_of_ne apart.symm, Stdin.drop_drop]
    rw [Nat.add_comm]
  sent := by
    intro fd
    simp only [after, advance, Function.update_of_ne apart,
      Function.update_of_ne apart.symm, List.filter_append]
    have silent (event : Event) (elsewhere : fd ≠ event.side.forwardingFd)
        (room : Nat) :
        (event.calls settings room).filter (·.socketFd = fd) = [] := by
      apply List.filter_eq_nil_iff.mpr
      intro call member
      rw [socketFd_of_mem_calls member]
      simpa using elsewhere.symm
    by_cases onFirst : fd = first.side.forwardingFd
    · have elsewhere : fd ≠ second.side.forwardingFd := by
        rw [onFirst]
        revert apart
        cases first.side <;> cases second.side <;>
          simp [Side.forwardingFd]
      rw [silent second elsewhere]
      simp
    · rw [silent first onFirst]
      simp

/-- The steps of the two sides are independent. -/
theorem exchangeable_step (settings : Settings) :
    Exchangeable Event.side (step settings) SameTraffic where
  refl := fun _ => ⟨rfl, rfl, fun _ => rfl⟩
  trans := fun _ _ _ one two =>
    ⟨one.room.trans two.room, one.stdin.trans two.stdin,
      fun fd => (one.sent fd).trans (two.sent fd)⟩
  congr := by
    intro event relay other next same stepped
    rcases step_eq_ok_iff.mp stepped with ⟨returns, rfl⟩
    rw [same.room, same.stdin] at returns
    exact ⟨_, step_eq_ok_iff.mpr ⟨returns, rfl⟩,
      same.after settings event⟩
  exchange := by
    intro first second apart relay middle last steppedFirst steppedSecond
    rcases step_eq_ok_iff.mp steppedFirst with ⟨returnsFirst, rfl⟩
    rcases step_eq_ok_iff.mp steppedSecond with ⟨returnsSecond, rfl⟩
    have room :
        (relay.after settings first).room second.side =
          relay.room second.side :=
      Function.update_of_ne apart.symm _ _
    have otherRoom :
        (relay.after settings second).room first.side =
          relay.room first.side :=
      Function.update_of_ne apart _ _
    have both :
        relay.stdin.Serves
          (second.taken settings (relay.room second.side) +
            first.taken settings (relay.room first.side)) := by
      rw [Nat.add_comm]
      rw [room] at returnsSecond
      exact Stdin.serves_add_iff.mpr
        ⟨returnsFirst.2, returnsSecond.2⟩
    have ⟨secondServed, firstServed⟩ := Stdin.serves_add_iff.mp both
    rw [room] at returnsSecond
    refine ⟨_, _, step_eq_ok_iff.mpr
        ⟨⟨returnsSecond.1, secondServed⟩, rfl⟩,
      step_eq_ok_iff.mpr ⟨⟨?_, ?_⟩, rfl⟩,
      sameTraffic_after_after settings apart relay⟩
    · rw [otherRoom]
      exact returnsFirst.1
    · rw [otherRoom]
      exact firstServed

end Relay

theorem exists_side {watcher : Nat} (started : watcher ∈ [0, 1]) :
    ∃ side : Side, side.watcher = watcher := by
  rcases List.mem_pair.mp started with net | app
  · exact ⟨.net, net.symm⟩
  · exact ⟨.app, app.symm⟩

/-- The order in which libev reports the events of the two watchers does not
matter: if one order returns, so does any other, with the same calls on each
socket, the same characters taken and the same rooms left. -/
theorem evLoop_interleaved
    (started : Started platform opts stdin settings world)
    {events other : List Event} {last : World}
    (onStarted : ∀ event ∈ events, event.watcher ∈ world.started)
    (order : SameOrder Event.watcher events other)
    (returned : evLoop platform events world = .ok () last) :
    ∃ otherLast, evLoop platform other world = .ok () otherLast ∧
      (∀ fd, last.sent.filter (·.socketFd = fd) =
        otherLast.sent.filter (·.socketFd = fd)) ∧
      last.stdin = otherLast.stdin ∧
      ∀ watcher ∈ world.started,
        last.offered watcher = otherLast.offered watcher := by
  have onStartedOther :
      ∀ event ∈ other, event.watcher ∈ world.started := by
    intro event member
    have kept :
        event ∈ events.filter (·.watcher = event.watcher) := by
      rw [order event.watcher]
      simpa using member
    exact onStarted event (List.mem_of_mem_filter kept)
  have sideOrder : SameOrder Event.side events other := by
    intro side
    have byWatcher (some : List Event)
        (onSome : ∀ event ∈ some, event.watcher ∈ world.started) :
        some.filter (·.side = side) =
          some.filter (·.watcher = side.watcher) := by
      apply List.filter_congr
      intro event member
      have onRelay : event.watcher = event.side.watcher :=
        started.onRelay (onSome event member)
      rw [onRelay, decide_eq_decide]
      cases event.side <;> cases side <;> simp [Side.watcher]
    rw [byWatcher events onStarted, byWatcher other onStartedOther]
    exact order side.watcher
  have agrees := started.agrees onStarted
  have agreesOther := started.agrees onStartedOther
  rw [returned] at agrees
  rcases agrees.modelReturns with ⟨model, modelRun, implements⟩
  obtain ⟨modelOther, modelRunOther, same⟩ :=
    (Relay.exchangeable_step settings).runAll_interleaved sideOrder modelRun
  rw [modelRunOther] at agreesOther
  obtain ⟨otherLast, returnedOther, implementsOther⟩ :=
    agreesOther.returns
  refine ⟨otherLast, returnedOther, ?_, ?_, ?_⟩
  · intro fd
    rw [implements.sent, implementsOther.sent]
    exact same.sent fd
  · rw [implements.stdin, implementsOther.stdin, same.stdin]
  · intro watcher member
    rw [started.started_eq] at member
    rcases exists_side member with ⟨side, rfl⟩
    rw [implements.offered, implementsOther.offered, same.room]

/-- Two datagrams from the network with one from the application. -/
def mixedEvents : List Event :=
  [plainEvent .net [65] 1, plainEvent .app [66] 1, plainEvent .net [67] 1]

/-- The same datagrams, the one from the application first. -/
def mixedEventsAppFirst : List Event :=
  [plainEvent .app [66] 1, plainEvent .net [65] 1, plainEvent .net [67] 1]

private theorem sameOrder_mixedEvents :
    SameOrder Event.watcher mixedEvents mixedEventsAppFirst := by
  intro watcher
  by_cases net : Side.net.watcher = watcher
  · have notApp : Side.app.watcher ≠ watcher := by
      rw [← net]
      decide
    simp [mixedEvents, mixedEventsAppFirst, plainEvent, net, notApp]
  · simp [mixedEvents, mixedEventsAppFirst, plainEvent, List.filter_cons,
      net]

theorem isPlain_mixedEvents :
    ∀ event ∈ mixedEvents, ∀ datagram ∈ event.answers.received,
      datagram.IsPlain := by
  intro event member datagram received
  obtain ⟨side, payload, rfl⟩ :
      ∃ side payload, event = plainEvent side payload 1 := by
    simp only [mixedEvents, List.mem_cons, List.not_mem_nil, or_false]
      at member
    rcases member with rfl | rfl | rfl
    · exact ⟨_, _, rfl⟩
    · exact ⟨_, _, rfl⟩
    · exact ⟨_, _, rfl⟩
  cases received
  exact isPlain_plainDatagram payload 1

theorem evLoop_interleaved_mixedEvents :
    ∃ world last otherLast,
      Started workingHost relayOptions .silent relaySettings world ∧
        evLoop workingHost mixedEvents world = .ok () last ∧
        evLoop workingHost mixedEventsAppFirst world = .ok () otherLast ∧
        ∀ fd, last.sent.filter (·.socketFd = fd) =
          otherLast.sent.filter (·.socketFd = fd) := by
  obtain ⟨world, started⟩ :=
    exists_started_workingHost createConfiguration_relayOptions rfl rfl
      .silent
  have onStarted : ∀ event ∈ mixedEvents, event.watcher ∈ world.started := by
    rw [started.started_eq]
    decide
  have stored :=
    pktinfoStored_of_plain (lenPktinfo_le_initial .silent) isPlain_mixedEvents
  obtain ⟨last, returned⟩ :=
    started.exists_last onStarted stored (by decide)
  obtain ⟨otherLast, otherReturned, sent, -⟩ :=
    evLoop_interleaved started onStarted sameOrder_mixedEvents returned
  exact ⟨world, last, otherLast, started, returned, otherReturned, sent⟩

/-! ## What the configuration decides -/

/-- The machine reads nothing but the two destinations of its settings. -/
theorem Relay.step_congr
    {settings other : Settings}
    (same : settings.destination = other.destination) :
    Relay.step settings = Relay.step other := by
  have calls : settings.call = other.call := by
    funext side payload answer
    simp only [Settings.call, same]
  funext event relay
  simp only [Relay.step, calls]

/-- What two processes have in common that cannot be told apart from
outside: the calls made, the input left and the room for control records
offered on each watcher. -/
structure World.Resembles (world other : World) : Prop where
  sent : world.sent = other.sent
  stdin : world.stdin = other.stdin
  offered : ∀ side : Side,
    world.offered side.watcher = other.offered side.watcher

/-- Of the whole command line and host, a run depends on nothing but the
ports that `-t` and `-u` put on the wire: two relays that agree on these
make the same calls on the same events, stop at the same event for the same
reason, and leave the same input. -/
theorem evLoop_resembles
    {platformOther : Platform} {optsOther : List Opt}
    {settingsOther : Settings} {worldOther : World}
    (started : Started platform opts stdin settings world)
    (startedOther :
      Started platformOther optsOther stdin settingsOther worldOther)
    (txPort : toUInt16 settings.cfg.txPort =
      toUInt16 settingsOther.cfg.txPort)
    (appTxPort : toUInt16 settings.cfg.appTxPort =
      toUInt16 settingsOther.cfg.appTxPort)
    {events : List Event}
    (onStarted : ∀ event ∈ events, event.watcher ∈ world.started) :
    Agree World.Resembles
      (fun last other =>
        last.sent = other.sent ∧ last.stdin = other.stdin)
      (evLoop platform events world)
      (evLoop platformOther events worldOther) := by
  have onStartedOther :
      ∀ event ∈ events, event.watcher ∈ worldOther.started := by
    rw [startedOther.started_eq, ← started.started_eq]
    exact onStarted
  have destinations :
      settings.destination = settingsOther.destination := by
    funext side
    cases side with
    | net => simp only [Settings.destination, lookedUp, appTxPort]
    | app => simp only [Settings.destination, txPort]
  have agrees := started.agrees onStarted
  have agreesOther := startedOther.agrees onStartedOther
  rw [Relay.step_congr destinations] at agrees
  apply agrees.join agreesOther
  · intro last other model implements implementsOther
    constructor
    · rw [implements.sent, implementsOther.sent]
    · rw [implements.stdin, implementsOther.stdin]
    · intro side
      rw [implements.offered, implementsOther.offered]
  · intro last other model output outputOther
    exact ⟨output.1.trans outputOther.1.symm,
      output.2.trans outputOther.2.symm⟩

/-- `relaySettings` with `-e`, and with another port that `htons` puts on the
wire as the same one. -/
def chattySettings : Settings where
  cfg :=
    { relaySettings.cfg with
      txPort := 70536
      verbose := true }
  verbose := true

theorem evLoop_resembles_interruptedEvents :
    ∃ opts world worldOther,
      Started workingHost relayOptions .silent relaySettings world ∧
        Started workingHost opts .silent chattySettings worldOther ∧
        Agree World.Resembles
          (fun last other =>
            last.sent = other.sent ∧ last.stdin = other.stdin)
          (evLoop workingHost interruptedEvents world)
          (evLoop workingHost interruptedEvents worldOther) := by
  obtain ⟨world, started⟩ :=
    exists_started_workingHost createConfiguration_relayOptions rfl rfl
      .silent
  have accepted :
      createConfiguration
          (relayOptions ++
            [.verbose, .nettx ⟨[55, 48, 53, 51, 54], by decide⟩]) =
        .ok chattySettings :=
    rfl
  obtain ⟨worldOther, startedOther⟩ :=
    exists_started_workingHost accepted rfl rfl .silent
  refine ⟨_, world, worldOther, started, startedOther,
    evLoop_resembles started startedOther rfl rfl ?_⟩
  rw [started.started_eq]
  decide

end UdpipBroadcaster
