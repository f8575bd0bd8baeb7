import UdpipBroadcaster.RelayFidelity

/-!
# Failed operations

A failed receive and a short send leave no trace in what the relay does
next.  A failed send does: `send_message` then reads a character from the
standard input, and waits for it.  So a run returns if packet information is
stored for every datagram and the standard input serves every failed send.
-/

namespace UdpipBroadcaster

open Programs

/-! ## Which events fail -/

/-- The bytes that an event hands to `sendto`, if its datagram is known. -/
def Event.outgoing (event : Event) : Option (List UInt8) :=
  if evError &&& event.revents ≠ 0 then none
  else event.payload.map (List.take udpBufferLen)

/-- The event ends with an error from `sendto`. -/
def Event.sendFails (event : Event) : Bool :=
  event.outgoing.isSome && event.answers.send = .error

/-- An operation of the event fails: its receive, or its send, which may
also be short. -/
def Event.failing (event : Event) : Bool :=
  (evError &&& event.revents = 0 && event.answers.received.isNone) ||
    match event.outgoing, event.answers.send with
    | some _, .error => true
    | some payload, .accepts limit => limit < payload.length
    | none, _ => false

/-- The call handed all its bytes to the kernel. -/
def Sendto.complete (call : Sendto) : Bool :=
  call.sentBytes = some call.len.toNat

/-- Packet information is stored for every received datagram, in the room
the earlier ones leave. -/
def PktinfoStored : (Side → Nat) → List Event → Prop
  | _, [] => True
  | room, event :: rest =>
      event.fate (room event.side) ≠ .fault ∧
        PktinfoStored
          (Function.update room event.side
            (event.left (room event.side)))
          rest

/-- The calls an event makes when its datagram is known. -/
def Event.attempts (settings : Settings) (event : Event) : List Sendto :=
  (event.outgoing.map fun payload =>
    settings.call event.side payload event.answers.send).toList

variable {settings : Settings} {event : Event} {events : List Event}
  {relay last : Relay}

theorem calls_eq_attempts
    (settings : Settings) {room : Nat} (known : event.fate room ≠ .fault) :
    event.calls settings room = event.attempts settings := by
  by_cases error : evError &&& event.revents ≠ 0
  · simp [Event.calls, Event.attempts, Event.outgoing, Event.fate, error]
  · simp only [Event.fate, if_neg error] at known
    simp only [Event.calls, Event.attempts, Event.outgoing, Event.fate,
      if_neg error, Event.payload]
    cases received : event.answers.received with
    | none => simp [Answers.fate, received]
    | some datagram =>
        simp only [Answers.fate, received] at known ⊢
        by_cases pktinfo : HasPktinfo (datagram.storedControl room)
        · by_cases own :
              event.side = .net ∧ datagram.source.sAddr = inaddrAny
          · simp [pktinfo, own]
          · simp [pktinfo, own]
        · simp [pktinfo] at known

/-- The complete calls are those of the events that do not fail. -/
theorem filter_complete_attempts :
    (event.attempts settings).filter Sendto.complete =
      if event.failing then [] else event.attempts settings := by
  cases outgoing : event.outgoing with
  | none => simp [Event.attempts, outgoing]
  | some payload =>
      have received : event.answers.received.isNone = false := by
        cases received : event.answers.received with
        | none =>
            simp [Event.outgoing, Event.payload, received] at outgoing
        | some datagram => rfl
      cases send : event.answers.send with
      | error =>
          simp [Event.attempts, Event.failing, Sendto.complete, outgoing,
            send, Settings.call]
      | accepts limit =>
          by_cases short : limit < payload.length
          · have cut : ¬ payload.length ≤ limit := by omega
            simp [Event.attempts, Event.failing, Sendto.complete, outgoing,
              send, Settings.call, short, cut]
          · have whole : payload.length ≤ limit := by omega
            simp [Event.attempts, Event.failing, Sendto.complete, outgoing,
              send, Settings.call, received, short, whole]

/-! ## One event of the machine -/

/-- The characters of the standard input that an event takes. -/
def Event.taken (settings : Settings) (event : Event) (room : Nat) : Nat :=
  (event.calls settings room).countP (·.sentBytes = none)

namespace Relay

/-- The state after an event that returns. -/
def after (settings : Settings) (event : Event) (relay : Relay) : Relay :=
  { relay.advance settings event with
    stdin :=
      relay.stdin.drop (event.taken settings (relay.room event.side)) }

variable {settings : Settings} {event : Event} {relay next : Relay}

/-- An event returns exactly if its source is known and the read after a
failed call does not wait. -/
theorem step_eq_ok_iff :
    step settings event relay = .ok () next ↔
      (event.fate (relay.room event.side) ≠ .fault ∧
          relay.stdin.Serves
            (event.taken settings (relay.room event.side))) ∧
        relay.after settings event = next := by
  simp only [step, after, advance, Event.left, Event.taken, Event.calls]
  cases fate : event.fate (relay.room event.side) with
  | idle => simp
  | fault => simp
  | discard left => simp [withRoom]
  | pass left payload =>
      simp only [transmit, withRoom]
      cases sent :
          (settings.call event.side payload
            event.answers.send).sentBytes with
      | some count => simp [sent]
      | none =>
          cases input : relay.stdin.next with
          | none =>
              have waits := Stdin.next_eq_none_iff.mp input
              simp [sent, waits]
          | some rest =>
              obtain ⟨serves, rfl⟩ := Stdin.of_next input
              simp [sent, serves]

end Relay

/-- What an event takes, once its datagram is known. -/
theorem taken_eq
    (settings : Settings) {event : Event} {room : Nat}
    (known : event.fate room ≠ .fault) :
    event.taken settings room = if event.sendFails then 1 else 0 := by
  rw [Event.taken, calls_eq_attempts settings known]
  cases outgoing : event.outgoing with
  | none => simp [Event.attempts, Event.sendFails, outgoing]
  | some payload =>
      cases send : event.answers.send <;>
        simp [Event.attempts, Event.sendFails, outgoing, send,
          Settings.call]

/-! ## Runs of the machine -/

/-- The rooms after some events. -/
def roomsLeft : (Side → Nat) → List Event → Side → Nat
  | room, [] => room
  | room, event :: rest =>
      roomsLeft
        (Function.update room event.side
          (event.left (room event.side)))
        rest

/-- The state of the machine after a run that returns. -/
def Relay.afterAll
    (settings : Settings) (events : List Event) (relay : Relay) : Relay where
  room := roomsLeft relay.room events
  sent := relay.sent ++ events.flatMap (Event.attempts settings)
  stdin := relay.stdin.drop (events.countP Event.sendFails)

theorem runAll_eq_ok_iff
    {settings : Settings} {events : List Event} {relay last : Relay} :
    runAll (Relay.step settings) events relay = .ok () last ↔
      (PktinfoStored relay.room events ∧
          relay.stdin.Serves (events.countP Event.sendFails)) ∧
        relay.afterAll settings events = last := by
  induction events generalizing relay with
  | nil =>
      rw [runAll_nil]
      simp [PktinfoStored, Relay.afterAll, roomsLeft]
  | cons event rest inductionHypothesis =>
      have first :
          runAll (Relay.step settings) (event :: rest) relay =
              .ok () last ↔
            (event.fate (relay.room event.side) ≠ .fault ∧
                relay.stdin.Serves
                  (event.taken settings (relay.room event.side))) ∧
              runAll (Relay.step settings) rest
                (relay.after settings event) = .ok () last := by
        constructor
        · intro returned
          rcases runAll_cons_eq_ok returned with ⟨next, stepped, remaining⟩
          rcases Relay.step_eq_ok_iff.mp stepped with ⟨returns, rfl⟩
          exact ⟨returns, remaining⟩
        · intro both
          rcases both with ⟨returns, remaining⟩
          rw [runAll_cons_ok (Relay.step_eq_ok_iff.mpr ⟨returns, rfl⟩)]
          exact remaining
      rw [first, inductionHypothesis, PktinfoStored, List.countP_cons]
      by_cases known : event.fate (relay.room event.side) ≠ .fault
      · have calls := calls_eq_attempts settings known
        have taken := taken_eq settings known
        have state :
            (relay.after settings event).afterAll settings rest =
              relay.afterAll settings (event :: rest) := by
          simp only [Relay.afterAll, Relay.after, Relay.advance, calls,
            taken, roomsLeft, List.flatMap_cons, List.append_assoc,
            Stdin.drop_drop, List.countP_cons, Nat.add_comm]
        have room :
            (relay.after settings event).room =
              Function.update relay.room event.side
                (event.left (relay.room event.side)) :=
          rfl
        have stdin :
            (relay.after settings event).stdin =
              relay.stdin.drop
                (event.taken settings (relay.room event.side)) :=
          rfl
        rw [state, room, stdin, taken,
          Nat.add_comm (rest.countP Event.sendFails),
          Stdin.serves_add_iff]
        tauto
      · simp [known]

private theorem filter_complete_flatMap (events : List Event) :
    (events.flatMap (Event.attempts settings)).filter Sendto.complete =
      (events.filter (!·.failing)).flatMap (Event.attempts settings) := by
  induction events with
  | nil => rfl
  | cons event rest inductionHypothesis =>
      rw [List.flatMap_cons, List.filter_append, inductionHypothesis,
        filter_complete_attempts]
      cases failing : event.failing <;> simp [failing]

/-! ## Runs of the process -/

/-- The run on the events returns, without touching the standard input and
without a negative length; the datagrams it sends completely are those of
the run without the events that fail. -/
def UnaffectedByFailures
    (platform : Platform) (events : List Event) (world : World) : Prop :=
  ∃ last filtered,
    evLoop platform events world = .ok () last ∧
      evLoop platform (events.filter (!·.failing)) world =
        .ok () filtered ∧
      last.stdin = world.stdin ∧
      (∀ call ∈ last.sent, 0 ≤ call.len) ∧
      last.sent.filter Sendto.complete = filtered.sent

variable {platform : Platform} {opts : List Opt} {stdin : Stdin}
  {chars : List UInt8} {world : World}

/-- Enough packet information and standard input let a run return. -/
theorem Started.exists_last
    (started : Started platform opts stdin settings world)
    {events : List Event}
    (onStarted : ∀ event ∈ events, event.watcher ∈ world.started)
    (stored : PktinfoStored (fun _ => controlBufferLen) events)
    (enough : stdin.Serves (events.countP Event.sendFails)) :
    ∃ last, evLoop platform events world = .ok () last := by
  have agrees := started.agrees onStarted
  have modelRun :
      runAll (Relay.step settings) events (Relay.initial stdin) =
        .ok () ((Relay.initial stdin).afterAll settings events) :=
    runAll_eq_ok_iff.mpr ⟨⟨stored, enough⟩, rfl⟩
  rw [modelRun] at agrees
  rcases agrees.returns with ⟨last, run, -⟩
  exact ⟨last, run⟩

/-- What holds of a run of the relay that returned. -/
theorem Started.of_returned
    (started : Started platform opts stdin settings world)
    {events : List Event}
    (onStarted : ∀ event ∈ events, event.watcher ∈ world.started)
    {last : World} (run : evLoop platform events world = .ok () last) :
    (PktinfoStored (fun _ => controlBufferLen) events ∧
        stdin.Serves (events.countP Event.sendFails)) ∧
      Implements settings last
        ((Relay.initial stdin).afterAll settings events) := by
  have agrees := started.agrees onStarted
  rw [run] at agrees
  rcases agrees.modelReturns with ⟨model, modelRun, implements⟩
  rcases runAll_eq_ok_iff.mp modelRun with ⟨returns, rfl⟩
  exact ⟨returns, implements⟩

/-- An error from `sendto` takes a character of the standard input, or waits
for one if the input does not end. -/
private theorem sendFails_of_unaffected
    (started : Started platform opts ⟨chars, false⟩ settings world)
    (onStarted : ∀ event ∈ events, event.watcher ∈ world.started)
    (unaffected : UnaffectedByFailures platform events world) :
    ∀ event ∈ events, event.sendFails = false := by
  rcases unaffected with ⟨last, filtered, returned, -, input, -⟩
  obtain ⟨⟨-, serves⟩, implements⟩ :=
    started.of_returned onStarted returned
  have untouched :
      (⟨chars, false⟩ : Stdin).drop (events.countP Event.sendFails) =
        ⟨chars, false⟩ :=
    implements.stdin.symm.trans (input.trans started.implements.stdin)
  have none : events.countP Event.sendFails = 0 := by
    have available : events.countP Event.sendFails ≤ chars.length :=
      serves.resolve_left Bool.false_ne_true
    have lengths := congrArg (fun stdin => stdin.chars.length) untouched
    simp only [Stdin.drop, List.length_drop] at lengths
    omega
  intro event member
  simpa using List.countP_eq_zero.mp none event member

/-- Without errors from `sendto` a run returns, makes the calls of all its
events and leaves the standard input alone. -/
private theorem Started.exists_quiet
    (started : Started platform opts stdin settings world)
    (onStarted : ∀ event ∈ events, event.watcher ∈ world.started)
    (stored : PktinfoStored (fun _ => controlBufferLen) events)
    (sends : ∀ event ∈ events, event.sendFails = false) :
    ∃ last, evLoop platform events world = .ok () last ∧
      last.sent = events.flatMap (Event.attempts settings) ∧
      last.stdin = world.stdin := by
  have none : events.countP Event.sendFails = 0 :=
    List.countP_eq_zero.mpr fun event member => by
      simp [sends event member]
  have enough : stdin.Serves (events.countP Event.sendFails) := by
    rw [none]
    exact stdin.serves_zero
  obtain ⟨last, returned⟩ := started.exists_last onStarted stored enough
  have implements := (started.of_returned onStarted returned).2
  refine ⟨last, returned, implements.sent, ?_⟩
  rw [implements.stdin, started.implements.stdin, Relay.afterAll, none]
  rfl

/-- Failures have no effect on later datagrams exactly if none of them is an
error from `sendto`, for every content of a standard input that does not
end. -/
theorem unaffectedByFailures_iff
    (started : Started platform opts ⟨chars, false⟩ settings world)
    (onStarted : ∀ event ∈ events, event.watcher ∈ world.started)
    (stored : PktinfoStored (fun _ => controlBufferLen) events)
    (storedFiltered :
      PktinfoStored (fun _ => controlBufferLen)
        (events.filter (!·.failing))) :
    UnaffectedByFailures platform events world ↔
      ∀ event ∈ events, event.sendFails = false := by
  refine ⟨sendFails_of_unaffected started onStarted, ?_⟩
  intro sends
  have kept {event : Event} (member : event ∈ events.filter (!·.failing)) :
      event ∈ events :=
    (List.mem_filter.mp member).1
  obtain ⟨last, returned, sent, input⟩ :=
    started.exists_quiet onStarted stored sends
  obtain ⟨filtered, returnedFiltered, sentFiltered, -⟩ :=
    started.exists_quiet (fun event member => onStarted event (kept member))
      storedFiltered (fun event member => sends event (kept member))
  refine ⟨last, filtered, returned, returnedFiltered, input, ?_, ?_⟩
  · intro call member
    rw [sent] at member
    rcases List.mem_flatMap.mp member with ⟨event, -, attempt⟩
    obtain ⟨payload, -, rfl⟩ :=
      Option.map_eq_some_iff.mp (Option.mem_toList.mp attempt)
    exact Int.natCast_nonneg payload.length
  · rw [sent, sentFiltered]
    exact filter_complete_flatMap events

/-- Datagrams with packet information only are always stored with it. -/
theorem pktinfoStored_of_plain
    {room : Side → Nat} (enough : ∀ side, lenPktinfo ≤ room side)
    (plain : ∀ event ∈ events, ∀ datagram ∈ event.answers.received,
      datagram.IsPlain) :
    PktinfoStored room events := by
  induction events generalizing room with
  | nil => trivial
  | cons event rest inductionHypothesis =>
      obtain ⟨known, left⟩ :=
        fate_of_plain (plain event (by simp)) (enough event.side)
      refine ⟨known, inductionHypothesis ?_ ?_⟩
      · intro side
        by_cases same : side = event.side
        · subst same
          simpa using left
        · simpa [same] using enough side
      · exact fun later member => plain later (by simp [member])

/-- A failed receive, then a datagram from the application. -/
def interruptedEvents : List Event :=
  [⟨0, evRead, ⟨none, .error⟩⟩, plainEvent .app [65] 1]

theorem unaffectedByFailures_interruptedEvents :
    ∃ world, Started workingHost relayOptions .silent relaySettings world ∧
      UnaffectedByFailures workingHost interruptedEvents world := by
  obtain ⟨world, started⟩ :=
    exists_started_workingHost createConfiguration_relayOptions rfl rfl
      .silent
  have plain : ∀ event ∈ interruptedEvents,
      ∀ datagram ∈ event.answers.received, datagram.IsPlain := by
    intro event member datagram received
    rcases List.mem_cons.mp member with failed | sent
    · rw [failed] at received
      cases received
    · rw [List.mem_singleton.mp sent] at received
      cases received
      exact isPlain_plainDatagram _ _
  refine ⟨world, started, ?_⟩
  apply (unaffectedByFailures_iff started ?_ ?_ ?_).mpr
  · decide
  · rw [started.started_eq]
    decide
  · exact pktinfoStored_of_plain (lenPktinfo_le_initial .silent) plain
  · exact pktinfoStored_of_plain (lenPktinfo_le_initial .silent)
      fun event member => plain event (List.mem_filter.mp member).1

/-- A datagram from the application that the kernel refuses to send. -/
def refusedEvent : Event :=
  ⟨1, evRead, ⟨some (plainDatagram [65] 1), .error⟩⟩

/-- Without standard input, an error from `sendto` stops the relay. -/
theorem not_unaffectedByFailures_refusedEvent :
    ∃ world, Started workingHost relayOptions .silent relaySettings world ∧
      PktinfoStored (fun _ => controlBufferLen) [refusedEvent] ∧
      ¬ UnaffectedByFailures workingHost [refusedEvent] world := by
  obtain ⟨world, started⟩ :=
    exists_started_workingHost createConfiguration_relayOptions rfl rfl
      .silent
  refine ⟨world, started, ?_, fun unaffected => ?_⟩
  · apply pktinfoStored_of_plain (lenPktinfo_le_initial .silent)
    intro event member datagram received
    rw [List.mem_singleton.mp member] at received
    cases received
    exact isPlain_plainDatagram _ _
  · have none :=
      sendFails_of_unaffected started
        (by
          rw [started.started_eq]
          decide)
        unaffected refusedEvent (by simp)
    revert none
    decide

end UdpipBroadcaster
