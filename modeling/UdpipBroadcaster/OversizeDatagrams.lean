import UdpipBroadcaster.RelayFidelity

/-!
# Datagrams longer than the buffer

`recvmsg` reports in `msg_flags` that it stored only the front of a
datagram.  Nobody looks at the flag, and the front is passed on.
-/

namespace UdpipBroadcaster

open Programs

/-- On this event the process sends nothing, or the whole payload. -/
def SendsWhole
    (platform : Platform) (event : Event) (before : World)
    (payload : List UInt8) : Prop :=
  ∀ call ∈ (finalState (dispatch platform event before)).sent.drop
      before.sent.length,
    ∀ sent ∈ call.transmitted, sent = payload

variable {platform : Platform} {opts : List Opt} {stdin : Stdin}
  {settings : Settings} {world before : World} {events : List Event}
  {event : Event} {datagram : Datagram}

/-- A call for the front of a longer payload does not send all of it. -/
private theorem transmitted_front_ne
    {payload : List UInt8} (oversize : udpBufferLen < payload.length)
    (side : Side) (limit : Nat) :
    ∀ sent ∈
      (settings.call side (payload.take udpBufferLen)
        (.accepts limit)).transmitted,
      sent ≠ payload := by
  rintro sent ⟨⟩ whole
  have lengths := congrArg List.length whole
  simp only [Settings.call, List.length_take] at lengths
  omega

/-- A datagram that does not fit the buffer is passed on in part whenever
the relay passes it on and the kernel accepts the call. -/
theorem sendsWhole_oversize_iff
    (started : Started platform opts stdin settings world)
    (onStarted : ∀ event ∈ events, event.watcher ∈ world.started)
    (returned : evLoop platform events world = .ok () before)
    (onWatcher : event.watcher ∈ world.started)
    (received : event.answers.received = some datagram)
    (oversize : udpBufferLen < datagram.payload.length) :
    SendsWhole platform event before datagram.payload ↔
      ¬ (event.Passes (before.offered event.watcher) datagram ∧
        event.answers.send ≠ .error) := by
  rw [SendsWhole, started.newCalls onStarted returned onWatcher]
  rcases event.calls_received settings received
      (before.offered event.watcher) with
    ⟨passes, calls⟩ | ⟨stays, calls⟩
  · rw [calls]
    cases send : event.answers.send with
    | error => simp [Settings.call, Sendto.transmitted]
    | accepts limit =>
        constructor
        · intro whole
          have sent := whole _ (List.mem_singleton.mpr rfl) _ rfl
          exact (transmitted_front_ne oversize event.side limit _ rfl
            sent).elim
        · intro refused
          exact (refused ⟨passes, by simp⟩).elim
  · rw [calls]
    simp [stays]

/-- A payload of one byte more than the buffer holds. -/
def oversizePayload : List UInt8 :=
  List.replicate (udpBufferLen + 1) 65

private theorem lt_length_oversizePayload :
    udpBufferLen < oversizePayload.length := by
  simp [oversizePayload]

/-- A relay that has received one datagram from its application. -/
private theorem exists_run_workingHost :
    ∃ world before,
      Started workingHost relayOptions .silent relaySettings world ∧
        (∀ event ∈ [plainEvent .app [65] 1],
          event.watcher ∈ world.started) ∧
        evLoop workingHost [plainEvent .app [65] 1] world = .ok () before ∧
        lenPktinfo ≤ before.offered Side.app.watcher := by
  obtain ⟨world, started⟩ :=
    exists_started_workingHost createConfiguration_relayOptions rfl rfl
      .silent
  have linux : ∀ event ∈ [plainEvent .app [65] 1], event.LinuxReceive := by
    intro event member
    rw [List.mem_singleton.mp member]
    exact linuxReceive_plainEvent .app 1 (by decide)
  obtain ⟨model, run, -, -, enough⟩ :=
    runAll_linuxReceive relaySettings linux (lenPktinfo_le_initial .silent)
  have onStarted :
      ∀ event ∈ [plainEvent .app [65] 1],
        event.watcher ∈ world.started := by
    rw [started.started_eq]
    decide
  have agrees := started.agrees onStarted
  rw [run] at agrees
  rcases agrees.returns with ⟨before, returned, implements⟩
  refine ⟨world, before, started, onStarted, returned, ?_⟩
  rw [implements.offered .app]
  exact enough .app

/-- The next event of that relay can be another one from its application. -/
private theorem onWatcher_oversizePayload
    {world : World}
    (started : Started workingHost relayOptions .silent relaySettings world) :
    (plainEvent .app oversizePayload 1).watcher ∈ world.started := by
  rw [started.started_eq]
  decide

theorem sendsWhole_oversizePayload_iff :
    ∃ world before,
      Started workingHost relayOptions .silent relaySettings world ∧
        evLoop workingHost [plainEvent .app [65] 1] world = .ok () before ∧
        (SendsWhole workingHost (plainEvent .app oversizePayload 1) before
            oversizePayload ↔
          ¬ ((plainEvent .app oversizePayload 1).Passes (before.offered 1)
              (plainDatagram oversizePayload 1) ∧
            (SendAnswer.accepts oversizePayload.length) ≠ .error)) := by
  obtain ⟨world, before, started, onStarted, returned, -⟩ :=
    exists_run_workingHost
  exact ⟨world, before, started, returned,
    sendsWhole_oversize_iff started onStarted returned
      (onWatcher_oversizePayload started) rfl lt_length_oversizePayload⟩

/-- The front of the longer payload leaves as if it were the message. -/
theorem not_sendsWhole_oversizePayload :
    ∃ world before,
      Started workingHost relayOptions .silent relaySettings world ∧
        evLoop workingHost [plainEvent .app [65] 1] world = .ok () before ∧
        ¬ SendsWhole workingHost (plainEvent .app oversizePayload 1) before
          oversizePayload := by
  obtain ⟨world, before, started, onStarted, returned, enough⟩ :=
    exists_run_workingHost
  have onWatcher := onWatcher_oversizePayload started
  refine ⟨world, before, started, returned, fun whole => ?_⟩
  rw [SendsWhole, started.newCalls onStarted returned onWatcher] at whole
  rcases (plainEvent .app oversizePayload 1).calls_received relaySettings
      rfl (before.offered _) with
    ⟨-, calls⟩ | ⟨stays, -⟩
  · rw [calls] at whole
    have sent := whole _ (List.mem_singleton.mpr rfl) _ rfl
    exact transmitted_front_ne lt_length_oversizePayload _ _ _ rfl sent
  · exact stays (passes_plainEvent (by decide) enough)

end UdpipBroadcaster
