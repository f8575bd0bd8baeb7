import UdpipBroadcaster.RelayFidelity

/-!
# Where datagrams for the application go

The address given with `-d` is parsed and kept twice, and then dropped:
`init_sockaddr_in` does not convert it, so that the relay forwards to
`0.0.0.0`.  The port is the one configured.
-/

namespace UdpipBroadcaster

open Programs

/-! ## The calls of a run -/

/-- Every call of a run passes a payload on to the destination of a side. -/
theorem mem_sent_finalState
    {settings : Settings} {stdin : Stdin} {events : List Event} :
    ∀ call ∈ (finalState (runAll (Relay.step settings) events
        (Relay.initial stdin))).sent,
      ∃ side payload answer,
        call = settings.call side payload answer := by
  let routed (relay : Relay) : Prop :=
    ∀ call ∈ relay.sent, ∃ side payload answer,
      call = settings.call side payload answer
  have preserved (event : Event) (before : Relay) (old : routed before) :
      routed (finalState (Relay.step settings event before)) := by
    intro call member
    rw [Relay.sent_finalState_step] at member
    rcases List.mem_append.mp member with earlier | new
    · exact old call earlier
    · simp only [Event.calls] at new
      split at new
      · exact ⟨_, _, _, List.mem_singleton.mp new⟩
      · cases new
  have run :
      routed (finalState (runAll (Relay.step settings) events
        (Relay.initial stdin))) := by
    apply runAll_finalState (fun _ kept => kept)
    · intro event _ before old
      have kept := preserved event before old
      cases result : Relay.step settings event before with
      | ok value after =>
          rw [result] at kept
          exact .inl ⟨after, rfl, kept⟩
      | error reason after =>
          rw [result] at kept
          exact .inr ⟨reason, after, rfl, kept⟩
    · intro call member
      cases member
  exact run

/-! ## The destination of forwarded datagrams -/

/-- In every run, every datagram that leaves on the forwarding socket of
`cb_forward_recvfrom` goes to this address and port. -/
def ForwardsTo
    (platform : Platform) (address : UInt32) (port : Int) (world : World) :
    Prop :=
  ∀ events : List Event,
    (∀ event ∈ events, event.watcher ∈ world.started) →
    ∀ net ∈ world.args, net.cbSpecfic = some .cbForwardRecvfrom →
    ∀ call ∈ (finalState (evLoop platform events world)).sent,
      call.socketFd = net.publicArg.forwardingSocketFd →
      call.transmitted ≠ none →
        ∃ dest, call.destAddr = some dest ∧ dest.sAddr = address ∧
          (dest.port.toNat : Int) = port

variable {platform : Platform} {opts : List Opt} {stdin : Stdin}
  {settings : Settings} {world : World}

/-- A run in which one datagram is forwarded. -/
private theorem forwards_plainEvent
    (started : Started platform opts stdin settings world) :
    settings.deliver .net [] ∈
      (finalState
        (evLoop platform [plainEvent .net [] 1] world)).sent := by
  have linux :
      ∀ event ∈ [plainEvent .net [] 1], event.LinuxReceive := by
    intro event member
    rw [List.mem_singleton.mp member]
    exact linuxReceive_plainEvent .net 1 (by decide)
  obtain ⟨last, run, sent, -⟩ :=
    runAll_linuxReceive settings linux (lenPktinfo_le_initial stdin)
  rw [started.sent_finalState, run, finalState_ok, sent]
  · simp [Settings.deliveries, Event.payload, plainEvent, Event.side,
      plainDatagram, Datagram.withRecords, Side.watcher, inaddrAny]
  · rw [started.started_eq]
    decide

/-- No other address than `0.0.0.0` is ever forwarded to. -/
private theorem eq_any_of_forwardsTo
    (started : Started platform opts stdin settings world)
    {address : UInt32} {port : Int}
    (forwards : ForwardsTo platform address port world) :
    address = inaddrAny := by
  rcases started.eq_relayWorld with ⟨calls, netPktinfo, appPktinfo, same⟩
  obtain ⟨dest, destAddr, forwarded, -⟩ :=
    forwards [plainEvent .net [] 1]
      (by
        rw [started.started_eq]
        decide)
      (netArg settings)
      (by simp [same, relayWorld])
      rfl _ (forwards_plainEvent started) rfl (by simp)
  rw [destAddr_deliver] at destAddr
  cases destAddr
  exact forwarded.symm

/-- The address and the port of the last `-d` are the destination exactly
if the address is `0.0.0.0`. -/
theorem forwardsTo_appaddr_iff
    {optarg : CString}
    (started : Started platform opts stdin settings world)
    (given : lastAppaddr opts = some optarg)
    (positive : 1 ≤ settings.cfg.appTxPort)
    (inRange : settings.cfg.appTxPort ≤ 65535) :
    settings.cfg.appInetAddr = inetAddr optarg ∧
      (ForwardsTo platform (inetAddr optarg) settings.cfg.appTxPort world ↔
        inetAddr optarg = inaddrAny) := by
  have kept := (appAddress_createConfiguration started.accepted).2
  rw [given] at kept
  refine ⟨kept, eq_any_of_forwardsTo started, ?_⟩
  intro any events onStarted net member forwarding call called onNet _
  rw [started.sent_finalState onStarted] at called
  rcases mem_sent_finalState call called with ⟨side, payload, answer, rfl⟩
  have netFd : net.publicArg.forwardingSocketFd = 1 := by
    rcases started.eq_relayWorld with ⟨calls, netPktinfo, appPktinfo, rfl⟩
    have eitherOne : net = netArg settings ∨ net = appArg settings := by
      simpa [relayWorld] using member
    rcases eitherOne with rfl | rfl
    · rfl
    · cases forwarding
  rw [netFd] at onNet
  have onNetSide : side = .net := by
    cases side with
    | net => rfl
    | app => cases onNet
  subst onNetSide
  refine ⟨_, rfl, any.symm, ?_⟩
  have port :
      (settings.destination .net).port =
        toUInt16 settings.cfg.appTxPort :=
    ntohs_htons _
  rw [port]
  exact toNat_toUInt16 positive inRange

/-- `relayOptions` with `-d 192.168.1.9` -/
def remoteOptions : List Opt :=
  relayOptions ++ [.appaddr (dottedQuad 192 168 1 9)]

/-- What `remoteOptions` configures. -/
def remoteSettings : Settings :=
  { relaySettings with
    cfg.appAddress := some (dottedQuad 192 168 1 9)
    cfg.appInetAddr := inetAddr (dottedQuad 192 168 1 9) }

theorem createConfiguration_remoteOptions :
    createConfiguration remoteOptions = .ok remoteSettings := by
  rfl

theorem forwardsTo_remoteOptions :
    ∃ world, Started workingHost remoteOptions .silent remoteSettings world ∧
      remoteSettings.cfg.appInetAddr =
          inetAddr (dottedQuad 192 168 1 9) ∧
        (ForwardsTo workingHost (inetAddr (dottedQuad 192 168 1 9)) 6000
            world ↔
          inetAddr (dottedQuad 192 168 1 9) = inaddrAny) := by
  obtain ⟨world, started⟩ :=
    exists_started_workingHost createConfiguration_remoteOptions rfl rfl
      .silent
  exact ⟨world, started,
    forwardsTo_appaddr_iff started rfl (by decide) (by decide)⟩

/-- With `-d 192.168.1.9` a forwarded datagram goes elsewhere. -/
theorem not_forwardsTo_remoteOptions :
    ∃ world, Started workingHost remoteOptions .silent remoteSettings world ∧
      ¬ ForwardsTo workingHost (quadAddress 192 168 1 9) 6000 world := by
  obtain ⟨world, started⟩ :=
    exists_started_workingHost createConfiguration_remoteOptions rfl rfl
      .silent
  refine ⟨world, started, fun forwards => ?_⟩
  have any := eq_any_of_forwardsTo started forwards
  revert any
  decide

end UdpipBroadcaster
