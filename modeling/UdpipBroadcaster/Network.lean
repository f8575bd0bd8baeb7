import UdpipBroadcaster.Library.Transitions
import UdpipBroadcaster.RelayFidelity
import UdpipBroadcaster.StartupFailures
import UdpipBroadcaster.WatcherInvariant

/-!
# A network of relays

Nodes that each run the program in relay mode, the applications on them and
the network between them.  A datagram that was sent stays available: the
network may deliver it in any order, to several nodes, more than once or not
at all.  What is delivered has packet information, which the kernel only
gives to sockets that have it enabled.
-/

namespace UdpipBroadcaster

open Programs Transitions

/-! ## Nodes and datagrams -/

/-- A host with its relay.  `isLocal` tells the addresses that the host
takes for itself. -/
structure Node where
  platform : Platform
  opts : List Opt
  stdin : Stdin
  settings : Settings
  isLocal : UInt32 → Bool

namespace Node

/-- The IPv4 addresses of the interface the relay uses. -/
def addresses (node : Node) : List UInt32 :=
  node.platform.ifaddrs.filterMap fun ifa =>
    ifa.ifaAddr.bind fun addr =>
      if ifa.ifaName = node.settings.cfg.ifName.text ∧
          addr.sinFamily = afInet then
        some addr.sAddr
      else none

/-- The port the receiver of a side is bound to. -/
def port (node : Node) : Side → UInt16
  | .net => receiverPort node.platform 0 node.settings.cfg.rxPort
  | .app => receiverPort node.platform 2 node.settings.cfg.appRxPort

/-- The port the payloads received on a side go to. -/
def targetPort (node : Node) : Side → UInt16
  | .net => toUInt16 node.settings.cfg.appTxPort
  | .app => toUInt16 node.settings.cfg.txPort

/-- Packet information is enabled, as start-up leaves it, on the socket on
which a side receives. -/
def suppliesPktinfo (node : Node) (side : Side) : Bool :=
  (startedWorld node.platform node.settings node.stdin).suppliesPktinfo
    side.watcher

theorem port_destination (node : Node) (side : Side) :
    (node.settings.destination side).port = node.targetPort side := by
  cases side with
  | net => exact ntohs_htons _
  | app => exact ntohs_htons _

end Node

/-- The relays broadcast to the port on which they receive from the network,
and the two ports of each application are other ones. -/
structure SharesPort
    {ι : Type} (nodes : ι → Node) (common : UInt16) : Prop where
  network : ∀ host, (nodes host).port .net = common
  broadcast : ∀ host, (nodes host).targetPort .app = common
  application : ∀ host,
    (nodes host).port .app ≠ common ∧
      (nodes host).targetPort .net ≠ common ∧
      (nodes host).port .app ≠ (nodes host).targetPort .net

/-- The callback of a watcher. -/
def World.callback (world : World) (watcher : Nat) : Option EvCb :=
  (world.args[watcher]?).bind EvIoArg.cbSpecfic

variable {ι : Type} [DecidableEq ι]

/-- A datagram that was sent: by which callback of which host, or by another
process there; on the receipt of which earlier datagram; and the first
datagram of that chain. -/
structure Packet (ι : Type) where
  host : ι
  sender : Option EvCb
  parent : Option Nat
  root : Nat
  payload : List UInt8
  dest : SockaddrIn

/-- A broadcast reaches every host, any other datagram its own host if the
destination is local there. -/
def Packet.Reaches
    (nodes : ι → Node) (packet : Packet ι) (host : ι) : Prop :=
  packet.dest.sAddr = htonl inaddrBroadcast ∨
    packet.host = host ∧ (nodes host).isLocal packet.dest.sAddr = true

/-- The receipt of a datagram by a callback of a host, with the calls of
`sendto` made for it. -/
structure Receipt (ι : Type) where
  packet : Nat
  host : ι
  callback : Option EvCb
  calls : List Sendto

/-- The datagrams that left with the calls. -/
def Receipt.packets (receipt : Receipt ι) (root : Nat) :
    List (Packet ι) :=
  receipt.calls.filterMap fun call =>
    match call.transmitted, call.destAddr with
    | some payload, some dest =>
        some
          { host := receipt.host
            sender := receipt.callback
            parent := some receipt.packet
            root := root
            payload := payload
            dest := dest }
    | _, _ => none

/-! ## The network and its steps -/

/-- The processes, which of them have stopped, all datagrams sent and all
receipts so far. -/
structure Network (ι : Type) where
  process : ι → World
  stopped : ι → Bool
  air : List (Packet ι)
  log : List (Receipt ι)

/-- A step: another process sends a datagram; a datagram is received on a
watcher, with its source and control area, and `sendto` answers; or an event
is reported without a datagram. -/
inductive Label (ι : Type) where
  | submit (host : ι) (payload : List UInt8) (dest : SockaddrIn)
  | receive (index : Nat) (host : ι) (watcher : Nat) (source : SockaddrIn)
      (control : Nat → List UInt8) (send : SendAnswer)
  | fail (host : ι) (event : Event)

/-- The event of a receipt. -/
def receiveEvent
    (payload : List UInt8) (watcher : Nat) (source : SockaddrIn)
    (control : Nat → List UInt8) (send : SendAnswer) : Event :=
  ⟨watcher, evRead, ⟨some ⟨payload, source, control⟩, send⟩⟩

namespace Network

/-- The kernel can hand the datagram to the watcher: its socket is bound to
the destination port and has packet information enabled, the datagram
reaches the host, what a relay broadcast comes from an address of that
relay's interface, and the packet information fits in the room the header
offers. -/
def CanReceive
    (nodes : ι → Node) (net : Network ι) (packet : Packet ι) (host : ι)
    (watcher : Nat) (source : SockaddrIn) (control : Nat → List UInt8) :
    Prop :=
  net.stopped host = false ∧
    watcher ∈ (net.process host).started ∧
    (net.process host).listens watcher = some packet.dest.port ∧
    packet.Reaches nodes host ∧
    (packet.sender = some .cbBroadcastRecvfrom →
      source.sAddr ∈ (nodes packet.host).addresses) ∧
    (net.process host).suppliesPktinfo watcher = true ∧
    HasPktinfo
      ((Datagram.mk packet.payload source control).storedControl
        ((net.process host).offered watcher))

instance
    (nodes : ι → Node) (net : Network ι) (packet : Packet ι) (host : ι)
    (watcher : Nat) (source : SockaddrIn) (control : Nat → List UInt8) :
    Decidable
      (net.CanReceive nodes packet host watcher source control) := by
  unfold CanReceive Packet.Reaches
  infer_instance

/-- The process of a host after an event. -/
def after
    (net : Network ι) (host : ι)
    (result : EStateM.Result Stop World Unit) : Network ι :=
  { net with
    process := Function.update net.process host (finalState result)
    stopped := Function.update net.stopped host
      (match result with
        | .ok _ _ => false
        | .error _ _ => true) }

def step (nodes : ι → Node) (net : Network ι) :
    Label ι → Option (Network ι)
  | .submit host payload dest =>
      some
        { net with
          air := net.air ++
            [⟨host, none, none, net.air.length, payload, dest⟩] }
  | .receive index host watcher source control send =>
      (net.air[index]?).bind fun packet =>
        if net.CanReceive nodes packet host watcher source control then
          let world := net.process host
          let result :=
            dispatch (nodes host).platform
              (receiveEvent packet.payload watcher source control send)
              world
          let receipt : Receipt ι :=
            { packet := index
              host := host
              callback := world.callback watcher
              calls := (finalState result).sent.drop world.sent.length }
          some
            { net.after host result with
              air := net.air ++ receipt.packets packet.root
              log := net.log ++ [receipt] }
        else none
  | .fail host event =>
      -- In relay mode no datagram leaves without one that was received.
      if net.stopped host = false ∧
          event.watcher ∈ (net.process host).started ∧
          (event.answers.received.isNone ∨
            evError &&& event.revents ≠ 0) then
        some
          (net.after host
            (dispatch (nodes host).platform event (net.process host)))
      else none

/-- All relays have just started, and nothing was sent. -/
structure Initial (nodes : ι → Node) (net : Network ι) : Prop where
  started : ∀ host,
    Started (nodes host).platform (nodes host).opts (nodes host).stdin
      (nodes host).settings (net.process host)
  running : ∀ host, net.stopped host = false
  air : net.air = []
  log : net.log = []

end Network

/-! ## The processes of a network -/

/-- The process runs the relay of its node. -/
structure Node.Runs (node : Node) (world : World) : Prop where
  implements : ∃ relay, Implements node.settings world relay
  started : world.started = [0, 1]
  listens : ∀ side : Side,
    world.listens side.watcher = some (node.port side)
  supplies : ∀ side : Side,
    world.suppliesPktinfo side.watcher = node.suppliesPktinfo side

theorem Started.runs
    {node : Node} {world : World}
    (started :
      Started node.platform node.opts node.stdin node.settings world) :
    node.Runs world where
  implements := ⟨_, started.implements⟩
  started := started.started_eq
  listens := by
    rcases started.eq_relayWorld with ⟨calls, netPktinfo, appPktinfo, rfl⟩
    intro side
    cases side <;> rfl
  supplies := by
    rcases started.returned with ⟨loop, returned⟩
    obtain ⟨-, -, rfl⟩ :=
      startedWorld_of_returned started.accepted returned
    exact fun _ => rfl

/-- A relay only starts with an address of its interface. -/
theorem Started.exists_address
    {node : Node} {world : World}
    (started :
      Started node.platform node.opts node.stdin node.settings world) :
    ∃ address, address ∈ node.addresses := by
  rcases started.hasInetEntry.found with
    ⟨ifa, listed, addr, sameName, isSome, family⟩
  refine ⟨addr.sAddr, List.mem_filterMap.mpr ⟨ifa, listed, ?_⟩⟩
  simp [isSome, sameName, family]

namespace Node.Runs

variable {node : Node} {world next : World} {event : Event}

theorem onRelay
    (runs : node.Runs world) (onWatcher : event.watcher ∈ world.started) :
    event.OnRelay := by
  rw [runs.started] at onWatcher
  exact onRelay_of_started onWatcher

theorem callback (runs : node.Runs world) (side : Side) :
    world.callback side.watcher = some side.callback := by
  rcases runs.implements with ⟨relay, implements⟩
  rcases implements.watchers side with ⟨arg, found, specific, -⟩
  rw [World.callback, found]
  exact specific

/-- An event that returns leaves the relay running. -/
theorem dispatch
    (runs : node.Runs world) (onWatcher : event.watcher ∈ world.started)
    (returned : dispatch node.platform event world = .ok () next) :
    node.Runs next where
  implements := by
    rcases runs.implements with ⟨relay, implements⟩
    have agrees :=
      dispatch_agrees node.platform (runs.onRelay onWatcher) implements
    rw [returned] at agrees
    rcases agrees.modelReturns with ⟨relayNext, -, implementsNext⟩
    exact ⟨relayNext, implementsNext⟩
  started := (dispatch_evolves returned).started.trans runs.started
  listens := by
    rcases runs.implements with ⟨relay, implements⟩
    intro side
    rcases implements.watchers side with ⟨arg, found, -⟩
    rw [(dispatch_evolves returned).listens found]
    exact runs.listens side
  supplies := by
    rcases runs.implements with ⟨relay, implements⟩
    intro side
    rcases implements.watchers side with ⟨arg, found, -⟩
    rw [(dispatch_evolves returned).suppliesPktinfo found]
    exact runs.supplies side

end Node.Runs

/-- The calls a relay makes for a datagram it received. -/
def Settings.reply
    (settings : Settings) (side : Side) (payload : List UInt8)
    (source : SockaddrIn) (send : SendAnswer) : List Sendto :=
  if side = .net ∧ source.sAddr = inaddrAny then []
  else [settings.call side (payload.take udpBufferLen) send]

theorem Node.Runs.calls_receiveEvent
    {node : Node} {world : World} (runs : node.Runs world) {side : Side}
    {payload : List UInt8} {source : SockaddrIn}
    {control : Nat → List UInt8}
    (pktinfo :
      HasPktinfo
        ((Datagram.mk payload source control).storedControl
          (world.offered side.watcher)))
    (send : SendAnswer) :
    (finalState
        (UdpipBroadcaster.dispatch node.platform
          (receiveEvent payload side.watcher source control send)
          world)).sent.drop world.sent.length =
      node.settings.reply side payload source send := by
  rcases runs.implements with ⟨relay, implements⟩
  have sameSide :
      (receiveEvent payload side.watcher source control send).side =
        side := by
    cases side <;> rfl
  have onRelay :
      (receiveEvent payload side.watcher source control send).OnRelay := by
    rw [Event.OnRelay, sameSide]
    rfl
  rw [implements.newCalls node.platform onRelay]
  have noError : evError &&& evRead = 0 := by decide
  rcases (receiveEvent payload side.watcher source control
      send).calls_received node.settings rfl
      (world.offered side.watcher) with
    ⟨passes, calls⟩ | ⟨stays, calls⟩
  · have foreign := passes.foreign
    rw [sameSide] at foreign
    rw [Settings.reply, if_neg foreign]
    rw [sameSide] at calls
    exact calls
  · have own : side = .net ∧ source.sAddr = inaddrAny := by
      by_contra foreign
      rw [← sameSide] at foreign
      exact stays ⟨noError, pktinfo, foreign⟩
    rw [Settings.reply, if_pos own]
    exact calls

/-! ## What one step can do -/

namespace Network

/-- The processes that have not stopped run their relays. -/
def Runs (nodes : ι → Node) (net : Network ι) : Prop :=
  ∀ host, net.stopped host = false →
    (nodes host).Runs (net.process host)

/-- The receipt of a datagram on a side. -/
def receipt
    (nodes : ι → Node) (index : Nat) (host : ι) (side : Side)
    (payload : List UInt8) (source : SockaddrIn) (send : SendAnswer) :
    Receipt ι where
  packet := index
  host := host
  callback := some side.callback
  calls := (nodes host).settings.reply side payload source send

/-- The datagrams and receipts that a step adds. -/
inductive Moves (nodes : ι → Node) (net next : Network ι) :
    Label ι → Prop where
  | submit (host : ι) (payload : List UInt8) (dest : SockaddrIn)
      (air : next.air = net.air ++
        [⟨host, none, none, net.air.length, payload, dest⟩])
      (log : next.log = net.log) :
      Moves nodes net next (.submit host payload dest)
  | receive (index : Nat) (host : ι) (side : Side) (source : SockaddrIn)
      (control : Nat → List UInt8) (send : SendAnswer) (packet : Packet ι)
      (sent : net.air[index]? = some packet)
      (addressed : packet.dest.port = (nodes host).port side)
      (reaches : packet.Reaches nodes host)
      (sourced : packet.sender = some .cbBroadcastRecvfrom →
        source.sAddr ∈ (nodes packet.host).addresses)
      (supplied : (nodes host).suppliesPktinfo side = true)
      (air : next.air = net.air ++
        (receipt nodes index host side packet.payload source
          send).packets packet.root)
      (log : next.log = net.log ++
        [receipt nodes index host side packet.payload source send]) :
      Moves nodes net next
        (.receive index host side.watcher source control send)
  | fail (host : ι) (event : Event)
      (air : next.air = net.air)
      (log : next.log = net.log) :
      Moves nodes net next (.fail host event)

variable {nodes : ι → Node} {net next : Network ι} {label : Label ι}

omit [DecidableEq ι] in
theorem Initial.runs (initial : net.Initial nodes) : net.Runs nodes :=
  fun host _ => (initial.started host).runs

/-- An event leaves the relays running, apart from one that stopped. -/
private theorem runs_after
    (runs : net.Runs nodes) {host : ι} (event : Event)
    (running : net.stopped host = false)
    (onWatcher : event.watcher ∈ (net.process host).started) :
    (net.after host
      (dispatch (nodes host).platform event (net.process host))).Runs
      nodes := by
  intro other otherRunning
  cases result :
      dispatch (nodes host).platform event (net.process host) with
  | ok value world =>
      by_cases same : other = host
      · subst same
        have here := (runs other running).dispatch onWatcher result
        simpa [after] using here
      · have there : net.stopped other = false := by
          simpa [after, result, same] using otherRunning
        simpa [after, same] using runs other there
  | error reason world =>
      by_cases same : other = host
      · subst same
        simp [after, result] at otherRunning
      · have there : net.stopped other = false := by
          simpa [after, result, same] using otherRunning
        simpa [after, same] using runs other there

/-- The receipt of a datagram on the watcher of a side. -/
private theorem step_receive
    {index : Nat} {host : ι} {side : Side} {source : SockaddrIn}
    {control : Nat → List UInt8} {packet : Packet ι}
    (runs : (nodes host).Runs (net.process host))
    (sent : net.air[index]? = some packet)
    (enabled :
      net.CanReceive nodes packet host side.watcher source control)
    (send : SendAnswer) :
    step nodes net
        (.receive index host side.watcher source control send) =
      some
        { net.after host
            (dispatch (nodes host).platform
              (receiveEvent packet.payload side.watcher source control
                send)
              (net.process host)) with
          air := net.air ++
            (receipt nodes index host side packet.payload source
              send).packets packet.root
          log := net.log ++
            [receipt nodes index host side packet.payload source
              send] } := by
  have calls :=
    runs.calls_receiveEvent enabled.2.2.2.2.2.2 send
  rw [step, sent, Option.bind_some, if_pos enabled]
  simp only [calls, runs.callback side]
  rfl

/-- Every step is one of the moves and leaves the relays running. -/
theorem moves_of_step
    (runs : net.Runs nodes) (stepped : step nodes net label = some next) :
    Moves nodes net next label ∧ next.Runs nodes := by
  cases label with
  | submit host payload dest =>
      cases stepped
      exact ⟨.submit host payload dest rfl rfl, runs⟩
  | receive index host watcher source control send =>
      rcases Option.bind_eq_some_iff.mp stepped with ⟨packet, sent, taken⟩
      split at taken
      · rename_i enabled
        have ⟨running, onWatcher, addressed, reaches, sourced, supplied,
          _⟩ := enabled
        have here := runs host running
        have eitherOne : watcher = 0 ∨ watcher = 1 := by
          rw [here.started] at onWatcher
          simpa using onWatcher
        obtain ⟨side, rfl⟩ : ∃ side : Side, side.watcher = watcher := by
          rcases eitherOne with net | app
          · exact ⟨.net, net.symm⟩
          · exact ⟨.app, app.symm⟩
        rw [step_receive here sent enabled send] at stepped
        cases stepped
        rw [here.listens side] at addressed
        rw [here.supplies side] at supplied
        refine ⟨.receive index host side source control send packet sent
          (Option.some.inj addressed).symm reaches sourced supplied rfl rfl,
          ?_⟩
        exact runs_after runs
          (receiveEvent packet.payload side.watcher source control send)
          running onWatcher
      · cases taken
  | fail host event =>
      simp only [step] at stepped
      split at stepped
      · rename_i enabled
        cases stepped
        exact ⟨.fail host event rfl rfl,
          runs_after runs event enabled.1 enabled.2.1⟩
      · cases stepped

end Network

/-! ## Datagrams that are delivered -/

/-- An event whose datagram has packet information leaves the relay running
and its rooms large enough, if the kernel accepts what is sent. -/
theorem Node.Runs.dispatch_plain
    {node : Node} {world : World} (runs : node.Runs world)
    (enough : ∀ side : Side, lenPktinfo ≤ world.offered side.watcher)
    (event : Event) (onWatcher : event.watcher ∈ world.started)
    (plain : ∀ datagram ∈ event.answers.received, datagram.IsPlain)
    (accepts : event.answers.send ≠ .error) :
    ∃ next,
      UdpipBroadcaster.dispatch node.platform event world = .ok () next ∧
        node.Runs next ∧
        ∀ side : Side, lenPktinfo ≤ next.offered side.watcher := by
  rcases runs.implements with ⟨relay, implements⟩
  have room (side : Side) : lenPktinfo ≤ relay.room side := by
    rw [← implements.offered side]
    exact enough side
  have ⟨known, left⟩ := fate_of_plain plain (room event.side)
  have accepted :
      ∀ call ∈ event.calls node.settings (relay.room event.side),
        call.sentBytes ≠ none := by
    intro call member
    rw [Event.calls] at member
    split at member
    · rw [List.mem_singleton.mp member]
      cases answer : event.answers.send with
      | error => exact (accepts answer).elim
      | accepts limit => simp [Settings.call]
    · cases member
  have agrees :=
    dispatch_agrees node.platform (runs.onRelay onWatcher) implements
  rw [Relay.step_eq_advance known accepted] at agrees
  rcases agrees.returns with ⟨next, returned, implementsNext⟩
  refine ⟨next, returned, runs.dispatch onWatcher returned, ?_⟩
  intro side
  rw [implementsNext.offered side]
  by_cases same : side = event.side
  · subst same
    simpa [Relay.advance] using left
  · simpa [Relay.advance, same] using room side

/-- The receipt of a datagram with its packet information, when the kernel
accepts all that is sent. -/
def Label.deliver
    (index : Nat) (host : ι) (side : Side) (source : UInt32) : Label ι :=
  .receive index host side.watcher ⟨afInet, 0, source⟩
    (fun space => storeRecords space [pktinfoRecord (CharArray.zero 12)])
    (.accepts udpBufferLen)

namespace Network

/-- What is recorded of such a receipt. -/
def delivered
    (nodes : ι → Node) (index : Nat) (host : ι) (side : Side)
    (payload : List UInt8) (source : UInt32) : Receipt ι :=
  receipt nodes index host side payload ⟨afInet, 0, source⟩
    (.accepts udpBufferLen)

/-- The datagram that answers another one whole. -/
def answer
    (nodes : ι → Node) (index : Nat) (host : ι) (side : Side)
    (packet : Packet ι) : Packet ι where
  host := host
  sender := some side.callback
  parent := some index
  root := packet.root
  payload := packet.payload.take udpBufferLen
  dest := (nodes host).settings.destination side

omit [DecidableEq ι] in
theorem packets_delivered
    {nodes : ι → Node} {side : Side} {source : UInt32}
    (foreign : side = .net → source ≠ inaddrAny) (index : Nat) (host : ι)
    (packet : Packet ι) :
    (delivered nodes index host side packet.payload source).packets
        packet.root =
      [answer nodes index host side packet] := by
  have whole :
      (packet.payload.take udpBufferLen).take
          (min udpBufferLen (packet.payload.take udpBufferLen).length) =
        packet.payload.take udpBufferLen :=
    List.take_of_length_le (by simp)
  have notOwn : ¬ (side = .net ∧ source = inaddrAny) :=
    fun own => foreign own.1 own.2
  simp only [delivered, receipt, Settings.reply, if_neg notOwn,
    Receipt.packets, Settings.call, Sendto.transmitted,
    List.filterMap_cons, List.filterMap_nil, Option.map_some, whole]
  rfl

/-- Every relay runs and has room for packet information. -/
def Ready (nodes : ι → Node) (net : Network ι) : Prop :=
  ∀ host, net.stopped host = false ∧
    (nodes host).Runs (net.process host) ∧
    ∀ side : Side, lenPktinfo ≤ (net.process host).offered side.watcher

variable {nodes : ι → Node} {net : Network ι}

omit [DecidableEq ι] in
theorem Initial.ready (initial : net.Initial nodes) : net.Ready nodes := by
  intro host
  refine ⟨initial.running host, initial.runs host (initial.running host),
    fun side => ?_⟩
  rw [(initial.started host).implements.offered side]
  exact lenPktinfo_le_initial _ side

theorem ready_submit
    (ready : net.Ready nodes) (host : ι) (payload : List UInt8)
    (dest : SockaddrIn) :
    ∃ next, step nodes net (.submit host payload dest) = some next ∧
      next.Ready nodes ∧
      next.air = net.air ++
        [⟨host, none, none, net.air.length, payload, dest⟩] ∧
      next.log = net.log :=
  ⟨_, rfl, ready, rfl, rfl⟩

/-- What is addressed to a socket of a relay can be delivered to it if
packet information is enabled there, and the relay answers. -/
theorem ready_deliver
    (ready : net.Ready nodes) (index : Nat) (host : ι) (side : Side)
    (source : UInt32) {packet : Packet ι}
    (sent : net.air[index]? = some packet)
    (addressed : packet.dest.port = (nodes host).port side)
    (reaches : packet.Reaches nodes host)
    (sourced : packet.sender = some .cbBroadcastRecvfrom →
      source ∈ (nodes packet.host).addresses)
    (supplied : (nodes host).suppliesPktinfo side = true)
    (foreign : side = .net → source ≠ inaddrAny) :
    ∃ next,
      step nodes net (.deliver index host side source) = some next ∧
        next.Ready nodes ∧
        next.air = net.air ++ [answer nodes index host side packet] ∧
        next.log = net.log ++
          [delivered nodes index host side packet.payload source] := by
  rcases ready host with ⟨running, runs, enough⟩
  have onWatcher : side.watcher ∈ (net.process host).started := by
    rw [runs.started]
    cases side <;> decide
  have plain :
      (Datagram.mk packet.payload ⟨afInet, 0, source⟩
        fun space => storeRecords space
          [pktinfoRecord (CharArray.zero 12)]).IsPlain :=
    ⟨_, rfl⟩
  have stepped :=
    step_receive runs sent
      ⟨running, onWatcher, by rw [runs.listens side, addressed], reaches,
        sourced, (runs.supplies side).trans supplied,
        hasPktinfo_of_plain plain (enough side)⟩
      (.accepts udpBufferLen)
  rw [show receipt nodes index host side packet.payload _ _ =
    delivered nodes index host side packet.payload source from rfl,
    packets_delivered foreign] at stepped
  refine ⟨_, stepped, ?_, rfl, rfl⟩
  obtain ⟨world, returned, runsNext, enoughNext⟩ :=
    runs.dispatch_plain enough
      (receiveEvent packet.payload side.watcher ⟨afInet, 0, source⟩
        (fun space => storeRecords space
          [pktinfoRecord (CharArray.zero 12)])
        (.accepts udpBufferLen))
      onWatcher
      (by
        rintro _ ⟨⟩
        exact plain)
      (by simp [receiveEvent])
  intro other
  rw [returned]
  by_cases same : other = host
  · subst same
    simpa [after] using ⟨runsNext, enoughNext⟩
  · simpa [after, same] using ready other

/-! ## A small network -/

/-- Another working host, with `192.168.1.6` on `eth0`. -/
def otherHost : Platform :=
  { workingHost with
    ifaddrs :=
      [⟨interfaceText, some ⟨afInet, 0, quadAddress 192 168 1 6⟩⟩]
    getnameinfo := fun _ => some (dottedQuad 192 168 1 6) }

/-- Two hosts with the configuration of `relaySettings`. -/
def workingNodes (other : Bool) : Node where
  platform := if other then otherHost else workingHost
  opts := relayOptions
  stdin := .silent
  settings := relaySettings
  isLocal := fun address =>
    address = inaddrAny ∨ address = quadAddress 127 0 0 1

theorem sharesPort_workingNodes : SharesPort workingNodes 5000 where
  network := by decide
  broadcast := by decide
  application := by decide

theorem addresses_workingNodes (other : Bool) :
    (workingNodes other).addresses =
      [quadAddress 192 168 1 (if other then 6 else 5)] := by
  revert other
  decide

private theorem hasInetEntry_workingNodes (other : Bool) :
    HasInetEntry (workingNodes other).platform
      relaySettings.cfg.ifName.text := by
  cases other with
  | false => exact hasInetEntry_workingHost
  | true =>
      refine ⟨⟨_, List.mem_singleton.mpr rfl, _, by decide, rfl, rfl⟩, ?_⟩
      intro _ _ _ _
      simp [workingNodes, otherHost]

private theorem succeeds_workingNodes (other : Bool) :
    (workingNodes other).platform.Succeeds := by
  cases other with
  | false => exact succeeds_workingHost
  | true => exact ⟨succeeds_workingHost.calls, succeeds_workingHost.loop⟩

theorem started_workingNodes (other : Bool) :
    ∃ world,
      Started (workingNodes other).platform relayOptions .silent
        relaySettings world :=
  exists_started createConfiguration_relayOptions rfl
    (hasInetEntry_workingNodes other) (succeeds_workingNodes other) .silent

theorem suppliesPktinfo_workingNodes (other : Bool) (side : Side) :
    (workingNodes other).suppliesPktinfo side = true := by
  cases other <;> cases side <;> decide

omit [DecidableEq ι] in
/-- Relays that started make a network. -/
theorem exists_initial
    (nodes : ι → Node)
    (started : ∀ host, ∃ world,
      Started (nodes host).platform (nodes host).opts (nodes host).stdin
        (nodes host).settings world) :
    ∃ net : Network ι, net.Initial nodes := by
  choose process started using started
  exact ⟨⟨process, fun _ => false, [], []⟩, started, fun _ => rfl, rfl,
    rfl⟩

/-- The application of one host hands its relay a payload, the relay
broadcasts it, and both relays receive the broadcast. -/
def exchange : List (Label Bool) :=
  [.submit false [72, 105] ⟨afInet, htons 6001, quadAddress 127 0 0 1⟩,
    .deliver 0 false .app (quadAddress 127 0 0 1),
    .deliver 1 false .net (quadAddress 192 168 1 5),
    .deliver 1 true .net (quadAddress 192 168 1 5)]

theorem exists_exchange :
    ∃ start last : Network Bool,
      start.Initial workingNodes ∧
        run (step workingNodes) start exchange = some last ∧
        last.air =
          [⟨false, none, none, 0, [72, 105],
              ⟨afInet, htons 6001, quadAddress 127 0 0 1⟩⟩,
            ⟨false, some .cbBroadcastRecvfrom, some 0, 0, [72, 105],
              relaySettings.destination .app⟩,
            ⟨false, some .cbForwardRecvfrom, some 1, 0, [72, 105],
              relaySettings.destination .net⟩,
            ⟨true, some .cbForwardRecvfrom, some 1, 0, [72, 105],
              relaySettings.destination .net⟩] ∧
        last.log =
          [delivered workingNodes 0 false .app [72, 105]
              (quadAddress 127 0 0 1),
            delivered workingNodes 1 false .net [72, 105]
              (quadAddress 192 168 1 5),
            delivered workingNodes 1 true .net [72, 105]
              (quadAddress 192 168 1 5)] := by
  obtain ⟨start, initial⟩ := exists_initial workingNodes
    started_workingNodes
  obtain ⟨submitted, submit, ready, air, log⟩ :=
    ready_submit initial.ready false [72, 105]
      ⟨afInet, htons 6001, quadAddress 127 0 0 1⟩
  rw [initial.air] at air
  rw [initial.log] at log
  obtain ⟨broadcast, receive, readyBroadcast, airBroadcast,
      logBroadcast⟩ :=
    ready_deliver ready 0 false .app (quadAddress 127 0 0 1)
      (by rw [air]; rfl) (by decide) (.inr ⟨rfl, by decide⟩) (by simp)
      (suppliesPktinfo_workingNodes _ _) (by simp)
  rw [air] at airBroadcast
  rw [log] at logBroadcast
  obtain ⟨loopback, echo, readyLoopback, airLoopback, logLoopback⟩ :=
    ready_deliver readyBroadcast 1 false .net (quadAddress 192 168 1 5)
      (by rw [airBroadcast]; rfl) (by decide) (.inl (by rfl))
      (fun _ => by decide) (suppliesPktinfo_workingNodes _ _)
      (fun _ => by decide)
  rw [airBroadcast] at airLoopback
  rw [logBroadcast] at logLoopback
  obtain ⟨forwarded, forward, -, airForwarded, logForwarded⟩ :=
    ready_deliver readyLoopback 1 true .net (quadAddress 192 168 1 5)
      (by rw [airLoopback]; rfl) (by decide) (.inl (by rfl))
      (fun _ => by decide) (suppliesPktinfo_workingNodes _ _)
      (fun _ => by decide)
  refine ⟨start, forwarded, initial, ?_, ?_, ?_⟩
  · rw [exchange, run_cons submit, run_cons receive, run_cons echo,
      run_cons forward]
    rfl
  · rw [airForwarded, airLoopback]
    rfl
  · rw [logForwarded, logLoopback]
    rfl

end Network

end UdpipBroadcaster
