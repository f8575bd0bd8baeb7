import UdpipBroadcaster.Ancestry

/-!
# Own broadcasts

The network callback is meant to discard the relay's own broadcasts and
nothing else.  It compares the source with `0.0.0.0`, so that it forwards
what comes back, and never discards a broadcast of another relay.
-/

namespace UdpipBroadcaster

open Transitions

variable {ι : Type}

/-- A broadcast that was received from the network: no copy of a host's own
one leaves for its application, and no other one is discarded. -/
def Receipt.Filters (receipt : Receipt ι) (packet : Packet ι) : Prop :=
  receipt.callback = some .cbForwardRecvfrom →
    packet.sender = some .cbBroadcastRecvfrom →
      (packet.host = receipt.host → receipt.transmits = false) ∧
        (packet.host ≠ receipt.host → receipt.calls ≠ [])

namespace Network

/-- All relays have so far filtered the broadcasts they received. -/
def FiltersOwn (net : Network ι) : Prop :=
  ∀ receipt ∈ net.log, ∀ packet,
    net.air[receipt.packet]? = some packet → receipt.Filters packet

/-- A host receives its own broadcast from the network, and `sendto` does
not fail. -/
def Echo (net : Network ι) : Label ι → Prop
  | .receive index host watcher _ _ send =>
      watcher = Side.net.watcher ∧
        (∃ packet, net.air[index]? = some packet ∧ packet.host = host ∧
          packet.sender = some .cbBroadcastRecvfrom) ∧
        send ≠ .error
  | _ => False

variable {nodes : ι → Node} {net next last : Network ι}
  {label : Label ι}

/-! ## One step -/

/-- The interfaces have addresses other than `0.0.0.0`. -/
def HaveAddresses (nodes : ι → Node) : Prop :=
  ∀ host, ∀ address ∈ (nodes host).addresses, address ≠ inaddrAny

/-- Earlier receipts are judged as before. -/
private theorem filtersOwn_append
    (traced : net.Traced nodes) {packets : List (Packet ι)}
    {receipts : List (Receipt ι)} (air : next.air = net.air ++ packets)
    (log : next.log = net.log ++ receipts) :
    next.FiltersOwn ↔
      net.FiltersOwn ∧ ∀ receipt ∈ receipts, ∀ packet,
        next.air[receipt.packet]? = some packet →
          receipt.Filters packet := by
  have same (receipt : Receipt ι) (logged : receipt ∈ net.log) :
      next.air[receipt.packet]? = net.air[receipt.packet]? := by
    rcases traced.received receipt logged with ⟨packet, side, received⟩
    rw [sent_append air received.sent, received.sent]
  constructor
  · intro filters
    constructor
    · intro receipt logged packet sent
      apply filters receipt
      · rw [log]
        exact List.mem_append_left _ logged
      · rw [same receipt logged]
        exact sent
    · intro receipt new packet sent
      apply filters receipt
      · rw [log]
        exact List.mem_append_right _ new
      · exact sent
  · intro both receipt logged packet sent
    rcases both with ⟨earlier, new⟩
    rw [log] at logged
    rcases List.mem_append.mp logged with before | added
    · rw [same receipt before] at sent
      exact earlier receipt before packet sent
    · exact new receipt added packet sent

/-- On a broadcast with a proper source the relay always makes a call. -/
private theorem filters_receipt_net
    {index : Nat} {host : ι} {payload : List UInt8} {source : SockaddrIn}
    {send : SendAnswer} {packet : Packet ι}
    (foreign : packet.sender = some .cbBroadcastRecvfrom →
      source.sAddr ≠ inaddrAny) :
    (receipt nodes index host .net payload source send).Filters packet ↔
      ¬ ((packet.host = host ∧
          packet.sender = some .cbBroadcastRecvfrom) ∧
        send ≠ .error) := by
  by_cases broadcast : packet.sender = some .cbBroadcastRecvfrom
  · have calls :
        (nodes host).settings.reply .net payload source send =
          [(nodes host).settings.call .net (payload.take udpBufferLen)
            send] :=
      if_neg fun own => foreign broadcast own.2
    have transmits :
        (receipt nodes index host .net payload source send).transmits =
            false ↔ send = .error := by
      simp only [Receipt.transmits, receipt, calls]
      cases send with
      | error => simp [Settings.call, Sendto.transmitted]
      | accepts limit => simp [Settings.call, Sendto.transmitted]
    have callback :
        (receipt nodes index host .net payload source send).callback =
          some .cbForwardRecvfrom :=
      rfl
    have called :
        (receipt nodes index host .net payload source send).calls ≠ [] := by
      simp [receipt, calls]
    constructor
    · intro filters echo
      rcases echo with ⟨⟨own, -⟩, accepted⟩
      exact accepted (transmits.mp ((filters callback broadcast).1 own))
    · intro noEcho _ _
      refine ⟨fun own => transmits.mpr ?_, fun _ => called⟩
      by_contra accepted
      exact noEcho ⟨⟨own, broadcast⟩, accepted⟩
  · constructor
    · intro _ echo
      rcases echo with ⟨⟨-, sender⟩, -⟩
      exact broadcast sender
    · intro _ _ sender
      exact (broadcast sender).elim

/-- A step spoils the filter exactly if it is an echo. -/
private theorem filtersOwn_step
    (haveAddresses : HaveAddresses nodes) (traced : net.Traced nodes)
    (moves : Moves nodes net next label) :
    next.FiltersOwn ↔ net.FiltersOwn ∧ ¬ net.Echo label := by
  cases moves with
  | submit host payload dest air log =>
      have noReceipts : next.log = net.log ++ [] := by simp [log]
      simp [filtersOwn_append traced air noReceipts, Echo]
  | fail host event air log =>
      have noPackets : next.air = net.air ++ [] := by simp [air]
      have noReceipts : next.log = net.log ++ [] := by simp [log]
      simp [filtersOwn_append traced noPackets noReceipts, Echo]
  | receive index host side source control send packet sent addressed
      reaches sourced supplied air log =>
      have sentNext : next.air[index]? = some packet :=
        sent_append air sent
      have filters :
          (receipt nodes index host side packet.payload source
              send).Filters packet ↔
            ¬ net.Echo
              (.receive index host side.watcher source control send) := by
        cases side with
        | net =>
            rw [filters_receipt_net fun broadcast =>
              haveAddresses _ _ (sourced broadcast)]
            simp [Echo, sent]
        | app =>
            have notForward :
                (receipt nodes index host .app packet.payload source
                  send).callback ≠ some .cbForwardRecvfrom := by
              simp [receipt, Side.callback]
            have notNet : Side.app.watcher ≠ Side.net.watcher := by decide
            constructor
            · intro _ echo
              rcases echo with ⟨network, -⟩
              exact notNet network
            · intro _ forward
              exact (notForward forward).elim
      rw [filtersOwn_append traced air log]
      constructor
      · intro both
        rcases both with ⟨before, new⟩
        exact ⟨before, filters.mp
          (new _ (List.mem_singleton.mpr rfl) packet sentNext)⟩
      · intro both
        rcases both with ⟨before, noEcho⟩
        refine ⟨before, fun added member packetNow sentNow => ?_⟩
        obtain rfl := List.mem_singleton.mp member
        obtain rfl : packet = packetNow :=
          Option.some.inj (sentNext.symm.trans sentNow)
        exact filters.mpr noEcho

/-! ## Whole runs -/

/-- In every run from the start of the relays, the broadcasts were filtered
exactly if no host received one of its own from the network and answered
it. -/
theorem filtersOwn_iff
    [DecidableEq ι] (initial : net.Initial nodes)
    (haveAddresses : HaveAddresses nodes) {labels : List (Label ι)}
    (ran : run (step nodes) net labels = some last) :
    last.FiltersOwn ↔ ¬ Occurs (step nodes) Echo net labels := by
  have atStart : net.FiltersOwn := by
    intro receipt logged
    rw [initial.log] at logged
    cases logged
  have whole :
      last.FiltersOwn ↔
        net.FiltersOwn ∧ ¬ Occurs (step nodes) Echo net labels := by
    apply run_iff_not_occurs fun net : Network ι =>
      net.Runs nodes ∧ net.Traced nodes
    · intro before label after invariant stepped
      rcases invariant with ⟨runs, traced⟩
      rcases moves_of_step runs stepped with ⟨moves, runsAfter⟩
      exact ⟨runsAfter, moves.traced traced⟩
    · intro before label after invariant stepped
      rcases invariant with ⟨runs, traced⟩
      exact filtersOwn_step haveAddresses traced
        (moves_of_step runs stepped).1
    · exact ⟨initial.runs, initial.traced⟩
    · exact ran
  rw [whole]
  exact and_iff_right atStart

theorem haveAddresses_workingNodes :
    HaveAddresses workingNodes := by
  intro host address member
  rw [addresses_workingNodes, List.mem_singleton] at member
  rw [member]
  cases host <;> decide

theorem filtersOwn_exchange_iff :
    ∃ start last : Network Bool,
      start.Initial workingNodes ∧
        run (step workingNodes) start exchange = some last ∧
        (last.FiltersOwn ↔
          ¬ Occurs (step workingNodes) Echo start exchange) := by
  rcases exists_exchange with ⟨start, last, initial, ran, -⟩
  exact ⟨start, last, initial, ran,
    filtersOwn_iff initial haveAddresses_workingNodes ran⟩

/-- The relay forwards its own broadcast to its application. -/
theorem not_filtersOwn_exchange :
    SharesPort workingNodes 5000 ∧ HaveAddresses workingNodes ∧
      ∃ start last : Network Bool,
        start.Initial workingNodes ∧
          run (step workingNodes) start exchange = some last ∧
          ¬ last.FiltersOwn := by
  refine ⟨sharesPort_workingNodes, haveAddresses_workingNodes, ?_⟩
  rcases exists_exchange with ⟨start, last, initial, ran, air, log⟩
  refine ⟨start, last, initial, ran, fun filters => ?_⟩
  have filtered :=
    filters
      (delivered workingNodes 1 false .net [72, 105]
        (quadAddress 192 168 1 5))
      (by simp [log]) _ (by rw [air]; rfl) rfl rfl
  have silent := filtered.1 rfl
  revert silent
  decide

end Network

end UdpipBroadcaster
