import Mathlib.Data.Fintype.Card
import Mathlib.Data.List.Perm.Subperm
import Mathlib.Data.List.ProdSigma
import UdpipBroadcaster.BroadcastIntegrity

/-!
# The traffic of a network

What the relays put on the network in any run: whatever the configurations,
only beginnings of what other processes sent; and with a shared network port,
an amount that the applications bound.
-/

namespace UdpipBroadcaster

open Transitions

variable {ι : Type}

namespace Network

variable {nodes : ι → Node} {net last : Network ι} {common : UInt16}

/-! ## Contents -/

/-- What a call transmitted is the beginning of its buffer. -/
private theorem isPrefix_of_transmitted
    {call : Sendto} {payload : List UInt8}
    (transmitted : call.transmitted = some payload) :
    payload <+: call.buffer := by
  rcases Option.map_eq_some_iff.mp transmitted with ⟨count, -, rfl⟩
  exact List.take_prefix count call.buffer

/-- The datagram is a beginning of the one at the root of its chain, which
another process sent. -/
structure Inherits
    (net : Network ι) (index : Nat) (packet : Packet ι) : Prop where
  fits : packet.payload.length ≤ udpBufferLen
  earlier : packet.root < index
  inherited : ∃ source : Packet ι, net.air[packet.root]? = some source ∧
    source.sender = none ∧ packet.payload <+: source.payload

private theorem inherits_of_traced
    (traced : net.Traced nodes) (index : Nat) {packet : Packet ι}
    (sent : net.air[index]? = some packet)
    (relayed : packet.sender ≠ none) :
    net.Inherits index packet := by
  induction index using Nat.strong_induction_on generalizing packet with
  | _ index inductionHypothesis =>
      obtain ⟨receipt, -, before, source, side, answers⟩ :=
        traced.answers sent relayed
      have sentSource := answers.received.sent
      rcases answers.left with ⟨call, -, buffer, transmitted⟩
      have beginning := isPrefix_of_transmitted transmitted
      rw [buffer] at beginning
      have ofSource : packet.payload <+: source.payload :=
        beginning.trans (List.take_prefix _ _)
      have fits : packet.payload.length ≤ udpBufferLen :=
        beginning.length_le.trans (List.length_take_le _ _)
      by_cases external : source.sender = none
      · have root : packet.root = receipt.packet :=
          answers.root.trans (traced.submitted sentSource external).2
        rw [← root] at before sentSource
        exact ⟨fits, before, source, sentSource, external, ofSource⟩
      · have inherits :=
          inductionHypothesis receipt.packet before sentSource external
        rcases inherits.inherited with ⟨first, sentFirst, other, whole⟩
        rw [← answers.root] at sentFirst
        refine ⟨fits, ?_, first, sentFirst, other, ofSource.trans whole⟩
        rw [answers.root]
        exact Nat.lt_trans inherits.earlier before

/-- In every run of any relays, with any configurations, failures and short
sends, each datagram a relay sent has at most `UDP_BUFFER_LEN` bytes and is a
beginning of a datagram that another process sent before. -/
theorem inherits_of_run
    [DecidableEq ι] {labels : List (Label ι)}
    (initial : net.Initial nodes)
    (ran : run (step nodes) net labels = some last)
    {index : Nat} {packet : Packet ι}
    (sent : last.air[index]? = some packet)
    (relayed : packet.sender ≠ none) :
    last.Inherits index packet :=
  inherits_of_traced (traced_of_run initial ran).2 index sent relayed

theorem inherits_exchange :
    ∃ start last : Network Bool,
      start.Initial workingNodes ∧
        run (step workingNodes) start exchange = some last ∧
        ∃ packet, last.air[3]? = some packet ∧ last.Inherits 3 packet := by
  rcases exists_exchange with ⟨start, last, initial, ran, air, log⟩
  refine ⟨start, last, initial, ran, _, by rw [air]; rfl, ?_⟩
  exact inherits_of_run initial ran (by rw [air]; rfl) (by simp)

/-! ## Amounts -/

/-- The datagrams of other processes. -/
def submissions (net : Network ι) : Nat :=
  net.air.countP (·.sender = none)

/-- The receipts on the application sides. -/
def applicationReceipts (net : Network ι) : Nat :=
  net.log.countP (·.callback = some .cbBroadcastRecvfrom)

/-- The receipts on the network sides. -/
def networkReceipts (net : Network ι) : Nat :=
  net.log.countP (·.callback = some .cbForwardRecvfrom)

/-- The broadcasts of the relays. -/
def broadcasts (net : Network ι) : Nat :=
  net.air.countP (·.sender = some .cbBroadcastRecvfrom)

section Counting

variable (traced : net.Traced nodes)
include traced

/-- A datagram has a parent exactly if a relay sent it. -/
private theorem isSome_cause
    {packet : Packet ι} (member : packet ∈ net.air) :
    packet.cause.isSome = !decide (packet.sender = none) := by
  rcases List.mem_iff_getElem?.mp member with ⟨index, sent⟩
  by_cases external : packet.sender = none
  · have parent := (traced.submitted sent external).1
    simp [Packet.cause, parent, external]
  · obtain ⟨receipt, -, -, source, side, answers⟩ :=
      traced.answers sent external
    simp [Packet.cause, answers.parent, external]

/-- Apart from submissions there are no more datagrams than receipts. -/
private theorem length_air_le :
    net.air.length ≤ net.submissions + net.log.length := by
  have relayed :
      net.air.countP (fun packet => !decide (packet.sender = none)) ≤
        net.log.length := by
    calc
      _ = net.air.countP (fun packet => packet.cause.isSome) := by
        apply List.countP_congr
        intro packet member
        rw [isSome_cause traced member]
      _ = (net.air.filterMap Packet.cause).length :=
        List.length_filterMap_eq_countP.symm
      _ ≤ net.log.length := by
        rw [traced.causes, List.length_map]
        exact List.length_filter_le _ _
  have split :=
    List.length_eq_countP_add_countP
      (fun packet : Packet ι => decide (packet.sender = none))
      (l := net.air)
  simp only [submissions]
  simp only [decide_not, Bool.decide_eq_true] at split
  omega

/-- Every receipt is one of the two kinds. -/
private theorem length_log_eq :
    net.log.length = net.applicationReceipts + net.networkReceipts := by
  rw [List.length_eq_countP_add_countP
    (fun receipt : Receipt ι =>
      decide (receipt.callback = some .cbBroadcastRecvfrom))]
  congr 1
  apply List.countP_congr
  intro receipt logged
  rcases traced.received receipt logged with ⟨packet, side, received⟩
  rw [received.callback]
  cases side <;> simp [Side.callback]

/-- There are at most as many broadcasts as receipts from applications. -/
private theorem broadcasts_le :
    net.broadcasts ≤ net.applicationReceipts := by
  let broadcast (cause : Cause ι) : Bool :=
    cause.callback = some .cbBroadcastRecvfrom
  calc
    net.broadcasts ≤ (net.air.filterMap Packet.cause).countP broadcast := by
      rw [broadcasts, List.countP_filterMap]
      apply List.countP_mono_left
      intro packet member sender
      have relayed : packet.sender ≠ none := by
        intro external
        simp [external] at sender
      rcases List.mem_iff_getElem?.mp member with ⟨index, sent⟩
      obtain ⟨receipt, -, -, source, side, answers⟩ :=
        traced.answers sent relayed
      simpa [Packet.cause, answers.parent, broadcast] using sender
    _ = (net.log.filter Receipt.transmits).countP
          (broadcast ∘ Receipt.cause) := by
      rw [traced.causes, List.countP_map]
    _ ≤ net.applicationReceipts :=
      List.filter_sublist.countP_le

end Counting

/-- On the network sides each host receives each broadcast at most once. -/
private theorem networkReceipts_le
    [Fintype ι] [DecidableEq ι]
    (traced : net.Traced nodes) (orderly : net.Orderly nodes)
    (shares : SharesPort nodes common)
    (deliveredOnce :
      ((net.log.map Receipt.cause).filter fun cause =>
        cause.callback = some .cbForwardRecvfrom).Nodup) :
    net.networkReceipts ≤ net.broadcasts * Fintype.card ι := by
  let broadcast (packet : Packet ι) : Bool :=
    packet.sender = some .cbBroadcastRecvfrom
  let deliveries : List (Cause ι) :=
    (net.air.findIdxs broadcast ×ˢ Finset.univ.toList).map
      fun (delivery : Nat × ι) =>
        ⟨delivery.1, delivery.2, some .cbForwardRecvfrom⟩
  have among :
      ((net.log.map Receipt.cause).filter fun cause =>
        cause.callback = some .cbForwardRecvfrom) ⊆ deliveries := by
    intro cause member
    rcases List.mem_filter.mp member with ⟨caused, forward⟩
    rcases List.mem_map.mp caused with ⟨receipt, logged, rfl⟩
    rcases traced.received receipt logged with ⟨packet, side, received⟩
    have sender : packet.sender = some .cbBroadcastRecvfrom := by
      rcases received.kind traced orderly shares with
        ⟨rfl, -, -⟩ | ⟨-, sender⟩
      · simp [Receipt.cause, received.callback, Side.callback] at forward
      · exact sender
    rcases List.getElem?_eq_some_iff.mp received.sent with ⟨bound, sent⟩
    refine List.mem_map.mpr ⟨(receipt.packet, receipt.host), ?_, ?_⟩
    · refine List.mem_product.mpr ⟨?_, by simp⟩
      rw [List.mem_findIdxs_iff_exists_getElem_pos]
      exact ⟨bound, by simpa [broadcast, sent] using sender⟩
    · have callback : receipt.callback = some .cbForwardRecvfrom :=
        of_decide_eq_true forward
      rw [Receipt.cause, callback]
  have bounded := (List.subperm_of_subset deliveredOnce among).length_le
  simp only [deliveries, List.length_map, List.length_product,
    List.length_findIdxs, Finset.length_toList, Finset.card_univ] at bounded
  simp only [networkReceipts, broadcasts]
  rw [← List.countP_eq_length_filter, List.countP_map] at bounded
  exact bounded

/-- In every run of relays that share their network port, with applications
that send to their own relay and broadcasts that reach each host's network
socket at most once, what the applications handed to the relays bounds all
that happens: every such receipt causes at most one broadcast, and each
broadcast at most one forward a host. -/
theorem traffic_le_of_run
    [Fintype ι] [DecidableEq ι] {labels : List (Label ι)}
    (initial : net.Initial nodes) (shares : SharesPort nodes common)
    (orderly : ∀ label ∈ labels, label.Orderly nodes)
    (ran : run (step nodes) net labels = some last)
    (deliveredOnce :
      ((last.log.map Receipt.cause).filter fun cause =>
        cause.callback = some .cbForwardRecvfrom).Nodup) :
    last.log.length ≤
        last.applicationReceipts * (1 + Fintype.card ι) ∧
      last.air.length ≤
        last.submissions +
          last.applicationReceipts * (1 + Fintype.card ι) := by
  have traced := (traced_of_run initial ran).2
  have ordered := orderly_of_run initial orderly ran
  have receipts : last.log.length ≤
      last.applicationReceipts * (1 + Fintype.card ι) := by
    calc
      last.log.length
          = last.applicationReceipts + last.networkReceipts :=
        length_log_eq traced
      _ ≤ last.applicationReceipts + last.broadcasts * Fintype.card ι :=
        Nat.add_le_add_left
          (networkReceipts_le traced ordered shares deliveredOnce) _
      _ ≤ last.applicationReceipts +
            last.applicationReceipts * Fintype.card ι :=
        Nat.add_le_add_left
          (Nat.mul_le_mul_right _ (broadcasts_le traced)) _
      _ = last.applicationReceipts * (1 + Fintype.card ι) := by ring
  exact ⟨receipts,
    (length_air_le traced).trans (Nat.add_le_add_left receipts _)⟩

theorem traffic_le_exchange :
    ∃ start last : Network Bool,
      start.Initial workingNodes ∧
        run (step workingNodes) start exchange = some last ∧
        last.log.length ≤
          last.applicationReceipts * (1 + Fintype.card Bool) := by
  rcases exists_exchange with ⟨start, last, initial, ran, air, log⟩
  refine ⟨start, last, initial, ran, ?_⟩
  refine (traffic_le_of_run initial sharesPort_workingNodes ?_ ran ?_).1
  · intro label member
    simp only [exchange, List.mem_cons, List.not_mem_nil, or_false]
      at member
    rcases member with rfl | rfl | rfl | rfl
    · exact .inl ⟨rfl, by decide, by decide, by decide⟩
    · trivial
    · trivial
    · trivial
  · rw [log]
    decide

end Network

end UdpipBroadcaster
