import UdpipBroadcaster.Network

/-!
# Where the datagrams of a network come from

Every datagram is one that another process sent, or the answer of a relay to
one receipt of an earlier datagram.  The module states this as an invariant
of the network and derives what a receipt and its answer have in common.
-/

namespace UdpipBroadcaster

open Transitions

variable {ι : Type}

/-! ## Causes -/

/-- What a relay answered: a datagram, received by a callback of a host. -/
structure Cause (ι : Type) where
  packet : Nat
  host : ι
  callback : Option EvCb
  deriving DecidableEq

def Receipt.cause (receipt : Receipt ι) : Cause ι :=
  ⟨receipt.packet, receipt.host, receipt.callback⟩

def Packet.cause (packet : Packet ι) : Option (Cause ι) :=
  packet.parent.map fun parent => ⟨parent, packet.host, packet.sender⟩

/-- A datagram left on the receipt. -/
def Receipt.transmits (receipt : Receipt ι) : Bool :=
  receipt.calls.any fun call => call.transmitted.isSome

theorem Receipt.mem_packets
    {receipt : Receipt ι} {root : Nat} {packet : Packet ι} :
    packet ∈ receipt.packets root ↔
      ∃ call ∈ receipt.calls, ∃ payload dest,
        call.transmitted = some payload ∧ call.destAddr = some dest ∧
          packet =
            ⟨receipt.host, receipt.callback, some receipt.packet, root,
              payload, dest⟩ := by
  simp only [packets, List.mem_filterMap]
  constructor
  · intro sent
    rcases sent with ⟨call, member, left⟩
    cases transmitted : call.transmitted with
    | none => simp [transmitted] at left
    | some payload =>
        cases address : call.destAddr with
        | none => simp [transmitted, address] at left
        | some dest =>
            refine ⟨call, member, payload, dest, transmitted, address, ?_⟩
            simpa [transmitted, address] using left.symm
  · intro sent
    rcases sent with ⟨call, member, payload, dest, transmitted, address, rfl⟩
    exact ⟨call, member, by simp [transmitted, address]⟩

/-! ## The invariant -/

namespace Network

/-- The receipt is one of this datagram on this side. -/
structure Received
    (nodes : ι → Node) (net : Network ι) (receipt : Receipt ι)
    (packet : Packet ι) (side : Side) : Prop where
  sent : net.air[receipt.packet]? = some packet
  callback : receipt.callback = some side.callback
  addressed : packet.dest.port = (nodes receipt.host).port side
  reaches : packet.Reaches nodes receipt.host
  supplied : (nodes receipt.host).suppliesPktinfo side = true
  replies : ∃ (source : SockaddrIn) (send : SendAnswer),
    (packet.sender = some .cbBroadcastRecvfrom →
      source.sAddr ∈ (nodes packet.host).addresses) ∧
    receipt.calls =
      (nodes receipt.host).settings.reply side packet.payload source send

/-- Another process sent the datagram, or a relay answered with it. -/
def Originates
    (net : Network ι) (index : Nat) (packet : Packet ι) : Prop :=
  (packet.sender = none ∧ packet.parent = none ∧ packet.root = index) ∨
    ∃ receipt ∈ net.log, receipt.packet < index ∧ ∃ source,
      net.air[receipt.packet]? = some source ∧
        packet ∈ receipt.packets source.root

structure Traced (nodes : ι → Node) (net : Network ι) : Prop where
  received : ∀ receipt ∈ net.log, ∃ packet side,
    net.Received nodes receipt packet side
  originates : ∀ index packet, net.air[index]? = some packet →
    net.Originates index packet
  causes : net.air.filterMap Packet.cause =
    (net.log.filter Receipt.transmits).map Receipt.cause

variable {nodes : ι → Node} {net next : Network ι}

theorem Initial.traced (initial : net.Initial nodes) :
    net.Traced nodes where
  received := by simp [initial.log]
  originates := by simp [initial.air]
  causes := by simp [initial.air, initial.log]

section Growth

variable {packets : List (Packet ι)} {receipts : List (Receipt ι)}
  (air : next.air = net.air ++ packets)
  (log : next.log = net.log ++ receipts)
include air

/-- A datagram that was sent stays where it is. -/
theorem sent_append
    {index : Nat} {packet : Packet ι}
    (sent : net.air[index]? = some packet) :
    next.air[index]? = some packet := by
  have inRange : index < net.air.length :=
    (List.getElem?_eq_some_iff.mp sent).choose
  rw [air, List.getElem?_append_left inRange]
  exact sent

private theorem Received.mono
    {receipt : Receipt ι} {packet : Packet ι} {side : Side}
    (received : net.Received nodes receipt packet side) :
    next.Received nodes receipt packet side :=
  { received with sent := sent_append air received.sent }

include log

private theorem Originates.mono
    {index : Nat} {packet : Packet ι}
    (originates : net.Originates index packet) :
    next.Originates index packet := by
  rcases originates with
    submitted | ⟨receipt, logged, earlier, source, sent, left⟩
  · exact .inl submitted
  · refine .inr
      ⟨receipt, ?_, earlier, source, sent_append air sent, left⟩
    rw [log]
    exact List.mem_append_left _ logged

/-- What was added decides whether the invariant still holds. -/
private theorem Traced.append
    (traced : net.Traced nodes)
    (received : ∀ receipt ∈ receipts, ∃ packet side,
      next.Received nodes receipt packet side)
    (originates : ∀ offset packet, packets[offset]? = some packet →
      next.Originates (net.air.length + offset) packet)
    (causes : packets.filterMap Packet.cause =
      (receipts.filter Receipt.transmits).map Receipt.cause) :
    next.Traced nodes where
  received := by
    intro receipt logged
    rw [log] at logged
    rcases List.mem_append.mp logged with earlier | new
    · rcases traced.received receipt earlier with ⟨packet, side, there⟩
      exact ⟨packet, side, there.mono air⟩
    · exact received receipt new
  originates := by
    intro index packet sent
    by_cases earlier : index < net.air.length
    · rw [air, List.getElem?_append_left earlier] at sent
      exact (traced.originates index packet sent).mono air log
    · have notEarlier := Nat.le_of_not_lt earlier
      rw [air, List.getElem?_append_right notEarlier] at sent
      have new := originates _ packet sent
      rwa [Nat.add_sub_cancel' notEarlier] at new
  causes := by
    rw [air, log, List.filterMap_append, List.filter_append,
      List.map_append, traced.causes, causes]

end Growth

/-- A receipt is the cause of what left on it. -/
private theorem causes_receipt
    (index : Nat) (host : ι) (side : Side) (payload : List UInt8)
    (source : SockaddrIn) (send : SendAnswer) (root : Nat) :
    ((receipt nodes index host side payload source send).packets
        root).filterMap Packet.cause =
      ([receipt nodes index host side payload source send].filter
        Receipt.transmits).map Receipt.cause := by
  by_cases own : side = .net ∧ source.sAddr = inaddrAny
  · simp [receipt, Settings.reply, own, Receipt.packets,
      Receipt.transmits]
  · cases send with
    | error =>
        simp [receipt, Settings.reply, own, Receipt.packets,
          Receipt.transmits, Settings.call, Sendto.transmitted]
    | accepts limit =>
        simp [receipt, Settings.reply, own, Receipt.packets,
          Receipt.transmits, Settings.call, Sendto.transmitted,
          Packet.cause, Receipt.cause]

/-- Every move of the network keeps the invariant. -/
theorem Moves.traced
    {label : Label ι} (moves : Moves nodes net next label)
    (traced : net.Traced nodes) : next.Traced nodes := by
  cases moves with
  | submit host payload dest air log =>
      have noReceipts : next.log = net.log ++ [] := by simp [log]
      refine traced.append air noReceipts (by simp) ?_ ?_
      · intro offset packet new
        cases offset with
        | zero =>
            cases new
            exact .inl ⟨rfl, rfl, rfl⟩
        | succ offset => simp at new
      · simp [Packet.cause]
  | receive index host side source control send packet sent addressed
      reaches sourced supplied air log =>
      refine traced.append air log ?_ ?_ (causes_receipt ..)
      · intro new member
        rw [List.mem_singleton.mp member]
        exact ⟨packet, side, sent_append air sent, rfl, addressed, reaches,
          supplied, source, send, sourced, rfl⟩
      · intro offset answer new
        have inRange : index < net.air.length :=
          (List.getElem?_eq_some_iff.mp sent).choose
        refine .inr ⟨_, ?_, Nat.lt_add_right offset inRange, packet,
          sent_append air sent, List.mem_of_getElem? new⟩
        rw [log]
        simp
  | fail host event air log =>
      have noPackets : next.air = net.air ++ [] := by simp [air]
      have noReceipts : next.log = net.log ++ [] := by simp [log]
      exact traced.append noPackets noReceipts (by simp) (by simp) rfl

/-- Every run from the start of the relays keeps them running and its
datagrams traced. -/
theorem traced_of_run
    [DecidableEq ι] {labels : List (Label ι)}
    (initial : net.Initial nodes)
    (ran : run (step nodes) net labels = some next) :
    next.Runs nodes ∧ next.Traced nodes := by
  apply run_invariant ?_ ⟨initial.runs, initial.traced⟩ ran
  intro label _ before after invariant stepped
  rcases invariant with ⟨runs, traced⟩
  rcases moves_of_step runs stepped with ⟨moves, runsAfter⟩
  exact ⟨runsAfter, moves.traced traced⟩

/-! ## Answers -/

/-- The datagram is the answer to this receipt of `source`. -/
structure Answers
    (nodes : ι → Node) (net : Network ι) (packet : Packet ι)
    (receipt : Receipt ι) (source : Packet ι) (side : Side) : Prop where
  received : net.Received nodes receipt source side
  parent : packet.parent = some receipt.packet
  host : packet.host = receipt.host
  sender : packet.sender = some side.callback
  root : packet.root = source.root
  dest : packet.dest = (nodes receipt.host).settings.destination side
  left : ∃ call ∈ receipt.calls,
    call.buffer = source.payload.take udpBufferLen ∧
      call.transmitted = some packet.payload

/-- What a relay sent is the answer to a receipt. -/
theorem Traced.answers
    (traced : net.Traced nodes) {index : Nat} {packet : Packet ι}
    (sent : net.air[index]? = some packet)
    (relayed : packet.sender ≠ none) :
    ∃ receipt ∈ net.log, receipt.packet < index ∧ ∃ source side,
      net.Answers nodes packet receipt source side := by
  rcases traced.originates index packet sent with
    submitted | ⟨receipt, logged, earlier, source, sentSource, member⟩
  · exact (relayed submitted.1).elim
  · obtain ⟨call, called, payload, dest, transmitted, address, rfl⟩ :=
      Receipt.mem_packets.mp member
    rcases traced.received receipt logged with ⟨received, side, there⟩
    obtain rfl : received = source :=
      Option.some.inj (there.sent.symm.trans sentSource)
    rcases there.replies with ⟨sourceAddr, send, -, replies⟩
    have theCall :
        call = (nodes receipt.host).settings.call side
          (received.payload.take udpBufferLen) send := by
      rw [replies, Settings.reply] at called
      split at called
      · cases called
      · exact List.mem_singleton.mp called
    refine ⟨receipt, logged, earlier, received, side, there, rfl, rfl,
      there.callback, rfl, ?_, call, called, ?_, transmitted⟩
    · rw [theCall] at address
      exact (Option.some.inj address).symm
    · rw [theCall]
      rfl

/-- What another process sent is the first of its chain. -/
theorem Traced.submitted
    (traced : net.Traced nodes) {index : Nat} {packet : Packet ι}
    (sent : net.air[index]? = some packet)
    (external : packet.sender = none) :
    packet.parent = none ∧ packet.root = index := by
  rcases traced.originates index packet sent with
    ⟨-, parent, root⟩ | ⟨receipt, logged, -, source, -, member⟩
  · exact ⟨parent, root⟩
  · rcases Receipt.mem_packets.mp member with ⟨_, -, _, _, -, -, rfl⟩
    rcases traced.received receipt logged with ⟨_, side, there⟩
    rw [there.callback] at external
    cases external

/-- Two items at different places of a list cannot agree on a key that
occurs once. -/
private theorem index_eq_of_nodup
    {α β : Type} {key : α → Option β} {items : List α}
    (nodup : (items.filterMap key).Nodup) {first second : Nat}
    {left right : α} (firstItem : items[first]? = some left)
    (secondItem : items[second]? = some right) {common : β}
    (leftKey : key left = some common)
    (rightKey : key right = some common) :
    first = second := by
  have apart := List.pairwise_iff_getElem.mp
    (List.pairwise_filterMap.mp nodup)
  rcases List.getElem?_eq_some_iff.mp firstItem with ⟨firstBound, rfl⟩
  rcases List.getElem?_eq_some_iff.mp secondItem with ⟨secondBound, rfl⟩
  rcases Nat.lt_trichotomy first second with before | same | after
  · exact absurd rfl (apart first second firstBound secondBound before
      common leftKey common rightKey)
  · exact same
  · exact absurd rfl (apart second first secondBound firstBound after
      common rightKey common leftKey)

/-- Where receipts that agree on a key do not recur, two answers that agree
on the key of their causes are the same. -/
theorem Traced.index_eq
    (traced : net.Traced nodes) {β : Type} (key : Cause ι → Option β)
    (nodup : ((net.log.map Receipt.cause).filterMap key).Nodup)
    {first second : Nat} {left right : Packet ι}
    (firstSent : net.air[first]? = some left)
    (secondSent : net.air[second]? = some right) (common : β)
    (leftKey : left.cause.bind key = some common)
    (rightKey : right.cause.bind key = some common) :
    first = second := by
  have sublist :
      ((net.log.filter Receipt.transmits).map Receipt.cause).Sublist
        (net.log.map Receipt.cause) :=
    List.filter_sublist.map _
  have distinct := nodup.sublist (sublist.filterMap key)
  rw [← traced.causes, List.filterMap_filterMap] at distinct
  exact index_eq_of_nodup distinct firstSent secondSent leftKey rightKey

end Network

end UdpipBroadcaster
