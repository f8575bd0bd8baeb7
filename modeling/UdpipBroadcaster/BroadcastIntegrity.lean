import UdpipBroadcaster.Ancestry

/-!
# Integrity of the broadcast

When the relays share their network port and only applications send to
them, the datagrams on the network port are the relays' broadcasts, those
broadcasts answer application datagrams, and what is forwarded is what an
application sent.
-/

namespace UdpipBroadcaster

open Transitions

variable {ι : Type}

/-! ## Applications -/

/-- The datagram was sent by an application to its own relay, and fits the
buffer. -/
structure Packet.FromApplication
    (nodes : ι → Node) (packet : Packet ι) : Prop where
  sender : packet.sender = none
  fits : packet.payload.length ≤ udpBufferLen
  port : packet.dest.port = (nodes packet.host).port .app
  unicast : packet.dest.sAddr ≠ htonl inaddrBroadcast

/-- No relay receives on the port the datagram goes to. -/
def Packet.PassesBy (nodes : ι → Node) (packet : Packet ι) : Prop :=
  ∀ host side, packet.dest.port ≠ (nodes host).port side

/-- To the ports of the relays, other processes send as applications. -/
def Label.Orderly (nodes : ι → Node) : Label ι → Prop
  | .submit host payload dest =>
      let packet : Packet ι := ⟨host, none, none, 0, payload, dest⟩
      packet.FromApplication nodes ∨ packet.PassesBy nodes
  | _ => True

namespace Network

variable {nodes : ι → Node} {net next last : Network ι}
  {common : UInt16}

/-- All that other processes sent is as it should be. -/
def Orderly (nodes : ι → Node) (net : Network ι) : Prop :=
  ∀ packet ∈ net.air, packet.sender = none →
    packet.FromApplication nodes ∨ packet.PassesBy nodes

private theorem Moves.orderly
    {label : Label ι} (moves : Moves nodes net next label)
    (orderly : net.Orderly nodes) (labelOrderly : label.Orderly nodes) :
    next.Orderly nodes := by
  intro packet sent external
  cases moves with
  | submit host payload dest air log =>
      rw [air] at sent
      rcases List.mem_append.mp sent with earlier | new
      · exact orderly packet earlier external
      · rw [List.mem_singleton.mp new]
        rcases labelOrderly with application | passesBy
        · exact .inl ⟨rfl, application.fits, application.port,
            application.unicast⟩
        · exact .inr passesBy
  | receive index host side source control send received there addressed
      reaches sourced supplied air log =>
      rw [air] at sent
      rcases List.mem_append.mp sent with earlier | new
      · exact orderly packet earlier external
      · rcases Receipt.mem_packets.mp new with ⟨_, -, _, _, -, -, rfl⟩
        cases external
  | fail host event air log =>
      rw [air] at sent
      exact orderly packet sent external

theorem orderly_of_run
    [DecidableEq ι] {labels : List (Label ι)}
    (initial : net.Initial nodes)
    (orderly : ∀ label ∈ labels, label.Orderly nodes)
    (ran : run (step nodes) net labels = some last) :
    last.Orderly nodes := by
  have atStart : net.Orderly nodes := by
    intro packet sent
    rw [initial.air] at sent
    cases sent
  have atEnd : last.Runs nodes ∧ last.Orderly nodes := by
    apply run_invariant ?_ ⟨initial.runs, atStart⟩ ran
    intro label member before after invariant stepped
    rcases invariant with ⟨runs, ordered⟩
    rcases moves_of_step runs stepped with ⟨moves, runsAfter⟩
    exact ⟨runsAfter, moves.orderly ordered (orderly label member)⟩
  exact atEnd.2

/-! ## What is received on each side -/

/-- On the application side a relay receives datagrams of its application,
and on the network side broadcasts of relays. -/
theorem Received.kind
    (traced : net.Traced nodes) (orderly : net.Orderly nodes)
    (shares : SharesPort nodes common) {receipt : Receipt ι}
    {packet : Packet ι} {side : Side}
    (received : net.Received nodes receipt packet side) :
    (side = .app ∧ packet.FromApplication nodes ∧
        packet.host = receipt.host) ∨
      (side = .net ∧ packet.sender = some .cbBroadcastRecvfrom) := by
  have addressed := received.addressed
  have network := shares.network receipt.host
  obtain ⟨appPort, forwardPort, distinct⟩ :=
    shares.application receipt.host
  by_cases external : packet.sender = none
  · rcases orderly packet (List.mem_of_getElem? received.sent) external with
      application | passesBy
    · have atHome : packet.host = receipt.host := by
        rcases received.reaches with broadcast | ⟨home, -⟩
        · exact (application.unicast broadcast).elim
        · exact home
      cases side with
      | app => exact .inl ⟨rfl, application, atHome⟩
      | net =>
          rw [application.port, atHome, network] at addressed
          exact (appPort addressed).elim
    · exact (passesBy receipt.host side addressed).elim
  · obtain ⟨earlier, -, -, source, sender, answers⟩ :=
      traced.answers received.sent external
    rw [answers.dest, ← answers.host, Node.port_destination] at addressed
    cases sender with
    | net =>
        have atHome : packet.host = receipt.host := by
          rcases received.reaches with broadcast | ⟨home, -⟩
          · rw [answers.dest] at broadcast
            have unicast : inaddrAny ≠ htonl inaddrBroadcast := by decide
            exact (unicast broadcast).elim
          · exact home
        rw [atHome] at addressed
        cases side with
        | net => exact (forwardPort (addressed.trans network)).elim
        | app => exact (distinct addressed.symm).elim
    | app =>
        cases side with
        | net => exact .inr ⟨rfl, answers.sender⟩
        | app =>
            have broadcastPort := shares.broadcast packet.host
            exact (appPort (addressed.symm.trans broadcastPort)).elim

/-- All calls of `sendto` took the whole payload. -/
def SendsWhole (net : Network ι) : Prop :=
  ∀ receipt ∈ net.log, ∀ call ∈ receipt.calls,
    call.sentBytes = some call.buffer.length

private theorem transmitted_of_sendsWhole
    (whole : net.SendsWhole) {receipt : Receipt ι}
    (logged : receipt ∈ net.log) {call : Sendto}
    (called : call ∈ receipt.calls) :
    call.transmitted = some call.buffer := by
  rw [Sendto.transmitted, whole receipt logged call called,
    Option.map_some, List.take_length]

private theorem Answers.payload_eq
    {packet source : Packet ι} {receipt : Receipt ι} {side : Side}
    (answers : net.Answers nodes packet receipt source side)
    (logged : receipt ∈ net.log) (whole : net.SendsWhole) :
    packet.payload = source.payload.take udpBufferLen := by
  rcases answers.left with ⟨call, called, buffer, transmitted⟩
  rw [transmitted_of_sendsWhole whole logged called] at transmitted
  rw [← Option.some.inj transmitted, buffer]

private theorem callback_injective
    {first second : Side}
    (same : some first.callback = some second.callback) :
    first = second := by
  revert same
  cases first <;> cases second <;> simp [Side.callback]

/-! ## The distributed broadcast -/

/-- What the relays did is the broadcast of what their applications sent.
An answer to a datagram is sent for one receipt of it. -/
structure Broadcasts (nodes : ι → Node) (net : Network ι) : Prop where
  /-- What was forwarded to an application equals what an application handed
  to its relay before. -/
  integrity : ∀ (place : Nat) (packet : Packet ι),
    net.air[place]? = some packet →
      packet.sender = some .cbForwardRecvfrom →
        packet.root < place ∧
          ∃ source : Packet ι, net.air[packet.root]? = some source ∧
            source.FromApplication nodes ∧ source.payload = packet.payload
  /-- What was received of another process is a datagram that an application
  sent to this relay, and its payload was broadcast with one call. -/
  answered : ∀ receipt ∈ net.log, ∀ packet : Packet ι,
    net.air[receipt.packet]? = some packet → packet.sender = none →
      packet.FromApplication nodes ∧ packet.host = receipt.host ∧
        receipt.callback = some .cbBroadcastRecvfrom ∧
        ∃ call : Sendto, receipt.calls = [call] ∧
          call.transmitted = some packet.payload ∧
          call.destAddr =
            some ((nodes receipt.host).settings.destination .app)
  /-- There are as many broadcasts of such a datagram as receipts of it. -/
  counted : ∀ (index : Nat) (source : Packet ι),
    net.air[index]? = some source → source.sender = none →
      (net.air.countP fun packet =>
          packet.parent = some index ∧
            packet.sender = some .cbBroadcastRecvfrom) =
        net.log.countP fun receipt => receipt.packet = index
  /-- Only application datagrams cause broadcasts. -/
  caused : ∀ packet ∈ net.air,
    packet.sender = some .cbBroadcastRecvfrom →
      ∃ (parent : Nat) (source : Packet ι), packet.parent = some parent ∧
        net.air[parent]? = some source ∧ source.FromApplication nodes
  /-- A host forwards a broadcast at most once. -/
  once : ∀ (first second : Nat) (left right : Packet ι),
    net.air[first]? = some left → net.air[second]? = some right →
      left.sender = some .cbForwardRecvfrom →
        right.sender = some .cbForwardRecvfrom →
          left.parent = right.parent → left.host = right.host →
            first = second

section Parts

variable (traced : net.Traced nodes) (orderly : net.Orderly nodes)
  (shares : SharesPort nodes common)
include traced orderly shares

/-- A broadcast answers an application datagram. -/
private theorem source_of_broadcast
    {place : Nat} {packet : Packet ι}
    (sent : net.air[place]? = some packet)
    (broadcast : packet.sender = some .cbBroadcastRecvfrom) :
    ∃ receipt ∈ net.log, receipt.packet < place ∧ ∃ source,
      net.Answers nodes packet receipt source .app ∧
        source.FromApplication nodes := by
  have relayed : packet.sender ≠ none := by simp [broadcast]
  obtain ⟨receipt, logged, earlier, source, side, answers⟩ :=
    traced.answers sent relayed
  obtain rfl : side = .app :=
    callback_injective (answers.sender.symm.trans broadcast)
  rcases answers.received.kind traced orderly shares with
    ⟨-, application, -⟩ | ⟨impossible, -⟩
  · exact ⟨receipt, logged, earlier, source, answers, application⟩
  · cases impossible

private theorem integrity_of_traced
    (whole : net.SendsWhole) {place : Nat} {packet : Packet ι}
    (sent : net.air[place]? = some packet)
    (forwarded : packet.sender = some .cbForwardRecvfrom) :
    packet.root < place ∧
      ∃ source : Packet ι, net.air[packet.root]? = some source ∧
        source.FromApplication nodes ∧
        source.payload = packet.payload := by
  have relayed : packet.sender ≠ none := by simp [forwarded]
  obtain ⟨receipt, logged, before, broadcast, side, answers⟩ :=
    traced.answers sent relayed
  obtain rfl : side = .net :=
    callback_injective (answers.sender.symm.trans forwarded)
  have isBroadcast : broadcast.sender = some .cbBroadcastRecvfrom := by
    rcases answers.received.kind traced orderly shares with
      ⟨impossible, -⟩ | ⟨-, sender⟩
    · cases impossible
    · exact sender
  obtain ⟨first, firstLogged, earlier, source, firstAnswers, application⟩ :=
    source_of_broadcast traced orderly shares answers.received.sent
      isBroadcast
  have sentSource := firstAnswers.received.sent
  have root : packet.root = first.packet := by
    rw [answers.root, firstAnswers.root]
    exact (traced.submitted sentSource application.sender).2
  have payload : packet.payload = source.payload := by
    rw [answers.payload_eq logged whole,
      firstAnswers.payload_eq firstLogged whole, List.take_take,
      Nat.min_self]
    exact List.take_of_length_le application.fits
  rw [root]
  exact ⟨Nat.lt_trans earlier before, source, sentSource, application,
    payload.symm⟩

/-- The receipt of what another process sent makes one call. -/
private theorem answered_of_traced
    (whole : net.SendsWhole) {receipt : Receipt ι}
    (logged : receipt ∈ net.log) {packet : Packet ι}
    (sent : net.air[receipt.packet]? = some packet)
    (external : packet.sender = none) :
    packet.FromApplication nodes ∧ packet.host = receipt.host ∧
      receipt.callback = some .cbBroadcastRecvfrom ∧
      ∃ call : Sendto, receipt.calls = [call] ∧
        call.transmitted = some packet.payload ∧
        call.destAddr =
          some ((nodes receipt.host).settings.destination .app) := by
  rcases traced.received receipt logged with ⟨known, side, received⟩
  obtain rfl : known = packet :=
    Option.some.inj (received.sent.symm.trans sent)
  rcases received.kind traced orderly shares with
    ⟨rfl, application, home⟩ | ⟨-, broadcast⟩
  · rcases received.replies with ⟨source, send, -, calls⟩
    have replies :
        receipt.calls =
          [(nodes receipt.host).settings.call .app
            (known.payload.take udpBufferLen) send] := by
      rw [calls]
      exact if_neg fun impossible => by simp at impossible
    refine ⟨application, home, received.callback, _, replies, ?_, rfl⟩
    rw [transmitted_of_sendsWhole whole logged (by simp [replies])]
    exact congrArg some (List.take_of_length_le application.fits)
  · rw [external] at broadcast
    cases broadcast

end Parts

/-- If every receipt of a datagram makes the application callback send
something, there are as many broadcasts of it as receipts. -/
private theorem countP_broadcasts
    (traced : net.Traced nodes) (index : Nat)
    (answers : ∀ receipt ∈ net.log, receipt.packet = index →
      receipt.callback = some .cbBroadcastRecvfrom ∧
        receipt.transmits = true) :
    (net.air.countP fun packet =>
        packet.parent = some index ∧
          packet.sender = some .cbBroadcastRecvfrom) =
      net.log.countP fun receipt => receipt.packet = index := by
  let broadcasts (cause : Cause ι) : Bool :=
    cause.packet = index ∧ cause.callback = some .cbBroadcastRecvfrom
  calc
    _ = (net.air.filterMap Packet.cause).countP broadcasts := by
      rw [List.countP_filterMap]
      apply List.countP_congr
      intro packet _
      cases parent : packet.parent <;>
        simp [broadcasts, Packet.cause, parent]
    _ = (net.log.filter Receipt.transmits).countP
          (broadcasts ∘ Receipt.cause) := by
      rw [traced.causes, List.countP_map]
    _ = _ := by
      rw [List.countP_filter]
      apply List.countP_congr
      intro receipt logged
      simp only [broadcasts, Receipt.cause, Function.comp_apply,
        Bool.and_eq_true]
      constructor
      · intro chosen
        rcases chosen with ⟨which, -⟩
        exact decide_eq_true (of_decide_eq_true which).1
      · intro same
        have here := of_decide_eq_true same
        rcases answers receipt logged here with ⟨callback, transmits⟩
        exact ⟨decide_eq_true ⟨here, callback⟩, transmits⟩

/-- In every run of relays that share their network port, with applications
that send at most a buffer to their own relay, calls that take the whole
payload, and broadcasts that reach each host's network socket at most once,
the relays broadcast what the applications sent. -/
theorem broadcasts_of_run
    [DecidableEq ι] {labels : List (Label ι)}
    (initial : net.Initial nodes) (shares : SharesPort nodes common)
    (orderly : ∀ label ∈ labels, label.Orderly nodes)
    (ran : run (step nodes) net labels = some last)
    (whole : last.SendsWhole)
    (deliveredOnce :
      ((last.log.map Receipt.cause).filter fun cause =>
        cause.callback = some .cbForwardRecvfrom).Nodup) :
    last.Broadcasts nodes := by
  have traced := (traced_of_run initial ran).2
  have ordered := orderly_of_run initial orderly ran
  constructor
  · intro place packet sent forwarded
    exact integrity_of_traced traced ordered shares whole sent forwarded
  · intro receipt logged packet sent external
    exact answered_of_traced traced ordered shares whole logged sent
      external
  · intro index source sent external
    apply countP_broadcasts traced
    intro receipt logged sameSource
    subst sameSource
    obtain ⟨-, -, callback, call, calls, transmitted, -⟩ :=
      answered_of_traced traced ordered shares whole logged sent external
    exact ⟨callback, by simp [Receipt.transmits, calls, transmitted]⟩
  · intro packet member broadcast
    rcases List.mem_iff_getElem?.mp member with ⟨place, sent⟩
    obtain ⟨receipt, -, -, source, answers, application⟩ :=
      source_of_broadcast traced ordered shares sent broadcast
    exact ⟨receipt.packet, source, answers.parent,
      answers.received.sent, application⟩
  · intro first second left right sentLeft sentRight forwardLeft
      forwardRight parents hosts
    have relayed : left.sender ≠ none := by simp [forwardLeft]
    obtain ⟨receipt, -, -, _, _, answers⟩ :=
      traced.answers sentLeft relayed
    have parent := answers.parent
    rw [← List.filterMap_eq_filter] at deliveredOnce
    apply traced.index_eq _ deliveredOnce sentLeft sentRight
      ⟨receipt.packet, left.host, some .cbForwardRecvfrom⟩
    · simp [Packet.cause, parent, forwardLeft]
    · simp [Packet.cause, ← parents, parent, forwardRight, hosts]

theorem broadcasts_exchange :
    ∃ start last : Network Bool,
      start.Initial workingNodes ∧
        run (step workingNodes) start exchange = some last ∧
        last.air.length = 4 ∧ last.Broadcasts workingNodes := by
  rcases exists_exchange with ⟨start, last, initial, ran, air, log⟩
  refine ⟨start, last, initial, ran, by rw [air]; rfl, ?_⟩
  apply broadcasts_of_run initial sharesPort_workingNodes ?_ ran
  · rw [SendsWhole, log]
    decide
  · rw [log]
    decide
  · intro label member
    simp only [exchange, List.mem_cons, List.not_mem_nil, or_false]
      at member
    rcases member with rfl | rfl | rfl | rfl
    · exact .inl ⟨rfl, by decide, by decide, by decide⟩
    · trivial
    · trivial
    · trivial

end Network

end UdpipBroadcaster
