import UdpipBroadcaster.Ancestry
import UdpipBroadcaster.Library.Chains

/-!
# Forwarding cycles

A relay alone on its host receives what it sends itself when the ports
agree.  A side feeds another one if the datagrams it sends arrive there; a
datagram of another process is relayed at most once in each direction
exactly if no side feeds itself, directly or through the other side.
-/

namespace UdpipBroadcaster

open Relation Transitions

/-! ## Sides that feed each other -/

namespace Node

/-- The datagrams sent for the side `source` are received on `target`, with
packet information, and answered.  The network side does not answer
broadcasts from `0.0.0.0`. -/
def Feeds (node : Node) (source target : Side) : Prop :=
  node.targetPort source = node.port target ∧
    node.suppliesPktinfo target = true ∧
    (source = .app → target = .net →
      ∃ address ∈ node.addresses, address ≠ inaddrAny)

/-- A side feeds itself, or the two sides feed each other. -/
def Loops (node : Node) : Prop :=
  (∃ side, node.targetPort side = node.port side ∧
      node.suppliesPktinfo side = true) ∨
    node.targetPort .app = node.port .net ∧
      node.targetPort .net = node.port .app ∧
      (∀ side, node.suppliesPktinfo side = true) ∧
      ∃ address ∈ node.addresses, address ≠ inaddrAny

variable {node : Node}

private theorem feeds_self_iff {side : Side} :
    node.Feeds side side ↔
      node.targetPort side = node.port side ∧
        node.suppliesPktinfo side = true := by
  cases side <;> simp [Feeds]

/-- The configuration loops exactly if feeding has a cycle. -/
theorem loops_iff : node.Loops ↔ ∃ side, TransGen node.Feeds side side := by
  constructor
  · rintro (⟨side, itself⟩ | ⟨broadcast, forward, supplied, proper⟩)
    · exact ⟨side, .single (feeds_self_iff.mpr itself)⟩
    · have out : node.Feeds .app .net :=
        ⟨broadcast, supplied .net, fun _ _ => proper⟩
      have back : node.Feeds .net .app :=
        ⟨forward, supplied .app, fun impossible => by cases impossible⟩
      exact ⟨.app, .tail (.single out) back⟩
  · rintro ⟨side, cycle⟩
    by_contra straight
    rw [Loops, not_or] at straight
    rcases straight with ⟨noSelf, both⟩
    have noLoop (side : Side) : ¬ node.Feeds side side :=
      fun feeds => noSelf ⟨side, feeds_self_iff.mp feeds⟩
    have noRoundTrip (out : node.Feeds .app .net)
        (back : node.Feeds .net .app) : False := by
      apply both
      refine ⟨out.1, back.1, ?_, out.2.2 rfl rfl⟩
      intro side
      cases side with
      | net => exact out.2.1
      | app => exact back.2.1
    refine Chains.acyclic_of_two ?_ noLoop ?_ side cycle
    · intro first second third
      cases first <;> cases second <;> cases third <;> simp
    · rintro (- | -) (- | -) out back
      · exact noLoop _ out
      · exact noRoundTrip back out
      · exact noRoundTrip out back
      · exact noLoop _ out

end Node

/-! ## Descendants -/

/-- The side whose callback sent the datagram. -/
def Packet.side {ι : Type} (packet : Packet ι) : Option Side :=
  match packet.sender with
  | some .cbForwardRecvfrom => some .net
  | some .cbBroadcastRecvfrom => some .app
  | _ => none

theorem Packet.side_eq_some
    {ι : Type} {packet : Packet ι} {side : Side} :
    packet.side = some side ↔ packet.sender = some side.callback := by
  rw [Packet.side]
  split <;> rename_i sender <;> cases side <;>
    simp_all [Side.callback]

namespace Network

variable {nodes : Unit → Node} {net : Network Unit}

/-- Each datagram of another process was relayed at most once by each of the
two callbacks, counting all that descends from it. -/
def RelaysOnce (net : Network Unit) : Prop :=
  ∀ (first second : Nat) (left right : Packet Unit),
    net.air[first]? = some left → net.air[second]? = some right →
      left.sender ≠ none → left.sender = right.sender →
        left.root = right.root → first = second

/-- The relay sent the datagram at `index` on receiving that at `parent`. -/
def Child (net : Network Unit) (parent index : Nat) : Prop :=
  ∃ packet, net.air[index]? = some packet ∧ packet.parent = some parent

/-- The side whose callback sent the datagram at this place. -/
def sideAt (net : Network Unit) (index : Nat) : Option Side :=
  (net.air[index]?).bind Packet.side

/-- No datagram has two children if none was received twice. -/
private theorem rightUnique_child
    (traced : net.Traced nodes)
    (nodup : (net.log.map Receipt.packet).Nodup) :
    Relator.RightUnique net.Child := by
  rintro parent first second ⟨left, sentLeft, parentLeft⟩
    ⟨right, sentRight, parentRight⟩
  have packets :
      (net.log.map Receipt.cause).filterMap
          (fun cause => some cause.packet) =
        net.log.map Receipt.packet := by
    simp [Receipt.cause, Function.comp_def]
  rw [← packets] at nodup
  apply traced.index_eq (fun cause => some cause.packet) nodup sentLeft
    sentRight parent
  · simp [Packet.cause, parentLeft]
  · simp [Packet.cause, parentRight]

/-- A child of what a side sent was sent by a side that it feeds. -/
private theorem feeds_of_child
    (traced : net.Traced nodes) {parent index : Nat} {side : Side}
    (child : net.Child parent index)
    (atParent : net.sideAt parent = some side) :
    ∃ next, net.sideAt index = some next ∧
      (nodes ()).Feeds side next := by
  rcases child with ⟨packet, sent, itsParent⟩
  have relayed : packet.sender ≠ none := by
    intro external
    rw [(traced.submitted sent external).1] at itsParent
    cases itsParent
  obtain ⟨receipt, -, -, source, next, answers⟩ :=
    traced.answers sent relayed
  obtain rfl : receipt.packet = parent :=
    Option.some.inj (answers.parent.symm.trans itsParent)
  have sentSource := answers.received.sent
  rw [sideAt, sentSource, Option.bind_some, Packet.side_eq_some] at atParent
  have sourceRelayed : source.sender ≠ none := by simp [atParent]
  obtain ⟨_, -, -, _, sourceSide, sourceAnswers⟩ :=
    traced.answers sentSource sourceRelayed
  obtain rfl : sourceSide = side := by
    have callbacks := sourceAnswers.sender.symm.trans atParent
    revert callbacks
    cases sourceSide <;> cases side <;> simp [Side.callback]
  refine ⟨next, ?_, ?_, answers.received.supplied, ?_⟩
  · rw [sideAt, sent, Option.bind_some, Packet.side_eq_some]
    exact answers.sender
  · have addressed := answers.received.addressed
    rw [sourceAnswers.dest, Node.port_destination] at addressed
    exact addressed
  · rintro rfl rfl
    rcases answers.received.replies with ⟨address, send, sourced, calls⟩
    rcases answers.left with ⟨call, member, -⟩
    refine ⟨address.sAddr, sourced atParent, ?_⟩
    intro own
    rw [calls, Settings.reply, if_pos ⟨rfl, own⟩] at member
    cases member

/-- Every datagram descends from the first of its chain. -/
private theorem descends
    (traced : net.Traced nodes) (index : Nat) {packet : Packet Unit}
    (sent : net.air[index]? = some packet) :
    ReflTransGen net.Child packet.root index := by
  induction index using Nat.strong_induction_on generalizing packet with
  | _ index inductionHypothesis =>
      by_cases external : packet.sender = none
      · rw [(traced.submitted sent external).2]
      · obtain ⟨receipt, -, earlier, source, side, answers⟩ :=
          traced.answers sent external
        have before :=
          inductionHypothesis receipt.packet earlier answers.received.sent
        rw [answers.root]
        exact before.tail ⟨packet, sent, answers.parent⟩

/-- Without a cycle each datagram is relayed at most once each way. -/
private theorem relaysOnce_of_not_loops
    (traced : net.Traced nodes)
    (nodup : (net.log.map Receipt.packet).Nodup)
    (straight : ¬ (nodes ()).Loops) : net.RelaysOnce := by
  intro first second left right sentLeft sentRight relayed senders roots
  rcases traced.answers sentLeft relayed with ⟨_, -, -, _, side, answers⟩
  have atFirst : net.sideAt first = some side := by
    rw [sideAt, sentLeft, Option.bind_some, Packet.side_eq_some]
    exact answers.sender
  have atSecond : net.sideAt second = some side := by
    rw [sideAt, sentRight, Option.bind_some, Packet.side_eq_some,
      ← senders]
    exact answers.sender
  have toSecond := descends traced second sentRight
  rw [← roots] at toSecond
  exact Chains.eq_of_label_eq (rightUnique_child traced nodup)
    (fun _ _ _ child atParent => feeds_of_child traced child atParent)
    (fun side cycle => straight (Node.loops_iff.mpr ⟨side, cycle⟩))
    (descends traced first sentLeft) toSecond atFirst atSecond

/-! ## Runs along a cycle -/

/-- The datagram at `index` is the newest one, nobody received it yet, and
none was received twice. -/
private structure Newest
    (nodes : Unit → Node) (net : Network Unit) (index : Nat)
    (packet : Packet Unit) : Prop where
  ready : net.Ready nodes
  sent : net.air[index]? = some packet
  length : net.air.length = index + 1
  unread : ∀ receipt ∈ net.log, receipt.packet < index
  nodup : (net.log.map Receipt.packet).Nodup

private theorem Newest.deliver
    {next : Network Unit} {index : Nat} {packet : Packet Unit}
    (newest : Newest nodes net index packet) {side : Side}
    {source : UInt32} (ready : next.Ready nodes)
    (air : next.air = net.air ++ [answer nodes index () side packet])
    (log : next.log = net.log ++
      [delivered nodes index () side packet.payload source]) :
    Newest nodes next (index + 1) (answer nodes index () side packet) where
  ready := ready
  sent := by
    rw [air, ← newest.length]
    exact List.getElem?_concat_length
  length := by simp [air, newest.length]
  unread := by
    intro receipt logged
    rw [log] at logged
    rcases List.mem_append.mp logged with earlier | new
    · exact Nat.lt_succ_of_lt (newest.unread receipt earlier)
    · rw [List.mem_singleton.mp new]
      exact Nat.lt_succ_self index
  nodup := by
    rw [log, List.map_append, List.nodup_append]
    refine ⟨newest.nodup, by simp, ?_⟩
    intro earlier before new member same
    rcases List.mem_map.mp before with ⟨receipt, logged, rfl⟩
    have unread := newest.unread receipt logged
    rw [same, List.mem_singleton.mp member] at unread
    exact Nat.lt_irrefl index unread

/-- The source from which a datagram of the one side is answered on the
other. -/
private theorem exists_source_of_feeds
    {node : Node} {source target : Side} (feeds : node.Feeds source target)
    (listed : ∃ address, address ∈ node.addresses) :
    ∃ address,
      (source = .app → address ∈ node.addresses) ∧
        (target = .net → address ≠ inaddrAny) := by
  cases source with
  | net =>
      refine ⟨quadAddress 127 0 0 1, ?_, fun _ => by decide⟩
      intro impossible
      cases impossible
  | app =>
      cases target with
      | net =>
          rcases feeds.2.2 rfl rfl with ⟨address, member, proper⟩
          exact ⟨address, fun _ => member, fun _ => proper⟩
      | app =>
          rcases listed with ⟨address, member⟩
          refine ⟨address, fun _ => member, ?_⟩
          intro impossible
          cases impossible

/-- What a side sends is answered on a side that it feeds. -/
private theorem exists_step_of_feeds
    (listed : ∃ address, address ∈ (nodes ()).addresses)
    (anyLocal : (nodes ()).isLocal inaddrAny = true)
    {source target : Side} (feeds : (nodes ()).Feeds source target)
    {net : Network Unit} {index : Nat} {packet : Packet Unit}
    (newest : Newest nodes net index packet)
    (sender : packet.sender = some source.callback)
    (dest : packet.dest = (nodes ()).settings.destination source) :
    ∃ (label : Label Unit) (next : Network Unit),
      step nodes net label = some next ∧
        Newest nodes next (index + 1)
          (answer nodes index () target packet) ∧
        net.air <+: next.air := by
  rcases exists_source_of_feeds feeds listed with ⟨address, sourced, foreign⟩
  have addressed : packet.dest.port = (nodes ()).port target := by
    rw [dest, Node.port_destination]
    exact feeds.1
  have reaches : packet.Reaches nodes () := by
    rw [Packet.Reaches, dest]
    cases source with
    | net => exact .inr ⟨rfl, anyLocal⟩
    | app => exact .inl rfl
  have fromInterface :
      packet.sender = some .cbBroadcastRecvfrom →
        address ∈ (nodes packet.host).addresses := by
    intro broadcast
    apply sourced
    rw [sender] at broadcast
    revert broadcast
    cases source <;> simp [Side.callback]
  obtain ⟨next, stepped, ready, air, log⟩ :=
    ready_deliver newest.ready index () target address newest.sent addressed
      reaches fromInterface feeds.2.1 foreign
  refine ⟨_, next, stepped, newest.deliver ready air log, ?_⟩
  rw [air]
  exact List.prefix_append _ _

/-- What a relay sends to itself keeps going round. -/
private theorem exists_run_of_feeds
    (listed : ∃ address, address ∈ (nodes ()).addresses)
    (anyLocal : (nodes ()).isLocal inaddrAny = true)
    {source target : Side}
    (path : TransGen (nodes ()).Feeds source target)
    {net : Network Unit} {index : Nat} {packet : Packet Unit}
    (newest : Newest nodes net index packet)
    (sender : packet.sender = some source.callback)
    (dest : packet.dest = (nodes ()).settings.destination source) :
    ∃ labels last later answer,
      run (step nodes) net labels = some last ∧ index < later ∧
        Newest nodes last later answer ∧
        answer.sender = some target.callback ∧
        answer.root = packet.root ∧ net.air <+: last.air := by
  induction path using TransGen.head_induction_on
    generalizing net index packet with
  | single feeds =>
      obtain ⟨label, next, stepped, there, grown⟩ :=
        exists_step_of_feeds listed anyLocal feeds newest sender dest
      exact ⟨[label], next, _, _, run_cons stepped,
        Nat.lt_succ_self index, there, rfl, rfl, grown⟩
  | head feeds _ inductionHypothesis =>
      obtain ⟨label, next, stepped, there, grown⟩ :=
        exists_step_of_feeds listed anyLocal feeds newest sender dest
      obtain ⟨labels, last, later, answer, ran, further, atEnd, sentBy,
          root, more⟩ := inductionHypothesis there rfl rfl
      exact ⟨label :: labels, last, later, answer,
        (run_cons stepped).trans ran, Nat.lt_of_succ_lt further, atEnd,
        sentBy, root, grown.trans more⟩

/-- A configuration that loops has a run in which a datagram is relayed
twice by one callback. -/
private theorem exists_run_of_loops
    (initial : net.Initial nodes)
    (anyLocal : (nodes ()).isLocal inaddrAny = true)
    (loops : (nodes ()).Loops) :
    ∃ labels last, run (step nodes) net labels = some last ∧
      (last.log.map Receipt.packet).Nodup ∧ ¬ last.RelaysOnce := by
  rcases Node.loops_iff.mp loops with ⟨side, cycle⟩
  obtain ⟨_, -, lastFeeds⟩ := TransGen.tail'_iff.mp cycle
  let dest : SockaddrIn :=
    ⟨afInet, htons ((nodes ()).port side), inaddrAny⟩
  obtain ⟨submitted, submit, ready, air, log⟩ :=
    ready_submit initial.ready () [] dest
  rw [initial.air] at air
  rw [initial.log] at log
  have first : Newest nodes submitted 0 ⟨(), none, none, 0, [], dest⟩ :=
    { ready := ready
      sent := by simp [air]
      length := by simp [air]
      unread := by simp [log]
      nodup := by simp [log] }
  obtain ⟨relayed, receive, readyRelayed, airRelayed, logRelayed⟩ :=
    ready_deliver ready 0 () side (quadAddress 127 0 0 1) first.sent
      (ntohs_htons _) (.inr ⟨rfl, anyLocal⟩) (by simp) lastFeeds.2.1
      (fun _ => by decide)
  have second := first.deliver readyRelayed airRelayed logRelayed
  have listed := (initial.started ()).exists_address
  obtain ⟨labels, last, later, answer, ran, further, atEnd, sender, root,
      grown⟩ := exists_run_of_feeds listed anyLocal cycle second rfl rfl
  refine ⟨.submit () [] dest ::
    .deliver 0 () side (quadAddress 127 0 0 1) :: labels, last, ?_,
    atEnd.nodup, ?_⟩
  · rw [run_cons submit, run_cons receive, ran]
  · intro once
    rcases grown with ⟨added, grownBy⟩
    have stays := sent_append grownBy.symm second.sent
    have same := once _ _ _ _ stays atEnd.sent (by simp [Network.answer])
      sender.symm root.symm
    omega

/-! ## Every configuration -/

/-- In every run of the relay, with every datagram received at most once,
each datagram of another process is relayed at most once each way, exactly
if the configuration does not loop. -/
theorem relaysOnce_iff_not_loops
    (initial : net.Initial nodes)
    (anyLocal : (nodes ()).isLocal inaddrAny = true) :
    (∀ labels last, run (step nodes) net labels = some last →
        (last.log.map Receipt.packet).Nodup → last.RelaysOnce) ↔
      ¬ (nodes ()).Loops := by
  constructor
  · intro once loops
    obtain ⟨labels, last, ran, nodup, twice⟩ :=
      exists_run_of_loops initial anyLocal loops
    exact twice (once labels last ran nodup)
  · intro straight labels last ran nodup
    exact relaysOnce_of_not_loops (traced_of_run initial ran).2 nodup
      straight

/-- One of the hosts of `workingNodes`, alone. -/
def loneNodes : Unit → Node := fun _ => workingNodes false

theorem relaysOnce_loneNodes_iff :
    ∃ start : Network Unit, start.Initial loneNodes ∧
      ((∀ labels last, run (step loneNodes) start labels = some last →
          (last.log.map Receipt.packet).Nodup → last.RelaysOnce) ↔
        ¬ (loneNodes ()).Loops) := by
  obtain ⟨start, initial⟩ :=
    exists_initial loneNodes fun _ => started_workingNodes false
  exact ⟨start, initial, relaysOnce_iff_not_loops initial (by decide)⟩

/-- `-i eth0 -t 6001 -r 5000 -u 6000 -w 6001`: the relay broadcasts to the
port on which it receives from the application. -/
def stormOptions : List Opt :=
  relayOptions ++ [.nettx applicationPortText]

def stormNodes : Unit → Node := fun _ =>
  { workingNodes false with
    opts := stormOptions
    settings := { relaySettings with cfg.txPort := 6001 } }

theorem not_relaysOnce_stormNodes :
    (stormNodes ()).port .net ≠ (stormNodes ()).port .app ∧
      (stormNodes ()).isLocal inaddrAny = true ∧
      ∃ (start : Network Unit) (labels : List (Label Unit))
        (last : Network Unit),
        start.Initial stormNodes ∧
          run (step stormNodes) start labels = some last ∧
          (last.log.map Receipt.packet).Nodup ∧ ¬ last.RelaysOnce := by
  refine ⟨by decide, by decide, ?_⟩
  have accepted :
      createConfiguration stormOptions = .ok (stormNodes ()).settings :=
    rfl
  obtain ⟨start, initial⟩ := exists_initial stormNodes fun _ =>
    exists_started_workingHost accepted rfl rfl .silent
  have supplied : (stormNodes ()).suppliesPktinfo .app = true := by
    decide
  have loops : (stormNodes ()).Loops :=
    .inl ⟨.app, by decide, supplied⟩
  obtain ⟨labels, last, ran, nodup, twice⟩ :=
    exists_run_of_loops initial (by decide) loops
  exact ⟨start, labels, last, initial, ran, nodup, twice⟩

end Network

end UdpipBroadcaster
