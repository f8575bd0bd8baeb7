import UdpipBroadcaster.Startup

/-!
# Receiving after other receives

`recvmsg` overwrites the length of the control area with the space it used,
and nobody sets it back.  So each receive leaves to the next one the room its
own records took, and a later datagram is classified only if its records up
to an `IP_PKTINFO` record fit in that room.
-/

namespace UdpipBroadcaster

open ByteStrings Programs

/-! ## Receives through one header -/

/-- A datagram with its control records. -/
structure Message where
  payload : List UInt8
  source : SockaddrIn
  records : List ControlRecord

namespace Message

def datagram (message : Message) : Datagram :=
  Datagram.withRecords message.payload message.source message.records

/-- The records include an `IP_PKTINFO` record, and all of them fit in a
control buffer of full length. -/
structure Classifiable (message : Message) : Prop where
  pktinfo : ∃ record ∈ message.records, record.header.isPktinfo
  fits : fittingRecords controlBufferLen message.records = message.records

/-- An `IP_PKTINFO` record is among the records that fit in `space` bytes. -/
def Classified (message : Message) (space : Nat) : Prop :=
  ∃ record ∈ fittingRecords space message.records, record.header.isPktinfo

instance (message : Message) (space : Nat) :
    Decidable (message.Classified space) :=
  inferInstanceAs (Decidable (∃ record ∈ _, _))

/-- What the records take of `space` bytes. -/
def storedLength (message : Message) (space : Nat) : Nat :=
  (storeRecords space message.records).length

theorem storedControl_datagram (message : Message) (space : Nat) :
    message.datagram.storedControl space =
      storeRecords space message.records :=
  List.take_of_length_le (length_storeRecords_le space message.records)

theorem hasPktinfo_datagram (message : Message) (space : Nat) :
    HasPktinfo (message.datagram.storedControl space) ↔
      message.Classified space :=
  hasPktinfo_withRecords message.payload message.source message.records
    space

theorem Classifiable.classified
    {message : Message} (classifiable : message.Classifiable) :
    message.Classified controlBufferLen := by
  rw [Classified, classifiable.fits]
  exact classifiable.pktinfo

end Message

/-- Receive the datagrams in order through one header. -/
def receiveAll (blockIp : UInt32) :
    List Message → Option Msghdr → Program (Option Msghdr)
  | [], msg => pure msg
  | message :: rest, msg => do
      let result ← recvMsg (some message.datagram) msg blockIp false
      receiveAll blockIp rest result.msg

/-- Each of the messages is classified in the room its predecessors leave,
the first in `space` bytes. -/
def AllClassified : Nat → List Message → Prop
  | _, [] => True
  | space, message :: rest =>
      message.Classified space ∧
        AllClassified (message.storedLength space) rest

/-- The room that the messages leave of `space` bytes. -/
def roomAfter : Nat → List Message → Nat
  | space, [] => space
  | space, message :: rest => roomAfter (message.storedLength space) rest

instance decidableAllClassified :
    (space : Nat) → (messages : List Message) →
      Decidable (AllClassified space messages)
  | _, [] => inferInstanceAs (Decidable True)
  | space, message :: rest =>
      have := decidableAllClassified (message.storedLength space) rest
      inferInstanceAs (Decidable (message.Classified space ∧ _))

theorem allClassified_append
    (space : Nat) (earlier later : List Message) :
    AllClassified space (earlier ++ later) ↔
      AllClassified space earlier ∧
        AllClassified (roomAfter space earlier) later := by
  induction earlier generalizing space with
  | nil => simp [AllClassified, roomAfter]
  | cons message rest inductionHypothesis =>
      simp [AllClassified, roomAfter, inductionHypothesis, and_assoc]

variable {msg : Msghdr} {pointer capacity : Nat} (blockIp : UInt32)

private theorem recvMsg_message
    (described : msg.Describes pointer capacity) (message : Message)
    (world : World) :
    recvMsg (some message.datagram) (some msg) blockIp false world =
      if message.Classified msg.msgControllen then
        .ok
          ⟨(message.payload.take capacity).length,
            some (receivedHeader message.datagram capacity msg),
            decide (blockIp = message.source.sAddr)⟩
          (world.fill pointer (message.payload.take capacity))
      else
        .error .segmentationFault
          (world.fill pointer (message.payload.take capacity)) := by
  rw [recvMsg_eq described]
  simp only [message.hasPktinfo_datagram]
  rfl

theorem msgControllen_receivedHeader
    (msg : Msghdr) (capacity : Nat) (message : Message) :
    (receivedHeader message.datagram capacity msg).msgControllen =
      message.storedLength msg.msgControllen := by
  simp only [receivedHeader, message.storedControl_datagram]
  rfl

/-- Receives that are all classified return, with a header that still
describes the block and advertises the room left. -/
theorem receiveAll_ok
    {earlier : List Message} (described : msg.Describes pointer capacity)
    (classified : AllClassified msg.msgControllen earlier)
    (world : World) :
    ∃ last after,
      receiveAll blockIp earlier (some msg) world = .ok (some last) after ∧
        last.Describes pointer capacity ∧
        last.msgControllen = roomAfter msg.msgControllen earlier ∧
        (after.heap[pointer]?).map List.length =
          (world.heap[pointer]?).map List.length := by
  induction earlier generalizing msg world with
  | nil => exact ⟨msg, world, rfl, described, rfl, rfl⟩
  | cons message rest inductionHypothesis =>
      have run := recvMsg_message blockIp described message world
      rw [if_pos classified.1] at run
      have next := describes_receivedHeader described message.datagram
      have room := msgControllen_receivedHeader msg capacity message
      have rest := inductionHypothesis next (by rw [room]; exact classified.2)
        (world.fill pointer (message.payload.take capacity))
      rcases rest with ⟨last, after, returned, lastDescribed, left, blocks⟩
      refine ⟨last, after, ?_, lastDescribed, ?_, ?_⟩
      · rw [receiveAll, bind_ok _ run]
        exact returned
      · rw [left, room]
        rfl
      · rw [blocks]
        simp [World.fill, Function.comp_def]

/-- The first receive that is not classified ends the process. -/
theorem receiveAll_error
    {earlier : List Message} (described : msg.Describes pointer capacity)
    (unclassified : ¬ AllClassified msg.msgControllen earlier)
    (world : World) :
    ∃ after, receiveAll blockIp earlier (some msg) world =
      .error .segmentationFault after := by
  induction earlier generalizing msg world with
  | nil => exact (unclassified trivial).elim
  | cons message rest inductionHypothesis =>
      have run := recvMsg_message blockIp described message world
      by_cases first : message.Classified msg.msgControllen
      · rw [if_pos first] at run
        have next := describes_receivedHeader described message.datagram
        have later :
            ¬ AllClassified
              (receivedHeader message.datagram capacity msg).msgControllen
              rest := by
          rw [msgControllen_receivedHeader]
          exact fun classified => unclassified ⟨first, classified⟩
        obtain ⟨after, stopped⟩ := inductionHypothesis next later
          (world.fill pointer (message.payload.take capacity))
        refine ⟨after, ?_⟩
        rw [receiveAll, bind_ok _ run]
        exact stopped
      · rw [if_neg first] at run
        exact ⟨_, bind_error _ run⟩

theorem receiveAll_returned
    {earlier : List Message} (described : msg.Describes pointer capacity)
    {world after : World} {last : Option Msghdr}
    (returned :
      receiveAll blockIp earlier (some msg) world = .ok last after) :
    AllClassified msg.msgControllen earlier ∧
      ∃ header, last = some header ∧
        header.Describes pointer capacity ∧
        header.msgControllen = roomAfter msg.msgControllen earlier := by
  by_cases classified : AllClassified msg.msgControllen earlier
  · obtain ⟨header, other, run, kept, room, -⟩ :=
      receiveAll_ok blockIp described classified world
    rw [returned] at run
    cases run
    exact ⟨classified, header, rfl, kept, room⟩
  · obtain ⟨other, stopped⟩ :=
      receiveAll_error blockIp described classified world
    rw [returned] at stopped
    cases stopped

/-! ## Independence of the history -/

/-- After the earlier receives the next one yields the count, the flag and
the bytes that it yields there with the header `fresh`. -/
def ReceivesAsFresh
    (fresh : Msghdr) (pointer : Nat) (blockIp : UInt32)
    (earlier : List Message) (next : Message) (world : World) : Prop :=
  ∃ msg before used afterUsed expected afterFresh,
    receiveAll blockIp earlier (some fresh) world = .ok msg before ∧
      recvMsg (some next.datagram) msg blockIp false before =
        .ok used afterUsed ∧
      recvMsg (some next.datagram) (some fresh) blockIp false before =
        .ok expected afterFresh ∧
      used.rxBytes = expected.rxBytes ∧
      used.blocked = expected.blocked ∧
      (afterUsed.heap[pointer]?).map (List.take used.rxBytes.toNat) =
        (afterFresh.heap[pointer]?).map
          (List.take expected.rxBytes.toNat)

/-- The capacities that `init_msg_header` sets up. -/
def Msghdr.AdvertisesFull (msg : Msghdr) : Prop :=
  msg.msgNamelen = lenSockaddrIn ∧
    msg.msgControllen = controlBufferLen ∧
    msg.msgIov.map Iovec.iovLen = some udpBufferLen

/-- Before each receive of the sequence, and before the one after it, the
header advertises the capacities that `init_msg_header` sets up. -/
def AlwaysAdvertisesFull
    (fresh : Msghdr) (blockIp : UInt32) (earlier : List Message)
    (world : World) : Prop :=
  ∀ front, front <+: earlier →
    ∃ msg before,
      receiveAll blockIp front (some fresh) world =
          .ok (some msg) before ∧
        msg.AdvertisesFull

private theorem receivesAsFresh_iff
    {earlier : List Message} {next : Message} (pointer : Nat)
    (classifiable : next.Classifiable) (world : World) :
    ReceivesAsFresh (freshHeader pointer) pointer blockIp earlier next
        world ↔
      AllClassified controlBufferLen (earlier ++ [next]) := by
  have described := describes_freshHeader pointer
  rw [allClassified_append]
  constructor
  · rintro ⟨msg, before, used, afterUsed, -, -, first, second, -⟩
    obtain ⟨classified, header, rfl, kept, room⟩ :=
      receiveAll_returned blockIp described first
    refine ⟨classified, ?_, trivial⟩
    have run := recvMsg_message blockIp kept next before
    have sameRoom :
        header.msgControllen = roomAfter controlBufferLen earlier := room
    rw [sameRoom] at run
    by_contra unclassified
    rw [if_neg unclassified, second] at run
    cases run
  · rintro ⟨classified, nextClassified, -⟩
    obtain ⟨header, before, first, kept, room, -⟩ :=
      receiveAll_ok blockIp described classified world
    have used := recvMsg_message blockIp kept next before
    have expected :=
      recvMsg_message blockIp described next before
    have sameRoom :
        header.msgControllen = roomAfter controlBufferLen earlier := room
    have full :
        next.Classified (freshHeader pointer).msgControllen :=
      classifiable.classified
    rw [sameRoom, if_pos nextClassified] at used
    rw [if_pos full] at expected
    exact ⟨_, before, _, _, _, _, first, used, expected, rfl, rfl, rfl⟩

private theorem roomAfter_full
    {front : List Message}
    (full : ∀ message ∈ front,
      message.storedLength controlBufferLen = controlBufferLen) :
    roomAfter controlBufferLen front = controlBufferLen := by
  induction front with
  | nil => rfl
  | cons message rest inductionHypothesis =>
      rw [roomAfter, full message (by simp)]
      exact inductionHypothesis
        fun later member => full later (by simp [member])

private theorem allClassified_full
    {front : List Message}
    (classifiable : ∀ message ∈ front, message.Classifiable)
    (full : ∀ message ∈ front,
      message.storedLength controlBufferLen = controlBufferLen) :
    AllClassified controlBufferLen front := by
  induction front with
  | nil => trivial
  | cons message rest inductionHypothesis =>
      refine ⟨(classifiable message (by simp)).classified, ?_⟩
      rw [full message (by simp)]
      exact inductionHypothesis
        (fun later member => classifiable later (by simp [member]))
        (fun later member => full later (by simp [member]))

private theorem roomAfter_append_singleton
    (space : Nat) (front : List Message) (message : Message) :
    roomAfter space (front ++ [message]) =
      message.storedLength (roomAfter space front) := by
  induction front generalizing space with
  | nil => rfl
  | cons head rest inductionHypothesis => exact inductionHypothesis _

private theorem alwaysAdvertisesFull_iff
    {earlier : List Message} (pointer : Nat)
    (classifiable : ∀ message ∈ earlier, message.Classifiable)
    (world : World) :
    AlwaysAdvertisesFull (freshHeader pointer) blockIp earlier world ↔
      ∀ message ∈ earlier,
        message.storedLength controlBufferLen = controlBufferLen := by
  have described := describes_freshHeader pointer
  constructor
  · intro always message member
    have roomBefore (front : List Message) (ahead : front <+: earlier) :
        roomAfter controlBufferLen front = controlBufferLen := by
      rcases always front ahead with ⟨msg, before, run, advertised⟩
      obtain ⟨-, header, same, -, room⟩ :=
        receiveAll_returned blockIp described run
      cases same
      exact room.symm.trans advertised.2.1
    rcases List.append_of_mem member with ⟨front, rest, rfl⟩
    have shorter := roomBefore front ⟨message :: rest, rfl⟩
    have longer := roomBefore (front ++ [message]) ⟨rest, by simp⟩
    rwa [roomAfter_append_singleton, shorter] at longer
  · intro full front ahead
    have classified :
        AllClassified controlBufferLen front :=
      allClassified_full
        (fun message member => classifiable message (ahead.subset member))
        (fun message member => full message (ahead.subset member))
    obtain ⟨header, before, run, kept, room, -⟩ :=
      receiveAll_ok blockIp described classified world
    have stillFull :
        header.msgControllen = controlBufferLen :=
      room.trans
        (roomAfter_full
          fun message member => full message (ahead.subset member))
    refine ⟨header, before, run, kept.namelen, stillFull, ?_⟩
    rw [kept.iov]
    rfl

/-- A receive is independent of the receives before it exactly if each of
them, and it, is classified in the room that is left; the capacities stay
full exactly if each datagram before it fills the control buffer. -/
theorem receive_independent_of_history_iff
    {platform : Platform} {pointer : Nat} {fresh : Msghdr}
    {start world : World}
    (built :
      initMsgHeader platform (some pointer) udpBufferLen start =
        .ok fresh world)
    (blockIp : UInt32) (earlier : List Message) (next : Message)
    (classifiable : ∀ message ∈ earlier ++ [next], message.Classifiable) :
    (ReceivesAsFresh fresh pointer blockIp earlier next world ↔
        AllClassified controlBufferLen (earlier ++ [next])) ∧
      (AlwaysAdvertisesFull fresh blockIp earlier world ↔
        ∀ message ∈ earlier,
          message.storedLength controlBufferLen = controlBufferLen) := by
  rw [initMsgHeader_returned built]
  constructor
  · have nextClassifiable : next.Classifiable := classifiable next (by simp)
    exact receivesAsFresh_iff blockIp pointer nextClassifiable world
  · exact alwaysAdvertisesFull_iff blockIp pointer
      (fun message member => classifiable message (by simp [member])) world

/-- A time stamp, the record `SO_TIMESTAMP` adds. -/
def timestampRecord : ControlRecord where
  level := 1
  type := 29
  data := List.replicate 16 0
  level_lt := by decide
  type_lt := by decide
  length_lt := by decide

/-- A message with packet information only. -/
def plainMessage : Message :=
  ⟨[65], ⟨afInet, 0, quadAddress 192 168 1 7⟩,
    [pktinfoRecord (CharArray.zero 12)]⟩

/-- A message whose packet information follows a time stamp. -/
def stampedMessage : Message :=
  ⟨[66], ⟨afInet, 0, quadAddress 192 168 1 7⟩,
    [timestampRecord, pktinfoRecord (CharArray.zero 12)]⟩

private theorem classifiable_plainMessage : plainMessage.Classifiable where
  pktinfo := by decide
  fits := rfl

private theorem classifiable_stampedMessage :
    stampedMessage.Classifiable where
  pktinfo := by decide
  fits := rfl

/-- A process with a receive buffer and its header. -/
def bufferWorld : World :=
  { World.initial .silent with
    calls := 5
    heap := [freshBlock workingHost 0 udpBufferLen] }

private theorem initMsgHeader_bufferWorld :
    initMsgHeader workingHost (some 0) udpBufferLen
        { bufferWorld with calls := 1 } =
      .ok (freshHeader 0) bufferWorld :=
  rfl

theorem receive_independent_of_plainMessage :
    bufferWorld.heap[0]?.isSome = true ∧
      (ReceivesAsFresh (freshHeader 0) 0 0 [plainMessage] plainMessage
          bufferWorld ↔
        AllClassified controlBufferLen
          ([plainMessage] ++ [plainMessage])) ∧
      (AlwaysAdvertisesFull (freshHeader 0) 0 [plainMessage] bufferWorld ↔
        ∀ message ∈ [plainMessage],
          message.storedLength controlBufferLen = controlBufferLen) := by
  refine ⟨rfl, ?_⟩
  apply receive_independent_of_history_iff initMsgHeader_bufferWorld
  intro message member
  rcases List.mem_append.mp member with first | second
  · rw [List.mem_singleton.mp first]
    exact classifiable_plainMessage
  · rw [List.mem_singleton.mp second]
    exact classifiable_plainMessage

/-- After a datagram with packet information only, one whose packet
information follows a time stamp ends the process; a fresh header would
have had room for both records. -/
theorem not_receivesAsFresh_after_plainMessage :
    plainMessage.Classifiable ∧ stampedMessage.Classifiable ∧
      ¬ ReceivesAsFresh (freshHeader 0) 0 0 [plainMessage] stampedMessage
        bufferWorld := by
  refine ⟨classifiable_plainMessage, classifiable_stampedMessage, ?_⟩
  rw [receivesAsFresh_iff 0 0 classifiable_stampedMessage]
  decide

end UdpipBroadcaster
