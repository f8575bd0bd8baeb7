import UdpipBroadcaster.UdpSocket

/-!
# Reception and source classification

What `recv_msg` does with whatever control area `recvmsg` hands back.  The
walk of `get_source_address` over a control area ends, and it finds the
source exactly if one of the records it can reach is an `IP_PKTINFO` record.
Otherwise its result is `NULL`, and `recv_msg` reads through it.
-/

namespace UdpipBroadcaster

open ByteStrings Programs

/-! ## The walk over the control area -/

/-- A control area in which the walk reaches an `IP_PKTINFO` record. -/
def HasPktinfo (control : List UInt8) : Prop :=
  ∃ cmsg ∈ cmsgs control, cmsg.isPktinfo

instance (control : List UInt8) : Decidable (HasPktinfo control) :=
  inferInstanceAs (Decidable (∃ cmsg ∈ cmsgs control, cmsg.isPktinfo))

private theorem not_hasPktinfo_of_short
    {control : List UInt8} (short : control.length < sizeofCmsghdr) :
    ¬ HasPktinfo control := by
  rw [HasPktinfo, cmsgs, if_pos short]
  simp

private theorem hasPktinfo_cons
    {control : List UInt8} (long : ¬ control.length < sizeofCmsghdr) :
    HasPktinfo control ↔
      (Cmsghdr.read control).isPktinfo ∨
        ¬ (Cmsghdr.read control).cmsgLen < sizeofCmsghdr ∧
          HasPktinfo
            (control.drop (cmsgAlign (Cmsghdr.read control).cmsgLen)) := by
  rw [HasPktinfo, cmsgs, if_neg long]
  by_cases short : (Cmsghdr.read control).cmsgLen < sizeofCmsghdr
  · simp [short]
  · simp [short, HasPktinfo]

namespace Msghdr

/-- The part of the control buffer that holds records. -/
def controlArea (msg : Msghdr) : List UInt8 :=
  msg.msgControl.take msg.msgControllen

/-- What the walk still has before it at a position. -/
def areaFrom (msg : Msghdr) : Option Nat → List UInt8
  | none => []
  | some cmsg => msg.controlArea.drop cmsg

end Msghdr

/-- One step of the walk: the record at the position, then what follows the
position `CMSG_NXTHDR` gives. -/
private theorem hasPktinfo_areaFrom_some
    {msg : Msghdr} (inside : msg.msgControllen ≤ msg.msgControl.length)
    {cmsg : Nat} (room : cmsg + sizeofCmsghdr ≤ msg.msgControllen) :
    HasPktinfo (msg.areaFrom (some cmsg)) ↔
      (Cmsghdr.read (msg.msgControl.drop cmsg)).isPktinfo ∨
        HasPktinfo (msg.areaFrom (cmsgNxthdr msg cmsg)) := by
  have areaLength (position : Nat) :
      (msg.controlArea.drop position).length =
        msg.msgControllen - position := by
    simp only [Msghdr.controlArea, List.length_drop, List.length_take]
    omega
  have sameHeader :
      Cmsghdr.read (msg.controlArea.drop cmsg) =
        Cmsghdr.read (msg.msgControl.drop cmsg) := by
    rw [Msghdr.controlArea, List.drop_take]
    apply Cmsghdr.read_take
    omega
  have nothing : ¬ HasPktinfo [] := not_hasPktinfo_of_short (by decide)
  have long : ¬ (msg.controlArea.drop cmsg).length < sizeofCmsghdr := by
    rw [areaLength]
    omega
  rw [Msghdr.areaFrom, hasPktinfo_cons long, sameHeader, List.drop_drop]
  simp only [cmsgNxthdr]
  generalize Cmsghdr.read (msg.msgControl.drop cmsg) = header
  by_cases short : header.cmsgLen < sizeofCmsghdr
  · simp [short, Msghdr.areaFrom, nothing]
  · rw [if_neg short]
    by_cases full :
        msg.msgControllen - cmsg < cmsgAlign header.cmsgLen + sizeofCmsghdr
    · have ended :
          ¬ HasPktinfo
            (msg.controlArea.drop (cmsg + cmsgAlign header.cmsgLen)) := by
        apply not_hasPktinfo_of_short
        rw [areaLength]
        simp only [sizeofCmsghdr] at full ⊢
        omega
      simp [full, Msghdr.areaFrom, nothing, ended]
    · simp [full, short, Msghdr.areaFrom]

/-- From any position on, the loop finds the name exactly if there is an
`IP_PKTINFO` record before it. -/
theorem getSourceAddressLoop_eq
    (msg : Msghdr) (inside : msg.msgControllen ≤ msg.msgControl.length)
    (position : Option Nat)
    (room : ∀ cmsg ∈ position,
      cmsg + sizeofCmsghdr ≤ msg.msgControllen) :
    getSourceAddressLoop msg position =
      if HasPktinfo (msg.areaFrom position) then msg.msgName else none := by
  have decided (header : Cmsghdr) :
      header.isPktinfo ↔
        ¬ (header.cmsgLevel ≠ ipprotoIp ∨
          header.cmsgType ≠ ipPktinfo) := by
    simp [Cmsghdr.isPktinfo]
  have nothing : ¬ HasPktinfo (msg.areaFrom none) :=
    not_hasPktinfo_of_short (by simp [Msghdr.areaFrom, sizeofCmsghdr])
  fun_induction getSourceAddressLoop msg position with
  | case1 =>
      rw [if_neg nothing]
  | case2 cmsg header skipped ended =>
      have step := hasPktinfo_areaFrom_some inside (room cmsg rfl)
      rw [decided, ended] at step
      rw [if_neg]
      rw [step]
      exact fun found => found.elim (fun kept => kept skipped) nothing
  | case3 cmsg header skipped next found inductionHypothesis =>
      have step := hasPktinfo_areaFrom_some inside (room cmsg rfl)
      rw [decided, found] at step
      have later : ∀ cmsg ∈ some next,
          cmsg + sizeofCmsghdr ≤ msg.msgControllen := by
        rintro _ ⟨⟩
        exact (cmsgNxthdr_progress found).2
      rw [inductionHypothesis later]
      congr 1
      exact propext
        ⟨fun rest => step.mpr (.inr rest),
          fun found => (step.mp found).resolve_left (fun kept => kept skipped)⟩
  | case4 cmsg header kept =>
      have step := hasPktinfo_areaFrom_some inside (room cmsg rfl)
      rw [if_pos (step.mpr (.inl ((decided _).mpr kept)))]

/-! ## Reception into a block -/

/-- The header offers one block of `capacity` bytes and a name, as
`init_msg_header` builds it. -/
structure Msghdr.Describes
    (msg : Msghdr) (pointer capacity : Nat) : Prop where
  iov : msg.msgIov = some ⟨some pointer, capacity⟩
  iovlen : msg.msgIovlen = 1
  named : msg.msgName ≠ none
  namelen : msg.msgNamelen = lenSockaddrIn
  inside : msg.msgControllen ≤ msg.msgControl.length

/-- What `init_msg_header` builds for the block `pointer`. -/
def freshHeader (pointer : Nat) : Msghdr where
  msgName := some SockaddrIn.zero
  msgNamelen := lenSockaddrIn
  msgIov := some ⟨some pointer, udpBufferLen⟩
  msgIovlen := 1
  msgControl := List.replicate controlBufferLen 0
  msgControllen := controlBufferLen
  msgFlags := 0

theorem describes_freshHeader (pointer : Nat) :
    (freshHeader pointer).Describes pointer udpBufferLen where
  iov := rfl
  iovlen := rfl
  named := by simp [freshHeader]
  namelen := rfl
  inside := by simp [freshHeader]

/-- The process after bytes were stored at the front of a block. -/
def World.fill (world : World) (pointer : Nat) (bytes : List UInt8) :
    World :=
  { world with heap := world.heap.modify pointer (overwrite · bytes) }

theorem length_storedControl_le (datagram : Datagram) (space : Nat) :
    (datagram.storedControl space).length ≤ space :=
  List.length_take_le _ _

variable {msg : Msghdr} {pointer capacity : Nat}

section Received

variable (described : msg.Describes pointer capacity) (datagram : Datagram)
include described

/-- What `recvmsg` hands back is again a header of this kind. -/
theorem describes_receivedHeader :
    (receivedHeader datagram capacity msg).Describes pointer capacity where
  iov := described.iov
  iovlen := described.iovlen
  named := by
    have name := described.named
    simp [receivedHeader, described.namelen, name]
  namelen := rfl
  inside := by
    simp only [receivedHeader, length_overwrite]
    exact (length_storedControl_le datagram _).trans described.inside

theorem msgName_receivedHeader :
    (receivedHeader datagram capacity msg).msgName =
      some datagram.source := by
  rcases Option.ne_none_iff_exists'.mp described.named with ⟨name, named⟩
  simp [receivedHeader, described.namelen, named]

theorem recvmsg_eq (world : World) :
    recvmsg (some datagram) (some msg) world =
      .ok ((datagram.payload.take capacity).length,
          some (receivedHeader datagram capacity msg))
        (world.fill pointer (datagram.payload.take capacity)) := by
  simp only [recvmsg, described.iov, described.iovlen]
  rfl

/-- The name is found in a received header exactly if the kernel stored an
`IP_PKTINFO` record. -/
theorem getSourceAddressLoop_receivedHeader :
    getSourceAddressLoop (receivedHeader datagram capacity msg)
        (cmsgFirsthdr (receivedHeader datagram capacity msg)) =
      if HasPktinfo (datagram.storedControl msg.msgControllen) then
        some datagram.source
      else none := by
  have next := describes_receivedHeader described datagram
  have fits :
      (datagram.storedControl msg.msgControllen).length ≤
        msg.msgControl.length :=
    (length_storedControl_le datagram _).trans described.inside
  have area :
      (receivedHeader datagram capacity msg).controlArea =
        datagram.storedControl msg.msgControllen := by
    simp only [Msghdr.controlArea, receivedHeader]
    rw [take_overwrite fits le_rfl, List.take_length]
  rw [getSourceAddressLoop_eq _ next.inside,
    msgName_receivedHeader described]
  · congr 1
    by_cases short :
        (datagram.storedControl msg.msgControllen).length < sizeofCmsghdr
    · have ended :
          cmsgFirsthdr (receivedHeader datagram capacity msg) = none :=
        if_pos short
      have nothing := not_hasPktinfo_of_short short
      simp only [ended, Msghdr.areaFrom, nothing, eq_iff_iff, iff_false]
      exact not_hasPktinfo_of_short (by decide)
    · have first :
          cmsgFirsthdr (receivedHeader datagram capacity msg) = some 0 :=
        if_neg short
      rw [first, Msghdr.areaFrom, area, List.drop_zero]
  · intro cmsg found
    simp only [cmsgFirsthdr] at found
    split at found
    · cases found
    · cases found
      omega

/-- `recv_msg` on a received datagram: with an `IP_PKTINFO` record it
classifies the source, without one it reads through `NULL`. -/
theorem recvMsg_eq (blockIp : UInt32) (blocked : Bool) (world : World) :
    recvMsg (some datagram) (some msg) blockIp blocked world =
      if HasPktinfo (datagram.storedControl msg.msgControllen) then
        .ok
          ⟨(datagram.payload.take capacity).length,
            some (receivedHeader datagram capacity msg),
            decide (blockIp = datagram.source.sAddr)⟩
          (world.fill pointer (datagram.payload.take capacity))
      else
        .error .segmentationFault
          (world.fill pointer (datagram.payload.take capacity)) := by
  have received := recvmsg_eq described datagram world
  have walk := getSourceAddressLoop_receivedHeader described datagram
  have count :
      ¬ ((datagram.payload.take capacity).length : Int) < 0 := by
    omega
  rw [recvMsg, bind_ok _ received]
  simp only [count, if_false]
  by_cases found : HasPktinfo (datagram.storedControl msg.msgControllen)
  · rw [if_pos found] at walk ⊢
    have source (next : World) :
        getSourceAddress (some (receivedHeader datagram capacity msg))
            next =
          .ok datagram.source.sAddr next := by
      simp only [getSourceAddress, deref, pure_bind, walk]
      rfl
    rw [bind_ok _ (source _)]
    by_cases same : blockIp = datagram.source.sAddr
    · rw [if_pos same, decide_eq_true same]
      rfl
    · rw [if_neg same, decide_eq_false same]
      rfl
  · rw [if_neg found] at walk ⊢
    apply bind_error
    simp only [getSourceAddress, deref, pure_bind, walk]
    rfl

end Received

@[simp]
theorem recvMsg_none
    (msg : Option Msghdr) (blockIp : UInt32) (blocked : Bool)
    (world : World) :
    recvMsg none msg blockIp blocked world =
      .ok ⟨exErr, msg, blocked⟩ world := by
  cases msg <;> rfl

/-! ## When the source is classified -/

/-- The next record is a strict step towards the end of the control area,
whatever the records contain. -/
theorem wellFounded_cmsgNxthdr (msg : Msghdr) :
    WellFounded fun next cmsg => cmsgNxthdr msg cmsg = some next := by
  apply Subrelation.wf (r := (measure (msg.msgControllen - ·)).rel)
  · intro next cmsg found
    have progress := cmsgNxthdr_progress found
    simp only [sizeofCmsghdr] at progress
    show msg.msgControllen - next < msg.msgControllen - cmsg
    omega
  · exact (measure (msg.msgControllen - ·)).wf

/-- `recv_msg` returns the byte count, blocks exactly the datagrams whose
stored source is `block_ip`, and its walk over the records ends. -/
def ClassifiesSource
    (msg : Msghdr) (capacity : Nat) (datagram : Datagram)
    (blockIp : UInt32) (blocked : Bool) (world : World) : Prop :=
  ∃ result next received,
    recvMsg (some datagram) (some msg) blockIp blocked world =
        .ok result next ∧
      result.rxBytes = (min capacity datagram.payload.length : Nat) ∧
      result.msg = some received ∧
      (result.blocked = true ↔
        received.msgName.map SockaddrIn.sAddr = some blockIp) ∧
      WellFounded fun next cmsg => cmsgNxthdr received cmsg = some next

theorem classifiesSource_iff
    (described : msg.Describes pointer capacity) (datagram : Datagram)
    (blockIp : UInt32) (blocked : Bool) (world : World) :
    ClassifiesSource msg capacity datagram blockIp blocked world ↔
      HasPktinfo (datagram.storedControl msg.msgControllen) := by
  have run := recvMsg_eq described datagram blockIp blocked world
  constructor
  · intro classifies
    rcases classifies with ⟨result, next, received, returned, -⟩
    by_contra missing
    rw [if_neg missing, returned] at run
    cases run
  · intro found
    rw [if_pos found] at run
    refine ⟨_, _, _, run, ?_, rfl, ?_, wellFounded_cmsgNxthdr _⟩
    · rw [List.length_take]
    · rw [msgName_receivedHeader described]
      simp [eq_comm]

/-- For a datagram with a list of records, the stored control area has an
`IP_PKTINFO` record exactly if one of the records that fit is one. -/
theorem hasPktinfo_withRecords
    (payload : List UInt8) (source : SockaddrIn)
    (records : List ControlRecord) (space : Nat) :
    HasPktinfo
        ((Datagram.withRecords payload source records).storedControl
          space) ↔
      ∃ record ∈ fittingRecords space records,
        record.header.isPktinfo := by
  have whole :
      (Datagram.withRecords payload source records).storedControl space =
        storeRecords space records :=
    List.take_of_length_le (length_storeRecords_le space records)
  rw [whole, HasPktinfo, cmsgs_storeRecords]
  simp

theorem classifiesSource_pktinfo :
    ClassifiesSource (freshHeader 0) udpBufferLen
      (Datagram.withRecords [1, 2, 3] ⟨afInet, 0, 0x0100007F⟩
        [pktinfoRecord (CharArray.zero 12)])
      0x0100007F false (World.initial .silent) :=
  (classifiesSource_iff (describes_freshHeader 0) _ _ _ _).mpr
    ((hasPktinfo_withRecords _ _ _ _).mpr (by decide))

/-- A datagram without control records makes `recv_msg` read through
`NULL`. -/
theorem not_classifiesSource_without_records :
    ¬ ClassifiesSource (freshHeader 0) udpBufferLen
      (Datagram.withRecords [1, 2, 3] ⟨afInet, 0, 0x0100007F⟩ [])
      0x0100007F false (World.initial .silent) := by
  intro classifies
  rcases classifies with ⟨result, next, received, returned, -⟩
  have run :=
    recvMsg_eq (describes_freshHeader 0)
      (Datagram.withRecords [1, 2, 3] ⟨afInet, 0, 0x0100007F⟩ [])
      0x0100007F false (World.initial .silent)
  have missing :
      ¬ HasPktinfo
        ((Datagram.withRecords [1, 2, 3] ⟨afInet, 0, 0x0100007F⟩
          []).storedControl (freshHeader 0).msgControllen) := by
    rw [hasPktinfo_withRecords]
    decide
  rw [if_neg missing, returned] at run
  cases run

end UdpipBroadcaster
