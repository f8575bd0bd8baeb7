import UdpipBroadcaster.Structures

/-!
# Control records

The control part of a received message: the layout of a record, the macros
`CMSG_FIRSTHDR` and `CMSG_NXTHDR` of the C library, and what the kernel
stores for a list of records.
-/

namespace UdpipBroadcaster

open ByteStrings

/-! ## Records in a buffer -/

/-- `struct cmsghdr` on a 64-bit machine.  Level and type are kept as the
unsigned numbers of their four bytes. -/
structure Cmsghdr where
  cmsgLen : Nat
  cmsgLevel : Nat
  cmsgType : Nat
  deriving DecidableEq

def sizeofCmsghdr : Nat := 16

def cmsgAlign (len : Nat) : Nat := (len + 7) / 8 * 8

namespace Cmsghdr

/-- The record header at the front of the given bytes. -/
def read (bytes : List UInt8) : Cmsghdr where
  cmsgLen := fromLittleEndian (bytes.take 8)
  cmsgLevel := fromLittleEndian ((bytes.drop 8).take 4)
  cmsgType := fromLittleEndian ((bytes.drop 12).take 4)

/-- The record is one `get_source_address` does not skip. -/
def isPktinfo (cmsg : Cmsghdr) : Bool :=
  cmsg.cmsgLevel = ipprotoIp && cmsg.cmsgType = ipPktinfo

/-- Only the bytes of the header itself are read. -/
theorem read_take
    (bytes : List UInt8) {count : Nat} (whole : sizeofCmsghdr ≤ count) :
    read (bytes.take count) = read bytes := by
  have long : 16 ≤ count := whole
  simp only [read, List.drop_take, List.take_take]
  congr 3 <;> omega

end Cmsghdr

/-- `CMSG_FIRSTHDR`, as an offset into the control buffer -/
def cmsgFirsthdr (msg : Msghdr) : Option Nat :=
  if msg.msgControllen < sizeofCmsghdr then none else some 0

/-- `CMSG_NXTHDR`, as an offset into the control buffer.  There is no next
record if the length of this one is below the size of a header, or if this
one and a further header do not fit in what remains. -/
def cmsgNxthdr (msg : Msghdr) (cmsg : Nat) : Option Nat :=
  let cmsgLen := (Cmsghdr.read (msg.msgControl.drop cmsg)).cmsgLen
  let remaining := msg.msgControllen - cmsg
  if cmsgLen < sizeofCmsghdr then none
  else if remaining < cmsgAlign cmsgLen + sizeofCmsghdr then none
  else some (cmsg + cmsgAlign cmsgLen)

theorem cmsgNxthdr_progress
    {msg : Msghdr} {cmsg next : Nat}
    (found : cmsgNxthdr msg cmsg = some next) :
    cmsg < next ∧ next + sizeofCmsghdr ≤ msg.msgControllen := by
  simp only [cmsgNxthdr] at found
  split at found
  · cases found
  · split at found
    · cases found
    · cases found
      simp only [cmsgAlign, sizeofCmsghdr] at *
      omega

/-- The headers of the records in a control area, in order. -/
def cmsgs (control : List UInt8) : List Cmsghdr :=
  if control.length < sizeofCmsghdr then []
  else if (Cmsghdr.read control).cmsgLen < sizeofCmsghdr then
    [Cmsghdr.read control]
  else
    Cmsghdr.read control ::
      cmsgs (control.drop (cmsgAlign (Cmsghdr.read control).cmsgLen))
termination_by control.length
decreasing_by
  rename_i room whole
  simp only [List.length_drop, cmsgAlign]
  simp only [sizeofCmsghdr] at room whole
  omega

/-! ## Records as the kernel stores them -/

/-- A control record before it is stored. -/
structure ControlRecord where
  level : Nat
  type : Nat
  data : List UInt8
  level_lt : level < 2 ^ 32
  type_lt : type < 2 ^ 32
  length_lt : sizeofCmsghdr + data.length < 2 ^ 64

namespace ControlRecord

/-- The header of the record. -/
def header (record : ControlRecord) : Cmsghdr where
  cmsgLen := sizeofCmsghdr + record.data.length
  cmsgLevel := record.level
  cmsgType := record.type

/-- The bytes of the record, without padding. -/
def bytes (record : ControlRecord) : List UInt8 :=
  littleEndian 8 record.header.cmsgLen ++ littleEndian 4 record.level ++
    littleEndian 4 record.type ++ record.data

@[simp]
theorem length_bytes (record : ControlRecord) :
    record.bytes.length = record.header.cmsgLen := by
  simp [bytes, header, sizeofCmsghdr]
  omega

/-- A stored record reads back as its header. -/
theorem read_bytes_append
    (record : ControlRecord) (rest : List UInt8) :
    Cmsghdr.read (record.bytes ++ rest) = record.header := by
  have lenRead :
      fromLittleEndian (littleEndian 8 record.header.cmsgLen) =
        record.header.cmsgLen :=
    fromLittleEndian_littleEndian_of_lt record.length_lt
  have levelRead :
      fromLittleEndian (littleEndian 4 record.level) = record.level :=
    fromLittleEndian_littleEndian_of_lt record.level_lt
  have typeRead :
      fromLittleEndian (littleEndian 4 record.type) = record.type :=
    fromLittleEndian_littleEndian_of_lt record.type_lt
  have lenBytes :
      (record.bytes ++ rest).take 8 =
        littleEndian 8 record.header.cmsgLen := by
    simp [bytes]
  have levelBytes :
      ((record.bytes ++ rest).drop 8).take 4 =
        littleEndian 4 record.level := by
    simp [bytes]
  have typeBytes :
      ((record.bytes ++ rest).drop 12).take 4 =
        littleEndian 4 record.type := by
    simp [bytes, List.drop_append, List.take_append]
  simp only [Cmsghdr.read, lenBytes, levelBytes, typeBytes, lenRead,
    levelRead, typeRead]
  rfl

end ControlRecord

/-- The `IP_PKTINFO` record, which holds a `struct in_pktinfo`. -/
def pktinfoRecord (info : CharArray 12) : ControlRecord where
  level := ipprotoIp
  type := ipPktinfo
  data := info.bytes
  level_lt := by decide
  type_lt := by decide
  length_lt := by
    rw [info.length_bytes]
    decide

/-- The part of `space` a stored record takes: its length with padding, or
all that is left. -/
def usedSpace (space : Nat) (record : ControlRecord) : Nat :=
  min (cmsgAlign record.header.cmsgLen) space

/-- The records stored in a control buffer of `space` bytes: in order, up to
the first that does not fit. -/
def fittingRecords : Nat → List ControlRecord → List ControlRecord
  | _, [] => []
  | space, record :: rest =>
      if record.header.cmsgLen ≤ space then
        record :: fittingRecords (space - usedSpace space record) rest
      else []

/-- The bytes the kernel stores for a list of records in a control buffer of
`space` bytes. -/
def storeRecords : Nat → List ControlRecord → List UInt8
  | _, [] => []
  | space, record :: rest =>
      if record.header.cmsgLen ≤ space then
        record.bytes ++
          List.replicate
            (usedSpace space record - record.header.cmsgLen) 0 ++
          storeRecords (space - usedSpace space record) rest
      else []

theorem sizeofCmsghdr_le (record : ControlRecord) :
    sizeofCmsghdr ≤ record.header.cmsgLen := by
  simp [ControlRecord.header]

theorem length_storeRecords_le (space : Nat) (records : List ControlRecord) :
    (storeRecords space records).length ≤ space := by
  induction records generalizing space with
  | nil =>
      simp [storeRecords]
  | cons record rest inductionHypothesis =>
      rw [storeRecords]
      split
      · have tail := inductionHypothesis (space - usedSpace space record)
        have used : record.header.cmsgLen ≤ usedSpace space record := by
          simp only [usedSpace, cmsgAlign]
          omega
        have room : usedSpace space record ≤ space :=
          Nat.min_le_right _ _
        simp only [List.length_append, List.length_replicate,
          ControlRecord.length_bytes]
        omega
      · simp

private theorem storeRecords_zero (records : List ControlRecord) :
    storeRecords 0 records = [] :=
  List.eq_nil_of_length_eq_zero
    (Nat.le_zero.mp (length_storeRecords_le 0 records))

private theorem fittingRecords_zero (records : List ControlRecord) :
    fittingRecords 0 records = [] := by
  cases records with
  | nil => rfl
  | cons record rest =>
      have long := sizeofCmsghdr_le record
      rw [fittingRecords, if_neg]
      simp only [sizeofCmsghdr] at long
      omega

theorem cmsgs_nil : cmsgs [] = [] := by
  rw [cmsgs]
  rfl

/-- The macros visit exactly the records the kernel stored. -/
theorem cmsgs_storeRecords (space : Nat) (records : List ControlRecord) :
    cmsgs (storeRecords space records) =
      (fittingRecords space records).map ControlRecord.header := by
  induction records generalizing space with
  | nil =>
      exact cmsgs_nil
  | cons record rest inductionHypothesis =>
      rw [storeRecords, fittingRecords]
      by_cases fits : record.header.cmsgLen ≤ space
      · rw [if_pos fits, if_pos fits, List.append_assoc]
        have long := sizeofCmsghdr_le record
        have header :=
          record.read_bytes_append
            (List.replicate
                (usedSpace space record - record.header.cmsgLen) 0 ++
              storeRecords (space - usedSpace space record) rest)
        rw [cmsgs, header, if_neg (by simp; omega), if_neg (by omega),
          List.map_cons]
        congr 1
        by_cases aligned : cmsgAlign record.header.cmsgLen ≤ space
        · -- The padding is complete, so the next record starts after it.
          have used :
              usedSpace space record = cmsgAlign record.header.cmsgLen :=
            Nat.min_eq_left aligned
          have padded :
              record.header.cmsgLen ≤ cmsgAlign record.header.cmsgLen := by
            simp only [cmsgAlign]
            omega
          rw [← inductionHypothesis, used, ← List.append_assoc,
            List.drop_left']
          simp only [List.length_append, List.length_replicate,
            ControlRecord.length_bytes]
          omega
        · -- The buffer ends in the padding, and nothing is stored after it.
          have used : usedSpace space record = space :=
            Nat.min_eq_right (by omega)
          rw [used, Nat.sub_self, storeRecords_zero, fittingRecords_zero,
            List.drop_eq_nil_of_le, cmsgs_nil]
          · rfl
          · simp only [List.length_append, List.length_replicate,
              ControlRecord.length_bytes, List.length_nil]
            omega
      · rw [if_neg fits, if_neg fits]
        exact cmsgs_nil

end UdpipBroadcaster
