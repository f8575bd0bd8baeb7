import UdpipBroadcaster.Library.ByteStrings
import UdpipBroadcaster.Library.PrintedTexts

/-!
# Printed records

A record in memory has its fields at fixed offsets, each a little-endian
number.  If its fields are printed one a line, leave no gap and have texts
that decide their values, then the text decides the bytes of the record.
-/

namespace PrintedRecords

open ByteStrings PrintedTexts

/-- A field with the text of its line. -/
structure Field where
  offset : Nat
  width : Nat
  label : List UInt8
  text : Nat → List UInt8

namespace Field

/-- The bytes of the field in a record. -/
def bytes (field : Field) (record : List UInt8) : List UInt8 :=
  (record.drop field.offset).take field.width

def value (field : Field) (record : List UInt8) : Nat :=
  fromLittleEndian (field.bytes record)

def line (field : Field) (record : List UInt8) : List UInt8 :=
  field.label ++ field.text (field.value record)

/-- The texts of the values stay on their line and are all different. -/
structure Readable (field : Field) : Prop where
  label : 10 ∉ field.label
  text : ∀ value < 256 ^ field.width, 10 ∉ field.text value
  decides : ∀ value < 256 ^ field.width, ∀ other < 256 ^ field.width,
    field.text value = field.text other → value = other

end Field

/-- The fields lie side by side, from `start` to `stop`. -/
inductive Tiles (stop : Nat) : (start : Nat) → List Field → Prop where
  | nil : Tiles stop stop []
  | cons {start : Nat} {field : Field} {rest : List Field}
      (here : field.offset = start)
      (tiles : Tiles stop (start + field.width) rest) :
      Tiles stop start (field :: rest)

variable {start stop : Nat} {fields : List Field} {field : Field}
  {record other : List UInt8}

theorem Tiles.start_le (tiles : Tiles stop start fields) : start ≤ stop := by
  induction tiles with
  | nil => exact Nat.le_refl _
  | cons _ _ inductionHypothesis =>
      exact Nat.le_trans (Nat.le_add_right _ _) inductionHypothesis

theorem Tiles.end_le
    (tiles : Tiles stop start fields) (member : field ∈ fields) :
    field.offset + field.width ≤ stop := by
  induction tiles with
  | nil => cases member
  | cons here tiles inductionHypothesis =>
      rcases List.mem_cons.mp member with rfl | later
      · rw [here]
        exact tiles.start_le
      · exact inductionHypothesis later

/-- A record behind another. -/
theorem Tiles.append
    {middle : Nat} {more : List Field} (tiles : Tiles middle start fields)
    (behind : Tiles stop middle more) : Tiles stop start (fields ++ more) := by
  induction tiles with
  | nil => exact behind
  | cons here _ inductionHypothesis => exact .cons here inductionHypothesis

/-- The record is what its fields hold, in a row. -/
theorem Tiles.take_eq
    (tiles : Tiles stop start fields) (record : List UInt8) :
    (record.drop start).take (stop - start) =
      fields.flatMap fun field => field.bytes record := by
  induction tiles with
  | nil => simp
  | @cons start field rest here tiles inductionHypothesis =>
      have far := tiles.start_le
      have split :
          stop - start = field.width + (stop - (start + field.width)) := by
        omega
      rw [split, List.take_add, List.drop_drop, inductionHypothesis,
        List.flatMap_cons, Field.bytes, here]

private theorem lt_of_mem_map_toNat
    {bytes : List UInt8} {digit : Nat}
    (member : digit ∈ bytes.map UInt8.toNat) : digit < 256 := by
  rcases List.mem_map.mp member with ⟨byte, -, rfl⟩
  exact byte.toNat_lt

theorem fromLittleEndian_lt (bytes : List UInt8) :
    fromLittleEndian bytes < 256 ^ bytes.length := by
  rw [fromLittleEndian, ← List.length_map UInt8.toNat]
  exact Nat.ofDigits_lt_base_pow_length (by decide) fun digit =>
    lt_of_mem_map_toNat

theorem fromLittleEndian_inj
    {bytes others : List UInt8} (long : bytes.length = others.length)
    (same : fromLittleEndian bytes = fromLittleEndian others) :
    bytes = others := by
  have digits :
      bytes.map UInt8.toNat = others.map UInt8.toNat :=
    Nat.ofDigits_inj_of_len_eq (by decide) (by simpa using long)
      (fun digit => lt_of_mem_map_toNat) (fun digit => lt_of_mem_map_toNat)
      same
  exact List.map_injective_iff.mpr (fun _ _ => UInt8.toNat_inj.mp) digits

theorem Field.length_bytes
    (inside : field.offset + field.width ≤ record.length) :
    (field.bytes record).length = field.width := by
  rw [Field.bytes, List.length_take, List.length_drop]
  omega

theorem Field.value_lt
    (inside : field.offset + field.width ≤ record.length) :
    field.value record < 256 ^ field.width := by
  have bound := fromLittleEndian_lt (field.bytes record)
  rwa [Field.length_bytes inside] at bound

/-- The field of a record that agrees up to its end. -/
theorem Field.bytes_take
    (inside : field.offset + field.width ≤ stop) :
    field.bytes (record.take stop) = field.bytes record := by
  rw [Field.bytes, Field.bytes, List.drop_take, List.take_take,
    Nat.min_eq_left (by omega)]

theorem Field.Readable.newline_not_mem_line
    (readable : field.Readable)
    (inside : field.offset + field.width ≤ record.length) :
    10 ∉ field.line record := by
  rw [Field.line, List.mem_append, not_or]
  exact ⟨readable.label, readable.text _ (Field.value_lt inside)⟩

theorem Field.Readable.line_inj
    (readable : field.Readable)
    (inside : field.offset + field.width ≤ record.length)
    (insideOther : field.offset + field.width ≤ other.length)
    (same : field.line record = field.line other) :
    field.bytes record = field.bytes other := by
  have values :=
    readable.decides _ (Field.value_lt inside) _
      (Field.value_lt insideOther) (List.append_cancel_left same)
  apply fromLittleEndian_inj _ values
  rw [Field.length_bytes inside, Field.length_bytes insideOther]

/-- Two records print alike exactly if they have the same bytes. -/
theorem lines_eq_iff
    (tiles : Tiles stop 0 fields)
    (readable : ∀ field ∈ fields, field.Readable)
    (long : stop ≤ record.length) (otherLong : stop ≤ other.length) :
    (fields.flatMap fun field => field.line record ++ [10]) =
        (fields.flatMap fun field => field.line other ++ [10]) ↔
      record.take stop = other.take stop := by
  have unbroken (record : List UInt8) (long : stop ≤ record.length) :
      ∀ line ∈ fields.map (Field.line · record), 10 ∉ line := by
    intro line member
    rcases List.mem_map.mp member with ⟨field, listed, rfl⟩
    exact (readable field listed).newline_not_mem_line
      (Nat.le_trans (tiles.end_le listed) long)
  have lines (record : List UInt8) :
      (fields.flatMap fun field => field.line record ++ [10]) =
        (fields.map (Field.line · record)).flatMap (· ++ [10]) := by
    rw [List.flatMap_map]
  have rows (record : List UInt8) :
      record.take stop =
        fields.flatMap fun field => field.bytes record :=
    tiles.take_eq record
  constructor
  · intro same
    rw [lines, lines] at same
    have each :=
      List.map_inj_left.mp
        (lines_inj (unbroken _ long) (unbroken _ otherLong) same)
    rw [rows, rows]
    apply List.flatMap_congr
    intro field listed
    have inside := tiles.end_le listed
    exact (readable field listed).line_inj (Nat.le_trans inside long)
      (Nat.le_trans inside otherLong) (each field listed)
  · intro same
    apply List.flatMap_congr
    intro field listed
    have inside := tiles.end_le listed
    rw [Field.line, Field.line, Field.value, Field.value,
      ← Field.bytes_take inside, same, Field.bytes_take inside]

end PrintedRecords
