import UdpipBroadcaster.HexDump
import UdpipBroadcaster.Library.PrintedRecords

/-!
# `__NEC__gnbtpapi_udp_msg.c`

The headers of the NEC interface are printed field by field.  No field is
left out or printed ambiguously, so that the text decides the header.
-/

namespace UdpipBroadcaster

open HexTexts PrintedRecords PrintedTexts Programs

/-! ## The functions -/

/-- The conversions in the format strings. -/
inductive Conversion where
  | hex
  | decimal

/-- What `%.2X` and `%d` write for an unsigned member of at most 32 bits. -/
def Conversion.text : Conversion → Nat → List UInt8
  | hex, value => format02X (UInt32.ofNat value)
  | decimal, value => signedText 1 ((value : Int).bmod (2 ^ 32))

/-- A member of a header with the label in its format string. -/
def headerField
    (offset width : Nat) (label : String) (conversion : Conversion) :
    Field :=
  ⟨offset, width, utf8 label, conversion.text⟩

/-- The members of `__NEC__gnbtpapi_basic_header_t` -/
def necBasicHeader : List Field :=
  [headerField 0 1 "\t* header_type = " .hex,
    headerField 1 1 "\t* header_subtype = " .hex,
    headerField 2 1 "\t* hop_limit = " .decimal,
    headerField 3 1 "\t* flags = " .hex,
    headerField 4 2 "\t* payload_length = " .decimal,
    headerField 6 1 "\t* traffic_class = " .hex,
    headerField 7 1 "\t* btp_type = " .hex]

/-- The members that `__NEC__gnbtpapi_extended_header_t` adds. -/
def necExtension : List Field :=
  [headerField 8 4 "\t* repetition_interval = " .decimal,
    headerField 12 4 "\t* max_lifetime = " .decimal]

/-- One call of `printf`.  A member behind the end of the buffer cannot be
read. -/
def printField (buffer : List UInt8) (field : Field) : Printer Unit :=
  if field.offset + field.width ≤ buffer.length then
    logAppMsg (field.line buffer ++ utf8 "\n")
  else
    throw .segmentationFault

def printNecBasicHeader (buffer : List UInt8) : Printer Unit :=
  runAll (printField buffer) necBasicHeader

def printNecExtendedHeader (buffer : List UInt8) : Printer Unit := do
  printNecBasicHeader buffer
  runAll (printField buffer) necExtension

/-! ## What they write -/

private theorem format02X_ofNat {value : Nat} (small : value < 256) :
    format02X (UInt32.ofNat value) = hexPair (UInt8.ofNat value) := by
  apply format02X_eq_hexPair
  rw [UInt32.toNat_ofNat', UInt8.toNat_ofNat']
  omega

theorem readable_hex
    (offset : Nat) {label : String} (unbroken : 10 ∉ utf8 label) :
    (headerField offset 1 label .hex).Readable where
  label := unbroken
  text := by
    intro value small member
    have digits : 10 ∈ hexPair (UInt8.ofNat value) := by
      rw [← format02X_ofNat small]
      exact member
    rcases hexValue_of_mem_hexPair digits with ⟨digit, isDigit⟩
    cases isDigit
  decides := by
    intro value small other otherSmall same
    have pairs :
        hexPair (UInt8.ofNat value) = hexPair (UInt8.ofNat other) := by
      rw [← format02X_ofNat small, ← format02X_ofNat otherSmall]
      exact same
    have bytes := congrArg decodePair pairs
    rw [decodePair_hexPair, decodePair_hexPair, Option.some.injEq,
      ← UInt8.toNat_inj, UInt8.toNat_ofNat', UInt8.toNat_ofNat'] at bytes
    have bound : 256 ^ 1 = 256 := rfl
    simp only [headerField, bound] at small otherSmall
    omega

theorem readable_decimal
    (offset : Nat) {width : Nat} {label : String} (unbroken : 10 ∉ utf8 label)
    (narrow : width ≤ 4) :
    (headerField offset width label .decimal).Readable where
  label := unbroken
  text := fun value _ => newline_not_mem_signedText 1 _
  decides := by
    intro value small other otherSmall same
    have wide : 256 ^ width ≤ 2 ^ 32 :=
      Nat.pow_le_pow_right (n := 256) (by decide) narrow
    have residues := signedText_injective 1 same
    have congruent :
        (value : Int).bmod (2 ^ 32) % ((2 ^ 32 : Nat) : Int) =
          (other : Int).bmod (2 ^ 32) % ((2 ^ 32 : Nat) : Int) := by
      rw [residues]
    rw [Int.bmod_emod, Int.bmod_emod] at congruent
    simp only [headerField] at small otherSmall
    omega

theorem readable_of_mem
    {field : Field} (member : field ∈ necBasicHeader ++ necExtension) :
    field.Readable := by
  simp only [necBasicHeader, necExtension, List.cons_append,
    List.nil_append, List.mem_cons, List.not_mem_nil, or_false] at member
  rcases member with
    rfl | rfl | rfl | rfl | rfl | rfl | rfl | rfl | rfl
  · exact readable_hex _ (by decide)
  · exact readable_hex _ (by decide)
  · exact readable_decimal _ (by decide) (by decide)
  · exact readable_hex _ (by decide)
  · exact readable_decimal _ (by decide) (by decide)
  · exact readable_hex _ (by decide)
  · exact readable_hex _ (by decide)
  · exact readable_decimal _ (by decide) (by decide)
  · exact readable_decimal _ (by decide) (by decide)

theorem tiles_necBasicHeader : Tiles 8 0 necBasicHeader :=
  .cons rfl <| .cons rfl <| .cons rfl <| .cons rfl <| .cons rfl <|
    .cons rfl <| .cons rfl .nil

theorem tiles_necExtension : Tiles 16 8 necExtension :=
  .cons rfl <| .cons rfl .nil

/-- Fields inside the buffer are printed one a line. -/
theorem runAll_printField
    {fields : List Field} {start stop : Nat} {buffer : List UInt8}
    (tiles : Tiles stop start fields) (long : stop ≤ buffer.length)
    (out : List UInt8) :
    runAll (printField buffer) fields out =
      .ok () (out ++ fields.flatMap fun field =>
        field.line buffer ++ [10]) := by
  apply runAll_append
  intro field member written
  have inside := Nat.le_trans (tiles.end_le member) long
  have newline : utf8 "\n" = [10] := by decide
  rw [printField, if_pos inside, newline]
  rfl

theorem printNecExtendedHeader_eq
    {buffer : List UInt8} (long : 16 ≤ buffer.length) (out : List UInt8) :
    printNecExtendedHeader buffer out =
      .ok () (out ++ (necBasicHeader ++ necExtension).flatMap fun field =>
        field.line buffer ++ [10]) := by
  have basic :=
    runAll_printField tiles_necBasicHeader
      (Nat.le_trans (by decide) long) out
  rw [printNecExtendedHeader, printNecBasicHeader, bind_ok _ basic,
    runAll_printField tiles_necExtension long, List.flatMap_append,
    List.append_assoc]

/-- The text of a header decides the header: two buffers print alike exactly
if the bytes of the header are the same. -/
theorem printNecExtendedHeader_eq_iff
    {buffer other : List UInt8} (long : 16 ≤ buffer.length)
    (otherLong : 16 ≤ other.length) (out : List UInt8) :
    printNecExtendedHeader buffer out = printNecExtendedHeader other out ↔
      buffer.take 16 = other.take 16 := by
  have tiles : Tiles 16 0 (necBasicHeader ++ necExtension) :=
    tiles_necBasicHeader.append tiles_necExtension
  rw [printNecExtendedHeader_eq long, printNecExtendedHeader_eq otherLong,
    EStateM.Result.ok.injEq, List.append_cancel_left_eq,
    lines_eq_iff tiles (fun _ => readable_of_mem) long otherLong]
  exact and_iff_right rfl

/-- A lifetime of `2 ^ 31` is printed as a negative number, but not like any
other lifetime. -/
theorem printNecExtendedHeader_eq_iff_largeLifetime :
    printNecExtendedHeader (List.replicate 16 0) [] ≠
      printNecExtendedHeader (List.replicate 15 0 ++ [128]) [] :=
  (printNecExtendedHeader_eq_iff (by decide) (by decide) []).not.mpr
    (by decide)

end UdpipBroadcaster
