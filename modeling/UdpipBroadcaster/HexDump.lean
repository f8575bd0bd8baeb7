import UdpipBroadcaster.Process
import UdpipBroadcaster.Library.HexTexts

/-!
# `print_hex_data`

A dump is written byte by byte: two digits each, a colon after every byte
but the last and a line break before every full line.  It can be read back.
-/

namespace UdpipBroadcaster

open HexTexts Programs

/-! ## The function -/

def exWrongParam : Int := -32
def bytesPerLine : Nat := 5000

/-- The value of a `char`, which is signed on some machines. -/
def charValue (signed : Bool) (byte : UInt8) : Int :=
  if signed = true ∧ 128 ≤ byte.toNat then (byte.toNat : Int) - 256
  else byte.toNat

/-- The conversion of an `int` to `unsigned int`. -/
def toUInt32 (value : Int) : UInt32 :=
  UInt32.ofNat (value % 4294967296).toNat

/-- What `%02X` writes: the digits of the value, at least two. -/
def format02X (value : UInt32) : List UInt8 :=
  let digits := (Nat.digits 16 value.toNat).reverse.map hexDigit
  List.replicate (2 - digits.length) 48 ++ digits

/-- Code that only writes to the standard output. -/
abbrev Printer := EStateM Stop (List UInt8)

def logAppMsg (text : List UInt8) : Printer Unit :=
  modify (· ++ text)

/-- Read an element of an array. -/
def readChar (buffer : List UInt8) (i : Nat) : Printer UInt8 :=
  match buffer[i]? with
  | some byte => pure byte
  | none => throw .segmentationFault

/-- One turn of the loop of `print_hex_data`. -/
def printHexByte
    (signed : Bool) (buffer : List UInt8) (lastByte : Int) (i : Nat) :
    Printer Unit := do
  if i ≠ 0 ∧ i % bytesPerLine = 0 then
    -- a line break and three tabs
    logAppMsg [10, 9, 9, 9]
  let byte ← readChar buffer i
  logAppMsg (format02X (0xFF &&& toUInt32 (charValue signed byte)))
  if i < lastByte then
    logAppMsg [58]

def printHexData (signed : Bool) (buffer : List UInt8) (len : Int) :
    Printer Int := do
  -- for the least `int` this wraps, but then it is not read
  let lastByte := len - 1
  if len < 0 then
    pure exWrongParam
  else
    runAll (printHexByte signed buffer lastByte) (List.range len.toNat)
    pure exOk

/-! ## What it writes -/

theorem and_toUInt32_charValue (signed : Bool) (byte : UInt8) :
    (0xFF &&& toUInt32 (charValue signed byte)).toNat = byte.toNat := by
  have bound : byte.toNat < 256 := byte.toNat_lt
  rw [UInt32.toNat_and, Nat.and_comm]
  have mask := Nat.and_two_pow_sub_one_eq_mod
    (toUInt32 (charValue signed byte)).toNat 8
  change (toUInt32 (charValue signed byte)).toNat &&& 255 = _ at mask
  change (toUInt32 (charValue signed byte)).toNat &&& 255 = _
  rw [mask, toUInt32, UInt32.toNat_ofNat', charValue]
  split <;> omega

theorem format02X_eq_hexPair
    {value : UInt32} {byte : UInt8} (same : value.toNat = byte.toNat) :
    format02X value = hexPair byte := by
  have bound : byte.toNat < 256 := byte.toNat_lt
  rw [format02X, same, hexPair]
  by_cases small : byte.toNat < 16
  · have high : byte.toNat / 16 = 0 := Nat.div_eq_of_lt small
    rw [high, Nat.mod_eq_of_lt small]
    by_cases zero : byte.toNat = 0
    · rw [zero]
      rfl
    · rw [Nat.digits_of_lt 16 byte.toNat zero small]
      rfl
  · have highPositive : byte.toNat / 16 ≠ 0 := by omega
    have highSmall : byte.toNat / 16 < 16 := by omega
    rw [Nat.digits_def' (by decide) (by omega),
      Nat.digits_of_lt 16 _ highPositive highSmall]
    rfl

/-- The line break in front of a byte. -/
def lineBreak (i : Nat) : List UInt8 :=
  if 0 < i ∧ bytesPerLine ∣ i then [10, 9, 9, 9] else []

/-- The text between two colons. -/
def dumpToken (bytes : List UInt8) (i : Nat) : List UInt8 :=
  lineBreak i ++ hexPair (bytes.getD i 0)

/-- The dump of some bytes. -/
def dumpText (bytes : List UInt8) : List UInt8 :=
  [58].intercalate ((List.range bytes.length).map (dumpToken bytes))

private theorem logAppMsg_eq (text out : List UInt8) :
    logAppMsg text out = .ok () (out ++ text) :=
  rfl

private theorem logAppMsg_ite
    (condition : Prop) [Decidable condition] (text out : List UInt8) :
    (if condition then logAppMsg text else pure ()) out =
      .ok () (out ++ if condition then text else []) := by
  by_cases holds : condition
  · rw [if_pos holds, if_pos holds]
    rfl
  · rw [if_neg holds, if_neg holds, List.append_nil]
    rfl

private theorem readChar_eq
    {buffer : List UInt8} {i : Nat} (inside : i < buffer.length)
    (out : List UInt8) :
    readChar buffer i out = .ok (buffer.getD i 0) out := by
  have found : buffer[i]? = some (buffer.getD i 0) := by
    rw [List.getD_eq_getElem?_getD, List.getElem?_eq_getElem inside]
    rfl
  rw [readChar, found]
  rfl

/-- What a turn does after the line break. -/
private theorem digitsAndColon_eq
    (signed : Bool) {buffer : List UInt8} {count i : Nat}
    (inside : i < count) (fits : count ≤ buffer.length) (out : List UInt8) :
    (do
      let byte ← readChar buffer i
      logAppMsg (format02X (0xFF &&& toUInt32 (charValue signed byte)))
      if (i : Int) < (count : Int) - 1 then
        logAppMsg [58] : Printer Unit) out =
      .ok () (out ++ (hexPair (buffer.getD i 0) ++
        if i + 1 < count then [58] else [])) := by
  have read := readChar_eq (Nat.lt_of_lt_of_le inside fits) out
  have digits :=
    format02X_eq_hexPair (and_toUInt32_charValue signed (buffer.getD i 0))
  have notLast : (i : Int) < (count : Int) - 1 ↔ i + 1 < count := by omega
  rw [bind_ok _ read, bind_ok _ (logAppMsg_eq _ out), logAppMsg_ite, digits]
  simp only [notLast, List.append_assoc]

/-- One turn writes the line break, the digits and the colon. -/
private theorem printHexByte_eq
    (signed : Bool) {buffer : List UInt8} {count i : Nat}
    (inside : i < count) (fits : count ≤ buffer.length) (out : List UInt8) :
    printHexByte signed buffer ((count : Int) - 1) i out =
      .ok () (out ++ (dumpToken (buffer.take count) i ++
        if i + 1 < count then [58] else [])) := by
  have taken : (buffer.take count).getD i 0 = buffer.getD i 0 := by
    rw [List.getD_eq_getElem?_getD, List.getElem?_take_of_lt inside,
      List.getD_eq_getElem?_getD]
  have breaks :
      (i ≠ 0 ∧ i % bytesPerLine = 0) ↔ 0 < i ∧ bytesPerLine ∣ i := by
    rw [Nat.dvd_iff_mod_eq_zero, Nat.pos_iff_ne_zero]
  rw [printHexByte, dumpToken, taken, lineBreak]
  by_cases broken : 0 < i ∧ bytesPerLine ∣ i
  · rw [if_pos (breaks.mpr broken), if_pos broken,
      bind_ok _ (logAppMsg_eq _ out)]
    have afterBreak :=
      digitsAndColon_eq signed inside fits (out ++ [10, 9, 9, 9])
    rw [List.append_assoc] at afterBreak
    rw [List.append_assoc]
    exact afterBreak
  · rw [if_neg (mt breaks.mp broken), if_neg broken]
    exact digitsAndColon_eq signed inside fits out

/-- The whole dump, for a length that the buffer has. -/
theorem printHexData_eq
    (signed : Bool) {buffer : List UInt8} {len : Int} (positive : 0 ≤ len)
    (fits : len ≤ buffer.length) (out : List UInt8) :
    printHexData signed buffer len out =
      .ok exOk (out ++ dumpText (buffer.take len.toNat)) := by
  obtain ⟨count, rfl⟩ := Int.eq_ofNat_of_zero_le positive
  rw [Int.toNat_natCast]
  have inBuffer : count ≤ buffer.length := by omega
  have notNegative : ¬ (count : Int) < 0 := by omega
  have length : (buffer.take count).length = count :=
    List.length_take_of_le inBuffer
  have lines :
      runAll (printHexByte signed buffer ((count : Int) - 1))
          (List.range count) out =
        .ok () (out ++ dumpText (buffer.take count)) := by
    rw [dumpText, length, ← flatMap_range_separated]
    apply runAll_append
    intro i member out
    exact printHexByte_eq signed (List.mem_range.mp member) inBuffer out
  rw [printHexData]
  simp only [if_neg notNegative, Int.toNat_natCast]
  rw [bind_ok _ lines]
  rfl

/-! ## Reading a dump -/

/-- The texts between the colons; an empty text has none. -/
def splitTokens (text : List UInt8) : List (List UInt8) :=
  if text = [] then [] else text.splitOn 58

/-- The text is a dump of the bytes. -/
structure Decodes (text bytes : List UInt8) : Prop where
  tokens :
    (splitTokens (text.filter fun byte => byte ≠ 10 ∧ byte ≠ 9)).mapM
      decodePair = some bytes
  noLeadingColon : text.head? ≠ some 58
  noTrailingColon : text.getLast? ≠ some 58
  lineBreaks : ∀ i byte, bytes[i]? = some byte →
    ∃ digits, (text.splitOn 58)[i]? = some (lineBreak i ++ digits) ∧
      decodePair digits = some byte

/-- A dump can be read in one way only. -/
theorem Decodes.unique
    {text bytes other : List UInt8} (first : Decodes text bytes)
    (second : Decodes text other) : bytes = other :=
  Option.some.inj (first.tokens.symm.trans second.tokens)

/-- No digit is a colon, a line break or a tab. -/
private theorem not_mem_hexPair
    {byte digit : UInt8} (noDigit : hexValue digit = none) :
    digit ∉ hexPair byte := by
  intro member
  rcases hexValue_of_mem_hexPair member with ⟨value, isDigit⟩
  rw [noDigit] at isDigit
  cases isDigit

private theorem separable_dumpToken (bytes : List UInt8) :
    Separable 58 ((List.range bytes.length).map (dumpToken bytes)) := by
  intro token member
  rcases List.mem_map.mp member with ⟨i, -, rfl⟩
  constructor
  · simp [dumpToken, hexPair]
  · have noDigit : 58 ∉ hexPair (bytes.getD i 0) := not_mem_hexPair rfl
    have noBreak : 58 ∉ lineBreak i := by
      rw [lineBreak]
      split <;> decide
    rw [dumpToken, List.mem_append]
    exact not_or.mpr ⟨noBreak, noDigit⟩

private theorem filter_dumpToken (bytes : List UInt8) (i : Nat) :
    (dumpToken bytes i).filter (fun byte => byte ≠ 10 ∧ byte ≠ 9) =
      hexPair (bytes.getD i 0) := by
  have digits :
      (hexPair (bytes.getD i 0)).filter
          (fun byte => byte ≠ 10 ∧ byte ≠ 9) =
        hexPair (bytes.getD i 0) := by
    apply List.filter_eq_self.mpr
    intro digit member
    have notBreak : digit ≠ 10 := by
      intro same
      exact not_mem_hexPair rfl (same ▸ member)
    have notTab : digit ≠ 9 := by
      intro same
      exact not_mem_hexPair rfl (same ▸ member)
    exact decide_eq_true ⟨notBreak, notTab⟩
  have breaks :
      (lineBreak i).filter (fun byte => byte ≠ 10 ∧ byte ≠ 9) = [] := by
    rw [lineBreak]
    split <;> decide
  rw [dumpToken, List.filter_append, breaks, digits, List.nil_append]

private theorem map_range_hexPair (bytes : List UInt8) :
    (List.range bytes.length).map (fun i => hexPair (bytes.getD i 0)) =
      bytes.map hexPair := by
  apply List.ext_getElem
  · simp
  · intro i inside _
    simp at inside
    simp [inside]

theorem decodes_dumpText (bytes : List UInt8) :
    Decodes (dumpText bytes) bytes := by
  have separable := separable_dumpToken bytes
  have filtered :
      (dumpText bytes).filter (fun byte => byte ≠ 10 ∧ byte ≠ 9) =
        [58].intercalate (bytes.map hexPair) := by
    rw [dumpText, filter_intercalate (by decide), List.map_map,
      ← map_range_hexPair]
    congr 2
    funext i
    exact filter_dumpToken bytes i
  refine ⟨?_, separable.head?_ne, separable.getLast?_ne, ?_⟩
  · rw [filtered]
    cases bytes with
    | nil => rfl
    | cons byte rest =>
        have nonempty :
            [58].intercalate ((byte :: rest).map hexPair) ≠ [] := by
          intro empty
          have head := congrArg List.head? empty
          rw [List.map_cons, head?_intercalate_cons (by simp [hexPair])]
            at head
          cases head
        have split :
            ([58].intercalate ((byte :: rest).map hexPair)).splitOn 58 =
              (byte :: rest).map hexPair := by
          apply List.splitOn_intercalate
          · intro token member
            rcases List.mem_map.mp member with ⟨other, -, rfl⟩
            exact not_mem_hexPair rfl
          · simp
        rw [splitTokens, if_neg nonempty, split, mapM_decodePair]
  · intro i byte found
    rcases List.getElem?_eq_some_iff.mp found with ⟨inside, value⟩
    have split :
        (dumpText bytes).splitOn 58 =
          (List.range bytes.length).map (dumpToken bytes) := by
      apply List.splitOn_intercalate
      · exact fun token member => (separable token member).2
      · intro empty
        have none := congrArg List.length empty
        simp only [List.length_map, List.length_range,
          List.length_nil] at none
        omega
    refine ⟨hexPair byte, ?_, decodePair_hexPair byte⟩
    rw [split]
    simp [inside, dumpToken, value]

/-! ## All lengths -/

/-- Every dump of a length that the buffer has can be read back and belongs
to those bytes only; for a negative length nothing is written. -/
theorem printHexData_decodes
    (signed : Bool) (buffer : List UInt8) (len : Int)
    (fits : len ≤ buffer.length) (out : List UInt8) :
    (0 ≤ len → ∃ text,
        printHexData signed buffer len out = .ok exOk (out ++ text) ∧
          Decodes text (buffer.take len.toNat) ∧
          ∀ (otherSigned : Bool) (other : List UInt8) (otherLen : Int)
            (otherOut : List UInt8),
            0 ≤ otherLen → otherLen ≤ other.length →
            printHexData otherSigned other otherLen otherOut =
                .ok exOk (otherOut ++ text) →
              buffer.take len.toNat = other.take otherLen.toNat) ∧
      (len < 0 →
        printHexData signed buffer len out = .ok exWrongParam out) := by
  constructor
  · intro positive
    have decodes := decodes_dumpText (buffer.take len.toNat)
    refine ⟨_, printHexData_eq signed positive fits out, decodes, ?_⟩
    intro otherSigned other otherLen otherOut otherPositive otherFits
      otherDump
    rw [printHexData_eq otherSigned otherPositive otherFits] at otherDump
    have sameText :
        dumpText (other.take otherLen.toNat) =
          dumpText (buffer.take len.toNat) := by
      injection otherDump with _ texts
      exact List.append_cancel_left texts
    have otherDecodes := decodes_dumpText (other.take otherLen.toNat)
    rw [sameText] at otherDecodes
    exact decodes.unique otherDecodes
  · intro negative
    rw [printHexData]
    simp only [if_pos negative]
    rfl

theorem printHexData_decodes_twoBytes :
    ∃ text,
      printHexData true [10, 255] 2 [] = .ok exOk ([] ++ text) ∧
        Decodes text ([10, 255].take 2) := by
  obtain ⟨text, run, decodes, -⟩ :=
    (printHexData_decodes true [10, 255] 2 (by decide) []).1 (by decide)
  exact ⟨text, run, decodes⟩

/-- `0A:FF` -/
example :
    printHexData true [10, 255] 2 [] = .ok exOk [48, 65, 58, 70, 70] := by
  rfl

end UdpipBroadcaster
