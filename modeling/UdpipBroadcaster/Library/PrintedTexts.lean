import Mathlib.Algebra.Group.Nat.Defs
import Mathlib.Data.List.Basic

/-!
# Printed texts

Decimal numerals as `%d` writes them, with or without a precision, and the
number they denote.  A text that was put together from parts decides the
parts if each of them ends where a byte follows that it does not hold.
-/

namespace PrintedTexts

/-- The bytes of a text. -/
def utf8 (text : String) : List UInt8 :=
  text.toUTF8.data.toList

/-- The bytes of characters in ASCII. -/
def ascii (text : List Char) : List UInt8 :=
  text.map Char.toUInt8

theorem utf8_append (text more : String) :
    utf8 (text ++ more) = utf8 text ++ utf8 more :=
  ByteArray.toList_data_append

private theorem toList_loop
    (bytes : ByteArray) (index : Nat) (before : List UInt8) :
    ByteArray.toList.loop bytes index before =
      before.reverse ++ bytes.data.toList.drop index := by
  induction remaining : bytes.size - index generalizing index before with
  | zero =>
      have past : ¬ index < bytes.size := by omega
      have empty : bytes.data.toList.drop index = [] := by
        rw [List.drop_eq_nil_iff, Array.length_toList]
        exact Nat.le_of_not_lt past
      rw [ByteArray.toList.loop, if_neg past, empty, List.append_nil]
  | succ remaining inductionHypothesis =>
      have inside : index < bytes.size := by omega
      have listed : index < bytes.data.toList.length := inside
      have byte : bytes.get! index = bytes.data.toList[index] := by
        have inData : index < bytes.data.size := inside
        show bytes.data[index]! = _
        rw [getElem!_pos bytes.data index inData, Array.getElem_toList]
      rw [ByteArray.toList.loop, if_pos inside,
        inductionHypothesis _ _ (by omega),
        List.drop_eq_getElem_cons listed, byte]
      simp

/-- The list of the bytes, read off one by one. -/
theorem toList_toUTF8 (text : String) : text.toUTF8.toList = utf8 text :=
  toList_loop text.toUTF8 0 []

/-! ## Decimal numerals -/

def IsDigit (byte : UInt8) : Prop :=
  48 ≤ byte.toNat ∧ byte.toNat ≤ 57

/-- The digits of a number, without leading zeros. -/
def digits (value : Nat) : List UInt8 :=
  ascii (Nat.toDigits 10 value)

/-- The number that a string of digits denotes. -/
def digitsValue (text : List UInt8) : Nat :=
  text.foldl (fun value digit => 10 * value + (digit.toNat - 48)) 0

private theorem toNat_toUInt8
    {char : Char} (digit : char.isDigit = true) :
    char.toUInt8.toNat = char.toNat ∧ 48 ≤ char.toNat ∧
      char.toNat ≤ 57 := by
  simp only [Char.isDigit, Bool.and_eq_true, decide_eq_true_eq,
    UInt32.le_iff_toNat_le] at digit
  have low : 48 ≤ char.toNat := digit.1
  have high : char.toNat ≤ 57 := digit.2
  refine ⟨?_, low, high⟩
  have narrowed : char.toUInt8.toNat = char.toNat % 256 :=
    UInt32.toNat_toUInt8 char.val
  omega

private theorem isDigit_of_mem_toDigits
    {value : Nat} {char : Char} (member : char ∈ Nat.toDigits 10 value) :
    char.isDigit = true :=
  Nat.isDigit_of_mem_toDigits (by decide) (by decide) member

theorem isDigit_of_mem_digits
    {value : Nat} {byte : UInt8} (member : byte ∈ digits value) :
    IsDigit byte := by
  rcases List.mem_map.mp member with ⟨char, listed, rfl⟩
  rcases toNat_toUInt8 (isDigit_of_mem_toDigits listed) with
    ⟨same, low, high⟩
  rw [IsDigit, same]
  exact ⟨low, high⟩

theorem digits_ne_nil (value : Nat) : digits value ≠ [] := by
  simp [digits, ascii]

private theorem utf8_ofList
    {text : List Char} (each : ∀ char ∈ text, char.isDigit = true) :
    utf8 (String.ofList text) = ascii text := by
  rw [utf8, String.toUTF8_eq_toByteArray, String.toByteArray_ofList]
  induction text with
  | nil => simp [ascii]
  | cons char rest inductionHypothesis =>
      have digit := toNat_toUInt8 (each char (by simp))
      have short : char.utf8Size = 1 := by
        rw [Char.utf8Size_eq_one_iff, UInt32.le_iff_toNat_le]
        exact Nat.le_trans digit.2.2 (by decide)
      have tail :=
        inductionHypothesis fun other member => each other (by simp [member])
      rw [List.utf8Encode_cons, List.utf8Encode_singleton,
        ByteArray.toList_data_append, tail,
        String.utf8EncodeChar_eq_singleton short, ascii, ascii,
        List.map_cons]
      simp

theorem utf8_repr (value : Nat) : utf8 value.repr = digits value := by
  rw [Nat.repr_eq_ofList_toDigits, digits]
  exact utf8_ofList fun char => isDigit_of_mem_toDigits

/-- A number below `10 ^ count` has at most `count` digits. -/
theorem length_digits_le_iff
    {value count : Nat} (positive : 0 < count) :
    (digits value).length ≤ count ↔ value < 10 ^ count := by
  rw [digits, ascii, List.length_map]
  exact Nat.length_toDigits_le_iff (by decide) positive

private theorem foldl_ascii
    {text : List Char} (each : ∀ char ∈ text, char.isDigit = true)
    (start : Nat) :
    (ascii text).foldl
        (fun value digit => 10 * value + (digit.toNat - 48)) start =
      Nat.ofDigitChars 10 text start := by
  induction text generalizing start with
  | nil => rfl
  | cons char rest inductionHypothesis =>
      have first := (toNat_toUInt8 (each char (by simp))).1
      have tail :=
        inductionHypothesis fun other member => each other (by simp [member])
      rw [ascii, List.map_cons, List.foldl_cons, first,
        Nat.ofDigitChars_cons]
      exact tail _

/-- The digits of a number denote it, also behind leading zeros. -/
theorem digitsValue_zeros_digits (count value : Nat) :
    digitsValue (List.replicate count 48 ++ digits value) = value := by
  have zeros :
      (List.replicate count (48 : UInt8)).foldl
        (fun value digit => 10 * value + (digit.toNat - 48)) 0 = 0 := by
    induction count with
    | zero => rfl
    | succ count inductionHypothesis =>
        rw [List.replicate_succ, List.foldl_cons]
        exact inductionHypothesis
  rw [digitsValue, List.foldl_append, zeros, digits,
    foldl_ascii fun char => isDigit_of_mem_toDigits]
  exact Nat.ofDigitChars_ten_toDigits

theorem digitsValue_digits (value : Nat) :
    digitsValue (digits value) = value :=
  digitsValue_zeros_digits 0 value

/-- What `%.<precision>d` writes, for a positive precision; `%d` has the
precision one. -/
def signedText (precision : Nat) (value : Int) : List UInt8 :=
  (if value < 0 then [45] else []) ++
    (List.replicate (precision - (digits value.natAbs).length) 48 ++
      digits value.natAbs)

private theorem no_padding (value : Nat) : 1 - (digits value).length = 0 := by
  have positive := List.length_pos_iff.mpr (digits_ne_nil value)
  omega

theorem signedText_natCast (value : Nat) :
    signedText 1 (value : Int) = digits value := by
  have notNegative : ¬ (value : Int) < 0 := by omega
  rw [signedText, if_neg notNegative, Int.natAbs_natCast, no_padding]
  rfl

/-- `%d` writes the decimal representation. -/
theorem utf8_toString (value : Int) :
    utf8 (toString value) = signedText 1 value := by
  cases value with
  | ofNat number => exact (utf8_repr number).trans (signedText_natCast _).symm
  | negSucc number =>
      have negative := Int.negSucc_lt_zero number
      have text :
          utf8 (toString (Int.negSucc number)) =
            utf8 "-" ++ utf8 (number + 1).repr :=
        utf8_append _ _
      rw [signedText, if_pos negative, Int.natAbs_negSucc, no_padding, text,
        utf8_repr]
      rfl

/-- The number that digits behind an optional hyphen denote. -/
def signedValue (text : List UInt8) : Int :=
  if text.head? = some 45 then -(digitsValue text.tail : Int)
  else digitsValue text

private theorem isDigit_of_mem_padded
    {precision value : Nat} {byte : UInt8}
    (member : byte ∈ List.replicate precision 48 ++ digits value) :
    IsDigit byte := by
  rcases List.mem_append.mp member with zero | digit
  · rw [List.eq_of_mem_replicate zero]
    exact ⟨by decide, by decide⟩
  · exact isDigit_of_mem_digits digit

theorem signedValue_signedText (precision : Nat) (value : Int) :
    signedValue (signedText precision value) = value := by
  rw [signedText, signedValue]
  by_cases negative : value < 0
  · rw [if_pos negative, List.singleton_append, List.head?_cons,
      if_pos rfl, List.tail_cons, digitsValue_zeros_digits]
    omega
  · rw [if_neg negative, List.nil_append, if_neg,
      digitsValue_zeros_digits]
    · omega
    · intro hyphen
      have digit :=
        isDigit_of_mem_padded (List.mem_of_mem_head? hyphen)
      exact absurd digit.1 (by decide)

theorem digits_injective : Function.Injective digits :=
  Function.LeftInverse.injective digitsValue_digits

theorem signedText_injective (precision : Nat) :
    Function.Injective (signedText precision) := by
  intro value other same
  rw [← signedValue_signedText precision value, same,
    signedValue_signedText]

theorem mem_signedText
    {precision : Nat} {value : Int} {byte : UInt8}
    (member : byte ∈ signedText precision value) :
    byte = 45 ∨ IsDigit byte := by
  rcases List.mem_append.mp member with sign | digit
  · split at sign
    · exact .inl (List.mem_singleton.mp sign)
    · cases sign
  · exact .inr (isDigit_of_mem_padded digit)

/-- A numeral does not end a line. -/
theorem newline_not_mem_signedText (precision : Nat) (value : Int) :
    10 ∉ signedText precision value := by
  intro member
  rcases mem_signedText member with hyphen | digit
  · exact absurd hyphen (by decide)
  · exact absurd digit.1 (by decide)

/-! ## Parts of a text -/

section Parts

variable {α : Type}

/-- Two texts that end at the first `stop`. -/
theorem append_cons_inj
    {stop : α} {left right rest other : List α}
    (notLeft : stop ∉ left) (notRight : stop ∉ right)
    (same : left ++ stop :: rest = right ++ stop :: other) :
    left = right ∧ rest = other := by
  induction left generalizing right with
  | nil =>
      cases right with
      | nil => exact ⟨rfl, (List.cons.inj same).2⟩
      | cons first more =>
          have here : stop = first := (List.cons.inj same).1
          exact (notRight (by simp [here])).elim
  | cons first more inductionHypothesis =>
      cases right with
      | nil =>
          have here : first = stop := (List.cons.inj same).1
          exact (notLeft (by simp [here])).elim
      | cons second others =>
          rcases List.cons.inj same with ⟨rfl, tails⟩
          rcases inductionHypothesis
              (fun member => notLeft (List.mem_cons_of_mem _ member))
              (fun member => notRight (List.mem_cons_of_mem _ member))
              tails with ⟨rfl, rests⟩
          exact ⟨rfl, rests⟩

/-- Lines, each ended by `stop`, with whatever follows them in a text of such
lines. -/
theorem lines_begin
    {stop : α} {lines others : List (List α)} {rest : List α}
    (inside : ∀ line ∈ lines, stop ∉ line)
    (insideOther : ∀ line ∈ others, stop ∉ line)
    (same : lines.flatMap (· ++ [stop]) ++ rest =
      others.flatMap (· ++ [stop])) :
    lines <+: others := by
  induction lines generalizing others with
  | nil => exact List.nil_prefix
  | cons line lines inductionHypothesis =>
      cases others with
      | nil => simp at same
      | cons other more =>
          simp only [List.flatMap_cons, List.append_assoc,
            List.singleton_append] at same
          rcases append_cons_inj (inside line (by simp))
              (insideOther other (by simp)) same with ⟨rfl, tails⟩
          rw [List.cons_prefix_cons]
          exact ⟨rfl, inductionHypothesis
            (fun later member => inside later (by simp [member]))
            (fun later member => insideOther later (by simp [member]))
            tails⟩

/-- Lines, each ended by `stop`, are decided by the text they make. -/
theorem lines_inj
    {stop : α} {lines others : List (List α)}
    (inside : ∀ line ∈ lines, stop ∉ line)
    (insideOther : ∀ line ∈ others, stop ∉ line)
    (same : lines.flatMap (· ++ [stop]) = others.flatMap (· ++ [stop])) :
    lines = others := by
  have begins : lines <+: others :=
    lines_begin inside insideOther ((List.append_nil _).trans same)
  have covers : others <+: lines :=
    lines_begin insideOther inside ((List.append_nil _).trans same.symm)
  exact begins.eq_of_length_le covers.length_le

/-- Lines that begin with a mark, in front of a text that does not. -/
theorem marked_lines_inj
    {stop mark : α} {lines others : List (List α)} {rest more : List α}
    (marked : ∀ line ∈ lines, line.head? = some mark ∧ stop ∉ line)
    (markedOther : ∀ line ∈ others, line.head? = some mark ∧ stop ∉ line)
    (bare : rest.head? ≠ some mark) (bareOther : more.head? ≠ some mark)
    (same : lines.flatMap (· ++ [stop]) ++ rest =
      others.flatMap (· ++ [stop]) ++ more) :
    lines = others ∧ rest = more := by
  have first (line : List α) (lines : List (List α)) (rest : List α)
      (starts : line.head? = some mark) :
      ((line :: lines).flatMap (· ++ [stop]) ++ rest).head? =
        some mark := by
    cases line with
    | nil => cases starts
    | cons char chars => exact starts
  induction lines generalizing others with
  | nil =>
      cases others with
      | nil => exact ⟨rfl, same⟩
      | cons other others =>
          have starts := first other others more (markedOther other (by simp)).1
          rw [← same] at starts
          exact (bare starts).elim
  | cons line lines inductionHypothesis =>
      cases others with
      | nil =>
          have starts := first line lines rest (marked line (by simp)).1
          rw [same] at starts
          exact (bareOther starts).elim
      | cons other others =>
          simp only [List.flatMap_cons, List.append_assoc,
            List.singleton_append] at same
          rcases append_cons_inj (marked line (by simp)).2
              (markedOther other (by simp)).2 same with ⟨rfl, tails⟩
          rcases inductionHypothesis
              (fun later member => marked later (by simp [member]))
              (fun later member => markedOther later (by simp [member]))
              tails with ⟨rfl, rests⟩
          exact ⟨rfl, rests⟩

/-- A text that ends at a `stop` may hold others, if it is no longer than
what follows up to the next one. -/
theorem append_stop_inj
    {stop : α} {left right next other : List α} {rest more : List α}
    (notNext : stop ∉ next) (notOther : stop ∉ other)
    (shortLeft : left.length ≤ other.length)
    (shortRight : right.length ≤ next.length)
    (same : left ++ stop :: (next ++ rest) =
      right ++ stop :: (other ++ more)) :
    left = right ∧ next ++ rest = other ++ more := by
  have longer {left right next other : List α} {rest more : List α}
      (notNext : stop ∉ next) (shortRight : right.length ≤ next.length)
      (same : left ++ stop :: (next ++ rest) =
        right ++ stop :: (other ++ more)) :
      ¬ left.length < right.length := by
    intro shorter
    have here := congrArg (·[right.length]?) same
    simp only [List.getElem?_append_right (Nat.le_refl _), Nat.sub_self,
      List.getElem?_cons_zero,
      List.getElem?_append_right (Nat.le_of_lt shorter)] at here
    obtain ⟨index, place⟩ :
        ∃ index, right.length - left.length = index + 1 :=
      ⟨right.length - left.length - 1, by omega⟩
    rw [place, List.getElem?_cons_succ,
      List.getElem?_append_left (by omega)] at here
    exact notNext (List.mem_of_getElem? here)
  have sameLength : left.length = right.length := by
    have one := longer notNext shortRight same
    have two := longer notOther shortLeft same.symm
    omega
  rcases List.append_inj same sameLength with ⟨texts, tails⟩
  exact ⟨texts, (List.cons.inj tails).2⟩

/-- Texts that decide their items decide the list of the items. -/
theorem map_inj_of_mem
    {β : Type} {text : α → β} {items others : List α}
    (decides : ∀ item ∈ items, ∀ other ∈ others,
      text item = text other → item = other)
    (same : items.map text = others.map text) : items = others := by
  induction items generalizing others with
  | nil => exact (List.map_eq_nil_iff.mp same.symm).symm
  | cons item rest inductionHypothesis =>
      cases others with
      | nil => cases same
      | cons other more =>
          rcases List.cons.inj same with ⟨heads, tails⟩
          rw [decides item (by simp) other (by simp) heads,
            inductionHypothesis
              (fun later member next nextMember =>
                decides later (by simp [member]) next (by simp [nextMember]))
              tails]

/-- The same for the items at the front of a list. -/
theorem map_prefix_of_mem
    {β : Type} {text : α → β} {items others : List α}
    (decides : ∀ item ∈ items, ∀ other ∈ others,
      text item = text other → item = other)
    (begins : items.map text <+: others.map text) : items <+: others := by
  rw [List.prefix_iff_eq_take, List.length_map, ← List.map_take] at begins
  have front : items = others.take items.length :=
    map_inj_of_mem
      (fun item member other taken =>
        decides item member other (List.mem_of_mem_take taken))
      begins
  rw [front]
  exact List.take_prefix _ _

end Parts

/-- The label begins with neither a digit nor a hyphen, so that a numeral in
front of it ends there. -/
def endsNumeral (label : List UInt8) : Bool :=
  label.head?.any fun stop => stop ≠ 45 ∧ (stop < 48 ∨ 57 < stop)

/-- A numeral in front of a label. -/
theorem signedText_append_inj
    {label : List UInt8} (ends : endsNumeral label = true)
    {precision : Nat} {value otherValue : Int} {rest other : List UInt8}
    (same : signedText precision value ++ (label ++ rest) =
      signedText precision otherValue ++ (label ++ other)) :
    value = otherValue ∧ rest = other := by
  cases label with
  | nil => cases ends
  | cons stop more =>
      simp only [endsNumeral, List.head?_cons, Option.any_some,
        decide_eq_true_eq, UInt8.lt_iff_toNat_lt] at ends
      rcases ends with ⟨noHyphen, noDigit⟩
      have outside (value : Int) : stop ∉ signedText precision value := by
        intro member
        rcases mem_signedText member with hyphen | ⟨low, high⟩
        · exact noHyphen hyphen
        · have fortyEight : (48 : UInt8).toNat = 48 := rfl
          have fiftySeven : (57 : UInt8).toNat = 57 := rfl
          omega
      rcases append_cons_inj (outside value) (outside otherValue) same with
        ⟨texts, rests⟩
      exact ⟨signedText_injective precision texts,
        List.append_cancel_left rests⟩

end PrintedTexts
