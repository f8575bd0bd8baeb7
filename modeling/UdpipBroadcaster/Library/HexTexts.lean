import Mathlib.Data.List.Basic
import Mathlib.Data.Nat.Digits.Defs

/-!
# Hexadecimal texts

Bytes as pairs of upper-case hexadecimal digits, in ASCII, and lists of
texts joined by a separator.
-/

namespace HexTexts

/-! ## Pairs of digits -/

/-- The upper-case digit for a value below sixteen. -/
def hexDigit (value : Nat) : UInt8 :=
  if value < 10 then UInt8.ofNat (48 + value) else UInt8.ofNat (55 + value)

/-- The value of an upper-case digit. -/
def hexValue (digit : UInt8) : Option Nat :=
  if 48 ≤ digit ∧ digit ≤ 57 then some (digit.toNat - 48)
  else if 65 ≤ digit ∧ digit ≤ 70 then some (digit.toNat - 55)
  else none

theorem hexValue_hexDigit {value : Nat} (small : value < 16) :
    hexValue (hexDigit value) = some value := by
  have all : ∀ value < 16, hexValue (hexDigit value) = some value := by
    decide
  exact all value small

/-- The two digits of a byte. -/
def hexPair (byte : UInt8) : List UInt8 :=
  [hexDigit (byte.toNat / 16), hexDigit (byte.toNat % 16)]

/-- The byte that two digits denote. -/
def decodePair : List UInt8 → Option UInt8
  | [high, low] => do
      let high ← hexValue high
      let low ← hexValue low
      some (UInt8.ofNat (16 * high + low))
  | _ => none

theorem hexValue_of_mem_hexPair
    {byte digit : UInt8} (member : digit ∈ hexPair byte) :
    ∃ value, hexValue digit = some value := by
  have bound : byte.toNat < 256 := byte.toNat_lt
  simp only [hexPair, List.mem_cons, List.not_mem_nil, or_false] at member
  rcases member with high | low
  · exact ⟨_, high ▸ hexValue_hexDigit (by omega)⟩
  · exact ⟨_, low ▸ hexValue_hexDigit (by omega)⟩

@[simp]
theorem decodePair_hexPair (byte : UInt8) :
    decodePair (hexPair byte) = some byte := by
  have bound : byte.toNat < 256 := byte.toNat_lt
  have high : byte.toNat / 16 < 16 := by omega
  have low : byte.toNat % 16 < 16 := Nat.mod_lt _ (by decide)
  have whole : 16 * (byte.toNat / 16) + byte.toNat % 16 = byte.toNat :=
    Nat.div_add_mod _ _
  simp only [decodePair, hexPair, hexValue_hexDigit high,
    hexValue_hexDigit low, Option.bind_eq_bind, Option.bind_some, whole,
    UInt8.ofNat_toNat]

theorem mapM_decodePair (bytes : List UInt8) :
    (bytes.map hexPair).mapM decodePair = some bytes := by
  induction bytes with
  | nil => rfl
  | cons byte rest inductionHypothesis =>
      rw [List.map_cons, List.mapM_cons, inductionHypothesis,
        decodePair_hexPair]
      rfl

/-! ## Numerals -/

/-- What `%.<precision>X` writes, for a positive precision. -/
def hexText (precision value : Nat) : List UInt8 :=
  let digits := (Nat.digits 16 value).reverse.map hexDigit
  List.replicate (precision - digits.length) (hexDigit 0) ++ digits

theorem hexValue_of_mem_hexText
    {precision value : Nat} {digit : UInt8}
    (member : digit ∈ hexText precision value) :
    ∃ number, hexValue digit = some number := by
  rcases List.mem_append.mp member with zero | listed
  · rw [List.eq_of_mem_replicate zero]
    exact ⟨0, hexValue_hexDigit (by decide)⟩
  · rcases List.mem_map.mp listed with ⟨number, isDigit, rfl⟩
    have small : number < 16 :=
      Nat.digits_lt_base (by decide) (List.mem_reverse.mp isDigit)
    exact ⟨number, hexValue_hexDigit small⟩

/-! ## Separators -/

section Separators

variable {α : Type} {separator : α}

theorem intercalate_append_singleton
    (front : List (List α)) (last : List α) :
    [separator].intercalate (front ++ [last]) =
      front.flatMap (· ++ [separator]) ++ last := by
  induction front with
  | nil => simp
  | cons head rest inductionHypothesis =>
      have nonempty : rest ++ [last] ≠ [] := by simp
      rw [List.cons_append, List.intercalate_cons_of_ne_nil nonempty,
        inductionHypothesis]
      simp

/-- A separator after every token but the last. -/
theorem flatMap_range_separated (token : Nat → List α) (count : Nat) :
    ((List.range count).flatMap fun index =>
        token index ++ if index + 1 < count then [separator] else []) =
      [separator].intercalate ((List.range count).map token) := by
  cases count with
  | zero => rfl
  | succ count =>
      rw [List.range_succ, List.map_append, List.map_singleton,
        intercalate_append_singleton, List.flatMap_append,
        List.flatMap_map]
      congr 1
      · apply List.flatMap_congr
        intro index member
        have before : index + 1 < count + 1 := by
          have := List.mem_range.mp member
          omega
        rw [if_pos before]
      · simp

theorem filter_intercalate
    {keep : α → Bool} (kept : keep separator = true)
    (tokens : List (List α)) :
    ([separator].intercalate tokens).filter keep =
      [separator].intercalate (tokens.map (List.filter keep)) := by
  induction tokens with
  | nil => rfl
  | cons first rest inductionHypothesis =>
      cases rest with
      | nil => simp
      | cons second later =>
          rw [List.intercalate_cons_cons, List.map_cons, List.map_cons,
            List.intercalate_cons_cons, ← List.map_cons,
            ← inductionHypothesis]
          simp [kept]

theorem mem_of_mem_intercalate
    {item : α} {tokens : List (List α)}
    (member : item ∈ [separator].intercalate tokens) :
    item = separator ∨ ∃ token ∈ tokens, item ∈ token := by
  induction tokens with
  | nil => simp at member
  | cons first rest inductionHypothesis =>
      cases rest with
      | nil =>
          rw [List.intercalate_singleton] at member
          exact .inr ⟨first, by simp, member⟩
      | cons second later =>
          rw [List.intercalate_cons_cons, List.mem_append,
            List.mem_append, List.mem_singleton] at member
          rcases member with (inFirst | same) | tail
          · exact .inr ⟨first, by simp, inFirst⟩
          · exact .inl same
          · rcases inductionHypothesis tail with same | ⟨token, listed, holds⟩
            · exact .inl same
            · exact .inr ⟨token, List.mem_cons_of_mem _ listed, holds⟩

/-- Texts without the separator, none of them empty. -/
def Separable (separator : α) (tokens : List (List α)) : Prop :=
  ∀ token ∈ tokens, token ≠ [] ∧ separator ∉ token

theorem head?_intercalate_cons
    {token : List α} (nonempty : token ≠ []) (rest : List (List α)) :
    ([separator].intercalate (token :: rest)).head? = token.head? := by
  cases rest with
  | nil => rw [List.intercalate_singleton]
  | cons second others =>
      rw [List.intercalate_cons_cons, List.append_assoc,
        List.head?_append_of_ne_nil token nonempty]

theorem Separable.head?_ne
    {tokens : List (List α)} (separable : Separable separator tokens) :
    ([separator].intercalate tokens).head? ≠ some separator := by
  cases tokens with
  | nil => simp
  | cons token rest =>
      rcases separable token (by simp) with ⟨nonempty, free⟩
      rw [head?_intercalate_cons nonempty]
      intro first
      exact free (List.mem_of_mem_head? first)

theorem Separable.getLast?_ne
    {tokens : List (List α)} (separable : Separable separator tokens) :
    ([separator].intercalate tokens).getLast? ≠ some separator := by
  rcases List.eq_nil_or_concat tokens with empty | ⟨front, token, split⟩
  · rw [empty]
    simp
  · rw [split, List.concat_eq_append] at separable ⊢
    rcases separable token (by simp) with ⟨nonempty, free⟩
    have last := List.getLast?_eq_some_getLast nonempty
    rw [intercalate_append_singleton, List.getLast?_append, last]
    intro same
    have member := List.getLast_mem nonempty
    rw [Option.some.inj same] at member
    exact free member

end Separators

end HexTexts
