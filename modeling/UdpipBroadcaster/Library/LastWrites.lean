import Mathlib.Data.List.Basic

/-!
# Folds in which the last write wins

Each item of a list writes some fields of a state.  A field that an item
either sets to a value of its own or leaves alone holds, after the whole
list, the value of the last item that set it.
-/

namespace LastWrites

variable {State Item β : Type} {write : State → Item → State}

/-- `select item` is the value the item gives to the field, if it sets it. -/
theorem field_foldl
    (field : State → β) (select : Item → Option β)
    (step : ∀ state item,
      field (write state item) = (select item).getD (field state))
    (items : List Item) (state : State) :
    field (items.foldl write state) =
      ((items.filterMap select).getLast?).getD (field state) := by
  induction items generalizing state with
  | nil => rfl
  | cons item rest inductionHypothesis =>
      rw [List.foldl_cons, inductionHypothesis, step]
      cases selected : select item with
      | none =>
          rw [List.filterMap_cons_none selected]
          rfl
      | some value =>
          rw [List.filterMap_cons_some selected, List.getLast?_cons]
          rfl

/-- A field that no item sets. -/
theorem field_foldl_of_untouched
    (field : State → β)
    (untouched : ∀ state item, field (write state item) = field state)
    (items : List Item) (state : State) :
    field (items.foldl write state) = field state := by
  induction items generalizing state with
  | nil => rfl
  | cons item rest inductionHypothesis =>
      rw [List.foldl_cons, inductionHypothesis, untouched]

/-- A flag that some items raise and none lowers. -/
theorem flag_foldl
    (flag : State → Bool) (raises : Item → Prop)
    (step : ∀ state item,
      flag (write state item) = true ↔ flag state = true ∨ raises item)
    (items : List Item) (state : State) :
    flag (items.foldl write state) = true ↔
      flag state = true ∨ ∃ item ∈ items, raises item := by
  induction items generalizing state with
  | nil => simp
  | cons item rest inductionHypothesis =>
      rw [List.foldl_cons, inductionHypothesis, step, or_assoc]
      simp

end LastWrites
