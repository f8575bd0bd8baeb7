import UdpipBroadcaster.Library.Programs

/-!
# What programs leave alone

A program keeps a part of the state if that part is the same at the end of
every run, whether the run returned or stopped.  A guard on the part says in
which states this is asked for; as the part is kept, so is the guard.
-/

namespace Frames

open Programs

variable {ε σ α β ι ω : Type}

/-- Runs from guarded states end with the same part. -/
def Keeps
    (guard : ω → Prop) (part : σ → ω) (program : EStateM ε σ α) : Prop :=
  ∀ state, guard (part state) →
    part (finalState (program state)) = part state

variable {guard : ω → Prop} {part : σ → ω}

theorem keeps_pure (value : α) :
    Keeps guard part (pure value : EStateM ε σ α) :=
  fun _ _ => rfl

theorem keeps_throw (reason : ε) :
    Keeps guard part (throw reason : EStateM ε σ α) :=
  fun _ _ => rfl

theorem keeps_modify {f : σ → σ} (same : ∀ state, part (f state) = part state) :
    Keeps guard part (modify f : EStateM ε σ PUnit) :=
  fun state _ => same state

theorem Keeps.bind
    {first : EStateM ε σ α} {rest : α → EStateM ε σ β}
    (kept : Keeps guard part first)
    (keptRest : ∀ value, Keeps guard part (rest value)) :
    Keeps guard part (first >>= rest) := by
  intro state holds
  have afterFirst := kept state holds
  cases result : first state with
  | ok value next =>
      rw [result, finalState_ok] at afterFirst
      rw [bind_ok rest result, ← afterFirst]
      exact keptRest value next (by rwa [afterFirst])
  | error reason next =>
      rw [result, finalState_error] at afterFirst
      rw [bind_error rest result]
      exact afterFirst

/-- The rest may look at the state it starts from. -/
theorem keeps_get_bind
    {rest : σ → EStateM ε σ β}
    (kept : ∀ state, guard (part state) →
      part (finalState (rest state state)) = part state) :
    Keeps guard part ((get : EStateM ε σ σ) >>= rest) := by
  intro state holds
  rw [get_bind]
  exact kept state holds

theorem Keeps.ite
    {condition : Prop} [Decidable condition] {yes no : EStateM ε σ α}
    (keptYes : Keeps guard part yes) (keptNo : Keeps guard part no) :
    Keeps guard part (if condition then yes else no) := by
  split
  · exact keptYes
  · exact keptNo

/-- What each step keeps, a run keeps. -/
theorem Keeps.runAll
    {step : ι → EStateM ε σ Unit} {items : List ι}
    (kept : ∀ item ∈ items, Keeps guard part (step item)) :
    Keeps guard part (runAll step items) := by
  induction items with
  | nil => exact keeps_pure ()
  | cons item rest inductionHypothesis =>
      have keptFirst := kept item (by simp)
      have keptRest :=
        inductionHypothesis
          fun later member => kept later (by simp [member])
      exact keptFirst.bind fun _ => keptRest

/-- Two kinds of steps that do the same in guarded states have the same
runs, if the guarded part is kept. -/
theorem runAll_eq_of_keeps
    {step other : ι → EStateM ε σ Unit} {items : List ι} {state : σ}
    (kept : ∀ item ∈ items, Keeps guard part (step item))
    (same : ∀ item ∈ items, ∀ before, guard (part before) →
      step item before = other item before)
    (holds : guard (part state)) :
    Programs.runAll step items state = Programs.runAll other items state := by
  induction items generalizing state with
  | nil => rfl
  | cons item rest inductionHypothesis =>
      have first := same item (by simp) state holds
      cases result : step item state with
      | ok value next =>
          have afterFirst := kept item (by simp) state holds
          rw [result, finalState_ok] at afterFirst
          rw [runAll_cons_ok result, runAll_cons_ok (first.symm.trans result)]
          exact inductionHypothesis
            (fun later member => kept later (by simp [member]))
            (fun later member => same later (by simp [member]))
            (by rwa [afterFirst])
      | error reason next =>
          rw [runAll_cons_error result,
            runAll_cons_error (first.symm.trans result)]

/-- A change of one item does not show if what is looked at stays. -/
theorem map_modify_eq
    {list : List ι} {index : Nat} {change : ι → ι} {look : ι → ω}
    (same : ∀ item, list[index]? = some item →
      look (change item) = look item) :
    (list.modify index change).map look = list.map look := by
  apply List.ext_getElem?
  intro place
  simp only [List.getElem?_map, List.getElem?_modify]
  by_cases here : index = place
  · cases found : list[place]? with
    | none => simp [here]
    | some item =>
        rw [← here] at found
        simp [here, same item found]
  · simp [here]

/-- Changes of an item that agree on it change the list in one way. -/
theorem modify_eq_modify
    {list : List ι} {index : Nat} {item : ι} {change other : ι → ι}
    (found : list[index]? = some item) (same : change item = other item) :
    list.modify index change = list.modify index other := by
  apply List.ext_getElem?
  intro place
  simp only [List.getElem?_modify]
  by_cases here : index = place
  · rw [← here, found]
    simp [same]
  · simp [here]

end Frames
