import UdpipBroadcaster.Library.Programs

/-!
# Interleavings of independent steps

Every item belongs to a class, and steps of different classes can be
exchanged.  Two sequences in which each class has the same items in the same
order then have the same runs, up to an equivalence of states.
-/

namespace Interleavings

open Programs

variable {ε σ ι κ : Type}

/-- Each class has the same items in the same order in both sequences. -/
def SameOrder [DecidableEq κ] (cls : ι → κ) (items other : List ι) : Prop :=
  ∀ tag, items.filter (cls · = tag) = other.filter (cls · = tag)

/-- Equivalent states allow the same steps, and steps of different classes
can be exchanged. -/
structure Exchangeable
    (cls : ι → κ) (step : ι → EStateM ε σ Unit) (same : σ → σ → Prop) :
    Prop where
  refl : ∀ state, same state state
  trans : ∀ first second third,
    same first second → same second third → same first third
  congr : ∀ item before other after, same before other →
    step item before = .ok () after →
      ∃ otherAfter, step item other = .ok () otherAfter ∧
        same after otherAfter
  exchange : ∀ first second, cls first ≠ cls second →
    ∀ state middle last, step first state = .ok () middle →
      step second middle = .ok () last →
        ∃ otherMiddle otherLast, step second state = .ok () otherMiddle ∧
          step first otherMiddle = .ok () otherLast ∧ same last otherLast

variable {cls : ι → κ} {step : ι → EStateM ε σ Unit} {same : σ → σ → Prop}

namespace Exchangeable

variable (exchangeable : Exchangeable cls step same)
include exchangeable

/-- Equivalent states allow the same runs. -/
theorem runAll_congr
    {items : List ι} {state other last : σ} (related : same state other)
    (returned : runAll step items state = .ok () last) :
    ∃ otherLast, runAll step items other = .ok () otherLast ∧
      same last otherLast := by
  induction items generalizing state other with
  | nil =>
      cases returned
      exact ⟨other, rfl, related⟩
  | cons item rest inductionHypothesis =>
      rcases runAll_cons_eq_ok returned with ⟨next, first, remaining⟩
      obtain ⟨otherNext, otherFirst, relatedNext⟩ :=
        exchangeable.congr item state other next related first
      rw [runAll_cons_ok otherFirst]
      exact inductionHypothesis relatedNext remaining

/-- An item that none of the items before it shares its class with can be
moved to the front. -/
theorem runAll_moved
    {front rest : List ι} {item : ι} {state last : σ}
    (apart : ∀ earlier ∈ front, cls earlier ≠ cls item)
    (returned : runAll step (front ++ item :: rest) state = .ok () last) :
    ∃ otherLast,
      runAll step (item :: (front ++ rest)) state = .ok () otherLast ∧
        same last otherLast := by
  induction front generalizing state with
  | nil => exact ⟨last, returned, exchangeable.refl last⟩
  | cons earlier front inductionHypothesis =>
      rcases runAll_cons_eq_ok returned with ⟨next, first, remaining⟩
      obtain ⟨moved, movedRun, relatedMoved⟩ :=
        inductionHypothesis
          (fun other member => apart other (by simp [member])) remaining
      rcases runAll_cons_eq_ok movedRun with ⟨middle, second, tail⟩
      obtain ⟨otherNext, otherMiddle, otherFirst, otherSecond, related⟩ :=
        exchangeable.exchange earlier item (apart earlier (by simp)) state
          next middle first second
      obtain ⟨otherLast, otherTail, relatedLast⟩ :=
        exchangeable.runAll_congr related tail
      refine ⟨otherLast, ?_, exchangeable.trans _ _ _ relatedMoved
        relatedLast⟩
      rw [runAll_cons_ok otherFirst, List.cons_append,
        runAll_cons_ok otherSecond]
      exact otherTail

/-- Sequences with the same order in each class have the same runs. -/
theorem runAll_interleaved
    [DecidableEq κ] {items other : List ι} {state last : σ}
    (order : SameOrder cls items other)
    (returned : runAll step items state = .ok () last) :
    ∃ otherLast, runAll step other state = .ok () otherLast ∧
      same last otherLast := by
  induction other generalizing items state last with
  | nil =>
      have empty : items = [] := by
        apply List.eq_nil_iff_forall_not_mem.mpr
        intro item member
        have kept : item ∈ items.filter (cls · = cls item) := by
          simp [member]
        rw [order (cls item)] at kept
        cases kept
      subst empty
      exact ⟨last, returned, exchangeable.refl last⟩
  | cons item rest inductionHypothesis =>
      have first := order (cls item)
      rw [List.filter_cons_of_pos (by simp)] at first
      obtain ⟨front, back, rfl, apart, -, later⟩ :=
        List.filter_eq_cons_iff.mp first
      have apartClass : ∀ earlier ∈ front, cls earlier ≠ cls item := by
        intro earlier member
        simpa using apart earlier member
      obtain ⟨moved, movedRun, relatedMoved⟩ :=
        exchangeable.runAll_moved apartClass returned
      rcases runAll_cons_eq_ok movedRun with ⟨next, stepped, remaining⟩
      have orderRest : SameOrder cls (front ++ back) rest := by
        intro tag
        have whole := order tag
        rw [List.filter_append] at whole ⊢
        by_cases here : cls item = tag
        · subst here
          have nothing : front.filter (cls · = cls item) = [] := by
            simpa using apartClass
          rw [nothing, List.nil_append, later]
        · rw [List.filter_cons_of_neg (by simpa using here),
            List.filter_cons_of_neg (by simpa using here)] at whole
          exact whole
      obtain ⟨otherLast, otherRun, related⟩ :=
        inductionHypothesis orderRest remaining
      refine ⟨otherLast, ?_, exchangeable.trans _ _ _ relatedMoved related⟩
      rw [runAll_cons_ok stepped]
      exact otherRun

end Exchangeable

end Interleavings
