import Mathlib.Logic.Relation

/-!
# Chains with labels

Items that each have at most one successor form chains.  If the items carry
labels and the step from an item to its successor is a step of a relation on
labels, then a label recurs on a chain only if that relation has a cycle.
-/

namespace Chains

open Relation

variable {Item Tag : Type} {child : Item → Item → Prop}
  {feeds : Tag → Tag → Prop} {label : Item → Option Tag}

/-- Below a labelled item all items are labelled, along the relation on
labels. -/
theorem label_of_transGen
    (labelled : ∀ parent item tag, child parent item →
      label parent = some tag →
        ∃ next, label item = some next ∧ feeds tag next)
    {first last : Item} {tag : Tag} (atFirst : label first = some tag)
    (descends : TransGen child first last) :
    ∃ next, label last = some next ∧ TransGen feeds tag next := by
  induction descends with
  | single step =>
      rcases labelled _ _ tag step atFirst with ⟨next, atLast, fed⟩
      exact ⟨next, atLast, .single fed⟩
  | tail _ step inductionHypothesis =>
      rcases inductionHypothesis with ⟨middle, atMiddle, path⟩
      rcases labelled _ _ middle step atMiddle with ⟨next, atLast, fed⟩
      exact ⟨next, atLast, path.tail fed⟩

/-- On a chain from one root, a label occurs at most once if the relation on
labels has no cycle. -/
theorem eq_of_label_eq
    (unique : Relator.RightUnique child)
    (labelled : ∀ parent item tag, child parent item →
      label parent = some tag →
        ∃ next, label item = some next ∧ feeds tag next)
    (acyclic : ∀ tag, ¬ TransGen feeds tag tag)
    {root first second : Item} {tag : Tag}
    (toFirst : ReflTransGen child root first)
    (toSecond : ReflTransGen child root second)
    (atFirst : label first = some tag)
    (atSecond : label second = some tag) :
    first = second := by
  have apart {left right : Item} (atLeft : label left = some tag)
      (atRight : label right = some tag)
      (path : ReflTransGen child left right) : left = right := by
    rcases reflTransGen_iff_eq_or_transGen.mp path with same | descends
    · exact same.symm
    · obtain ⟨next, atNext, cycle⟩ :=
        label_of_transGen labelled atLeft descends
      obtain rfl := Option.some.inj (atRight.symm.trans atNext)
      exact (acyclic tag cycle).elim
  rcases ReflTransGen.total_of_right_unique unique toFirst toSecond with
    down | up
  · exact apart atFirst atSecond down
  · exact (apart atSecond atFirst up).symm

/-- Two labels whose relation has neither a loop nor a step both ways have
no cycle. -/
theorem acyclic_of_two
    (two : ∀ first second third : Tag, first ≠ second → second ≠ third →
      first = third)
    (noLoop : ∀ tag, ¬ feeds tag tag)
    (oneWay : ∀ first second, feeds first second → ¬ feeds second first)
    (tag : Tag) : ¬ TransGen feeds tag tag := by
  have direct {source target : Tag} (path : TransGen feeds source target) :
      feeds source target := by
    induction path with
    | single step => exact step
    | @tail middle target _ step inductionHypothesis =>
        have differsFirst : source ≠ middle := by
          intro same
          subst same
          exact noLoop _ inductionHypothesis
        have differsSecond : middle ≠ target := by
          intro same
          subst same
          exact noLoop _ step
        have same := two source middle target differsFirst differsSecond
        subst same
        exact (oneWay _ _ inductionHypothesis step).elim
  intro cycle
  exact noLoop tag (direct cycle)

end Chains
