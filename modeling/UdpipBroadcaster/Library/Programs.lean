import Mathlib.Logic.Basic

/-!
# Programs that may stop early

A program here reads and writes a state and either returns a value or stops
for a reason (an exit, a fault, a wait that never ends).  The module gives
the weakest-precondition rules for such programs and the rules for running
one program for every item of a list.
-/

namespace Programs

variable {ε σ α β ι : Type}

/-- The state a run ends in, whether it returned or stopped. -/
def finalState : EStateM.Result ε σ α → σ
  | .ok _ state => state
  | .error _ state => state

@[simp]
theorem finalState_ok (value : α) (state : σ) :
    finalState (.ok value state : EStateM.Result ε σ α) = state :=
  rfl

@[simp]
theorem finalState_error (reason : ε) (state : σ) :
    finalState (.error reason state : EStateM.Result ε σ α) = state :=
  rfl

/-! ## Runs of a sequence of programs -/

section Sequence

variable {state next : σ}

theorem bind_ok
    {first : EStateM ε σ α} {value : α} (rest : α → EStateM ε σ β)
    (returned : first state = .ok value next) :
    (first >>= rest) state = rest value next := by
  simp only [bind, EStateM.bind, returned]

theorem bind_error
    {first : EStateM ε σ α} {reason : ε} (rest : α → EStateM ε σ β)
    (stopped : first state = .error reason next) :
    (first >>= rest) state = .error reason next := by
  simp only [bind, EStateM.bind, stopped]

theorem get_bind (rest : σ → EStateM ε σ β) :
    ((get : EStateM ε σ σ) >>= rest) state = rest state state :=
  bind_ok rest rfl

end Sequence

/-! ## Results that are known -/

theorem ofExcept_bind (first : Except ε α) (rest : α → Except ε β) :
    (ofExcept (first >>= rest) : EStateM ε σ β) =
      ofExcept first >>= fun value => ofExcept (rest value) := by
  cases first <;> rfl

theorem ofExcept_foldlM
    (step : α → ι → Except ε α) (items : List ι) (value : α) :
    (ofExcept (items.foldlM step value) : EStateM ε σ α) =
      items.foldlM (fun value item => ofExcept (step value item)) value := by
  induction items generalizing value with
  | nil => rfl
  | cons item rest inductionHypothesis =>
      rw [List.foldlM_cons, List.foldlM_cons, ofExcept_bind]
      congr 1
      funext next
      exact inductionHypothesis next

/-! ## Weakest preconditions -/

/-- From `state` the program either returns with `post`, or stops for a
reason that `stops` allows. -/
def wp
    (stops : ε → Prop) (program : EStateM ε σ α)
    (post : α → σ → Prop) (state : σ) : Prop :=
  match program state with
  | .ok value next => post value next
  | .error reason _ => stops reason

section WeakestPrecondition

variable {stops : ε → Prop} {state : σ}

@[simp]
theorem wp_pure (value : α) (post : α → σ → Prop) :
    wp stops (pure value : EStateM ε σ α) post state ↔
      post value state :=
  Iff.rfl

@[simp]
theorem wp_bind
    (first : EStateM ε σ α) (rest : α → EStateM ε σ β)
    (post : β → σ → Prop) :
    wp stops (first >>= rest) post state ↔
      wp stops first (fun value next => wp stops (rest value) post next)
        state := by
  simp only [wp, bind, EStateM.bind]
  cases first state <;> rfl

@[simp]
theorem wp_get (post : σ → σ → Prop) :
    wp stops (get : EStateM ε σ σ) post state ↔ post state state :=
  Iff.rfl

@[simp]
theorem wp_set (next : σ) (post : PUnit → σ → Prop) :
    wp stops (set next : EStateM ε σ PUnit) post state ↔
      post ⟨⟩ next :=
  Iff.rfl

@[simp]
theorem wp_modify (f : σ → σ) (post : PUnit → σ → Prop) :
    wp stops (modify f : EStateM ε σ PUnit) post state ↔
      post ⟨⟩ (f state) :=
  Iff.rfl

@[simp]
theorem wp_throw (reason : ε) (post : α → σ → Prop) :
    wp stops (throw reason : EStateM ε σ α) post state ↔
      stops reason :=
  Iff.rfl

@[simp]
theorem wp_ite
    (condition : Prop) [Decidable condition]
    (yes no : EStateM ε σ α) (post : α → σ → Prop) :
    wp stops (if condition then yes else no) post state ↔
      (condition → wp stops yes post state) ∧
        (¬ condition → wp stops no post state) := by
  by_cases holds : condition <;> simp [holds]

/-- More reasons to stop may be allowed. -/
theorem wp_weaken
    {more : ε → Prop} {program : EStateM ε σ α} {post : α → σ → Prop}
    (implies : ∀ reason, stops reason → more reason)
    (run : wp stops program post state) :
    wp more program post state := by
  simp only [wp] at run ⊢
  cases result : program state with
  | ok value next =>
      rw [result] at run
      exact run
  | error reason next =>
      rw [result] at run
      exact implies reason run

/-- A program that returned satisfies what its precondition promised. -/
theorem post_of_returned
    {program : EStateM ε σ α} {post : α → σ → Prop}
    {value : α} {next : σ}
    (run : wp stops program post state)
    (returned : program state = .ok value next) :
    post value next := by
  simpa only [wp, returned] using run

/-- A program none of whose reasons to stop can hold returns. -/
theorem returns_of_wp
    {program : EStateM ε σ α} {post : α → σ → Prop}
    (run : wp stops program post state)
    (noReason : ∀ reason, ¬ stops reason) :
    ∃ value next, program state = .ok value next ∧ post value next := by
  simp only [wp] at run
  cases result : program state with
  | ok value next =>
      rw [result] at run
      exact ⟨value, next, rfl, run⟩
  | error reason next =>
      rw [result] at run
      exact (noReason reason run).elim

end WeakestPrecondition

/-! ## One program for every item of a list -/

/-- Run `step` for the items in order, up to the first that stops. -/
def runAll (step : ι → EStateM ε σ Unit) : List ι → EStateM ε σ Unit
  | [] => pure ()
  | item :: rest => do
      step item
      runAll step rest

variable {step : ι → EStateM ε σ Unit}

@[simp]
theorem runAll_nil (state : σ) :
    runAll step [] state = .ok () state :=
  rfl

theorem runAll_cons_ok
    {item : ι} {rest : List ι} {state next : σ}
    (returned : step item state = .ok () next) :
    runAll step (item :: rest) state = runAll step rest next :=
  bind_ok _ returned

theorem runAll_cons_error
    {item : ι} {rest : List ι} {state next : σ} {reason : ε}
    (stopped : step item state = .error reason next) :
    runAll step (item :: rest) state = .error reason next :=
  bind_error _ stopped

theorem runAll_cons_eq_ok
    {item : ι} {rest : List ι} {state last : σ}
    (returned : runAll step (item :: rest) state = .ok () last) :
    ∃ next, step item state = .ok () next ∧
      runAll step rest next = .ok () last := by
  cases result : step item state with
  | ok value next =>
      exact ⟨next, rfl, by rwa [runAll_cons_ok result] at returned⟩
  | error reason next =>
      rw [runAll_cons_error result] at returned
      cases returned

/-- What every returning step preserves, a returning run preserves. -/
theorem runAll_invariant
    {invariant : σ → Prop} {items : List ι} {state last : σ}
    (preserved : ∀ item ∈ items, ∀ before after,
      invariant before → step item before = .ok () after →
        invariant after)
    (initially : invariant state)
    (returned : runAll step items state = .ok () last) :
    invariant last := by
  induction items generalizing state with
  | nil =>
      cases returned
      exact initially
  | cons item rest inductionHypothesis =>
      rcases runAll_cons_eq_ok returned with ⟨next, first, remaining⟩
      have afterFirst : invariant next :=
        preserved item (by simp) state next initially first
      exact inductionHypothesis
        (fun later member => preserved later (by simp [member]))
        afterFirst remaining

/-- An invariant of the returning steps, with a property that every step
establishes of the state it leaves, even when it stops, gives the property
of the final state of any run. -/
theorem runAll_finalState
    {invariant property : σ → Prop} {items : List ι} {state : σ}
    (weakens : ∀ before, invariant before → property before)
    (preserved : ∀ item ∈ items, ∀ before, invariant before →
      (∃ after, step item before = .ok () after ∧ invariant after) ∨
        ∃ reason after,
          step item before = .error reason after ∧ property after)
    (initially : invariant state) :
    property (finalState (runAll step items state)) := by
  induction items generalizing state with
  | nil =>
      exact weakens state initially
  | cons item rest inductionHypothesis =>
      rcases preserved item (by simp) state initially with
        ⟨next, returned, kept⟩ | ⟨reason, next, stopped, holds⟩
      · rw [runAll_cons_ok returned]
        exact inductionHypothesis
          (fun later member => preserved later (by simp [member])) kept
      · rw [runAll_cons_error stopped]
        exact holds

/-- Steps that append to the state append their pieces in order. -/
theorem runAll_append
    {β : Type} {write : ι → EStateM ε (List β) Unit} {piece : ι → List β}
    {items : List ι}
    (writes : ∀ item ∈ items, ∀ out,
      write item out = .ok () (out ++ piece item))
    (out : List β) :
    runAll write items out = .ok () (out ++ items.flatMap piece) := by
  induction items generalizing out with
  | nil => simp
  | cons item rest inductionHypothesis =>
      have tail :=
        inductionHypothesis
          fun later member => writes later (by simp [member])
      rw [runAll_cons_ok (writes item (by simp) out), tail]
      simp

/-! ## Two machines that take the same steps -/

variable {τ : Type}

/-- Two results agree: both returned, in related states, or both stopped for
one reason, in states related in a weaker way. -/
def Agree (related stopped : σ → τ → Prop) :
    EStateM.Result ε σ Unit → EStateM.Result ε τ Unit → Prop
  | .ok _ state, .ok _ model => related state model
  | .error reason state, .error modelReason model =>
      reason = modelReason ∧ stopped state model
  | _, _ => False

section Agreement

variable {related stopped : σ → τ → Prop} {modelStep : ι → EStateM ε τ Unit}

/-- Machines whose single steps agree have runs that agree. -/
theorem runAll_agree
    {items : List ι} {state : σ} {model : τ}
    (agrees : ∀ item ∈ items, ∀ before modelBefore,
      related before modelBefore →
        Agree related stopped (step item before)
          (modelStep item modelBefore))
    (initially : related state model) :
    Agree related stopped (runAll step items state)
      (runAll modelStep items model) := by
  induction items generalizing state model with
  | nil => exact initially
  | cons item rest inductionHypothesis =>
      have first := agrees item (by simp) state model initially
      cases result : step item state with
      | ok value next =>
          cases modelResult : modelStep item model with
          | ok modelValue modelNext =>
              rw [result, modelResult] at first
              rw [runAll_cons_ok result, runAll_cons_ok modelResult]
              exact inductionHypothesis
                (fun later member => agrees later (by simp [member])) first
          | error reason modelNext =>
              rw [result, modelResult] at first
              exact first.elim
      | error reason next =>
          cases modelResult : modelStep item model with
          | ok modelValue modelNext =>
              rw [result, modelResult] at first
              exact first.elim
          | error modelReason modelNext =>
              rw [result, modelResult] at first
              rw [runAll_cons_error result, runAll_cons_error modelResult]
              exact first

theorem Agree.finalStates
    {result : EStateM.Result ε σ Unit}
    {modelResult : EStateM.Result ε τ Unit}
    (weakens : ∀ state model, related state model → stopped state model)
    (agree : Agree related stopped result modelResult) :
    stopped (finalState result) (finalState modelResult) := by
  cases result with
  | ok value state =>
      cases modelResult with
      | ok modelValue model => exact weakens state model agree
      | error reason model => exact agree.elim
  | error reason state =>
      cases modelResult with
      | ok value model => exact agree.elim
      | error modelReason model => exact agree.2

theorem Agree.returns
    {result : EStateM.Result ε σ Unit} {model : τ}
    (agree : Agree related stopped result (.ok () model)) :
    ∃ state, result = .ok () state ∧ related state model := by
  cases result with
  | ok value state => exact ⟨state, rfl, agree⟩
  | error reason state => exact agree.elim

theorem Agree.modelReturns
    {state : σ} {modelResult : EStateM.Result ε τ Unit}
    (agree : Agree related stopped (.ok () state) modelResult) :
    ∃ model, modelResult = .ok () model ∧ related state model := by
  cases modelResult with
  | ok value model => exact ⟨model, rfl, agree⟩
  | error reason model => exact agree.elim

/-- Two machines that agree with a third one agree with each other. -/
theorem Agree.join
    {υ : Type} {otherRelated otherStopped : υ → τ → Prop}
    {bothRelated bothStopped : σ → υ → Prop}
    {result : EStateM.Result ε σ Unit} {other : EStateM.Result ε υ Unit}
    {modelResult : EStateM.Result ε τ Unit}
    (agree : Agree related stopped result modelResult)
    (otherAgree : Agree otherRelated otherStopped other modelResult)
    (related_of : ∀ state otherState model, related state model →
      otherRelated otherState model → bothRelated state otherState)
    (stopped_of : ∀ state otherState model, stopped state model →
      otherStopped otherState model → bothStopped state otherState) :
    Agree bothRelated bothStopped result other := by
  cases modelResult with
  | ok modelValue model =>
      rcases agree.returns with ⟨state, rfl, holds⟩
      rcases otherAgree.returns with ⟨otherState, rfl, otherHolds⟩
      exact related_of state otherState model holds otherHolds
  | error modelReason model =>
      cases result with
      | ok value state => exact agree.elim
      | error reason state =>
          cases other with
          | ok otherValue otherState => exact otherAgree.elim
          | error otherReason otherState =>
              exact ⟨agree.1.trans otherAgree.1.symm,
                stopped_of state otherState model agree.2 otherAgree.2⟩

end Agreement

end Programs
