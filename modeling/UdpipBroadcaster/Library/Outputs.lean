import UdpipBroadcaster.Library.Programs

/-!
# Programs that write

The state of such a program is a state and what was written so far.  A
program of this kind follows one that does not write if it returns or stops
alike, with the same state; what it writes then depends on where it starts,
but not on what was written before.  What is to be written may be read from
a place that is not safe to read; such a program does not return.
-/

namespace Outputs

open Programs

variable {ε σ ω α β ι : Type}

/-- Run a program that does not write. -/
def silently (program : EStateM ε σ α) : EStateM ε (σ × List ω) α :=
  fun both =>
    match program both.1 with
    | .ok value next => .ok value (next, both.2)
    | .error reason next => .error reason (next, both.2)

/-- Run a program that does nothing else. -/
def onOutput (program : EStateM ε (List ω) α) : EStateM ε (σ × List ω) α :=
  fun both =>
    match program both.2 with
    | .ok value out => .ok value (both.1, out)
    | .error reason out => .error reason (both.1, out)

def write (items : List ω) : EStateM ε (σ × List ω) Unit :=
  modify fun both => (both.1, both.2 ++ items)

/-- From `state`, the program follows `plain`, and has written `items` if it
returns. -/
def Writes
    (program : EStateM ε (σ × List ω) α) (plain : EStateM ε σ α)
    (state : σ) (items : List ω) : Prop :=
  ∀ out, match plain state with
    | .ok value next =>
        program (state, out) = .ok value (next, out ++ items)
    | .error reason next =>
        ∃ later, program (state, out) = .error reason (next, later)

variable {program : EStateM ε (σ × List ω) α} {plain : EStateM ε σ α}
  {state : σ} {items more : List ω}

theorem Writes.returned
    (writes : Writes program plain state items) {value : α} {next : σ}
    (returned : plain state = .ok value next) (out : List ω) :
    program (state, out) = .ok value (next, out ++ items) := by
  have run := writes out
  rwa [returned] at run

theorem Writes.stopped
    (writes : Writes program plain state items) {reason : ε} {next : σ}
    (stopped : plain state = .error reason next) (out : List ω) :
    ∃ later, program (state, out) = .error reason (next, later) := by
  have run := writes out
  rwa [stopped] at run

/-- A run that returned has written what the rules say. -/
theorem Writes.of_returned
    (writes : Writes program plain state items) {value : α} {next : σ}
    {out later : List ω}
    (run : program (state, out) = .ok value (next, later)) :
    plain state = .ok value next ∧ out ++ items = later := by
  cases result : plain state with
  | error reason stopped =>
      rcases writes.stopped result out with ⟨written, fails⟩
      rw [run] at fails
      cases fails
  | ok returned after =>
      have printed := writes.returned result out
      rw [run] at printed
      cases printed
      exact ⟨rfl, rfl⟩

theorem writes_silently (program : EStateM ε σ α) (state : σ) :
    Writes (silently program : EStateM ε (σ × List ω) α) program state
      [] := by
  intro out
  rw [silently]
  cases program state with
  | ok value next => simp
  | error reason next => exact ⟨out, rfl⟩

theorem writes_pure (value : α) (state : σ) :
    Writes (pure value : EStateM ε (σ × List ω) α) (pure value) state
      [] := by
  intro out
  simp [pure, EStateM.pure]

/-- Both go on from where the first part returned. -/
theorem Writes.bind
    {rest : α → EStateM ε (σ × List ω) β}
    {plainRest : α → EStateM ε σ β}
    (first : Writes program plain state items)
    (second : ∀ value next, plain state = .ok value next →
      Writes (rest value) (plainRest value) next more) :
    Writes (program >>= rest) (plain >>= plainRest) state
      (items ++ more) := by
  intro out
  cases result : plain state with
  | ok value next =>
      rw [bind_ok plainRest result,
        bind_ok rest (first.returned result out)]
      have run := second value next result (out ++ items)
      rwa [List.append_assoc] at run
  | error reason next =>
      rw [bind_error plainRest result]
      rcases first.stopped result out with ⟨later, stopped⟩
      exact ⟨later, bind_error rest stopped⟩

/-- What follows may look at the state. -/
theorem writes_get
    {rest : σ × List ω → EStateM ε (σ × List ω) α}
    {plainRest : σ → EStateM ε σ α}
    (follows : ∀ out, Writes (rest (state, out)) (plainRest state) state
      items) :
    Writes (get >>= rest) (get >>= plainRest) state items := by
  intro out
  rw [get_bind, get_bind]
  exact follows out out

theorem writes_write (items : List ω) (state : σ) :
    Writes (Outputs.write items : EStateM ε (σ × List ω) Unit) (pure ())
      state items := by
  intro out
  show Outputs.write items (state, out) = .ok () (state, out ++ items)
  rfl

/-- What is written first. -/
theorem Writes.write
    (writes : Writes program plain state more) (items : List ω) :
    Writes (Outputs.write items >>= fun _ => program) plain state
      (items ++ more) := by
  intro out
  have run := writes (out ++ items)
  rw [List.append_assoc] at run
  exact run

/-- A part that only reads the state, for what is written next. -/
theorem Writes.reads
    {reader : EStateM ε σ β} {value : β}
    (read : reader state = .ok value state)
    {rest : β → EStateM ε (σ × List ω) α}
    (writes : Writes (rest value) plain state items) :
    Writes (silently reader >>= rest) plain state items := by
  intro out
  have first :
      (silently reader : EStateM ε (σ × List ω) β) (state, out) =
        .ok value (state, out) := by
    simp only [silently, read]
  rw [bind_ok rest first]
  exact writes out

theorem Writes.prints
    {printer : EStateM ε (σ × List ω) Unit}
    (prints : Writes printer (pure ()) state items)
    {rest : Unit → EStateM ε (σ × List ω) α}
    (writes : Writes (rest ()) plain state more) :
    Writes (printer >>= rest) plain state (items ++ more) := by
  have both : Writes (printer >>= rest) (pure () >>= fun _ => plain) state
      (items ++ more) := by
    apply prints.bind
    rintro _ _ ⟨⟩
    exact writes
  exact both

/-- A part that only writes. -/
theorem Writes.onOutput
    {printer : EStateM ε (List ω) β} {value : β}
    (prints : ∀ out, printer out = .ok value (out ++ items))
    {rest : β → EStateM ε (σ × List ω) α}
    (writes : Writes (rest value) plain state more) :
    Writes (Outputs.onOutput printer >>= rest) plain state
      (items ++ more) := by
  intro out
  have run := writes (out ++ items)
  rw [List.append_assoc] at run
  have first :
      (Outputs.onOutput printer : EStateM ε (σ × List ω) β) (state, out) =
        .ok value (state, out ++ items) := by
    simp only [Outputs.onOutput, prints]
  rw [bind_ok rest first]
  exact run

/-- A run writes what its steps write, as long as they return. -/
theorem writes_runAll
    {write : ι → EStateM ε (σ × List ω) Unit} {step : ι → EStateM ε σ Unit}
    {piece : ι → List ω} {invariant : σ → Prop} {list : List ι}
    (follows : ∀ item ∈ list, ∀ before, invariant before →
      Writes (write item) (step item) before (piece item))
    (preserved : ∀ item ∈ list, ∀ before after, invariant before →
      step item before = .ok () after → invariant after)
    (initially : invariant state) :
    Writes (runAll write list) (runAll step list) state
      (list.flatMap piece) := by
  induction list generalizing state with
  | nil => exact writes_pure () state
  | cons item rest inductionHypothesis =>
      have first := follows item (by simp) state initially
      rw [List.flatMap_cons]
      apply first.bind
      intro value next stepped
      exact inductionHypothesis
        (fun later member => follows later (by simp [member]))
        (fun later member => preserved later (by simp [member]))
        (preserved item (by simp) state next initially stepped)

/-- A part that does not write comes first. -/
theorem Writes.silently
    {rest : α → EStateM ε (σ × List ω) β}
    {plainRest : α → EStateM ε σ β}
    (follows : ∀ value next, plain state = .ok value next →
      Writes (rest value) (plainRest value) next items) :
    Writes (Outputs.silently plain >>= rest) (plain >>= plainRest) state
      items :=
  (writes_silently plain state).bind follows

/-- A text at the end. -/
theorem writes_write_pure (items : List ω) (value : α) (state : σ) :
    Writes
      (do
        Outputs.write items
        pure value : EStateM ε (σ × List ω) α)
      (pure value) state items := by
  intro out
  have run :
      (Outputs.write items >>= fun _ => pure value :
          EStateM ε (σ × List ω) α) (state, out) =
        .ok value (state, out ++ items) :=
    rfl
  exact run

/-- A text behind a program that does not write. -/
theorem writes_afterwards
    (plain : EStateM ε σ α) (items : List ω) (state : σ) :
    Writes
      (do
        let value ← Outputs.silently plain
        Outputs.write items
        pure value)
      plain state items := by
  intro out
  cases result : plain state with
  | ok value next =>
      have first :
          (Outputs.silently plain : EStateM ε (σ × List ω) α) (state, out) =
            .ok value (next, out) := by
        simp only [Outputs.silently, result]
      rw [bind_ok _ first]
      rfl
  | error reason next =>
      have first :
          (Outputs.silently plain : EStateM ε (σ × List ω) α) (state, out) =
            .error reason (next, out) := by
        simp only [Outputs.silently, result]
      exact ⟨out, bind_error _ first⟩

theorem writes_ofExcept (result : Except ε α) (state : σ) :
    Writes (ofExcept result : EStateM ε (σ × List ω) α) (ofExcept result)
      state [] := by
  cases result with
  | ok value => exact writes_pure value state
  | error reason => exact fun out => ⟨out, rfl⟩

/-- Steps that hand on a value write what each of them writes. -/
theorem writes_foldlM
    {write : α → ι → EStateM ε (σ × List ω) α} {step : α → ι → EStateM ε σ α}
    {piece : ι → List ω}
    (follows : ∀ value item before,
      Writes (write value item) (step value item) before (piece item))
    (list : List ι) (value : α) (state : σ) :
    Writes (list.foldlM write value) (list.foldlM step value) state
      (list.flatMap piece) := by
  induction list generalizing value state with
  | nil => exact writes_pure value state
  | cons item rest inductionHypothesis =>
      rw [List.foldlM_cons, List.foldlM_cons, List.flatMap_cons]
      exact (follows value item state).bind fun next after _ =>
        inductionHypothesis next after

/-! ## What is read for the output -/

/-- From `state`, the program follows `plain` if `safe` holds, and has
written `items` if it returns.  Otherwise it does not return. -/
structure WritesIf
    (safe : Prop) (program : EStateM ε (σ × List ω) α)
    (plain : EStateM ε σ α) (state : σ) (items : List ω) : Prop where
  writes : safe → Writes program plain state items
  stops : ¬ safe →
    ∀ out, ∃ reason later, program (state, out) = .error reason later

variable {safe safeRest : Prop}

theorem WritesIf.returned_iff
    (writesIf : WritesIf safe program plain state items) {value : α}
    {next : σ} {out later : List ω} :
    program (state, out) = .ok value (next, later) ↔
      plain state = .ok value next ∧ safe ∧ out ++ items = later := by
  constructor
  · intro run
    by_cases isSafe : safe
    · rcases (writesIf.writes isSafe).of_returned run with
        ⟨returned, written⟩
      exact ⟨returned, isSafe, written⟩
    · rcases writesIf.stops isSafe out with ⟨reason, after, stopped⟩
      rw [run] at stopped
      cases stopped
  · rintro ⟨returned, isSafe, rfl⟩
    exact (writesIf.writes isSafe).returned returned out

/-- Without a return of the program that is followed, what is written does
not matter. -/
theorem WritesIf.of_stops
    (writesIf : WritesIf safe program plain state items)
    (stops : ∀ value next, plain state ≠ .ok value next)
    (implies : safeRest → safe) (more : List ω) :
    WritesIf safeRest program plain state more := by
  cases result : plain state with
  | ok value next => exact (stops value next result).elim
  | error reason next =>
      constructor
      · intro isSafe out
        rw [result]
        exact (writesIf.writes (implies isSafe)).stopped result out
      · intro _ out
        by_cases isSafe : safe
        · rcases (writesIf.writes isSafe).stopped result out with
            ⟨later, stopped⟩
          exact ⟨reason, _, stopped⟩
        · exact writesIf.stops isSafe out

/-- Parts in a row, each with something to read. -/
theorem WritesIf.bind
    {rest : α → EStateM ε (σ × List ω) β}
    {plainRest : α → EStateM ε σ β}
    (first : WritesIf safe program plain state items)
    (second : ∀ value next, plain state = .ok value next →
      WritesIf safeRest (rest value) (plainRest value) next more) :
    WritesIf (safe ∧ safeRest) (program >>= rest) (plain >>= plainRest)
      state (items ++ more) where
  writes := by
    rintro ⟨isSafe, isSafeRest⟩
    exact (first.writes isSafe).bind fun value next returned =>
      (second value next returned).writes isSafeRest
  stops := by
    intro unsafeSomewhere out
    by_cases isSafe : safe
    · have writes := first.writes isSafe
      cases result : plain state with
      | ok value next =>
          rw [bind_ok rest (writes.returned result out)]
          exact (second value next result).stops
            (fun isSafeRest => unsafeSomewhere ⟨isSafe, isSafeRest⟩) _
      | error reason next =>
          rcases writes.stopped result out with ⟨later, stopped⟩
          exact ⟨reason, _, bind_error rest stopped⟩
    · rcases first.stops isSafe out with ⟨reason, later, stopped⟩
      exact ⟨reason, later, bind_error rest stopped⟩

/-- A part that reads nothing comes first. -/
theorem Writes.bindIf
    {rest : α → EStateM ε (σ × List ω) β}
    {plainRest : α → EStateM ε σ β}
    (first : Writes program plain state items)
    (second : ∀ value next, plain state = .ok value next →
      WritesIf safe (rest value) (plainRest value) next more) :
    WritesIf safe (program >>= rest) (plain >>= plainRest) state
      (items ++ more) := by
  have always : WritesIf True program plain state items :=
    ⟨fun _ => first, fun impossible => (impossible trivial).elim⟩
  have both := always.bind second
  rwa [true_and] at both

/-- A part that reads nothing comes last. -/
theorem WritesIf.andThen
    {rest : α → EStateM ε (σ × List ω) β}
    {plainRest : α → EStateM ε σ β}
    (first : WritesIf safe program plain state items)
    (second : ∀ value next, plain state = .ok value next →
      Writes (rest value) (plainRest value) next more) :
    WritesIf safe (program >>= rest) (plain >>= plainRest) state
      (items ++ more) := by
  have always (value : α) (next : σ) (returned : plain state = .ok value next) :
      WritesIf True (rest value) (plainRest value) next more :=
    ⟨fun _ => second value next returned,
      fun impossible => (impossible trivial).elim⟩
  have both := first.bind always
  rwa [and_true] at both

theorem WritesIf.silently
    {rest : α → EStateM ε (σ × List ω) β}
    {plainRest : α → EStateM ε σ β}
    (follows : ∀ value next, plain state = .ok value next →
      WritesIf safe (rest value) (plainRest value) next items) :
    WritesIf safe (Outputs.silently plain >>= rest) (plain >>= plainRest)
      state items :=
  (writes_silently plain state).bindIf follows

theorem WritesIf.reads
    {reader : EStateM ε σ β} {value : β}
    (read : reader state = .ok value state)
    {rest : β → EStateM ε (σ × List ω) α}
    (writesIf : WritesIf safe (rest value) plain state items) :
    WritesIf safe (Outputs.silently reader >>= rest) plain state items where
  writes isSafe := (writesIf.writes isSafe).reads read
  stops := by
    intro notSafe out
    have first :
        (Outputs.silently reader : EStateM ε (σ × List ω) β) (state, out) =
          .ok value (state, out) := by
      simp only [Outputs.silently, read]
    rw [bind_ok rest first]
    exact writesIf.stops notSafe out

/-- A part that does nothing but write comes first. -/
theorem WritesIf.prints
    {printer : EStateM ε (σ × List ω) Unit}
    (prints : Writes printer (pure ()) state items)
    {rest : Unit → EStateM ε (σ × List ω) α}
    (writesIf : WritesIf safe (rest ()) plain state more) :
    WritesIf safe (printer >>= rest) plain state (items ++ more) := by
  have both : WritesIf safe (printer >>= rest) (pure () >>= fun _ => plain)
      state (items ++ more) := by
    apply prints.bindIf
    rintro _ _ ⟨⟩
    exact writesIf
  exact both

theorem WritesIf.write
    (writesIf : WritesIf safe program plain state more) (items : List ω) :
    WritesIf safe (Outputs.write items >>= fun _ => program) plain state
      (items ++ more) where
  writes isSafe := (writesIf.writes isSafe).write items
  stops notSafe out := writesIf.stops notSafe (out ++ items)

end Outputs
