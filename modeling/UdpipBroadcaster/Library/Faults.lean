import UdpipBroadcaster.Library.Programs

/-!
# Programs that stop at the first failing call

The calls of a program are counted in its state, and an oracle says which of
them fail.  The module describes programs that check every call: such a
program makes a known sequence of calls, and stops right after the first of
them that fails.
-/

namespace Faults

open Programs

variable {ε σ α β ω : Type}

section Rules

variable (fails : Nat → Bool) (count : σ → Nat) (view : σ → ω) (reason : ε)

/-- The program stopped right after the call `call`, and has left a view of
the state alone. -/
def StopsAfter
    (program : EStateM ε σ α) (state : σ) (call : Nat) : Prop :=
  ∃ stopped, program state = .error reason stopped ∧
    count stopped = call + 1 ∧ view stopped = view state

/-- From `state` the program makes the calls from `count state` on, up to
`count next`.  It stops with `reason` right after the first that fails, and
if none fails it returns `value` in `next`. -/
structure Makes
    (program : EStateM ε σ α) (state : σ) (value : α) (next : σ) : Prop where
  counts : count state ≤ count next
  keeps : view next = view state
  returns :
    (∀ call, count state ≤ call → call < count next →
        fails call = false) →
      program state = .ok value next
  stops : ∀ first, count state ≤ first → first < count next →
    (∀ call, count state ≤ call → call < first → fails call = false) →
      fails first = true →
        StopsAfter count view reason program state first

/-- One call whose result tells whether it failed. -/
structure Tries
    (bad : β → Prop) (call : EStateM ε σ β) (state : σ) (value : β)
    (next : σ) : Prop where
  counts : count next = count state + 1
  keeps : view next = view state
  good : ¬ bad value
  succeeds : fails (count state) = false → call state = .ok value next
  fails : fails (count state) = true →
    ∃ worse stopped, call state = .ok worse stopped ∧ bad worse ∧
      count stopped = count state + 1 ∧ view stopped = view state

end Rules

variable {fails : Nat → Bool} {count : σ → Nat} {view : σ → ω} {reason : ε}

/-- A program that stops does not run what follows. -/
theorem throw_bind (rest : α → EStateM ε σ β) :
    ((throw reason : EStateM ε σ α) >>= rest) = throw reason :=
  rfl

theorem makes_of_returned
    {program : EStateM ε σ α} {state next : σ} {value : α}
    (returned : program state = .ok value next)
    (counts : count next = count state) (keeps : view next = view state) :
    Makes fails count view reason program state value next where
  counts := Nat.le_of_eq counts.symm
  keeps := keeps
  returns := fun _ => returned
  stops := by
    intro first from_ before
    omega

theorem makes_pure (value : α) (state : σ) :
    Makes fails count view reason (pure value) state value state :=
  makes_of_returned rfl rfl rfl

/-- The calls of two programs in a row. -/
theorem Makes.bind
    {first : EStateM ε σ α} {rest : α → EStateM ε σ β} {state middle last : σ}
    {value : α} {result : β}
    (one : Makes fails count view reason first state value middle)
    (two : Makes fails count view reason (rest value) middle result last) :
    Makes fails count view reason (first >>= rest) state result last where
  counts := Nat.le_trans one.counts two.counts
  keeps := two.keeps.trans one.keeps
  returns := by
    intro succeed
    have returned :=
      one.returns fun call atLeast before =>
        succeed call atLeast (Nat.lt_of_lt_of_le before two.counts)
    rw [bind_ok rest returned]
    exact two.returns fun call atLeast before =>
      succeed call (Nat.le_trans one.counts atLeast) before
  stops := by
    intro call atLeast before succeed failed
    by_cases early : call < count middle
    · obtain ⟨stopped, ran, counted, kept⟩ :=
        one.stops call atLeast early succeed failed
      exact ⟨stopped, bind_error rest ran, counted, kept⟩
    · have later := Nat.le_of_not_lt early
      have returned :=
        one.returns fun other otherAtLeast otherBefore =>
          succeed other otherAtLeast (Nat.lt_of_lt_of_le otherBefore later)
      obtain ⟨stopped, ran, counted, kept⟩ :=
        two.stops call later before
          (fun other otherAtLeast =>
            succeed other (Nat.le_trans one.counts otherAtLeast))
          failed
      refine ⟨stopped, ?_, counted, kept.trans one.keeps⟩
      rw [bind_ok rest returned]
      exact ran

/-- A program that looks at its state first. -/
theorem Makes.get_bind
    {rest : σ → EStateM ε σ α} {state next : σ} {value : α}
    (continues :
      Makes fails count view reason (rest state) state value next) :
    Makes fails count view reason ((get : EStateM ε σ σ) >>= rest) state
      value next :=
  (makes_of_returned rfl rfl rfl : Makes fails count view reason
    (get : EStateM ε σ σ) state state state).bind continues

/-- A call whose result is checked before the program goes on. -/
theorem Tries.guarded
    {bad : β → Prop} [DecidablePred bad] {call : EStateM ε σ β}
    {rest : β → EStateM ε σ α} {state middle last : σ} {value : β}
    {result : α}
    (tries : Tries fails count view bad call state value middle)
    (continues :
      Makes fails count view reason (rest value) middle result last) :
    Makes fails count view reason
      (call >>= fun value => if bad value then throw reason else rest value)
      state result last := by
  have checked : Makes fails count view reason
      (call >>= fun value => if bad value then throw reason else pure value)
      state value middle := by
    constructor
    · have counts := tries.counts
      omega
    · exact tries.keeps
    · intro succeed
      have counts := tries.counts
      have succeeded := succeed (count state) (Nat.le_refl _) (by omega)
      rw [bind_ok _ (tries.succeeds succeeded), if_neg tries.good]
      rfl
    · intro first atLeast before succeed failed
      have counts := tries.counts
      obtain rfl : first = count state := by omega
      obtain ⟨worse, stopped, ran, isBad, counted, kept⟩ :=
        tries.fails failed
      refine ⟨stopped, ?_, counted, kept⟩
      rw [bind_ok _ ran, if_pos isBad]
      rfl
  have split :
      (call >>= fun value => if bad value then throw reason else rest value) =
        (call >>= fun value =>
          if bad value then throw reason else pure value) >>= rest := by
    rw [bind_assoc]
    congr 1
    funext value
    split
    · exact (throw_bind rest).symm
    · exact (pure_bind value rest).symm
  rw [split]
  exact checked.bind continues

/-- A test that the values at hand decide. -/
theorem Makes.unless
    {condition : Prop} [Decidable condition] {yes no : EStateM ε σ α}
    {state next : σ} {value : α} (not : ¬ condition)
    (continues : Makes fails count view reason no state value next) :
    Makes fails count view reason (if condition then yes else no) state
      value next := by
  rw [if_neg not]
  exact continues

end Faults
