import Lakehouse.Foundation.Program

/-!
# Loops of programs

A loop runs its body again while it returns true.  It is cut off after a number of rounds, so that a
loop without an end is the family of its cut-off runs; the loop rule carries an invariant through
the rounds.
-/

namespace Foundation.Program

variable {Call : Type} {Reply : Call → Type} {ε α σ : Type}

/-- Run the body while it returns true, for a number of rounds at most; whether it goes on. -/
def rounds (body : Program Call Reply ε Bool) : Nat → Program Call Reply ε Bool
  | 0 => done true
  | count + 1 => do
      if ← body then
        body.rounds count
      else
        return false

variable {handle : (request : Call) → σ → Reply request × σ} {body : Program Call Reply ε Bool}

/-- The loop rule: what holds after every round but the last, and what holds after the last. -/
theorem runWith_rounds {Going Ended : Nat → σ → Prop}
    (round : ∀ past world, Going past world → ∃ again later,
      body.runWith handle world = (.ok again, later) ∧
        (again = true → Going (past + 1) later) ∧ (again = false → Ended past later))
    (count past : Nat) {world : σ} (start : Going past world) :
    ∃ going later, (body.rounds count).runWith handle world = (.ok going, later) ∧
      (going = true → Going (past + count) later) ∧
      (going = false → ∃ last, past ≤ last ∧ last < past + count ∧ Ended last later) := by
  induction count generalizing past world with
  | zero => exact ⟨true, world, rfl, fun _ => start, by simp⟩
  | succ count ih =>
      obtain ⟨again, later, ran, goes, ends⟩ := round past world start
      rw [rounds, runWith_bind_of_ok handle ran]
      cases again with
      | false =>
          exact ⟨false, later, rfl, by simp, fun _ => ⟨past, Nat.le_refl past, by omega, ends rfl⟩⟩
      | true =>
          obtain ⟨going, final, ran_rest, goes_on, ended⟩ := ih (past + 1) (goes rfl)
          refine ⟨going, final, ran_rest, fun going_on => ?_, fun stops => ?_⟩
          · rw [Nat.add_comm count, ← Nat.add_assoc]
            exact goes_on going_on
          · obtain ⟨last, least, most, ended_last⟩ := ended stops
            exact ⟨last, by omega, by omega, ended_last⟩

/-! ## Loops with a value -/

/-- Run the body while it returns true, each time from the value which the last round returned. -/
def roundsFrom (body : α → Program Call Reply ε (α × Bool)) :
    Nat → α → Program Call Reply ε (α × Bool)
  | 0, value => done (value, true)
  | count + 1, value => do
      let (next, again) ← body value
      if again then
        roundsFrom body count next
      else
        return (next, false)

variable {τ : Type}

/-- A round either leads to another one or ends the loop. -/
def RoundEnds (Going : α → τ → Prop) (final : Except ε (α × Bool) → τ → Prop) :
    Except ε (α × Bool) → τ → Prop
  | .ok (value, true), state => Going value state
  | outcome, state => final outcome state

/-- The loop rule under a protocol. -/
theorem followsTo_roundsFrom {protocol : Protocol Call Reply τ}
    {body : α → Program Call Reply ε (α × Bool)} {Going : α → τ → Prop}
    {final : Except ε (α × Bool) → τ → Prop}
    (round : ∀ value state, Going value state →
      (body value).FollowsTo protocol (RoundEnds Going final) state)
    (cut : ∀ value state, Going value state → final (.ok (value, true)) state)
    (count : Nat) {value : α} {state : τ} (start : Going value state) :
    (roundsFrom body count value).FollowsTo protocol final state := by
  induction count generalizing value state with
  | zero => exact cut value state start
  | succ count ih =>
      refine followsTo_bind (followsTo_mono ?_ (round value state start))
      rintro (error | ⟨next, _ | _⟩) later ended
      · exact ended
      · exact ended
      · exact ih ended

end Foundation.Program
