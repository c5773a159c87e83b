import Mathlib.Data.Int.Order.Basic
import Mathlib.Logic.Function.Basic

/-!
# Lease tables

A table with at most one lease for each key.  A lease has ended for a caller when it has expired or
is older than the leases which the caller would grant, so that callers need not agree about it.
-/

namespace Foundation

/-- Who holds a key, since when, and until when. -/
structure Lease (ω : Type) where
  owner : ω
  acquired : Int
  expires : Int
  deriving DecidableEq

/-- The lease has ended for a caller whose leases have the given length. -/
def Lease.IsEnded {ω : Type} (lease : Lease ω) (length time : Int) : Prop :=
  lease.expires ≤ time ∨ length < time - lease.acquired

instance {ω : Type} (lease : Lease ω) (length time : Int) : Decidable (lease.IsEnded length time) :=
  inferInstanceAs (Decidable (lease.expires ≤ time ∨ length < time - lease.acquired))

inductive LeaseRequest
  | acquire (time : Int)
  | release
  /-- Remove the lease if it has ended. -/
  | cleanup (time : Int)
  | isHeld
  deriving DecidableEq

/-- A request about a key by a caller whose leases have some length. -/
structure LeaseCall (κ ω : Type) where
  owner : ω
  length : Int
  key : κ
  request : LeaseRequest

abbrev LeaseTable (κ ω : Type) := κ → Option (Lease ω)

/-- The lease is that of another owner, and it has not ended. -/
def Lease.Blocks {ω : Type} (lease : Lease ω) (owner : ω) (length time : Int) : Prop :=
  lease.owner ≠ owner ∧ ¬lease.IsEnded length time

instance {ω : Type} [DecidableEq ω] (lease : Lease ω) (owner : ω) (length time : Int) :
    Decidable (lease.Blocks owner length time) :=
  inferInstanceAs (Decidable (lease.owner ≠ owner ∧ ¬lease.IsEnded length time))

namespace LeaseCall

variable {κ ω : Type} [DecidableEq ω]

/-- What a call returns, and the lease of its key afterwards. -/
def answer (call : LeaseCall κ ω) (lease : Option (Lease ω)) : Option Bool × Option (Lease ω) :=
  match call.request with
  | .acquire time =>
      if lease.any fun held => held.Blocks call.owner call.length time then (some false, lease)
      else (some true, some ⟨call.owner, time, time + call.length⟩)
  | .release => (none, lease.filter fun held => held.owner ≠ call.owner)
  | .cleanup time =>
      (some (lease.any fun held => held.IsEnded call.length time),
        lease.filter fun held => ¬held.IsEnded call.length time)
  | .isHeld => (some (lease.any fun held => held.owner = call.owner), lease)

section Answers

variable {call : LeaseCall κ ω} {lease : Option (Lease ω)} {held : Lease ω} {time : Int}

theorem answer_acquire_free (asked : call.request = .acquire time)
    (free : ∀ held ∈ lease, ¬held.Blocks call.owner call.length time) :
    call.answer lease = (some true, some ⟨call.owner, time, time + call.length⟩) := by
  rw [answer, asked]
  refine if_neg fun blocked => ?_
  obtain ⟨held, rfl, blocks⟩ := Option.any_eq_true _ _ |>.mp blocked
  exact free held rfl (of_decide_eq_true blocks)

theorem answer_acquire_blocked (asked : call.request = .acquire time)
    (blocks : held.Blocks call.owner call.length time) :
    call.answer (some held) = (some false, some held) := by
  rw [answer, asked]
  exact if_pos (decide_eq_true blocks)

theorem answer_release (asked : call.request = .release) :
    call.answer lease = (none, lease.filter fun held => held.owner ≠ call.owner) := by
  rw [answer, asked]

theorem answer_cleanup_ended (asked : call.request = .cleanup time)
    (ended : held.IsEnded call.length time) :
    call.answer (some held) = (some true, none) := by
  simp [answer, asked, ended]

theorem answer_cleanup_kept (asked : call.request = .cleanup time)
    (kept : ∀ held ∈ lease, ¬held.IsEnded call.length time) :
    call.answer lease = (some false, lease) := by
  cases lease with
  | none => simp [answer, asked]
  | some held => simp [answer, asked, kept held rfl]

theorem answer_isHeld (asked : call.request = .isHeld) :
    call.answer lease = (some (lease.any fun held => held.owner = call.owner), lease) := by
  rw [answer, asked]

end Answers

/-- The call takes place within the lease of an owner, and does not give it up. -/
def Spares (owner : ω) (since ends : Int) (call : LeaseCall κ ω) : Prop :=
  match call.request with
  | .acquire time =>
      if call.owner = owner then since ≤ time ∧ ends ≤ time + call.length
      else time < ends ∧ time - since ≤ call.length
  | .release => call.owner ≠ owner
  | .cleanup time => time < ends ∧ time - since ≤ call.length
  | .isHeld => True

/-- The answer tells that the owner holds the key. -/
def Respects (owner : ω) (call : LeaseCall κ ω) (answer : Option Bool) : Prop :=
  match call.request with
  | .acquire _ => answer = some (decide (call.owner = owner))
  | .cleanup _ => answer = some false
  | .isHeld => answer = some (decide (call.owner = owner))
  | .release => True

end LeaseCall

/-- The owner has a lease which is no older and no shorter. -/
def HasLease {ω : Type} (owner : ω) (since ends : Int) (lease : Option (Lease ω)) : Prop :=
  ∃ held, lease = some held ∧ held.owner = owner ∧ since ≤ held.acquired ∧ ends ≤ held.expires

/-- Calls which spare a lease leave it, and are told that it is there. -/
theorem HasLease.answer {κ ω : Type} [DecidableEq ω] {owner : ω} {since ends : Int}
    {call : LeaseCall κ ω} {lease : Option (Lease ω)} (has : HasLease owner since ends lease)
    (spares : call.Spares owner since ends) :
    HasLease owner since ends (call.answer lease).2 ∧
      call.Respects owner (call.answer lease).1 := by
  obtain ⟨held, rfl, rfl, begins, lasts⟩ := has
  have live : ∀ time, time < ends ∧ time - since ≤ call.length →
      ¬held.IsEnded call.length time := by
    rintro time ⟨early, young⟩
    rw [Lease.IsEnded]
    omega
  have still : HasLease held.owner since ends (some held) := ⟨held, rfl, rfl, begins, lasts⟩
  cases asked : call.request with
  | acquire time =>
      simp only [LeaseCall.Spares, asked] at spares
      simp only [LeaseCall.Respects, asked]
      by_cases own : call.owner = held.owner
      · rw [if_pos own] at spares
        have free : ∀ other ∈ some held, ¬other.Blocks call.owner call.length time := by
          rintro other ⟨⟩ blocks
          exact blocks.1 own.symm
        rw [LeaseCall.answer_acquire_free asked free]
        exact ⟨⟨_, rfl, own, spares.1, spares.2⟩, by simp [own]⟩
      · rw [if_neg own] at spares
        rw [LeaseCall.answer_acquire_blocked asked ⟨Ne.symm own, live time spares⟩]
        exact ⟨still, by simp [own]⟩
  | release =>
      simp only [LeaseCall.Spares, asked] at spares
      have kept : (some held).filter (fun lease => lease.owner ≠ call.owner) = some held :=
        Option.filter_some_pos (decide_eq_true (Ne.symm spares))
      rw [LeaseCall.answer_release asked, kept]
      exact ⟨still, by simp [LeaseCall.Respects, asked]⟩
  | cleanup time =>
      simp only [LeaseCall.Spares, asked] at spares
      have kept : ∀ other ∈ some held, ¬other.IsEnded call.length time := by
        rintro other ⟨⟩
        exact live time spares
      rw [LeaseCall.answer_cleanup_kept asked kept]
      exact ⟨still, by simp [LeaseCall.Respects, asked]⟩
  | isHeld =>
      rw [LeaseCall.answer_isHeld asked]
      exact ⟨still, by simp [LeaseCall.Respects, asked, eq_comm]⟩

/-- No lease of the key lasts longer than this. -/
def ExpiresBy {ω : Type} (deadline : Int) (lease : Option (Lease ω)) : Prop :=
  ∀ held ∈ lease, held.expires ≤ deadline

/-- Calls whose own leases end in time leave no other. -/
theorem ExpiresBy.answer {κ ω : Type} [DecidableEq ω] {deadline : Int} {call : LeaseCall κ ω}
    {lease : Option (Lease ω)} (expires : ExpiresBy deadline lease)
    (ends : ∀ time, call.request = .acquire time → time + call.length ≤ deadline) :
    ExpiresBy deadline (call.answer lease).2 := by
  have filtered : ∀ keep : Lease ω → Bool, ExpiresBy deadline (lease.filter keep) :=
    fun keep held member => expires held (Option.mem_filter_iff.mp member).1
  cases asked : call.request with
  | acquire time =>
      rw [LeaseCall.answer, asked]
      dsimp only
      split
      · exact expires
      · rintro held ⟨⟩
        exact ends time asked
  | release =>
      rw [LeaseCall.answer, asked]
      exact filtered _
  | cleanup time =>
      rw [LeaseCall.answer, asked]
      exact filtered _
  | isHeld =>
      rw [LeaseCall.answer, asked]
      exact expires

/-- When every lease has ended, the key is free for everyone. -/
theorem ExpiresBy.granted {κ ω : Type} [DecidableEq ω] {deadline time : Int} {call : LeaseCall κ ω}
    {lease : Option (Lease ω)} (expires : ExpiresBy deadline lease)
    (asked : call.request = .acquire time) (late : deadline ≤ time) :
    (call.answer lease).1 = some true := by
  have free : ∀ held ∈ lease, ¬held.Blocks call.owner call.length time :=
    fun held member blocks => blocks.2 (.inl (le_trans (expires held member) late))
  rw [LeaseCall.answer_acquire_free asked free]

namespace LeaseTable

variable {κ ω : Type} [DecidableEq κ] [DecidableEq ω]

/-- What a call returns, and the table afterwards. -/
def perform (call : LeaseCall κ ω) (table : LeaseTable κ ω) : Option Bool × LeaseTable κ ω :=
  let answer := call.answer (table call.key)
  (answer.1, Function.update table call.key answer.2)

theorem perform_self (call : LeaseCall κ ω) (table : LeaseTable κ ω) :
    (perform call table).2 call.key = (call.answer (table call.key)).2 :=
  Function.update_self _ _ _

theorem perform_of_ne {call : LeaseCall κ ω} {key : κ} (other : key ≠ call.key)
    (table : LeaseTable κ ω) : (perform call table).2 key = table key :=
  Function.update_of_ne other _ _

/-- Make calls in turn. -/
def run : List (LeaseCall κ ω) → LeaseTable κ ω → List (Option Bool) × LeaseTable κ ω
  | [], table => ([], table)
  | call :: calls, table =>
      let (answer, later) := perform call table
      let (answers, last) := run calls later
      (answer :: answers, last)

end LeaseTable

end Foundation
