import Mathlib.Logic.Function.Basic

/-!
# Programs which call their environment

A program is a tree of calls whose subtrees are indexed by the replies.  One tree has two
readings: `runWith` executes it to the end against a stateful handler, and `advance` performs one
call of one thread, so that the calls of several programs interleave over a shared world.
-/

namespace Foundation

/-- A computation which makes calls, and either returns a value or raises an error. -/
inductive Program (Call : Type) (Reply : Call → Type) (ε α : Type) : Type
  /-- Return a value. -/
  | done (value : α)
  /-- Raise an error. -/
  | raise (error : ε)
  /-- Make one call and continue with its reply. -/
  | call (request : Call) (resume : Reply request → Program Call Reply ε α)

namespace Program

variable {Call : Type} {Reply : Call → Type} {ε α β γ σ : Type}

/-- Sequential composition; an error skips the rest. -/
def bind : Program Call Reply ε α → (α → Program Call Reply ε β) → Program Call Reply ε β
  | done value, next => next value
  | raise error, _ => raise error
  | call request resume, next => call request fun reply => (resume reply).bind next

instance : Monad (Program Call Reply ε) where
  pure := done
  bind := bind

@[simp]
theorem pure_eq (value : α) : (pure value : Program Call Reply ε α) = done value := rfl

@[simp]
theorem done_bind (value : α) (next : α → Program Call Reply ε β) :
    (done value >>= next) = next value := rfl

@[simp]
theorem raise_bind (error : ε) (next : α → Program Call Reply ε β) :
    ((raise error : Program Call Reply ε α) >>= next) = raise error := rfl

@[simp]
theorem call_bind (request : Call) (resume : Reply request → Program Call Reply ε α)
    (next : α → Program Call Reply ε β) :
    (call request resume >>= next) = call request fun reply => resume reply >>= next := rfl

@[simp]
theorem bind_done (program : Program Call Reply ε α) : (program >>= done) = program := by
  induction program with
  | done value => rfl
  | raise error => rfl
  | call request resume ih => simp [ih]

theorem bind_assoc (program : Program Call Reply ε α) (next : α → Program Call Reply ε β)
    (last : β → Program Call Reply ε γ) :
    ((program >>= next) >>= last) = program >>= fun value => next value >>= last := by
  induction program with
  | done value => rfl
  | raise error => rfl
  | call request resume ih => simp [ih]

/-- Make one call and return its reply. -/
def perform (request : Call) : Program Call Reply ε (Reply request) :=
  call request done

@[simp]
theorem perform_bind (request : Call) (next : Reply request → Program Call Reply ε β) :
    ((perform request : Program Call Reply ε (Reply request)) >>= next) = call request next := rfl

/-- A result which is already there. -/
def ofExcept : Except ε α → Program Call Reply ε α
  | .ok value => done value
  | .error error => raise error

@[simp]
theorem ofExcept_ok (value : α) :
    (ofExcept (.ok value) : Program Call Reply ε α) = done value := rfl

@[simp]
theorem ofExcept_error (error : ε) :
    (ofExcept (.error error) : Program Call Reply ε α) = raise error := rfl

/-- Run a program and keep its error as a value. -/
def attempt : Program Call Reply ε α → Program Call Reply ε (Except ε α)
  | done value => done (.ok value)
  | raise error => done (.error error)
  | call request resume => call request fun reply => (resume reply).attempt

/-! ## The calls a program can make -/

/-- Every call of the program is allowed, whatever the replies are. -/
def EveryCall (allowed : Call → Prop) : Program Call Reply ε α → Prop
  | done _ => True
  | raise _ => True
  | call request resume => allowed request ∧ ∀ reply, (resume reply).EveryCall allowed

variable {allowed : Call → Prop}

@[simp]
theorem everyCall_done (value : α) : (done value : Program Call Reply ε α).EveryCall allowed :=
  trivial

@[simp]
theorem everyCall_raise (error : ε) : (raise error : Program Call Reply ε α).EveryCall allowed :=
  trivial

@[simp]
theorem everyCall_call (request : Call) (resume : Reply request → Program Call Reply ε α) :
    (call request resume).EveryCall allowed ↔
      allowed request ∧ ∀ reply, (resume reply).EveryCall allowed := Iff.rfl

@[simp]
theorem everyCall_ofExcept (result : Except ε α) :
    (ofExcept result : Program Call Reply ε α).EveryCall allowed := by
  cases result <;> trivial

@[simp]
theorem everyCall_perform (request : Call) :
    (perform request : Program Call Reply ε (Reply request)).EveryCall allowed ↔
      allowed request := by
  simp [perform]

theorem everyCall_bind {program : Program Call Reply ε α} {next : α → Program Call Reply ε β}
    (first : program.EveryCall allowed) (last : ∀ value, (next value).EveryCall allowed) :
    (program >>= next).EveryCall allowed := by
  induction program with
  | done value => exact last value
  | raise error => trivial
  | call request resume ih => exact ⟨first.1, fun reply => ih reply (first.2 reply)⟩

theorem everyCall_attempt {program : Program Call Reply ε α} (every : program.EveryCall allowed) :
    program.attempt.EveryCall allowed := by
  induction program with
  | done value => trivial
  | raise error => trivial
  | call request resume ih => exact ⟨every.1, fun reply => ih reply (every.2 reply)⟩

theorem everyCall_true (program : Program Call Reply ε α) :
    program.EveryCall fun _ => True := by
  induction program with
  | done value => trivial
  | raise error => trivial
  | call request resume ih => exact ⟨trivial, ih⟩

/-- Whatever the replies are, a value is returned only after a call with a required reply. -/
def ReturnsAfter (required : (request : Call) → Reply request → Prop) :
    Program Call Reply ε α → Prop
  | done _ => False
  | raise _ => True
  | call request resume =>
      ∀ reply, required request reply ∨ (resume reply).ReturnsAfter required

/-- It is enough that the second part makes the call. -/
theorem returnsAfter_bind {program : Program Call Reply ε α}
    {next : α → Program Call Reply ε β} {required : (request : Call) → Reply request → Prop}
    (last : ∀ value, (next value).ReturnsAfter required) :
    (program >>= next).ReturnsAfter required := by
  induction program with
  | done value => exact last value
  | raise error => trivial
  | call request resume ih => exact fun reply => .inr (ih reply)

/-- A discipline of calls: which are permitted in a state, and how a reply changes the state. -/
structure Protocol (Call : Type) (Reply : Call → Type) (τ : Type) where
  permits : τ → Call → Prop
  next : τ → (request : Call) → Reply request → τ

variable {τ : Type} {protocol : Protocol Call Reply τ}

/-- Every call of the program is permitted when it is made, whatever the replies are. -/
def Follows (protocol : Protocol Call Reply τ) : Program Call Reply ε α → τ → Prop
  | done _, _ => True
  | raise _, _ => True
  | call request resume, state =>
      protocol.permits state request ∧
        ∀ reply, (resume reply).Follows protocol (protocol.next state request reply)

@[simp]
theorem follows_done (value : α) (state : τ) :
    (done value : Program Call Reply ε α).Follows protocol state := trivial

@[simp]
theorem follows_raise (error : ε) (state : τ) :
    (raise error : Program Call Reply ε α).Follows protocol state := trivial

theorem follows_call {request : Call} {resume : Reply request → Program Call Reply ε α}
    {state : τ} :
    (call request resume).Follows protocol state ↔
      protocol.permits state request ∧
        ∀ reply, (resume reply).Follows protocol (protocol.next state request reply) := Iff.rfl

/-- After a part which follows the protocol comes one which follows it from any state. -/
theorem follows_bind {program : Program Call Reply ε α} {next : α → Program Call Reply ε β}
    {state : τ} (first : program.Follows protocol state)
    (last : ∀ value later, (next value).Follows protocol later) :
    (program >>= next).Follows protocol state := by
  induction program generalizing state with
  | done value => exact last value state
  | raise error => trivial
  | call request resume ih => exact ⟨first.1, fun reply => ih reply (first.2 reply)⟩

/-- Every value the program returns satisfies `post`, if the replies satisfy `answers`. -/
def Ensures (answers : (request : Call) → Reply request → Prop) (post : α → Prop) :
    Program Call Reply ε α → Prop
  | done value => post value
  | raise _ => True
  | call request resume =>
      ∀ reply, answers request reply → (resume reply).Ensures answers post

variable {answers : (request : Call) → Reply request → Prop}

@[simp]
theorem ensures_done {post : α → Prop} {value : α} :
    (done value : Program Call Reply ε α).Ensures answers post ↔ post value := Iff.rfl

@[simp]
theorem ensures_raise (post : α → Prop) (error : ε) :
    (raise error : Program Call Reply ε α).Ensures answers post := trivial

/-- What the first part ensures is all that the second part may rely on. -/
theorem ensures_bind {middle : α → Prop} {post : β → Prop} {program : Program Call Reply ε α}
    {next : α → Program Call Reply ε β} (first : program.Ensures answers middle)
    (last : ∀ value, middle value → (next value).Ensures answers post) :
    (program >>= next).Ensures answers post := by
  induction program with
  | done value => exact last value first
  | raise error => trivial
  | call request resume ih => exact fun reply answered => ih reply (first reply answered)

/-! ## Execution against a handler -/

/-- Execute a program to the end, letting `handle` answer each call and change the world. -/
def runWith (handle : (request : Call) → σ → Reply request × σ) :
    Program Call Reply ε α → σ → Except ε α × σ
  | done value, world => (.ok value, world)
  | raise error, world => (.error error, world)
  | call request resume, world =>
      (resume (handle request world).1).runWith handle (handle request world).2

variable (handle : (request : Call) → σ → Reply request × σ)

@[simp]
theorem runWith_done (value : α) (world : σ) :
    (done value : Program Call Reply ε α).runWith handle world = (.ok value, world) := rfl

@[simp]
theorem runWith_raise (error : ε) (world : σ) :
    (raise error : Program Call Reply ε α).runWith handle world = (.error error, world) := rfl

@[simp]
theorem runWith_call (request : Call) (resume : Reply request → Program Call Reply ε α)
    (world : σ) :
    (call request resume).runWith handle world =
      (resume (handle request world).1).runWith handle (handle request world).2 := rfl

@[simp]
theorem runWith_ofExcept (result : Except ε α) (world : σ) :
    (ofExcept result : Program Call Reply ε α).runWith handle world = (result, world) := by
  cases result <;> rfl

/-- A composite returns through its first part or inherits the error of that part. -/
theorem runWith_bind (program : Program Call Reply ε α) (next : α → Program Call Reply ε β)
    (world : σ) :
    (program >>= next).runWith handle world =
      match program.runWith handle world with
      | (.ok value, later) => (next value).runWith handle later
      | (.error error, later) => (.error error, later) := by
  induction program generalizing world with
  | done value => rfl
  | raise error => rfl
  | call request resume ih => simp [ih]

theorem runWith_bind_of_ok {program : Program Call Reply ε α} {value : α} {world later : σ}
    (first : program.runWith handle world = (.ok value, later))
    (next : α → Program Call Reply ε β) :
    (program >>= next).runWith handle world = (next value).runWith handle later := by
  rw [runWith_bind, first]

/-- An attempt returns what the program returns or raises. -/
theorem runWith_attempt (program : Program Call Reply ε α) (world : σ) :
    program.attempt.runWith handle world =
      (.ok (program.runWith handle world).1, (program.runWith handle world).2) := by
  induction program generalizing world with
  | done value => rfl
  | raise error => rfl
  | call request resume ih => exact ih _ _

/-- What the allowed calls preserve, a program of allowed calls preserves. -/
theorem runWith_preserves {Inv : σ → Prop} {program : Program Call Reply ε α}
    (every : program.EveryCall allowed)
    (preserved : ∀ request world, allowed request → Inv world → Inv (handle request world).2)
    {world : σ} (start : Inv world) : Inv (program.runWith handle world).2 := by
  induction program generalizing world with
  | done value => exact start
  | raise error => exact start
  | call request resume ih =>
      exact ih _ (every.2 _) (preserved request world every.1 start)

/-- Against a handler which answers as assumed, a program returns what it ensures. -/
theorem post_of_ensures {post : α → Prop} {program : Program Call Reply ε α}
    (ensured : program.Ensures answers post)
    (answered : ∀ request world, answers request (handle request world).1)
    {world : σ} {value : α} (returned : (program.runWith handle world).1 = .ok value) :
    post value := by
  induction program generalizing world with
  | done result =>
      obtain rfl : result = value := by simpa using returned
      exact ensured
  | raise error => simp at returned
  | call request resume ih => exact ih _ (ensured _ (answered request world)) returned

/-! ## Outcomes under a protocol -/

/-- Every call of the program is permitted when it is made, and `final` holds of its outcome and
of the last state. -/
def FollowsTo (protocol : Protocol Call Reply τ) (final : Except ε α → τ → Prop) :
    Program Call Reply ε α → τ → Prop
  | done value, state => final (.ok value) state
  | raise error, state => final (.error error) state
  | call request resume, state =>
      protocol.permits state request ∧
        ∀ reply, (resume reply).FollowsTo protocol final (protocol.next state request reply)

section FollowsTo

variable {final : Except ε α → τ → Prop} {state : τ}

@[simp]
theorem followsTo_done {value : α} :
    (done value : Program Call Reply ε α).FollowsTo protocol final state ↔
      final (.ok value) state := Iff.rfl

@[simp]
theorem followsTo_raise {error : ε} :
    (raise error : Program Call Reply ε α).FollowsTo protocol final state ↔
      final (.error error) state := Iff.rfl

theorem followsTo_call {request : Call} {resume : Reply request → Program Call Reply ε α} :
    (call request resume).FollowsTo protocol final state ↔
      protocol.permits state request ∧
        ∀ reply, (resume reply).FollowsTo protocol final (protocol.next state request reply) :=
  Iff.rfl

theorem followsTo_mono {weaker : Except ε α → τ → Prop}
    (implied : ∀ outcome later, final outcome later → weaker outcome later)
    {program : Program Call Reply ε α} (follows : program.FollowsTo protocol final state) :
    program.FollowsTo protocol weaker state := by
  induction program generalizing state with
  | done value => exact implied _ _ follows
  | raise error => exact implied _ _ follows
  | call request resume ih => exact ⟨follows.1, fun reply => ih reply (follows.2 reply)⟩

/-- What the first part must reach is a state from which the second part follows the protocol. -/
theorem followsTo_bind {program : Program Call Reply ε α} {next : α → Program Call Reply ε β}
    {final : Except ε β → τ → Prop}
    (first : program.FollowsTo protocol
      (fun outcome later =>
        match outcome with
        | .ok value => (next value).FollowsTo protocol final later
        | .error error => final (.error error) later) state) :
    (program >>= next).FollowsTo protocol final state := by
  induction program generalizing state with
  | done value => exact first
  | raise error => exact first
  | call request resume ih => exact ⟨first.1, fun reply => ih reply (first.2 reply)⟩

theorem followsTo_ofExcept_bind {result : Except ε α} {next : α → Program Call Reply ε β}
    {final : Except ε β → τ → Prop} (raises : ∀ error, final (.error error) state)
    (last : ∀ value, result = .ok value → (next value).FollowsTo protocol final state) :
    (ofExcept result >>= next).FollowsTo protocol final state := by
  cases result with
  | ok value => exact last value rfl
  | error error => exact raises error

/-- A part whose calls are permitted and leave the state alone does not matter to the rest, but for
what it ensures. -/
theorem followsTo_bind_of_idle {program : Program Call Reply ε α}
    {next : α → Program Call Reply ε β} {final : Except ε β → τ → Prop} {post : α → Prop}
    (idle : ∀ request, allowed request →
      protocol.permits state request ∧ ∀ reply, protocol.next state request reply = state)
    (every : program.EveryCall allowed) (ensured : program.Ensures (fun _ _ => True) post)
    (raises : ∀ error, final (.error error) state)
    (last : ∀ value, post value → (next value).FollowsTo protocol final state) :
    (program >>= next).FollowsTo protocol final state := by
  induction program with
  | done value => exact last value ensured
  | raise error => exact raises error
  | call request resume ih =>
      refine ⟨(idle request every.1).1, fun reply => ?_⟩
      rw [(idle request every.1).2 reply]
      exact ih reply (every.2 reply) (ensured reply trivial)

/-- If the handler keeps an invariant between the state of the protocol and the world, a run ends
in a state which is final for its outcome, and the invariant still holds. -/
theorem runWith_followsTo {Inv : τ → σ → Prop} {program : Program Call Reply ε α}
    (follows : program.FollowsTo protocol final state)
    (preserved : ∀ state request world, protocol.permits state request → Inv state world →
      Inv (protocol.next state request (handle request world).1) (handle request world).2)
    {world : σ} (start : Inv state world) :
    ∃ later, Inv later (program.runWith handle world).2 ∧
      final (program.runWith handle world).1 later := by
  induction program generalizing state world with
  | done value => exact ⟨state, start, follows⟩
  | raise error => exact ⟨state, start, follows⟩
  | call request resume ih =>
      exact ih _ (follows.2 _) (preserved state request world follows.1 start)

/-- A handler which keeps the state of a protocol next to the world. -/
def observing (protocol : Protocol Call Reply τ) :
    (request : Call) → σ × τ → Reply request × (σ × τ) :=
  fun request both =>
    ((handle request both.1).1,
      ((handle request both.1).2, protocol.next both.2 request (handle request both.1).1))

/-- The observed state is final for the outcome. -/
theorem final_of_followsTo {program : Program Call Reply ε α}
    (follows : program.FollowsTo protocol final state) (world : σ) :
    final (program.runWith (observing handle protocol) (world, state)).1
      (program.runWith (observing handle protocol) (world, state)).2.2 := by
  induction program generalizing state world with
  | done value => exact follows
  | raise error => exact follows
  | call request resume ih => exact ih _ (follows.2 _) _

end FollowsTo

/-! ## Two handlers -/

section SameRun

variable {Call' : Type} {Reply' : Call' → Type} {σ' : Type}
  (handle' : (request : Call') → σ' → Reply' request × σ') (related : σ → σ' → Prop)

/-- From related worlds both programs have the same outcome and end in related worlds. -/
def SameRun (program : Program Call Reply ε α) (program' : Program Call' Reply' ε α) : Prop :=
  ∀ world world', related world world' →
    (program.runWith handle world).1 = (program'.runWith handle' world').1 ∧
      related (program.runWith handle world).2 (program'.runWith handle' world').2

variable {handle handle' related}

theorem sameRun_done (value : α) :
    SameRun handle handle' related (done value : Program Call Reply ε α) (done value) :=
  fun _ _ start => ⟨rfl, start⟩

/-- One program runs the same against handlers of which one simulates the other. -/
theorem sameRun_self {handle' : (request : Call) → σ' → Reply request × σ'}
    {related : σ → σ' → Prop}
    (simulates : ∀ request world world', related world world' →
      (handle request world).1 = (handle' request world').1 ∧
        related (handle request world).2 (handle' request world').2)
    (program : Program Call Reply ε α) : SameRun handle handle' related program program := by
  intro world world' start
  induction program generalizing world world' with
  | done value => exact ⟨rfl, start⟩
  | raise error => exact ⟨rfl, start⟩
  | call request resume ih =>
      obtain ⟨replies, later⟩ := simulates request world world' start
      rw [runWith_call, runWith_call, ← replies]
      exact ih _ _ _ later

theorem sameRun_ofExcept (result : Except ε α) :
    SameRun handle handle' related (ofExcept result : Program Call Reply ε α)
      (ofExcept result) := by
  cases result with
  | ok value => exact sameRun_done value
  | error error => exact fun _ _ start => ⟨rfl, start⟩

theorem sameRun_bind {program : Program Call Reply ε α} {program' : Program Call' Reply' ε α}
    {next : α → Program Call Reply ε β} {next' : α → Program Call' Reply' ε β}
    (first : SameRun handle handle' related program program')
    (last : ∀ value, SameRun handle handle' related (next value) (next' value)) :
    SameRun handle handle' related (program >>= next) (program' >>= next') := by
  intro world world' start
  obtain ⟨outcome, later⟩ := first world world' start
  rw [runWith_bind, runWith_bind]
  generalize program.runWith handle world = result at outcome later
  generalize program'.runWith handle' world' = result' at outcome later
  obtain ⟨returned | returned, ended⟩ := result
  all_goals
    obtain ⟨returned', ended'⟩ := result'
    obtain rfl : _ = returned' := outcome
  · exact ⟨rfl, later⟩
  · exact last returned ended ended' later

end SameRun

/-! ## Programs which agree on their replies -/

/-- While the replies satisfy `answers`, both programs make the same allowed calls and end in the
same way, with a value which satisfies `post`. -/
inductive Agrees (allowed : Call → Prop) (answers : (request : Call) → Reply request → Prop)
    (post : α → Prop) : Program Call Reply ε α → Program Call Reply ε α → Prop
  | done {value : α} (ensured : post value) : Agrees allowed answers post (done value) (done value)
  | raise {error : ε} : Agrees allowed answers post (raise error) (raise error)
  | call {request : Call} {resume resume' : Reply request → Program Call Reply ε α}
      (permitted : allowed request)
      (later : ∀ reply, answers request reply →
        Agrees allowed answers post (resume reply) (resume' reply)) :
      Agrees allowed answers post (call request resume) (call request resume')

namespace Agrees

variable {middle : α → Prop} {post : β → Prop} {program program' : Program Call Reply ε α}

theorem perform {request : Call} (permitted : allowed request) :
    Agrees allowed answers (answers request) (Program.perform request : Program Call Reply ε _)
      (Program.perform request) :=
  .call permitted fun _ answered => .done answered

theorem ofExcept {result : Except ε α} (ensured : ∀ value, result = .ok value → middle value) :
    Agrees allowed answers middle (Program.ofExcept result) (Program.ofExcept result) := by
  cases result with
  | ok value => exact .done (ensured value rfl)
  | error error => exact .raise

theorem bind (first : Agrees allowed answers middle program program')
    {next next' : α → Program Call Reply ε β}
    (last : ∀ value, middle value → Agrees allowed answers post (next value) (next' value)) :
    Agrees allowed answers post (program >>= next) (program' >>= next') := by
  induction first with
  | done ensured => exact last _ ensured
  | raise => exact .raise
  | call permitted later ih => exact .call permitted ih

/-- Against a handler which keeps answering so, the programs run the same. -/
theorem runWith_eq {Inv : σ → Prop} (agrees : Agrees allowed answers middle program program')
    (kept : ∀ request world, allowed request → Inv world →
      answers request (handle request world).1 ∧ Inv (handle request world).2)
    {world : σ} (start : Inv world) :
    program'.runWith handle world = program.runWith handle world ∧
      Inv (program.runWith handle world).2 := by
  induction agrees generalizing world with
  | done ensured => exact ⟨rfl, start⟩
  | raise => exact ⟨rfl, start⟩
  | @call request resume resume' permitted later ih =>
      obtain ⟨answered, next⟩ := kept request world permitted start
      exact ih _ answered next

end Agrees

/-! ## Programs in place of calls -/

section Expand

variable {Call' : Type} {Reply' : Call' → Type}
  (body : (request : Call) → Program Call' Reply' ε (Reply request))

/-- Let a program answer each call. -/
def expand : Program Call Reply ε α → Program Call' Reply' ε α
  | done value => done value
  | raise error => raise error
  | call request resume => body request >>= fun reply => (resume reply).expand

variable {body} {allowed' : Call' → Prop} {protocol' : Protocol Call' Reply' τ}

theorem everyCall_expand {program : Program Call Reply ε α} (every : program.EveryCall allowed)
    (bodies : ∀ request, allowed request → (body request).EveryCall allowed') :
    (program.expand body).EveryCall allowed' := by
  induction program with
  | done value => trivial
  | raise error => trivial
  | call request resume ih =>
      exact everyCall_bind (bodies request every.1) fun reply => ih reply (every.2 reply)

/-- What the second part may rely on is what the first part reaches. -/
theorem follows_bind_of_followsTo {program : Program Call Reply ε α}
    {next : α → Program Call Reply ε β} {state : τ}
    (first : program.FollowsTo protocol
      (fun outcome later => ∀ value, outcome = .ok value → (next value).Follows protocol later)
      state) :
    (program >>= next).Follows protocol state := by
  induction program generalizing state with
  | done value => exact first value rfl
  | raise error => trivial
  | call request resume ih => exact ⟨first.1, fun reply => ih reply (first.2 reply)⟩

/-- If the programs in place of permitted calls end where the protocol goes on, the expanded
program follows the other protocol. -/
theorem follows_expand {program : Program Call Reply ε α} {state : τ}
    (answers : ∀ state request, protocol.permits state request →
      (body request).FollowsTo protocol' (fun outcome later =>
        ∃ reply, outcome = .ok reply ∧ later = protocol.next state request reply) state)
    (follows : program.Follows protocol state) : (program.expand body).Follows protocol' state := by
  induction program generalizing state with
  | done value => trivial
  | raise error => trivial
  | call request resume ih =>
      refine follows_bind_of_followsTo (followsTo_mono ?_ (answers state request follows.1))
      rintro outcome later ⟨reply, rfl, rfl⟩ value returned
      obtain rfl := Except.ok.inj returned
      exact ih reply (follows.2 reply)

/-- An attempt whose calls leave the state alone ends where it began, with a value. -/
theorem followsTo_attempt_of_idle {program : Program Call Reply ε α} {state : τ}
    (idle : ∀ request, allowed request →
      protocol.permits state request ∧ ∀ reply, protocol.next state request reply = state)
    (every : program.EveryCall allowed) :
    program.attempt.FollowsTo protocol
      (fun outcome later => ∃ result, outcome = .ok result ∧ later = state) state := by
  induction program with
  | done value => exact ⟨_, rfl, rfl⟩
  | raise error => exact ⟨_, rfl, rfl⟩
  | call request resume ih =>
      refine ⟨(idle request every.1).1, fun reply => ?_⟩
      rw [(idle request every.1).2 reply]
      exact ih reply (every.2 reply)

end Expand

/-! ## Interleaved execution -/

/-- Several programs over one world. -/
structure Shared (ω σ : Type) (Call : Type) (Reply : Call → Type) (ε α : Type) where
  /-- What the calls read and change. -/
  world : σ
  /-- What is left to execute of each program. -/
  threads : ω → Program Call Reply ε α

variable {ω : Type} [DecidableEq ω]

/-- Let one thread perform its next call; a finished thread changes nothing. -/
def advance (worker : ω) (state : Shared ω σ Call Reply ε α) : Shared ω σ Call Reply ε α :=
  match state.threads worker with
  | done _ => state
  | raise _ => state
  | call request resume =>
      { world := (handle request state.world).2
        threads :=
          Function.update state.threads worker (resume (handle request state.world).1) }

theorem advance_of_call {worker : ω} {state : Shared ω σ Call Reply ε α} {request : Call}
    {resume : Reply request → Program Call Reply ε α}
    (next : state.threads worker = call request resume) :
    advance handle worker state =
      { world := (handle request state.world).2
        threads :=
          Function.update state.threads worker (resume (handle request state.world).1) } := by
  simp [advance, next]

/-- An invariant of the world, with a protocol for each thread: what a permitted call keeps, the
next call of a thread keeps. -/
theorem advance_keeps {Inv : (ω → τ) → σ → Prop} {protocols : ω → Protocol Call Reply τ}
    (preserved : ∀ worker states request world, (protocols worker).permits (states worker) request →
      Inv states world →
      Inv (Function.update states worker ((protocols worker).next (states worker) request
        (handle request world).1)) (handle request world).2)
    (worker : ω) {shared : Shared ω σ Call Reply ε α} {states : ω → τ}
    (start : Inv states shared.world)
    (follows : ∀ other, (shared.threads other).Follows (protocols other) (states other)) :
    ∃ states', Inv states' (advance handle worker shared).world ∧
      ∀ other, ((advance handle worker shared).threads other).Follows (protocols other)
        (states' other) := by
  cases next : shared.threads worker with
  | done value => exact ⟨states, by simpa [advance, next] using start, by simpa [advance, next]⟩
  | raise error => exact ⟨states, by simpa [advance, next] using start, by simpa [advance, next]⟩
  | call request resume =>
      have own := follows worker
      rw [next] at own
      rw [advance_of_call handle next]
      refine ⟨_, preserved worker states request shared.world own.1 start, fun other => ?_⟩
      by_cases same : other = worker
      · subst same
        simp only [Function.update_self]
        exact own.2 _
      · simp only [Function.update_of_ne same]
        exact follows other

end Program

end Foundation
