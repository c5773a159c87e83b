import Mathlib.Algebra.Order.Field.Rat
import Mathlib.Data.List.GetD
import Mathlib.Tactic.FieldSimp
import Mathlib.Tactic.Linarith
import Lakehouse.Producer.EventProducer

/-!
# Runs of the producer

What a run has sent is a stream: the message with a number is the event with this number, or a bad
payload in its place.  As long as the clock keeps up with the sleeps, the stream is never more than
one batch ahead of the rate, up to the rounding of floats.
-/

namespace Lakehouse

open Foundation

/-! ## Streams -/

/-- The payloads of the generators. -/
inductive BadEvent
  | missingEventId (now : Instant)
  | nullEventTimestamp
  | invalidAmount (now : Instant)
  | malformedJson

def BadEvent.payload : BadEvent → String
  | .missingEventId now => Lakehouse.missingEventId now
  | .nullEventTimestamp => Lakehouse.nullEventTimestamp
  | .invalidAmount now => Lakehouse.invalidAmount now
  | .malformedJson => Lakehouse.malformedJson

def BadEvent.message (bad : BadEvent) : Message where
  key := none
  value := bad.payload

/-- What the producer sends with a number. -/
inductive Sends (sequence : Nat) : Message → Prop
  | event (event : GeneratedEvent) (numbered : event.sequence = sequence) :
      Sends sequence event.message
  | bad (bad : BadEvent) : Sends sequence bad.message

/-- The messages in their order; the first one has the number 1. -/
def IsStream (messages : List Message) : Prop :=
  ∀ number message, messages[number]? = some message → Sends (number + 1) message

theorem isStream_nil : IsStream [] := by
  simp [IsStream]

theorem IsStream.append {messages : List Message} {message : Message} (stream : IsStream messages)
    (sends : Sends (messages.length + 1) message) : IsStream (messages ++ [message]) := by
  intro number other found
  rcases Nat.lt_trichotomy number messages.length with earlier | same | later
  · rw [List.getElem?_append_left earlier] at found
    exact stream number other found
  · subst same
    rw [List.getElem?_concat_length] at found
    obtain rfl := Option.some.inj found
    exact sends
  · rw [List.getElem?_eq_none (by simp; omega)] at found
    cases found

/-! ## The history of a run -/

structure ProducerHistory where
  sent : List Message := []
  /-- The value which the flag was last read with. -/
  flag : Bool := true
  /-- The first reading of the clock. -/
  first : Option ℚ := none
  /-- The last reading, and what has been slept since. -/
  time : ℚ := 0
  /-- Whether no reading was below this time. -/
  steady : Bool := true

namespace ProducerHistory

/-- The time since the first reading. -/
def elapsed (history : ProducerHistory) : ℚ :=
  history.time - history.first.getD history.time

/-- The history after a reading of the clock. -/
def read (history : ProducerHistory) (reading : ℚ) : ProducerHistory :=
  match history.first with
  | none => { history with first := some reading, time := reading }
  | some _ =>
      { history with time := reading, steady := history.steady && decide (history.time ≤ reading) }

def after (history : ProducerHistory) :
    (request : ProducerCall) → ProducerReply request → ProducerHistory
  | .running, flag => { history with flag }
  | .monotonic, reading => history.read reading
  | .produce message, .ok () => { history with sent := history.sent ++ [message] }
  | .sleep duration, _ => { history with time := history.time + duration }
  | _, _ => history

end ProducerHistory

namespace ProducerSettings

variable (settings : ProducerSettings)

/-- The number of events does not exceed the rate, up to rounding. -/
def Keeps (number time : ℚ) : Prop := number * (1 - 1 / 2 ^ 50) ≤ settings.rate * time

/-- The events sent are at most those of the rate and some more, unless the clock has failed. -/
def Paced (ahead : ℚ) (history : ProducerHistory) : Prop :=
  history.steady = true → settings.Keeps (history.sent.length - ahead) history.elapsed

/-- Messages are sent with their numbers, while the flag is set and one batch ahead at most; the
log lines name the number of messages. -/
def producerProtocol : Program.Protocol ProducerCall ProducerReply ProducerHistory where
  permits
    | history, .produce message =>
        history.flag = true ∧ Sends (history.sent.length + 1) message ∧
          (history.steady = true →
            settings.Keeps (history.sent.length + 1 - settings.batchSize.toNat) history.elapsed)
    | _, .sleep duration => 0 < duration
    | history, .published sequence => sequence = history.sent.length ∧ 1000 ∣ sequence
    | history, .flush => history.flag = false
    | history, .stopped sequence => sequence = history.sent.length ∧ history.flag = false
    | _, _ => True
  next := ProducerHistory.after

variable {settings} {history : ProducerHistory}

/-! ## One message -/

/-- The calls which neither send nor wait. -/
def IsDraw : ProducerCall → Prop
  | .random | .choice _ | .randint _ _ | .uniform | .uuidHex | .now | .poll => True
  | _ => False

theorem idle_of_isDraw (settings : ProducerSettings) (history : ProducerHistory)
    (request : ProducerCall) (draw : IsDraw request) :
    settings.producerProtocol.permits history request ∧
      ∀ reply, settings.producerProtocol.next history request reply = history := by
  cases request <;> first | exact ⟨trivial, fun _ => rfl⟩ | exact draw.elim

theorem isDraw_drawBad : settings.drawBad.EveryCall IsDraw := by
  unfold drawBad
  split
  · exact ⟨trivial, fun _ => trivial⟩
  · trivial

theorem ensures_drawBad : settings.drawBad.Ensures (fun _ _ => True) fun _ => True := by
  unfold drawBad
  split
  · exact fun _ _ => trivial
  · trivial

theorem isDraw_generateEvent (sequence : Nat) : (generateEvent sequence).EveryCall IsDraw := by
  simp [generateEvent, IsDraw]

theorem ensures_generateEvent (sequence : Nat) :
    (generateEvent sequence).Ensures (fun _ _ => True) fun event => event.sequence = sequence :=
  fun _ _ _ _ _ _ _ _ _ _ _ _ _ _ _ _ => rfl

theorem badEventGenerators_spec {generator : ProducerProgram String}
    (member : generator ∈ badEventGenerators) :
    generator.EveryCall IsDraw ∧
      generator.Ensures (fun _ _ => True)
        fun payload => ∃ bad : BadEvent, payload = bad.payload := by
  simp only [badEventGenerators, List.mem_cons, List.not_mem_nil, or_false] at member
  rcases member with rfl | rfl | rfl | rfl
  · exact ⟨⟨trivial, fun _ => trivial⟩, fun now _ => ⟨.missingEventId now, rfl⟩⟩
  · exact ⟨trivial, .nullEventTimestamp, rfl⟩
  · exact ⟨⟨trivial, fun _ => trivial⟩, fun now _ => ⟨.invalidAmount now, rfl⟩⟩
  · exact ⟨trivial, .malformedJson, rfl⟩

/-- One more message has been sent, or the client has raised. -/
def SendsOne (history : ProducerHistory) : Except PyException Unit → ProducerHistory → Prop
  | .ok (), later => ∃ message, Sends (history.sent.length + 1) message ∧
      later = { history with sent := history.sent ++ [message] }
  | .error _, later => later = history

/-- There is room for one more message. -/
structure Ready (settings : ProducerSettings) (history : ProducerHistory) : Prop where
  flag : history.flag = true
  room : history.steady = true →
    settings.Keeps (history.sent.length + 1 - settings.batchSize.toNat) history.elapsed

theorem followsTo_produce (ready : Ready settings history) {message : Message}
    (sends : Sends (history.sent.length + 1) message) :
    (produce message).FollowsTo settings.producerProtocol (SendsOne history) history := by
  refine ⟨⟨ready.flag, sends, ready.room⟩, fun reply => ?_⟩
  cases reply with
  | ok done => exact ⟨message, sends, rfl⟩
  | error exc => exact rfl

theorem followsTo_publishOne (ready : Ready settings history) :
    (settings.publishOne (history.sent.length + 1)).FollowsTo settings.producerProtocol
      (SendsOne history) history := by
  have idle := idle_of_isDraw settings history
  have raises : ∀ exc, SendsOne history (.error exc) history := fun _ => rfl
  refine Program.followsTo_bind_of_idle idle isDraw_drawBad ensures_drawBad raises fun bad _ => ?_
  cases bad with
  | true =>
      refine ⟨trivial, fun index => ?_⟩
      obtain ⟨draws, ensured⟩ := badEventGenerators_spec (List.get_mem badEventGenerators index)
      show (badEventGenerators.get index >>= fun rawPayload =>
        produce { key := none, value := rawPayload }).FollowsTo _ _ _
      refine Program.followsTo_bind_of_idle idle draws ensured raises ?_
      rintro _ ⟨bad, rfl⟩
      exact followsTo_produce ready (.bad bad)
  | false =>
      refine Program.followsTo_bind_of_idle idle (isDraw_generateEvent _)
        (ensures_generateEvent _) raises fun event numbered => ?_
      exact followsTo_produce ready (.event event numbered)

/-! ## A batch -/

/-- The history within a batch, which leaves room for what remains of it. -/
structure Publishing (settings : ProducerSettings) (start first : ℚ) (remaining sequence : Nat)
    (history : ProducerHistory) : Prop where
  stream : IsStream history.sent
  counted : history.sent.length = sequence
  began : history.first = some first
  time : history.time = start
  room : history.steady = true →
    settings.Keeps (sequence + remaining - settings.batchSize.toNat) (start - first)

/-- What holds of a history whatever comes next. -/
structure Kept (settings : ProducerSettings) (history : ProducerHistory) : Prop where
  stream : IsStream history.sent
  paced : settings.Paced settings.batchSize.toNat history

section Batch

variable {start first : ℚ} {remaining sequence : Nat}

theorem elapsed_of_first (began : history.first = some first) :
    history.elapsed = history.time - first := by
  rw [ProducerHistory.elapsed, began, Option.getD_some]

/-- Fewer events keep the rate too. -/
theorem Keeps.mono {number fewer time : ℚ} (keeps : settings.Keeps number time)
    (le : fewer ≤ number) : settings.Keeps fewer time := by
  unfold Keeps at keeps ⊢
  linarith

theorem Publishing.kept
    (publishing : Publishing settings start first remaining sequence history) :
    Kept settings history := by
  refine ⟨publishing.stream, fun steady => ?_⟩
  have remains : (0 : ℚ) ≤ remaining := Nat.cast_nonneg remaining
  rw [publishing.counted, elapsed_of_first publishing.began, publishing.time]
  exact (publishing.room steady).mono (by linarith)

theorem Publishing.ready
    (publishing : Publishing settings start first (remaining + 1) sequence history)
    (flag : history.flag = true) : Ready settings history := by
  refine ⟨flag, fun steady => ?_⟩
  have remains : (0 : ℚ) ≤ remaining := Nat.cast_nonneg remaining
  rw [publishing.counted, elapsed_of_first publishing.began, publishing.time]
  refine (publishing.room steady).mono ?_
  push_cast
  linarith

theorem Publishing.send
    (publishing : Publishing settings start first (remaining + 1) sequence history)
    {message : Message} (sends : Sends (history.sent.length + 1) message) :
    Publishing settings start first remaining (sequence + 1)
      { history with sent := history.sent ++ [message] } where
  stream := publishing.stream.append sends
  counted := by simp [publishing.counted]
  began := publishing.began
  time := publishing.time
  room steady := by
    refine (publishing.room steady).mono ?_
    push_cast
    linarith

/-- A batch has been sent, or the client has raised. -/
def SendsBatch (settings : ProducerSettings) (start first : ℚ) :
    Except PyException Nat → ProducerHistory → Prop
  | .ok sequence, later => Publishing settings start first 0 sequence later
  | .error _, later => Kept settings later

theorem followsTo_publishBatch
    (publishing : Publishing settings start first remaining sequence history) :
    (settings.publishBatch remaining sequence).FollowsTo settings.producerProtocol
      (SendsBatch settings start first) history := by
  induction remaining generalizing sequence history with
  | zero => exact publishing
  | succ remaining ih =>
      refine ⟨trivial, fun flag => ?_⟩
      have asked : Publishing settings start first (remaining + 1) sequence
          { history with flag } := { publishing with }
      cases flag with
      | false =>
          refine { publishing with room := fun steady => (publishing.room steady).mono ?_ }
          have remains : (0 : ℚ) ≤ (remaining + 1 : Nat) := Nat.cast_nonneg _
          push_cast at remains ⊢
          linarith
      | true =>
          obtain rfl := publishing.counted
          show (settings.publishOne (history.sent.length + 1) >>= fun _ =>
            settings.publishBatch remaining (history.sent.length + 1)).FollowsTo _ _
              { history with flag := true }
          refine Program.followsTo_bind (Program.followsTo_mono ?_
            (followsTo_publishOne (asked.ready rfl)))
          rintro (exc | done) later sent
          · obtain rfl : later = _ := sent
            exact asked.kept
          · obtain ⟨message, sends, rfl⟩ := sent
            exact ih (asked.send sends)

end Batch

/-! ## A round -/

theorem rate_pos : 0 < settings.rate := by
  have one_le : 1 ≤ max settings.eventsPerSecond 1 := le_max_right _ _
  unfold rate
  exact_mod_cast one_le

/-- A second has at least as many intervals as events, up to three roundings. -/
theorem le_rate_mul_interval : (1 - 1 / 2 ^ 53) * (1 - 1 / 2 ^ 53) ≤
    settings.rate * settings.interval := by
  have positive := settings.rate_pos
  have float_pos := nearestFloat_pos positive
  have above := nearestFloat_le_of_nonneg positive.le
  have quotient : 1 - 1 / 2 ^ 53 ≤ settings.rate * (1 / nearestFloat settings.rate) := by
    rw [mul_one_div, le_div_iff₀ float_pos]
    linarith
  have rounded := le_nearestFloat_of_nonneg (one_div_pos.mpr float_pos).le
  calc
    (1 - 1 / 2 ^ 53) * (1 - 1 / 2 ^ 53) ≤
        settings.rate * (1 / nearestFloat settings.rate) * (1 - 1 / 2 ^ 53) :=
      mul_le_mul_of_nonneg_right quotient (by norm_num)
    _ = settings.rate * (1 / nearestFloat settings.rate * (1 - 1 / 2 ^ 53)) := by ring
    _ ≤ settings.rate * settings.interval := mul_le_mul_of_nonneg_left rounded positive.le

/-- Who has waited for the time of a batch keeps the rate. -/
theorem keeps_of_waited {time : ℚ} (passed : 0 ≤ time)
    (waited : settings.target * (1 - 1 / 2 ^ 53) ≤ time) :
    settings.Keeps settings.batchSize.toNat time := by
  have positive := settings.rate_pos
  unfold Keeps
  rcases Int.le_total 0 settings.batchSize with natural | negative
  · have size : (settings.batchSize.toNat : ℚ) = settings.batchSize := by
      exact_mod_cast Int.toNat_of_nonneg natural
    have size_nonneg : (0 : ℚ) ≤ settings.batchSize := by exact_mod_cast natural
    have float_nonneg := nearestFloat_nonneg size_nonneg
    have size_le := le_nearestFloat_of_nonneg size_nonneg
    have rates := @le_rate_mul_interval settings
    have interval_nonneg : 0 ≤ settings.interval :=
      nearestFloat_nonneg (one_div_nonneg.mpr (nearestFloat_nonneg positive.le))
    have target_le := le_nearestFloat_of_nonneg (mul_nonneg float_nonneg interval_nonneg)
    rw [size]
    calc
      (settings.batchSize : ℚ) * (1 - 1 / 2 ^ 50) ≤
          settings.batchSize * (1 - 1 / 2 ^ 53) *
            ((1 - 1 / 2 ^ 53) * (1 - 1 / 2 ^ 53)) * (1 - 1 / 2 ^ 53) * (1 - 1 / 2 ^ 53) := by
        linarith
      _ ≤ nearestFloat settings.batchSize * (settings.rate * settings.interval) *
            (1 - 1 / 2 ^ 53) * (1 - 1 / 2 ^ 53) := by
        gcongr
      _ = settings.rate * (nearestFloat settings.batchSize * settings.interval *
            (1 - 1 / 2 ^ 53) * (1 - 1 / 2 ^ 53)) := by ring
      _ ≤ settings.rate * (settings.target * (1 - 1 / 2 ^ 53)) :=
        mul_le_mul_of_nonneg_left (mul_le_mul_of_nonneg_right target_le (by norm_num)) positive.le
      _ ≤ settings.rate * time := mul_le_mul_of_nonneg_left waited positive.le
  · rw [Int.toNat_of_nonpos negative, Nat.cast_zero, zero_mul]
    exact mul_nonneg positive.le passed

/-- The history between two rounds. -/
structure Going (settings : ProducerSettings) (sequence : Nat) (history : ProducerHistory) :
    Prop where
  stream : IsStream history.sent
  counted : history.sent.length = sequence
  paced : settings.Paced 0 history

theorem Going.kept {sequence : Nat} (going : Going settings sequence history) :
    Kept settings history := by
  refine ⟨going.stream, fun steady => (going.paced steady).mono ?_⟩
  have more : (0 : ℚ) ≤ settings.batchSize.toNat := Nat.cast_nonneg _
  linarith

/-- A reading of the clock does not bring the rate back. -/
theorem Going.publishing {sequence : Nat} (going : Going settings sequence history)
    (reading : ℚ) :
    ∃ first, Publishing settings reading first settings.batchSize.toNat sequence
      (history.read reading) := by
  have paced := going.paced
  cases began : history.first with
  | none =>
      refine ⟨reading, ?_⟩
      have read_eq : history.read reading =
          { history with first := some reading, time := reading } := by
        rw [ProducerHistory.read, began]
      rw [read_eq]
      refine ⟨going.stream, going.counted, rfl, rfl, fun steady => ?_⟩
      have paced := paced steady
      rw [going.counted, ProducerHistory.elapsed, began, Option.getD_none, sub_self] at paced
      rw [sub_self]
      exact paced.mono (by linarith)
  | some first =>
      refine ⟨first, ?_⟩
      have read_eq : history.read reading =
          { history with
            time := reading
            steady := history.steady && decide (history.time ≤ reading) } := by
        rw [ProducerHistory.read, began]
      rw [read_eq]
      refine ⟨going.stream, going.counted, began, rfl, fun steady => ?_⟩
      simp only [Bool.and_eq_true, decide_eq_true_eq] at steady
      have paced := paced steady.1
      rw [going.counted, elapsed_of_first began] at paced
      have grows : settings.rate * (history.time - first) ≤ settings.rate * (reading - first) :=
        mul_le_mul_of_nonneg_left (by linarith [steady.2]) settings.rate_pos.le
      unfold Keeps at paced ⊢
      linarith

/-- The history at the end of a round: the batch has taken its time. -/
structure Rested (settings : ProducerSettings) (start first : ℚ) (sequence : Nat)
    (history : ProducerHistory) : Prop where
  stream : IsStream history.sent
  counted : history.sent.length = sequence
  began : history.first = some first
  room : history.steady = true →
    settings.Keeps (sequence - settings.batchSize.toNat) (start - first)
  waited : history.steady = true →
    start ≤ history.time ∧ start + settings.target * (1 - 1 / 2 ^ 53) ≤ history.time

theorem Rested.going {start first : ℚ} {sequence : Nat}
    (rested : Rested settings start first sequence history) : Going settings sequence history := by
  refine ⟨rested.stream, rested.counted, fun steady => ?_⟩
  obtain ⟨passed, waited⟩ := rested.waited steady
  have room := rested.room steady
  have batch := @keeps_of_waited settings (history.time - start) (by linarith) (by linarith)
  rw [rested.counted, elapsed_of_first rested.began]
  unfold Keeps at room batch ⊢
  linarith

theorem followsTo_logPublished {start first : ℚ} {sequence : Nat}
    (rested : Rested settings start first sequence history) :
    (logPublished sequence).FollowsTo settings.producerProtocol
      (fun _ later => Going settings sequence later) history := by
  unfold logPublished
  split
  · rename_i thousand
    exact ⟨⟨rested.counted.symm, Nat.dvd_of_mod_eq_zero thousand⟩, fun _ => rested.going⟩
  · exact rested.going

/-- After the second reading of a round and the sleep the time of the batch is over. -/
theorem followsTo_sleepRest {start first reading : ℚ} {sequence : Nat} {steady : Bool}
    (published : Publishing settings start first 0 sequence history)
    (read_steady : steady = (history.steady && decide (start ≤ reading))) :
    (settings.sleepRest (nearestFloat (reading - start))).FollowsTo settings.producerProtocol
      (fun _ later => Rested settings start first sequence later)
      { history with time := reading, steady } := by
  have both : steady = true → history.steady = true ∧ start ≤ reading := by
    rw [read_steady]
    simp
  have room : steady = true →
      settings.Keeps (sequence - settings.batchSize.toNat) (start - first) := by
    intro kept
    simpa using published.room (both kept).1
  have waited : steady = true → start + settings.target * (1 - 1 / 2 ^ 53) ≤
      reading + max 0 (remaining settings.target start reading) :=
    fun kept => le_add_remaining (both kept).2
  unfold sleepRest
  split
  · rename_i early
    have waits : 0 < remaining settings.target start reading :=
      nearestFloat_pos (sub_pos.mpr early)
    rw [max_eq_right waits.le] at waited
    refine ⟨waits, fun _ => ⟨published.stream, published.counted, published.began, room, ?_⟩⟩
    intro kept
    have passed := (both kept).2
    constructor
    · show start ≤ reading + remaining settings.target start reading
      linarith
    · exact waited kept
  · rename_i late
    have spent : remaining settings.target start reading ≤ 0 :=
      nearestFloat_nonpos (sub_nonpos.mpr (not_lt.mp late))
    rw [max_eq_left spent, add_zero] at waited
    exact ⟨published.stream, published.counted, published.began, room,
      fun kept => ⟨(both kept).2, waited kept⟩⟩

theorem followsTo_finishBatch {start first : ℚ} {sequence : Nat}
    (published : Publishing settings start first 0 sequence history) :
    (settings.finishBatch start sequence).FollowsTo settings.producerProtocol
      (fun _ later => Going settings sequence later) history := by
  refine ⟨trivial, fun _ => ⟨trivial, fun reading => ?_⟩⟩
  have read_eq : history.read reading =
      { history with
        time := reading
        steady := history.steady && decide (start ≤ reading) } := by
    rw [ProducerHistory.read, published.began, published.time]
  show (settings.sleepRest (nearestFloat (reading - start)) >>= fun _ =>
    logPublished sequence).FollowsTo _ _ (history.read reading)
  rw [read_eq]
  refine Program.followsTo_bind (Program.followsTo_mono ?_ (followsTo_sleepRest published rfl))
  rintro (exc | done) later rested
  · exact rested.going
  · exact followsTo_logPublished rested

/-! ## Whole runs -/

/-- The loop has been left with the flag cleared, or cut off, or the client has raised. -/
def LoopEnds (settings : ProducerSettings) :
    Except PyException (Nat × Bool) → ProducerHistory → Prop
  | .ok (sequence, going), later =>
      Going settings sequence later ∧ (going = false → later.flag = false)
  | .error _, later => Kept settings later

theorem followsTo_round {sequence : Nat} (going : Going settings sequence history) :
    (settings.round sequence).FollowsTo settings.producerProtocol
      (Program.RoundEnds (Going settings) (LoopEnds settings)) history := by
  refine ⟨trivial, fun flag => ?_⟩
  have asked : Going settings sequence { history with flag } := { going with }
  cases flag with
  | false => exact ⟨asked, fun _ => rfl⟩
  | true =>
      refine ⟨trivial, fun reading => ?_⟩
      obtain ⟨first, publishing⟩ := asked.publishing reading
      show (settings.publishBatch settings.batchSize.toNat sequence >>= fun sequence =>
        settings.finishBatch reading sequence >>= fun _ => pure (sequence, true)).FollowsTo _ _
          (ProducerHistory.read { history with flag := true } reading)
      refine Program.followsTo_bind (Program.followsTo_mono ?_ (followsTo_publishBatch publishing))
      rintro (exc | number) later sent
      · exact sent
      · refine Program.followsTo_bind (Program.followsTo_mono ?_ (followsTo_finishBatch sent))
        rintro (exc | done) last rested
        · exact rested.kept
        · exact rested

theorem followsTo_main (settings : ProducerSettings) (count : Nat) :
    (settings.main count).FollowsTo settings.producerProtocol
      (fun _ history => Kept settings history) {} := by
  have start : Going settings 0 {} :=
    ⟨isStream_nil, rfl, fun _ => by simp [ProducerHistory.elapsed, Keeps]⟩
  have loop : (Program.roundsFrom settings.round count 0).FollowsTo settings.producerProtocol
      (LoopEnds settings) {} :=
    Program.followsTo_roundsFrom (fun _ _ => followsTo_round) (fun _ _ going => ⟨going, by simp⟩)
      count start
  refine Program.followsTo_bind (Program.followsTo_mono ?_ loop)
  rintro (exc | ⟨sequence, _ | _⟩) later ended
  · exact ended
  · have cleared := ended.2 rfl
    exact ⟨cleared, fun _ => ⟨⟨ended.1.counted.symm, cleared⟩, fun _ => ended.1.kept⟩⟩
  · exact ended.1.kept

/-- Whatever the environment answers, the messages of a run are a stream. -/
theorem isStream_of_main {σ : Type} (settings : ProducerSettings) (count : Nat)
    (handle : (request : ProducerCall) → σ → ProducerReply request × σ) (world : σ) :
    IsStream ((settings.main count).runWith
      (Program.observing handle settings.producerProtocol) (world, {})).2.2.sent :=
  (Program.final_of_followsTo handle (followsTo_main settings count) world).stream

/-- In every run of the producer, whatever it draws, whenever a signal comes and however the clock
runs, the messages carry their numbers, and they are sent while the flag is set.  Unless the clock
goes back, no message is more than a batch ahead of the rate, up to the rounding of floats.  The log
lines count the messages. -/
theorem producer_stream (settings : ProducerSettings) (count : Nat) :
    (settings.main count).FollowsTo settings.producerProtocol
      (fun _ history => IsStream history.sent ∧ (history.steady = true →
        (history.sent.length - settings.batchSize.toNat) * (1 - 1 / 2 ^ 50) ≤
          settings.rate * history.elapsed)) {} :=
  Program.followsTo_mono (fun _ _ kept => ⟨kept.stream, kept.paced⟩)
    (followsTo_main settings count)

end ProducerSettings

end Lakehouse
