import Mathlib.Data.Fin.VecNotation
import Lakehouse.Benchmark.ComparisonPair
import Lakehouse.Foundation.IsoOrder
import Lakehouse.Time

/-!
# Which runs are compared

The before-run with the most files need not belong to the after-run it is compared with: it may be
of another table or engine, or recorded later.  The latest after-run is found by comparing texts, in
which a whole second stands behind its fractions.
-/

namespace Lakehouse

open Foundation
open Foundation.Calendar (InRange)

/-! ## Recorded runs -/

section Ascending

variable {Ref Key : Type*} [LinearOrder Ref] [LinearOrder Key] {key : Ref → Key} {refs : List Ref}
  {ref ref' best : Ref}

theorem lt_of_idxOf_lt (ascending : refs.Pairwise (· < ·)) (member : ref ∈ refs)
    (member' : ref' ∈ refs) (less : refs.idxOf ref < refs.idxOf ref') : ref < ref' := by
  have bound := List.idxOf_lt_length_iff.mpr member
  have bound' := List.idxOf_lt_length_iff.mpr member'
  have ordered := List.pairwise_iff_getElem.mp ascending _ _ bound bound' less
  rwa [List.getElem_idxOf, List.getElem_idxOf] at ordered

theorem idxOf_le_iff (ascending : refs.Pairwise (· < ·)) (member : ref ∈ refs)
    (member' : ref' ∈ refs) : refs.idxOf ref ≤ refs.idxOf ref' ↔ ref ≤ ref' := by
  constructor
  · intro le
    rcases le.lt_or_eq with less | same
    · exact (lt_of_idxOf_lt ascending member member' less).le
    · exact ((List.idxOf_inj member).mp same).le
  · intro le
    by_contra more
    exact absurd (lt_of_idxOf_lt ascending member' member (not_le.mp more)) (not_lt.mpr le)

/-- Among the largest elements of an ascending list the least is found. -/
theorem maxBy_iff_of_ascending (ascending : refs.Pairwise (· < ·)) :
    maxBy key refs = .ok best ↔
      best ∈ refs ∧ ∀ ref ∈ refs, key ref ≤ key best ∧ (key best ≤ key ref → best ≤ ref) := by
  rw [maxBy_eq_ok, List.mem_argmax_iff]
  constructor
  · rintro ⟨member, most, first⟩
    exact ⟨member, fun ref recorded => ⟨most ref recorded, fun as_many =>
      (idxOf_le_iff ascending member recorded).mp (first ref recorded as_many)⟩⟩
  · rintro ⟨member, all⟩
    exact ⟨member, fun ref recorded => (all ref recorded).1, fun ref recorded as_many =>
      (idxOf_le_iff ascending member recorded).mpr ((all ref recorded).2 as_many)⟩

end Ascending

section Recorded

variable {n : Nat} {Key : Type*} [LinearOrder Key]

/-- Another run with this label has a larger key, or an earlier one has the same. -/
def Outdone (runs : Fin (n + 1) → BenchmarkRun) (label : String) (key : BenchmarkRun → Key)
    (position : Fin (n + 1)) : Prop :=
  ∃ other, (runs other).phase = label ∧
    (key (runs position) < key (runs other) ∨
      key (runs other) = key (runs position) ∧ other < position)

theorem maxBy_recorded_iff {runs : Fin (n + 1) → BenchmarkRun} {label : String}
    {key : BenchmarkRun → Key} {position : Fin (n + 1)} :
    maxBy (fun ref => key (runs ref)) (inPhase runs label (List.finRange (n + 1))) = .ok position ↔
      (runs position).phase = label ∧ ¬Outdone runs label key position := by
  have ascending : (inPhase runs label (List.finRange (n + 1))).Pairwise (· < ·) :=
    (List.pairwise_lt_finRange (n + 1)).filter _
  rw [maxBy_iff_of_ascending ascending]
  simp only [mem_inPhase, List.mem_finRange, true_and]
  refine and_congr_right fun _ => ⟨?_, fun outdone ref labelled => ⟨?_, ?_⟩⟩
  · rintro all ⟨other, labelled, larger | ⟨same, earlier⟩⟩
    · exact absurd (all other labelled).1 (not_le.mpr larger)
    · exact absurd ((all other labelled).2 same.ge) (not_le.mpr earlier)
  · by_contra larger
    exact outdone ⟨ref, labelled, .inl (not_le.mp larger)⟩
  · intro as_many
    by_contra earlier
    rcases as_many.lt_or_eq with larger | same
    · exact outdone ⟨ref, labelled, .inl larger⟩
    · exact outdone ⟨ref, labelled, .inr ⟨same.symm, not_le.mp earlier⟩⟩

/-- The first run is recorded before the second, and both are of one table and one engine. -/
structure Belong (runs : Fin (n + 1) → BenchmarkRun) (first second : Fin (n + 1)) : Prop where
  recorded : first < second
  tablePath : (runs first).tablePath = (runs second).tablePath
  engine : (runs first).engine = (runs second).engine

/-- Of a before-run and an after-run which do not belong together, one is outdone by another run of
its label; the current run is always compared when it is an after-run. -/
structure MismatchesOutdone (runs : Fin (n + 1) → BenchmarkRun) : Prop where
  after : (runs (Fin.last n)).phase = "after" → ∀ first, (runs first).phase = "before" →
    ¬Belong runs first (Fin.last n) → Outdone runs "before" (·.inputFileCount) first
  before : (runs (Fin.last n)).phase = "before" → ∀ first second, (runs first).phase = "before" →
    (runs second).phase = "after" → ¬Belong runs first second →
      Outdone runs "before" (·.inputFileCount) first ∨ Outdone runs "after" (·.timestamp) second

theorem recordedPair_iff {runs : Fin (n + 1) → BenchmarkRun} {first second : Fin (n + 1)} :
    findComparisonPair runs (List.finRange (n + 1)) (Fin.last n) = .ok (some first, some second) ↔
      ((runs first).phase = "before" ∧ ¬Outdone runs "before" (·.inputFileCount) first) ∧
        ((runs (Fin.last n)).phase = "after" ∧ second = Fin.last n ∨
          (runs (Fin.last n)).phase = "before" ∧ (runs second).phase = "after" ∧
            ¬Outdone runs "after" (·.timestamp) second) := by
  rw [findComparisonPair_eq_iff, @maxBy_recorded_iff n Int _ runs "before" (·.inputFileCount) first,
    @maxBy_recorded_iff n String _ runs "after" (·.timestamp) second]

/-- The compared runs belong together exactly if those which do not are outdone. -/
theorem comparedRuns_belong_iff (runs : Fin (n + 1) → BenchmarkRun) :
    (∀ first second,
        findComparisonPair runs (List.finRange (n + 1)) (Fin.last n) =
          .ok (some first, some second) → Belong runs first second) ↔
      MismatchesOutdone runs := by
  constructor
  · intro belong
    constructor
    · intro after first before mismatch
      by_contra most
      exact mismatch (belong first _ (recordedPair_iff.mpr ⟨⟨before, most⟩, .inl ⟨after, rfl⟩⟩))
    · intro current_before first second before after mismatch
      by_contra chosen
      obtain ⟨most, latest⟩ := not_or.mp chosen
      exact mismatch (belong first second
        (recordedPair_iff.mpr ⟨⟨before, most⟩, .inr ⟨current_before, after, latest⟩⟩))
  · intro outdone first second pair
    by_contra mismatch
    obtain ⟨⟨before, most⟩, ⟨after, rfl⟩ | ⟨current_before, after, latest⟩⟩ :=
      recordedPair_iff.mp pair
    · exact most (outdone.after after first before mismatch)
    · obtain larger | later := outdone.before current_before first second before after mismatch
      · exact most larger
      · exact latest later

end Recorded

/-- The runs of three benchmarks on one table with one engine, without queries. -/
def benchmarkOf (ref : Fin 3) (phase timestamp : String) (inputFileCount : Int) :
    BenchmarkRun where
  benchmarkId := !["f3a91bc204e1", "c7e2d9a81b04", "5d02b6e9f7a3"] ref
  phase := phase
  timestamp := timestamp
  engine := "duckdb"
  inputFileCount := inputFileCount
  totalDataSizeMb := .finite ⟨false, 3 * 2 ^ 51, 1025, by decide, by decide, by decide⟩
  tablePath := "s3a://lakehouse/raw/events"

/-- A benchmark, one after compaction, and one when there are 200 files again. -/
def filesBehindCompaction : Fin 3 → BenchmarkRun :=
  ![benchmarkOf 0 "before" "2026-06-11T12:00:00Z" 100,
    benchmarkOf 1 "after" "2026-06-11T13:00:00Z" 10,
    benchmarkOf 2 "before" "2026-06-11T14:00:00Z" 200]

/-- The last run is compared, as the one before, with the earlier run after compaction. -/
theorem compares_backwards :
    ¬∀ first second,
        findComparisonPair filesBehindCompaction (List.finRange 3) (Fin.last 2) =
          .ok (some first, some second) → Belong filesBehindCompaction first second := by
  intro belong
  have backwards := belong 2 1 (by decide +kernel)
  exact absurd backwards.recorded (by decide)

/-! ## Times -/

section Times

variable {Ref : Type*} {run : Ref → BenchmarkRun} {history : List Ref} {current : Ref}
  {instant : Ref → Int}

/-- Each run carries the time of its instant. -/
def Stamped (run : Ref → BenchmarkRun) (instant : Ref → Int) (history : List Ref) : Prop :=
  ∀ ref ∈ history, InRange (instant ref) ∧ (run ref).timestamp = utcNow (instant ref)

theorem Stamped.timestamp_le_iff (stamped : Stamped run instant history) {ref ref' : Ref}
    (member : ref ∈ history) (member' : ref' ∈ history) :
    (run ref).timestamp ≤ (run ref').timestamp ↔
      Iso.printedPlace (instant ref) ≤ Iso.printedPlace (instant ref') := by
  obtain ⟨range, time⟩ := stamped ref member
  obtain ⟨range', time'⟩ := stamped ref' member'
  rw [← not_lt, ← not_lt, time, time', utcNow, utcNow, String.lt_iff, String.toList_ofList,
    String.toList_ofList, Iso.writeZulu_lt_iff range' range]

/-- The latest text is that of the latest time unless a later time in the same second follows a
whole second. -/
theorem latestAfter_iff (instant : Ref → Int) (stamped : Stamped run instant history)
    (member : current ∈ history) (before : (run current).phase = "before") :
    (∀ first second, findComparisonPair run history current = .ok (some first, some second) →
        ∀ ref ∈ inPhase run "after" history, instant ref ≤ instant second) ↔
      ∀ whole ∈ inPhase run "after" history, ∀ later ∈ inPhase run "after" history,
        instant whole % seconds 1 = 0 → instant whole < instant later →
          instant later < instant whole + seconds 1 →
            ∃ last ∈ inPhase run "after" history, instant whole + seconds 1 ≤ instant last := by
  have not_after : (run current).phase ≠ "after" := by simp [before]
  have second_eq : seconds 1 = 1000000 := rfl
  simp only [second_eq]
  constructor
  · intro latest whole whole_mem later later_mem on_second less within
    by_contra! none_behind
    obtain ⟨first, -, largest, -⟩ := exists_maxBy (fun ref => (run ref).inputFileCount)
      (List.ne_nil_of_mem (mem_inPhase.mpr ⟨member, before⟩))
    obtain ⟨second, second_mem, chosen, last⟩ := exists_maxBy (fun ref => (run ref).timestamp)
      (List.ne_nil_of_mem whole_mem)
    have pair := findComparisonPair_eq_iff.mpr ⟨largest, .inr ⟨before, chosen⟩⟩
    have behind := latest first second pair later later_mem
    have place := (stamped.timestamp_le_iff (mem_inPhase.mp whole_mem).1
      (mem_inPhase.mp second_mem).1).mp (last whole whole_mem)
    have near := none_behind second second_mem
    rw [Iso.printedPlace_le_iff] at place
    omega
  · intro followed first second pair ref ref_mem
    obtain ⟨-, ⟨after, -⟩ | ⟨-, chosen⟩⟩ := findComparisonPair_eq_iff.mp pair
    · exact absurd after not_after
    · have latest := maxBy_eq_ok.mp chosen
      have second_mem := List.argmax_mem latest
      have place_le : ∀ other ∈ inPhase run "after" history,
          Iso.printedPlace (instant other) ≤ Iso.printedPlace (instant second) := by
        intro other other_mem
        have text := List.le_of_mem_argmax other_mem latest
        exact (stamped.timestamp_le_iff (mem_inPhase.mp other_mem).1
          (mem_inPhase.mp second_mem).1).mp text
      by_contra! earlier
      have on_second : instant second % 1000000 = 0 ∧ instant ref < instant second + 1000000 := by
        have place := Iso.printedPlace_le_iff.mp (place_le ref ref_mem)
        omega
      obtain ⟨last, last_mem, behind⟩ :=
        followed second second_mem ref ref_mem on_second.1 earlier on_second.2
      have last_place := Iso.printedPlace_le_iff.mp (place_le last last_mem)
      omega

end Times

/-- Two after-runs within one second, and a before-run one hour behind them. -/
def instantsWithinSecond : Fin 3 → Int :=
  ![seconds 1781179200, seconds 1781179200 + 500000, seconds 1781182800]

def runsWithinSecond (ref : Fin 3) : BenchmarkRun :=
  benchmarkOf ref (if ref = 2 then "before" else "after") (utcNow (instantsWithinSecond ref)) 10

theorem stamped_runsWithinSecond :
    Stamped runsWithinSecond instantsWithinSecond (List.finRange 3) := by
  have range : ∀ ref, InRange (instantsWithinSecond ref) := by decide
  exact fun ref _ => ⟨range ref, rfl⟩

theorem latestAfter_iff_sample :
    (∀ first second,
        findComparisonPair runsWithinSecond (List.finRange 3) 2 = .ok (some first, some second) →
          ∀ ref ∈ inPhase runsWithinSecond "after" (List.finRange 3),
            instantsWithinSecond ref ≤ instantsWithinSecond second) ↔
      ∀ whole ∈ inPhase runsWithinSecond "after" (List.finRange 3),
        ∀ later ∈ inPhase runsWithinSecond "after" (List.finRange 3),
          instantsWithinSecond whole % seconds 1 = 0 →
            instantsWithinSecond whole < instantsWithinSecond later →
              instantsWithinSecond later < instantsWithinSecond whole + seconds 1 →
                ∃ last ∈ inPhase runsWithinSecond "after" (List.finRange 3),
                  instantsWithinSecond whole + seconds 1 ≤ instantsWithinSecond last :=
  latestAfter_iff instantsWithinSecond stamped_runsWithinSecond (List.mem_finRange 2) rfl

/-- `12:00:00Z` stands behind `12:00:00.500000Z`. -/
theorem compares_earlier_afterRun :
    Stamped runsWithinSecond instantsWithinSecond (List.finRange 3) ∧
      ¬∀ first second,
          findComparisonPair runsWithinSecond (List.finRange 3) 2 = .ok (some first, some second) →
            ∀ ref ∈ inPhase runsWithinSecond "after" (List.finRange 3),
              instantsWithinSecond ref ≤ instantsWithinSecond second := by
  refine ⟨stamped_runsWithinSecond, fun latest => ?_⟩
  have later := latest 2 0 (by decide +kernel) 1 (by decide +kernel)
  exact absurd later (by decide)

end Lakehouse
