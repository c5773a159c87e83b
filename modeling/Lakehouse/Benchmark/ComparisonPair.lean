import Lakehouse.Benchmark.BenchmarkQueries

/-!
# The compared runs

Automatic labels make each after-run smaller than some before-run, and so the compared runs show a
reduction.
-/

namespace Lakehouse

section Largest

variable {Ref Key : Type*} [LinearOrder Key] {key : Ref → Key} {refs : List Ref} {best : Ref}

theorem maxBy_eq_ok : maxBy key refs = .ok best ↔ best ∈ refs.argmax key := by
  unfold maxBy
  cases refs.argmax key <;> simp [eq_comm]

theorem exists_maxBy (key : Ref → Key) (nonempty : refs ≠ []) :
    ∃ best ∈ refs, maxBy key refs = .ok best ∧ ∀ ref ∈ refs, key ref ≤ key best := by
  have some_best : refs.argmax key ≠ none := fun none_eq =>
    nonempty (List.argmax_eq_none.mp none_eq)
  obtain ⟨best, best_eq⟩ := Option.ne_none_iff_exists'.mp some_best
  exact ⟨best, List.argmax_mem best_eq, maxBy_eq_ok.mpr best_eq,
    fun ref member => List.le_of_mem_argmax member best_eq⟩

end Largest

section Labels

variable {Ref : Type*} {run : Ref → BenchmarkRun} {label : String} {history : List Ref} {ref : Ref}

@[simp]
theorem mem_inPhase :
    ref ∈ inPhase run label history ↔ ref ∈ history ∧ (run ref).phase = label := by
  simp [inPhase]

/-- What the two compared runs are. -/
theorem findComparisonPair_eq_iff {current first second : Ref} :
    findComparisonPair run history current = .ok (some first, some second) ↔
      maxBy (fun ref => (run ref).inputFileCount) (inPhase run "before" history) = .ok first ∧
        ((run current).phase = "after" ∧ second = current ∨
          (run current).phase = "before" ∧
            maxBy (fun ref => (run ref).timestamp) (inPhase run "after" history) = .ok second) := by
  unfold findComparisonPair
  by_cases after : (run current).phase = "after"
  · have not_before : (run current).phase ≠ "before" := by simp [after]
    by_cases empty : inPhase run "before" history = []
    · simp [after, empty, maxBy]
    · obtain ⟨baseline, -, found, -⟩ := exists_maxBy (fun ref => (run ref).inputFileCount) empty
      simp [after, empty, found, @eq_comm _ current second]
  · by_cases before : (run current).phase = "before"
    · by_cases empty : inPhase run "after" history = []
      · simp [before, empty, maxBy]
      · obtain ⟨latest, -, found, -⟩ := exists_maxBy (fun ref => (run ref).timestamp) empty
        cases largest :
            maxBy (fun ref => (run ref).inputFileCount) (inPhase run "before" history) <;>
          simp [before, empty, found, largest]
    · simp [after, before]

/-- With the current run among the others nothing is raised. -/
theorem exists_findComparisonPair {current : Ref} (member : current ∈ history) :
    ∃ pair, findComparisonPair run history current = .ok pair := by
  unfold findComparisonPair
  by_cases empty : inPhase run "before" history = []
  · have not_before : (run current).phase ≠ "before" := fun before =>
      List.ne_nil_of_mem (mem_inPhase.mpr ⟨member, before⟩) empty
    by_cases after : (run current).phase = "after" <;> simp [after, not_before, empty]
  · obtain ⟨baseline, -, found, -⟩ := exists_maxBy (fun ref => (run ref).inputFileCount) empty
    by_cases after : (run current).phase = "after"
    · simp [after, empty, found]
    · by_cases none_after : inPhase run "after" history = []
      · simp [after, none_after]
      · obtain ⟨latest, -, found_latest, -⟩ :=
          exists_maxBy (fun ref => (run ref).timestamp) none_after
        by_cases before : (run current).phase = "before" <;>
          simp [before, after, none_after, found, found_latest]

end Labels

/-! ## Automatic labels -/

/-- A history in which each after-run has fewer files than some before-run. -/
structure Compared (history : List BenchmarkRun) : Prop where
  labelled : ∀ run ∈ history, run.phase = "before" ∨ run.phase = "after"
  outnumbered : ∀ run ∈ history, run.phase = "after" →
    ∃ baseline ∈ history, baseline.phase = "before" ∧ run.inputFileCount < baseline.inputFileCount

theorem compared_nil : Compared [] :=
  ⟨fun _ member => absurd member List.not_mem_nil, fun _ member => absurd member List.not_mem_nil⟩

/-- Why a run may carry its label. -/
def Accounted (history : List BenchmarkRun) (run : BenchmarkRun) : Prop :=
  run.phase = "before" ∨ run.phase = "after" ∧
    ∃ baseline ∈ history, baseline.phase = "before" ∧ run.inputFileCount < baseline.inputFileCount

theorem Compared.append {history : List BenchmarkRun} (compared : Compared history)
    {run : BenchmarkRun} (accounted : Accounted history run) : Compared (history ++ [run]) := by
  constructor
  · intro other member
    rcases List.mem_append.mp member with earlier | last
    · exact compared.labelled other earlier
    · rw [List.mem_singleton.mp last]
      exact accounted.imp_right And.left
  · intro other member after
    have larger : ∃ baseline ∈ history, baseline.phase = "before" ∧
        other.inputFileCount < baseline.inputFileCount := by
      rcases List.mem_append.mp member with earlier | last
      · exact compared.outnumbered other earlier after
      · obtain rfl := List.mem_singleton.mp last
        obtain before | ⟨-, larger⟩ := accounted
        · exact absurd (before.symm.trans after) (by decide)
        · exact larger
    obtain ⟨baseline, recorded, fewer⟩ := larger
    exact ⟨baseline, List.mem_append_left _ recorded, fewer⟩

/-- The label of `auto` is accounted for by the largest before-run. -/
theorem resolvePhase_auto (run : BenchmarkRun) (history : List BenchmarkRun) :
    ∃ label, resolvePhase run .auto history = .ok label ∧
      Accounted history { run with phase := label } := by
  by_cases empty : inPhase id "before" history = []
  · exact ⟨"before", by simp [resolvePhase, empty], .inl rfl⟩
  · obtain ⟨baseline, member, largest, -⟩ := exists_maxBy (·.inputFileCount) empty
    obtain ⟨recorded, before⟩ := mem_inPhase.mp member
    have resolved : resolvePhase run .auto history =
        if run.inputFileCount < baseline.inputFileCount then .ok "after" else .ok "before" := by
      simp [resolvePhase, empty, largest]
    rw [resolved]
    split
    · rename_i fewer
      exact ⟨"after", rfl, .inr ⟨rfl, baseline, recorded, before, fewer⟩⟩
    · exact ⟨"before", rfl, .inl rfl⟩

theorem Compared.recordRun {history : List BenchmarkRun} (compared : Compared history)
    (run : BenchmarkRun) :
    ∃ next, recordRun .auto history run = .ok next ∧ Compared next := by
  obtain ⟨label, resolved, accounted⟩ := resolvePhase_auto run history
  exact ⟨_, by rw [Lakehouse.recordRun, resolved]; rfl, compared.append accounted⟩

/-- Any runs are recorded, and the history stays one of compared runs. -/
theorem Compared.recordRuns {history : List BenchmarkRun} (compared : Compared history)
    (runs : List BenchmarkRun) :
    ∃ final, runs.foldlM (Lakehouse.recordRun .auto) history = .ok final ∧ Compared final := by
  induction runs generalizing history with
  | nil => exact ⟨history, rfl, compared⟩
  | cons run runs induction =>
      obtain ⟨next, recorded, compared_next⟩ := compared.recordRun run
      obtain ⟨final, later, compared_final⟩ := induction compared_next
      exact ⟨final, by rw [List.foldlM_cons, recorded]; exact later, compared_final⟩

/-- Each run has as many files as some before-run at most. -/
theorem Compared.exists_before {history : List BenchmarkRun} (compared : Compared history)
    {run : BenchmarkRun} (member : run ∈ history) :
    ∃ baseline ∈ history, baseline.phase = "before" ∧
      run.inputFileCount ≤ baseline.inputFileCount := by
  rcases compared.labelled run member with before | after
  · exact ⟨run, member, before, le_rfl⟩
  · obtain ⟨baseline, recorded, baseline_before, fewer⟩ :=
      compared.outnumbered run member after
    exact ⟨baseline, recorded, baseline_before, fewer.le⟩

theorem Compared.max?_before {history : List BenchmarkRun} (compared : Compared history) :
    ((inPhase id "before" history).map (·.inputFileCount)).max? =
      (history.map (·.inputFileCount)).max? := by
  cases largest : (history.map (·.inputFileCount)).max? with
  | none =>
      have empty : history = [] := by simpa using largest
      rw [empty]
      rfl
  | some count =>
      obtain ⟨counted, all⟩ := List.max?_eq_some_iff.mp largest
      obtain ⟨run, member, rfl⟩ := List.mem_map.mp counted
      obtain ⟨baseline, recorded, before, le⟩ := compared.exists_before member
      have same : run.inputFileCount = baseline.inputFileCount :=
        le_antisymm le (all _ (List.mem_map_of_mem recorded))
      refine List.max?_eq_some_iff.mpr ⟨?_, fun other other_mem => ?_⟩
      · exact List.mem_map.mpr ⟨baseline, mem_inPhase.mpr ⟨recorded, before⟩, same.symm⟩
      · obtain ⟨run', member', rfl⟩ := List.mem_map.mp other_mem
        exact all _ (List.mem_map_of_mem (mem_inPhase.mp member').1)

theorem Compared.reduction {history : List BenchmarkRun} (compared : Compared history)
    {current first second : BenchmarkRun} (member : current ∈ history)
    (pair : findComparisonPair id history current = .ok (some first, some second)) :
    first.phase = "before" ∧ second.phase = "after" ∧
      second.inputFileCount < first.inputFileCount := by
  obtain ⟨largest, chosen⟩ := findComparisonPair_eq_iff.mp pair
  have first_mem := mem_inPhase.mp (List.argmax_mem (maxBy_eq_ok.mp largest))
  have recorded : second ∈ history ∧ second.phase = "after" := by
    obtain ⟨after, rfl⟩ | ⟨-, latest⟩ := chosen
    · exact ⟨member, after⟩
    · exact mem_inPhase.mp (List.argmax_mem (maxBy_eq_ok.mp latest))
  obtain ⟨larger, larger_mem, before, fewer⟩ := compared.outnumbered second recorded.1 recorded.2
  have most := List.le_of_mem_argmax (mem_inPhase.mpr ⟨larger_mem, before⟩) (maxBy_eq_ok.mp largest)
  exact ⟨first_mem.2, recorded.2, fewer.trans_le most⟩

/-- With automatic labels the largest of all runs is a before-run, and two runs which are compared
show a reduction. -/
theorem recordRuns_compare (runs : List BenchmarkRun) :
    ∃ history, runs.foldlM (recordRun .auto) [] = .ok history ∧
      ((inPhase id "before" history).map (·.inputFileCount)).max? =
        (history.map (·.inputFileCount)).max? ∧
      ∀ current ∈ history, ∃ pair, findComparisonPair id history current = .ok pair ∧
        ∀ first second, pair = (some first, some second) →
          first.phase = "before" ∧ second.phase = "after" ∧
            second.inputFileCount < first.inputFileCount := by
  obtain ⟨history, recorded, compared⟩ := compared_nil.recordRuns runs
  refine ⟨history, recorded, compared.max?_before, fun current member => ?_⟩
  obtain ⟨pair, found⟩ := @exists_findComparisonPair _ id _ _ member
  refine ⟨pair, found, fun first second pair_eq => ?_⟩
  rw [pair_eq] at found
  exact compared.reduction member found

end Lakehouse
