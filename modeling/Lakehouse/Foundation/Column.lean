import Mathlib.Data.List.Basic
import Lakehouse.Foundation.Sql

/-!
# Nullable columns

A column is a nullable value for each row, and a condition is a column of truth values in
three-valued logic.  A filter keeps the rows at which its condition is true, and a chain of cases
takes the first one whose condition is true; null counts as false in both.
-/

namespace Foundation

/-- Disjunction in three-valued logic: true wins, then null. -/
def kleeneOr : Option Bool → Option Bool → Option Bool
  | some true, _ => some true
  | _, some true => some true
  | some false, some false => some false
  | _, _ => none

theorem kleeneOr_eq_true {left right : Option Bool} :
    kleeneOr left right = some true ↔ left = some true ∨ right = some true := by
  rcases left with _ | _ | _ <;> rcases right with _ | _ | _ <;> simp [kleeneOr]

/-- The value of a column at each row. -/
abbrev Column (ρ α : Type) := ρ → Option α

/-- A column of truth values. -/
abbrev Condition (ρ : Type) := Column ρ Bool

namespace Column

variable {ρ α β : Type}

/-- The condition is true at the row. -/
def Holds (condition : Condition ρ) (row : ρ) : Prop :=
  condition row = some true

instance (condition : Condition ρ) (row : ρ) : Decidable (Holds condition row) :=
  inferInstanceAs (Decidable (_ = _))

/-- A function of non-null values which may return null. -/
def apply (column : Column ρ α) (function : α → Option β) : Column ρ β :=
  fun row => (column row).bind function

/-- A comparison: null at null. -/
def compare (column : Column ρ α) (test : α → Bool) : Condition ρ :=
  fun row => (column row).map test

def isNull (column : Column ρ α) : Condition ρ :=
  fun row => some (column row).isNone

def isNotNull (column : Column ρ α) : Condition ρ :=
  fun row => some (column row).isSome

def disj (left right : Condition ρ) : Condition ρ :=
  fun row => kleeneOr (left row) (right row)

def conj (left right : Condition ρ) : Condition ρ :=
  fun row => Sql.kleeneAnd (left row) (right row)

variable {column : Column ρ α} {left right : Condition ρ} {row : ρ}

@[simp]
theorem holds_compare {test : α → Bool} :
    Holds (compare column test) row ↔ ∃ value, column row = some value ∧ test value = true := by
  simp [Holds, compare]

@[simp]
theorem holds_isNull : Holds (isNull column) row ↔ column row = none := by
  simp [Holds, isNull]

@[simp]
theorem holds_isNotNull : Holds (isNotNull column) row ↔ ∃ value, column row = some value := by
  simp [Holds, isNotNull, Option.isSome_iff_exists]

@[simp]
theorem holds_disj : Holds (disj left right) row ↔ Holds left row ∨ Holds right row :=
  kleeneOr_eq_true

@[simp]
theorem holds_conj : Holds (conj left right) row ↔ Holds left row ∧ Holds right row :=
  Sql.kleeneAnd_eq_true

/-! ## Chains of cases -/

/-- The value of the first case whose condition is true, and null if there is none. -/
def caseWhen : List (Condition ρ × α) → Column ρ α
  | [], _ => none
  | (condition, value) :: cases, row =>
      if Holds condition row then some value else caseWhen cases row

/-- A chain is null exactly where none of its conditions is true. -/
theorem caseWhen_eq_none {cases : List (Condition ρ × α)} :
    caseWhen cases row = none ↔ ∀ case ∈ cases, ¬Holds case.1 row := by
  induction cases with
  | nil => simp [caseWhen]
  | cons case cases ih =>
      obtain ⟨condition, value⟩ := case
      by_cases met : Holds condition row <;> simp [caseWhen, met, ih]

/-- A chain takes the value of the first case whose condition is true. -/
theorem caseWhen_eq_some {cases : List (Condition ρ × α)} {value : α} :
    caseWhen cases row = some value ↔
      ∃ before condition after, cases = before ++ (condition, value) :: after ∧
        Holds condition row ∧ ∀ case ∈ before, ¬Holds case.1 row := by
  induction cases with
  | nil => simp [caseWhen]
  | cons case cases ih =>
      obtain ⟨condition, first⟩ := case
      by_cases met : Holds condition row
      · simp only [caseWhen, met, if_true, Option.some.injEq]
        constructor
        · rintro rfl
          exact ⟨[], condition, cases, rfl, met, by simp⟩
        · rintro ⟨before, condition', after, split, -, unmet⟩
          cases before with
          | nil => simp_all
          | cons head before =>
              obtain ⟨rfl, -⟩ := List.cons_eq_cons.mp split
              exact absurd met (unmet _ List.mem_cons_self)
      · simp only [caseWhen, met, if_false, ih]
        constructor
        · rintro ⟨before, condition', after, rfl, met', unmet⟩
          refine ⟨(condition, first) :: before, condition', after, rfl, met', ?_⟩
          simpa [met] using unmet
        · rintro ⟨before, condition', after, split, met', unmet⟩
          cases before with
          | nil => simp_all
          | cons head before =>
              obtain ⟨rfl, rfl⟩ := List.cons_eq_cons.mp split
              exact ⟨before, condition', after, rfl, met',
                fun case member => unmet case (List.mem_cons_of_mem _ member)⟩

/-! ## Filters -/

/-- The rows at which the condition is true. -/
def filter (condition : Condition ρ) (rows : List ρ) : List ρ :=
  rows.filter fun row => decide (Holds condition row)

@[simp]
theorem filter_nil (condition : Condition ρ) : filter condition [] = [] := rfl

theorem filter_append (condition : Condition ρ) (rows later : List ρ) :
    filter condition (rows ++ later) = filter condition rows ++ filter condition later :=
  List.filter_append ..

/-- The null and the non-null rows of a column are all rows. -/
theorem length_filter_isNull_add (column : Column ρ α) (rows : List ρ) :
    (filter (isNull column) rows).length + (filter (isNotNull column) rows).length =
      rows.length := by
  have complement : filter (isNotNull column) rows =
      rows.filter fun row => !decide (Holds (isNull column) row) := by
    refine List.filter_congr fun row _ => ?_
    cases value : column row <;> simp [value]
  rw [complement]
  exact (List.length_eq_length_filter_add _).symm

end Column

end Foundation
