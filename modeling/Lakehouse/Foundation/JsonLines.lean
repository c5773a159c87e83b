import Lakehouse.Foundation.JsonValue
import Lakehouse.Foundation.Text

/-!
# Files of JSON lines

A value is appended on a line of its own, and a file is read line by line.  Whatever texts the
values hold, they are read back in their order.
-/

namespace Foundation.Json

/-- A member of an object. -/
def entry (name : String) (value : Value) : List Char × Value := (name.toList, value)

namespace Value

def ofText (value : String) : Value := .text value.toList

def ofInt (value : Int) : Value := .number (.int value)

def ofFloat (value : Binary64.Value) : Value := .number (.float value)

/-- A value which may be `None`. -/
def ofOption {α : Type} (write : α → Value) : Option α → Value
  | some value => write value
  | none => .null

@[simp]
theorem ofText_inj {left right : String} : ofText left = ofText right ↔ left = right := by
  simp [ofText, String.toList_inj]

@[simp]
theorem ofInt_inj {left right : Int} : ofInt left = ofInt right ↔ left = right := by
  simp [ofInt]

@[simp]
theorem ofFloat_inj {left right : Binary64.Value} :
    ofFloat left = ofFloat right ↔ left = right := by
  simp [ofFloat]

theorem ofOption_inj {α : Type} {write : α → Value} {left right : Option α}
    (visible : ∀ value, write value ≠ .null)
    (inj : ∀ value ∈ left, ∀ value' ∈ right, write value = write value' → value = value')
    (same : ofOption write left = ofOption write right) : left = right := by
  cases left with
  | none =>
      cases right with
      | none => rfl
      | some value' => exact absurd same.symm (visible value')
  | some value =>
      cases right with
      | none => exact absurd same (visible value)
      | some value' => rw [inj value rfl value' rfl same]

/-- Items which can be told apart make arrays which can be told apart. -/
theorem map_inj {α : Type} {write : α → Value} {left right : List α}
    (inj : ∀ item ∈ left, ∀ item' ∈ right, write item = write item' → item = item')
    (same : left.map write = right.map write) : left = right := by
  induction left generalizing right with
  | nil => simpa using same.symm
  | cons item items induction =>
      cases right with
      | nil => simp at same
      | cons item' items' =>
          obtain ⟨first, rest⟩ := List.cons.inj same
          rw [inj item List.mem_cons_self item' List.mem_cons_self first]
          congr 1
          refine induction (fun other member other' member' => ?_) rest
          exact inj other (List.mem_cons_of_mem item member) other'
            (List.mem_cons_of_mem item' member')

end Value

/-! ## Appending and reading -/

/-- Append a value on a line of its own; a file which does not exist is created. -/
def appendLine (value : Value) (file : Option (List Char)) : Option (List Char) :=
  Lines.appendLine value.write file

/-- The values of the lines, if each line holds one. -/
def readLines (file : Option (List Char)) : Option (List Value) :=
  (Lines.splitlines (Lines.universalNewlines (file.getD []))).mapM Value.read

theorem isLineBoundary_of_isPrinted {c : Char} (printed : IsPrinted c) :
    Lines.isLineBoundary c = false := by
  by_contra boundary
  have member := List.contains_iff_mem.mp (eq_true_of_ne_false boundary)
  simp only [List.mem_cons, List.not_mem_nil, or_false] at member
  rcases member with rfl | rfl | rfl | rfl | rfl | rfl | rfl | rfl | rfl | rfl <;>
    exact absurd printed (by decide)

/-- The text of a value is one line. -/
theorem splitlines_write (value : Value) :
    Lines.splitlines (value.write ++ ['\n']) = [value.write] :=
  Lines.splitlines_line fun c member => isLineBoundary_of_isPrinted (value.printed_write c member)

/-- A file of whole lines with these values. -/
abbrev Records (file : Option (List Char)) (values : List Value) : Prop :=
  Lines.Holds Value.read file values

theorem records_none : Records none [] := Lines.holds_none

theorem Records.read {file : Option (List Char)} {values : List Value}
    (records : Records file values) : readLines file = some values := by
  rw [readLines, Lines.splitlines_universalNewlines]
  exact records.lines_read

theorem Records.append {file : Option (List Char)} {values : List Value}
    (records : Records file values) (value : Value) :
    Records (appendLine value file) (values ++ [value]) := by
  refine Lines.Holds.append records ?_
  simp [splitlines_write, Value.read_write]

/-- Values are appended one after another. -/
theorem Records.appendAll {file : Option (List Char)} {values : List Value}
    (records : Records file values) (more : List Value) :
    Records (more.foldl (fun file value => appendLine value file) file) (values ++ more) := by
  induction more generalizing file values with
  | nil => simpa using records
  | cons value more induction =>
      have later := induction (records.append value)
      rwa [List.append_assoc] at later

end Foundation.Json
