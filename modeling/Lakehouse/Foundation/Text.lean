import Mathlib.Data.List.TakeWhile

/-!
# Runs and lines of a text

A run of accepted characters ends where another character follows.  A text is cut at every line
boundary of Unicode, and a text file is read with `\n` for each end of a line.  Behind the end of a
line the cutting starts anew.
-/

namespace Foundation

namespace Runs

variable {accepts : Char → Bool} {run rest : List Char}

/-- The longest accepted run in front of a text, and what follows it. -/
theorem takeWhile_dropWhile_append (all : ∀ c ∈ run, accepts c = true)
    (stops : ∀ c, rest.head? = some c → accepts c = false) :
    (run ++ rest).takeWhile accepts = run ∧ (run ++ rest).dropWhile accepts = rest := by
  rw [List.takeWhile_append_of_pos all, List.dropWhile_append_of_pos all]
  cases rest with
  | nil => simp
  | cons c rest =>
      have refused := stops c rfl
      simp [refused]

theorem length_le_takeWhile (all : ∀ c ∈ run, accepts c = true) :
    run.length ≤ ((run ++ rest).takeWhile accepts).length := by
  rw [List.takeWhile_append_of_pos all, List.length_append]
  exact Nat.le_add_right _ _

end Runs

namespace Lines

variable {c : Char} {text : List Char}

def isLineBoundary (c : Char) : Bool :=
  ['\n', '\r', '\x0b', '\x0c', '\x1c', '\x1d', '\x1e', '\u0085', '\u2028', '\u2029'].contains c

/-- `\r` and `\n` are one boundary. -/
def isSplitNewline (c : Char) (rest : List Char) : Bool :=
  c = '\r' && rest.head? = some '\n'

/-- What a file opened in text mode reads. -/
def universalNewlines : List Char → List Char
  | [] => []
  | c :: rest =>
      if isSplitNewline c rest then universalNewlines rest
      else (if c = '\r' then '\n' else c) :: universalNewlines rest

/-- Put a character in front of the first line. -/
def prepend (c : Char) : List (List Char) → List (List Char)
  | [] => [[c]]
  | line :: lines => (c :: line) :: lines

/-- `str.splitlines` -/
def splitlines : List Char → List (List Char)
  | [] => []
  | c :: rest =>
      if isSplitNewline c rest then splitlines rest
      else if isLineBoundary c then [] :: splitlines rest
      else prepend c (splitlines rest)

example : splitlines "a\r\nb\u2028\n\rc\n".toList =
    ["a".toList, "b".toList, [], [], "c".toList] := by
  decide

/-- Reading in text mode does not change the lines. -/
theorem splitlines_universalNewlines (text : List Char) :
    splitlines (universalNewlines text) = splitlines text := by
  induction text with
  | nil => rfl
  | cons c rest induction =>
      by_cases split : isSplitNewline c rest = true
      · rw [universalNewlines, splitlines, if_pos split, if_pos split, induction]
      · by_cases newline : c = '\r'
        · subst newline
          have alone : rest.head? ≠ some '\n' := by simpa [isSplitNewline] using split
          have boundaries : isLineBoundary '\r' = true ∧ isLineBoundary '\n' = true := ⟨rfl, rfl⟩
          simp [universalNewlines, splitlines, isSplitNewline, alone, boundaries, induction]
        · have split' : ∀ rest, isSplitNewline c rest = false := fun rest => by
            simp [isSplitNewline, newline]
          rw [universalNewlines, if_neg split, if_neg newline, splitlines, splitlines, split',
            split', induction]

/-- A text which ends with the end of a line, or is empty. -/
def EndsLine (text : List Char) : Prop :=
  text = [] ∨ text.getLast? = some '\n'

theorem splitlines_ne_nil (nonempty : text ≠ []) : splitlines text ≠ [] := by
  induction text with
  | nil => exact absurd rfl nonempty
  | cons c rest induction =>
      rw [splitlines]
      split
      · rename_i split
        refine induction ?_
        rintro rfl
        simp [isSplitNewline] at split
      · split
        · exact List.cons_ne_nil _ _
        · cases splitlines rest <;> exact List.cons_ne_nil _ _

theorem prepend_append {lines : List (List Char)} (nonempty : lines ≠ [])
    (later : List (List Char)) : prepend c (lines ++ later) = prepend c lines ++ later := by
  cases lines with
  | nil => exact absurd rfl nonempty
  | cons line lines => rfl

/-- The lines behind the end of a line are those of the text behind it. -/
theorem splitlines_append (ends : EndsLine text) (rest : List Char) :
    splitlines (text ++ rest) = splitlines text ++ splitlines rest := by
  rcases ends with rfl | last
  · rfl
  · induction text with
    | nil => cases last
    | cons c text induction =>
        cases text with
        | nil =>
            obtain rfl : c = '\n' := by simpa using last
            have boundary : isLineBoundary '\n' = true := rfl
            simp [splitlines, isSplitNewline, boundary]
        | cons d text =>
            have later := induction (by simpa using last)
            have split : isSplitNewline c (d :: text ++ rest) = isSplitNewline c (d :: text) := rfl
            rw [List.cons_append, splitlines, splitlines, split, later]
            split_ifs
            · rfl
            · rfl
            · exact prepend_append (splitlines_ne_nil (List.cons_ne_nil d text)) _

/-- A text without boundaries is one line. -/
theorem splitlines_line {line : List Char} (whole : ∀ c ∈ line, isLineBoundary c = false) :
    splitlines (line ++ ['\n']) = [line] := by
  induction line with
  | nil => rfl
  | cons c line induction =>
      have inside : isLineBoundary c = false := whole c List.mem_cons_self
      have split : isSplitNewline c (line ++ ['\n']) = false := by
        have other : c ≠ '\r' := by
          rintro rfl
          cases inside
        simp [isSplitNewline, other]
      have later := induction fun d member => whole d (List.mem_cons_of_mem c member)
      rw [List.cons_append, splitlines, later]
      simp [split, inside, prepend]

/-- The lines of a text hold characters of the text. -/
theorem mem_of_mem_splitlines {line : List Char} (member : line ∈ splitlines text)
    (inside : c ∈ line) : c ∈ text := by
  induction text generalizing line with
  | nil => cases member
  | cons d rest induction =>
      rw [splitlines] at member
      split_ifs at member
      · exact List.mem_cons_of_mem d (induction member inside)
      · rcases List.mem_cons.mp member with rfl | later
        · cases inside
        · exact List.mem_cons_of_mem d (induction later inside)
      · cases lines : splitlines rest with
        | nil =>
            rw [lines, prepend, List.mem_singleton] at member
            subst member
            rw [List.mem_singleton.mp inside]
            exact List.mem_cons_self
        | cons first later =>
            rw [lines, prepend] at member
            rw [lines] at induction
            rcases List.mem_cons.mp member with rfl | behind
            · rcases List.mem_cons.mp inside with rfl | inside
              · exact List.mem_cons_self
              · exact List.mem_cons_of_mem d (induction List.mem_cons_self inside)
            · exact List.mem_cons_of_mem d
                (induction (List.mem_cons_of_mem first behind) inside)

/-! ## Files of lines -/

/-- Append a line; a file which does not exist is created. -/
def appendLine (line : List Char) (file : Option (List Char)) : Option (List Char) :=
  some (file.getD [] ++ (line ++ ['\n']))

variable {m : Type → Type} [Monad m] {α : Type} {read : List Char → m α}
  {file : Option (List Char)} {values : List α}

/-- A file of whole lines which are read as these values. -/
structure Holds (read : List Char → m α) (file : Option (List Char)) (values : List α) : Prop where
  ends : EndsLine (file.getD [])
  lines_read : (splitlines (file.getD [])).mapM read = pure values

theorem holds_none : Holds read none [] := ⟨.inl rfl, List.mapM_nil⟩

/-- What is read of an appended line is read behind what the file holds. -/
theorem Holds.append [LawfulMonad m] (holds : Holds read file values) {line : List Char}
    {more : List α} (last : (splitlines (line ++ ['\n'])).mapM read = pure more) :
    Holds read (appendLine line file) (values ++ more) where
  ends := .inr (by simp [appendLine])
  lines_read := by
    rw [appendLine, Option.getD_some, splitlines_append holds.ends, List.mapM_append,
      holds.lines_read, last]
    simp

end Lines

end Foundation
