import Lakehouse.Foundation.Text

/-!
# Search patterns

A fragment of backtracking regular expressions: literals, greedy repetitions of a character class,
captured or not, and the end-of-text anchor.  `search` tries the start positions from the left and
each repetition from its longest run down, as a backtracking engine does.
-/

namespace Foundation

/-- What is said of the characters of a text is decided along the text, not over all characters. -/
instance (priority := high) decidableForallMemChar {holds : Char → Prop} [DecidablePred holds]
    (text : List Char) : Decidable (∀ c ∈ text, holds c) :=
  List.decidableBAll holds text

/-- One item of a pattern. -/
inductive PatternItem
  /-- Exactly this text. -/
  | literal (text : List Char)
  /-- `([class]+)`: a nonempty captured run. -/
  | capture (accepts : Char → Bool)
  /-- `[class]*`: a run which is not captured. -/
  | many (accepts : Char → Bool)
  /-- `$`: the end of the text, or the position before its last line break. -/
  | lineEnd

namespace Pattern

/-- The first success among the lengths from `most` down to `least`. -/
def longestFirst {β : Type} (least : Nat) (attempt : Nat → Option β) : Nat → Option β
  | 0 => if least = 0 then attempt 0 else none
  | most + 1 =>
      if most + 1 < least then none
      else (attempt (most + 1)).or (longestFirst least attempt most)

/-- Match a pattern at the start of the input and return its captured groups in order. -/
def matchHere : List PatternItem → List Char → Option (List (List Char))
  | [], _ => some []
  | .literal text :: items, input =>
      if text.isPrefixOf input then matchHere items (input.drop text.length) else none
  | .capture accepts :: items, input =>
      longestFirst 1
        (fun length => (matchHere items (input.drop length)).map (input.take length :: ·))
        (input.takeWhile accepts).length
  | .many accepts :: items, input =>
      longestFirst 0 (fun length => matchHere items (input.drop length))
        (input.takeWhile accepts).length
  | .lineEnd :: items, input =>
      if input = [] ∨ input = ['\n'] then matchHere items input else none

/-- The captured groups at the leftmost position where the pattern matches. -/
def search (items : List PatternItem) : List Char → Option (List (List Char))
  | [] => matchHere items []
  | first :: rest => (matchHere items (first :: rest)).or (search items rest)

theorem search_of_matchHere {items : List PatternItem} {input : List Char}
    {groups : List (List Char)} (found : matchHere items input = some groups) :
    search items input = some groups := by
  cases input with
  | nil => exact found
  | cons first rest => simp [search, found]

theorem matchHere_literal (text : List Char) (items : List PatternItem) (rest : List Char) :
    matchHere (.literal text :: items) (text ++ rest) = matchHere items rest := by
  simp [matchHere]

/-- A result is the success at some length between the bounds. -/
theorem longestFirst_sound {β : Type} {least most : Nat} {attempt : Nat → Option β} {value : β}
    (found : longestFirst least attempt most = some value) :
    ∃ length, least ≤ length ∧ length ≤ most ∧ attempt length = some value := by
  induction most with
  | zero =>
      simp only [longestFirst] at found
      split at found
      · rename_i least_eq
        exact ⟨0, least_eq.le, Nat.le_refl 0, found⟩
      · simp at found
  | succ most ih =>
      simp only [longestFirst] at found
      split at found
      · simp at found
      · rename_i enough
        rcases Option.or_eq_some_iff.mp found with here | ⟨-, later⟩
        · exact ⟨most + 1, Nat.not_lt.mp enough, Nat.le_refl _, here⟩
        · obtain ⟨length, least_le, le_most, success⟩ := ih later
          exact ⟨length, least_le, Nat.le_succ_of_le le_most, success⟩

/-- Some success between the bounds is found. -/
theorem longestFirst_isSome {β : Type} {least most length : Nat} {attempt : Nat → Option β}
    (least_le : least ≤ length) (le_most : length ≤ most) (found : (attempt length).isSome) :
    (longestFirst least attempt most).isSome := by
  induction most with
  | zero =>
      obtain rfl : length = 0 := Nat.le_zero.mp le_most
      obtain rfl : least = 0 := Nat.le_zero.mp least_le
      simpa [longestFirst] using found
  | succ most ih =>
      have least_le_most : ¬most + 1 < least := by omega
      simp only [longestFirst, least_le_most, if_false, Option.isSome_or, Bool.or_eq_true]
      rcases Nat.lt_or_ge most length with beyond | within
      · obtain rfl : length = most + 1 := by omega
        exact .inl found
      · exact .inr (ih within)

/-! ## What a pattern describes -/

/-- The pattern describes the input, or its front, with these groups. -/
def Matches : List PatternItem → List Char → List (List Char) → Prop
  | [], _, groups => groups = []
  | .literal text :: items, input, groups =>
      ∃ rest, input = text ++ rest ∧ Matches items rest groups
  | .capture accepts :: items, input, groups =>
      ∃ run rest later, run ≠ [] ∧ (∀ c ∈ run, accepts c = true) ∧ input = run ++ rest ∧
        groups = run :: later ∧ Matches items rest later
  | .many accepts :: items, input, groups =>
      ∃ run rest, (∀ c ∈ run, accepts c = true) ∧ input = run ++ rest ∧ Matches items rest groups
  | .lineEnd :: items, input, groups =>
      (input = [] ∨ input = ['\n']) ∧ Matches items input groups

section Matches

variable {items : List PatternItem} {input : List Char} {groups : List (List Char)}

@[simp]
theorem matches_nil : Matches [] input groups ↔ groups = [] := Iff.rfl

@[simp]
theorem matches_literal {text : List Char} :
    Matches (.literal text :: items) input groups ↔
      ∃ rest, input = text ++ rest ∧ Matches items rest groups := Iff.rfl

@[simp]
theorem matches_capture {accepts : Char → Bool} :
    Matches (.capture accepts :: items) input groups ↔
      ∃ run rest later, run ≠ [] ∧ (∀ c ∈ run, accepts c = true) ∧ input = run ++ rest ∧
        groups = run :: later ∧ Matches items rest later := Iff.rfl

@[simp]
theorem matches_many {accepts : Char → Bool} :
    Matches (.many accepts :: items) input groups ↔
      ∃ run rest, (∀ c ∈ run, accepts c = true) ∧ input = run ++ rest ∧
        Matches items rest groups := Iff.rfl

@[simp]
theorem matches_lineEnd :
    Matches (.lineEnd :: items) input groups ↔
      (input = [] ∨ input = ['\n']) ∧ Matches items input groups := Iff.rfl

end Matches

/-- A front no longer than the longest accepted run is accepted. -/
theorem accepts_of_mem_take {accepts : Char → Bool} {input : List Char} {length : Nat}
    (within : length ≤ (input.takeWhile accepts).length) :
    ∀ c ∈ input.take length, accepts c = true := by
  intro c member
  have whole : input.takeWhile accepts = input.take (input.takeWhile accepts).length :=
    List.prefix_iff_eq_take.mp (List.takeWhile_prefix accepts)
  have front : input.take length = (input.takeWhile accepts).take length := by
    rw [whole, List.take_take, Nat.min_eq_left within]
  rw [front] at member
  exact List.mem_takeWhile_imp (List.mem_of_mem_take member)

/-- What the matcher returns is described by the pattern. -/
theorem matchHere_sound {items : List PatternItem} {input : List Char} {groups : List (List Char)}
    (found : matchHere items input = some groups) : Matches items input groups := by
  induction items generalizing input groups with
  | nil => exact (Option.some.inj found).symm
  | cons item items ih =>
      cases item with
      | literal text =>
          simp only [matchHere] at found
          split at found
          · rename_i front
            obtain ⟨rest, rfl⟩ := List.isPrefixOf_iff_prefix.mp front
            rw [List.drop_left] at found
            exact ⟨rest, rfl, ih found⟩
          · simp at found
      | capture accepts =>
          obtain ⟨length, positive, within, success⟩ := longestFirst_sound found
          obtain ⟨later, matched, rfl⟩ := Option.map_eq_some_iff.mp success
          have fits : length ≤ input.length :=
            within.trans (List.takeWhile_prefix accepts).length_le
          refine ⟨input.take length, input.drop length, later, ?_, accepts_of_mem_take within,
            (List.take_append_drop length input).symm, rfl, ih matched⟩
          intro empty
          have no_length := congrArg List.length empty
          rw [List.length_take, List.length_nil] at no_length
          omega
      | many accepts =>
          obtain ⟨length, -, within, success⟩ := longestFirst_sound found
          exact ⟨input.take length, input.drop length, accepts_of_mem_take within,
            (List.take_append_drop length input).symm, ih success⟩
      | lineEnd =>
          simp only [matchHere] at found
          split at found
          · rename_i ends
            exact ⟨ends, ih found⟩
          · simp at found

/-- What the pattern describes is matched, if perhaps with other groups. -/
theorem matchHere_isSome {items : List PatternItem} {input : List Char} {groups : List (List Char)}
    (described : Matches items input groups) : (matchHere items input).isSome := by
  induction items generalizing input groups with
  | nil => rfl
  | cons item items ih =>
      cases item with
      | literal text =>
          obtain ⟨rest, rfl, later⟩ := described
          rw [matchHere_literal]
          exact ih later
      | capture accepts =>
          obtain ⟨run, rest, groups', nonempty, accepted, rfl, -, later⟩ := described
          refine longestFirst_isSome (List.length_pos_iff.mpr nonempty)
            (Runs.length_le_takeWhile accepted) ?_
          rw [List.drop_left, Option.isSome_map]
          exact ih later
      | many accepts =>
          obtain ⟨run, rest, accepted, rfl, later⟩ := described
          refine longestFirst_isSome (Nat.zero_le run.length) (Runs.length_le_takeWhile accepted) ?_
          rw [List.drop_left]
          exact ih later
      | lineEnd =>
          obtain ⟨ends, later⟩ := described
          rw [matchHere, if_pos ends]
          exact ih later

/-- A search which finds something finds it in some suffix. -/
theorem search_sound {items : List PatternItem} {input : List Char} {groups : List (List Char)}
    (found : search items input = some groups) :
    ∃ text, text <:+ input ∧ Matches items text groups := by
  induction input with
  | nil => exact ⟨[], List.suffix_refl [], matchHere_sound found⟩
  | cons first rest ih =>
      rcases Option.or_eq_some_iff.mp found with here | ⟨-, later⟩
      · exact ⟨first :: rest, List.suffix_refl _, matchHere_sound here⟩
      · obtain ⟨text, suffix, described⟩ := ih later
        exact ⟨text, suffix.trans (List.suffix_cons first rest), described⟩

/-- A search finds something wherever some suffix is described. -/
theorem search_isSome {items : List PatternItem} {text input : List Char}
    {groups : List (List Char)} (suffix : text <:+ input) (described : Matches items text groups) :
    (search items input).isSome := by
  induction input with
  | nil =>
      obtain rfl : text = [] := List.suffix_nil.mp suffix
      exact matchHere_isSome described
  | cons first rest ih =>
      rw [search, Option.isSome_or, Bool.or_eq_true]
      rcases List.suffix_cons_iff.mp suffix with rfl | later
      · exact .inl (matchHere_isSome described)
      · exact .inr (ih later)

/-- Where the pattern describes the whole input with one list of groups only, the search returns
that list. -/
theorem search_of_matches {items : List PatternItem} {input : List Char}
    {groups : List (List Char)} (described : Matches items input groups)
    (unique : ∀ other, Matches items input other → other = groups) :
    search items input = some groups := by
  obtain ⟨found, matched⟩ := Option.isSome_iff_exists.mp (matchHere_isSome described)
  rw [unique found (matchHere_sound matched)] at matched
  exact search_of_matchHere matched

end Pattern

/-! ## Infixes between separators -/

/-- A text without the separator which occurs in a separated text occurs on one of its sides. -/
theorem infix_append_cons {α : Type} {separator : α} {text left right : List α}
    (free : separator ∉ text) :
    text <:+: left ++ separator :: right ↔ text <:+: left ∨ text <:+: right := by
  constructor
  · rintro ⟨before, after, whole⟩
    rw [List.append_assoc] at whole
    rcases List.append_eq_append_iff.mp whole with
      ⟨gap, left_eq, rest_eq⟩ | ⟨gap, before_eq, rest_eq⟩
    · rcases List.append_eq_append_iff.mp rest_eq with
        ⟨tail, gap_eq, after_eq⟩ | ⟨tail, text_eq, cons_eq⟩
      · exact .inl ⟨before, tail, by rw [left_eq, gap_eq, List.append_assoc]⟩
      · cases tail with
        | nil =>
            rw [List.append_nil] at text_eq
            exact .inl ⟨before, [], by rw [left_eq, text_eq, List.append_nil]⟩
        | cons first tail =>
            obtain ⟨rfl, -⟩ := List.cons.inj cons_eq
            exact absurd (by simp [text_eq]) free
    · cases gap with
      | nil =>
          cases text with
          | nil => exact .inl List.nil_infix
          | cons first text =>
              obtain ⟨rfl, -⟩ := List.cons.inj rest_eq
              exact absurd List.mem_cons_self free
      | cons first gap =>
          obtain ⟨-, right_eq⟩ := List.cons.inj rest_eq
          exact .inr ⟨gap, after, by rw [List.append_assoc]; exact right_eq.symm⟩
  · rintro (inside | inside)
    · exact inside.trans (List.prefix_append _ _).isInfix
    · exact inside.trans ((List.suffix_cons _ _).trans (List.suffix_append _ _)).isInfix

/-- What occurs more often in the text than in the whole keeps the text from occurring there. -/
theorem not_infix_of_count_lt {α : Type} [BEq α] {element : α} {text whole : List α}
    (fewer : whole.count element < text.count element) : ¬text <:+: whole :=
  fun inside => absurd (inside.sublist.count_le element) (Nat.not_le.mpr fewer)

end Foundation
