import Mathlib.Data.List.Induction
import Lakehouse.Foundation.Text

/-!
# Conjunctions of equations in SQL text

A reader for predicates of the form `column = literal AND …`, and their three-valued truth.
Literals are integers and single-quoted strings with backslash escapes; a string ends at the first
quote which is not escaped.  Escapes by a character number are not read.
-/

namespace Foundation.Sql

/-- A lexical unit. -/
inductive Token
  | word (text : List Char)
  | text (value : List Char)
  | number (digits : List Char)
  | symbol (c : Char)
  deriving DecidableEq

/-! ## Tokens -/

/-- The character which a backslash and a character stand for; patterns keep the backslash. -/
def escaped : Char → List Char
  | '0' => [Char.ofNat 0]
  | 'b' => [Char.ofNat 8]
  | 'n' => ['\n']
  | 'r' => ['\r']
  | 't' => ['\t']
  | 'Z' => [Char.ofNat 26]
  | '%' => ['\\', '%']
  | '_' => ['\\', '_']
  | c => [c]

/-- Read a string from behind its opening quote: its value, and what follows the closing quote. -/
def readString : List Char → Option (List Char × List Char)
  | [] => none
  | c :: rest =>
      if c = '\'' then some ([], rest)
      else if c = '\\' then
        match rest with
        | [] => none
        | next :: rest => (readString rest).map fun read => (escaped next ++ read.1, read.2)
      else (readString rest).map fun read => (c :: read.1, read.2)

def isWordChar (c : Char) : Bool := c.isAlphanum || c == '_'

/-- Split a text into tokens; the fuel bounds the number of characters. -/
def tokens : Nat → List Char → Option (List Token)
  | 0, _ => none
  | _ + 1, [] => some []
  | fuel + 1, c :: rest =>
      if c = ' ' ∨ c = '\n' then tokens fuel rest
      else if c = '\'' then
        (readString rest).bind fun read => (tokens fuel read.2).map (.text read.1 :: ·)
      else if c.isDigit then
        (tokens fuel (rest.dropWhile Char.isDigit)).map
          (.number (c :: rest.takeWhile Char.isDigit) :: ·)
      else if isWordChar c then
        (tokens fuel (rest.dropWhile isWordChar)).map (.word (c :: rest.takeWhile isWordChar) :: ·)
      else (tokens fuel rest).map (.symbol c :: ·)

/-! ## Predicates -/

inductive Literal
  | text (value : String)
  | number (value : Int)
  deriving DecidableEq

/-- `column = literal`. -/
structure Equation where
  column : String
  value : Literal
  deriving DecidableEq

/-- Read a literal at the front. -/
def literal : List Token → Option (Literal × List Token)
  | .text value :: rest => some (.text (String.ofList value), rest)
  | .number digits :: rest => some (.number (Nat.ofDigitChars 10 digits 0), rest)
  | .symbol '-' :: .number digits :: rest => some (.number (-(Nat.ofDigitChars 10 digits 0)), rest)
  | _ => none

@[simp]
theorem literal_text (value : List Char) (rest : List Token) :
    literal (.text value :: rest) = some (.text (String.ofList value), rest) := rfl

/-- Read equations joined by `AND`; the fuel bounds their number. -/
def equations : Nat → List Token → Option (List Equation)
  | fuel + 1, .word column :: .symbol '=' :: rest =>
      match literal rest with
      | none => none
      | some (value, []) => some [⟨String.ofList column, value⟩]
      | some (value, .word joint :: rest) =>
          if joint.map Char.toUpper = "AND".toList then
            (equations fuel rest).map (⟨String.ofList column, value⟩ :: ·)
          else none
      | some (_, _) => none
  | _, _ => none

/-- The equations of a predicate, or `none` where the text is something else. -/
def readPredicate (text : String) : Option (List Equation) :=
  (tokens (text.toList.length + 1) text.toList).bind fun read => equations read.length read

/-- Conjunction in three-valued logic: false wins, then null. -/
def kleeneAnd : Option Bool → Option Bool → Option Bool
  | some false, _ => some false
  | _, some false => some false
  | some true, some true => some true
  | _, _ => none

theorem kleeneAnd_eq_true {left right : Option Bool} :
    kleeneAnd left right = some true ↔ left = some true ∧ right = some true := by
  cases left with
  | none => cases right with
    | none => simp [kleeneAnd]
    | some value => cases value <;> simp [kleeneAnd]
  | some first => cases right with
    | none => cases first <;> simp [kleeneAnd]
    | some value => cases first <;> cases value <;> simp [kleeneAnd]

/-- The truth of a conjunction of conditions. -/
def conjunction : List (Option Bool) → Option Bool :=
  List.foldr kleeneAnd (some true)

/-- A conjunction is true exactly when all its conditions are. -/
theorem conjunction_eq_true {conditions : List (Option Bool)} :
    conjunction conditions = some true ↔ ∀ condition ∈ conditions, condition = some true := by
  induction conditions with
  | nil => simp [conjunction]
  | cons condition conditions ih =>
      have unfolded : conjunction (condition :: conditions) =
          kleeneAnd condition (conjunction conditions) := rfl
      rw [unfolded, kleeneAnd_eq_true, ih]
      simp

/-! ## Strings -/

/-- A text which a string literal can hold as it stands: no quote, and no backslash except those of
patterns. -/
def Verbatim (text : List Char) : Prop :=
  '\'' ∉ text ∧ ∀ before after, text = before ++ '\\' :: after →
    after.head? = some '%' ∨ after.head? = some '_'

theorem verbatim_of_plain {text : List Char} (no_quote : '\'' ∉ text) (no_escape : '\\' ∉ text) :
    Verbatim text := by
  refine ⟨no_quote, ?_⟩
  rintro before after rfl
  exact absurd (by simp) no_escape

theorem verbatim_nil : Verbatim [] := verbatim_of_plain List.not_mem_nil List.not_mem_nil

theorem Verbatim.tail {c : Char} {text : List Char} (verbatim : Verbatim (c :: text)) :
    Verbatim text := by
  refine ⟨fun quote => verbatim.1 (List.mem_cons_of_mem c quote), ?_⟩
  rintro before after rfl
  exact verbatim.2 (c :: before) after rfl

theorem Verbatim.cons {c : Char} {text : List Char} (verbatim : Verbatim text) (quote : c ≠ '\'')
    (escape : c = '\\' → text.head? = some '%' ∨ text.head? = some '_') :
    Verbatim (c :: text) := by
  refine ⟨?_, ?_⟩
  · rw [List.mem_cons, not_or]
    exact ⟨quote.symm, verbatim.1⟩
  · rintro (_ | ⟨first, before⟩) after same
    · obtain ⟨rfl, rfl⟩ := List.cons.inj same
      exact escape rfl
    · exact verbatim.2 before after (List.cons.inj same).2

section ReadString

variable {c next : Char} {value : List Char}

theorem readString_quote (rest : List Char) : readString ('\'' :: rest) = some ([], rest) := by
  rw [readString.eq_def]
  rfl

theorem readString_escape (next : Char) (rest : List Char) :
    readString ('\\' :: next :: rest) =
      (readString rest).map fun read => (escaped next ++ read.1, read.2) := by
  rw [readString.eq_def]
  simp

theorem readString_plain (no_quote : c ≠ '\'') (no_escape : c ≠ '\\') (rest : List Char) :
    readString (c :: rest) = (readString rest).map fun read => (c :: read.1, read.2) := by
  rw [readString.eq_def]
  simp [no_quote, no_escape]

/-- A string which is not closed is not read. -/
theorem readString_of_not_mem {text : List Char} (no_quote : '\'' ∉ text) :
    readString text = none := by
  fun_induction readString text with
  | case1 => rfl
  | case2 rest => simp at no_quote
  | case3 => rfl
  | case4 next rest _ ih => simp_all
  | case5 c rest _ _ ih => simp_all

/-- A verbatim string is read as it stands. -/
theorem readString_of_verbatim (verbatim : Verbatim value) (rest : List Char) :
    readString (value ++ '\'' :: rest) = some (value, rest) := by
  induction value using List.twoStepInduction with
  | nil => exact readString_quote rest
  | singleton c =>
      have no_quote : c ≠ '\'' := fun same => verbatim.1 (same ▸ List.mem_cons_self)
      have no_escape : c ≠ '\\' := by
        rintro rfl
        simpa using verbatim.2 [] [] rfl
      rw [List.singleton_append, readString_plain no_quote no_escape, readString_quote]
      rfl
  | cons_cons c next value ih ih' =>
      have no_quote : c ≠ '\'' := fun same => verbatim.1 (same ▸ List.mem_cons_self)
      rw [List.cons_append]
      by_cases escape : c = '\\'
      · subst escape
        have kept : escaped next = ['\\', next] := by
          rcases verbatim.2 [] _ rfl with percent | underscore
          · obtain rfl := Option.some.inj percent
            rfl
          · obtain rfl := Option.some.inj underscore
            rfl
        rw [List.cons_append, readString_escape, ih verbatim.tail.tail, Option.map_some, kept]
        rfl
      · rw [readString_plain no_quote escape, ih' next verbatim.tail, Option.map_some]

/-- What an escape stands for is shorter than the escape, except in patterns. -/
theorem escaped_eq (next : Char) :
    escaped next = ['\\', next] ∧ (next = '%' ∨ next = '_') ∨ (escaped next).length = 1 := by
  unfold escaped
  split <;> simp

/-- An escape before a value which is the same as its text only if this is verbatim. -/
theorem verbatim_of_escaped {later : List Char} (shorter : later.length ≤ value.length)
    (same : later = value → Verbatim value) :
    (escaped next ++ later).length ≤ ('\\' :: next :: value).length ∧
      (escaped next ++ later = '\\' :: next :: value → Verbatim ('\\' :: next :: value)) := by
  rcases escaped_eq next with ⟨kept, pattern⟩ | single
  · have plain : next ≠ '\'' ∧ next ≠ '\\' := by
      rcases pattern with rfl | rfl <;> decide
    refine ⟨by simp [kept, shorter], fun equal => ?_⟩
    have later_same : later = value := by simpa [kept] using equal
    have tail := (same later_same).cons plain.1 fun same => absurd same plain.2
    exact tail.cons (by decide) fun _ => pattern.imp (congrArg some) (congrArg some)
  · refine ⟨by simp only [List.length_append, List.length_cons]; omega, fun equal => ?_⟩
    have lengths := congrArg List.length equal
    simp only [List.length_append, List.length_cons] at lengths
    omega

/-- The value of a string is no longer than its text, and the same only if this is verbatim. -/
theorem verbatim_of_readString {rest left read : List Char} (closed : '\'' ∉ rest)
    (found : readString (value ++ '\'' :: rest) = some (read, left)) :
    read.length ≤ value.length ∧ (read = value → Verbatim value) := by
  induction value using List.twoStepInduction generalizing read with
  | nil =>
      rw [List.nil_append, readString_quote] at found
      obtain ⟨rfl, -⟩ := Prod.mk.inj (Option.some.inj found)
      exact ⟨Nat.le_refl 0, fun _ => verbatim_nil⟩
  | singleton c =>
      rw [List.singleton_append] at found
      by_cases quote : c = '\''
      · subst quote
        rw [readString_quote] at found
        obtain ⟨rfl, -⟩ := Prod.mk.inj (Option.some.inj found)
        exact ⟨Nat.zero_le _, by simp⟩
      · by_cases escape : c = '\\'
        · subst escape
          rw [readString_escape, readString_of_not_mem closed] at found
          simp at found
        · rw [readString_plain quote escape, readString_quote] at found
          obtain ⟨rfl, -⟩ := Prod.mk.inj (Option.some.inj found)
          exact ⟨Nat.le_refl 1, fun _ =>
            verbatim_nil.cons quote fun same => absurd same escape⟩
  | cons_cons c next value ih ih' =>
      rw [List.cons_append] at found
      by_cases quote : c = '\''
      · subst quote
        rw [readString_quote] at found
        obtain ⟨rfl, -⟩ := Prod.mk.inj (Option.some.inj found)
        exact ⟨Nat.zero_le _, by simp⟩
      · by_cases escape : c = '\\'
        · subst escape
          rw [List.cons_append, readString_escape] at found
          obtain ⟨⟨later, _⟩, later_eq, read_eq⟩ := Option.map_eq_some_iff.mp found
          obtain ⟨rfl, rfl⟩ := Prod.mk.inj read_eq
          obtain ⟨shorter, same⟩ := ih later_eq
          exact verbatim_of_escaped shorter same
        · rw [readString_plain quote escape] at found
          obtain ⟨⟨later, _⟩, later_eq, read_eq⟩ := Option.map_eq_some_iff.mp found
          obtain ⟨rfl, rfl⟩ := Prod.mk.inj read_eq
          obtain ⟨shorter, same⟩ := ih' next later_eq
          refine ⟨Nat.succ_le_succ shorter, fun equal => ?_⟩
          exact (same (List.cons.inj equal).2).cons quote fun same => absurd same escape

end ReadString

/-! ## The first token -/

section FirstToken

variable (fuel : Nat) {rest : List Char}

theorem tokens_space (rest : List Char) :
    tokens (fuel + 1) (' ' :: rest) = tokens fuel rest := by
  simp only [tokens, true_or, if_true]

theorem tokens_string (rest : List Char) :
    tokens (fuel + 1) ('\'' :: rest) =
      (readString rest).bind fun read => (tokens fuel read.2).map (.text read.1 :: ·) := by
  simp [tokens]

/-- The text does not go on with a character of the class. -/
def Stops (accepts : Char → Bool) (text : List Char) : Prop :=
  ∀ c, text.head? = some c → accepts c = false

theorem tokens_number {digits : List Char} (nonempty : digits ≠ [])
    (all : ∀ c ∈ digits, c.isDigit = true) (stops : Stops Char.isDigit rest) :
    tokens (fuel + 1) (digits ++ rest) = (tokens fuel rest).map (.number digits :: ·) := by
  obtain ⟨c, digits, rfl⟩ := List.exists_cons_of_ne_nil nonempty
  have digit := all c List.mem_cons_self
  have others := Runs.takeWhile_dropWhile_append
    (fun d member => all d (List.mem_cons_of_mem c member)) stops
  have not_space : ¬(c = ' ' ∨ c = '\n') := by
    rintro (rfl | rfl) <;> revert digit <;> decide
  have not_quote : c ≠ '\'' := by
    rintro rfl
    revert digit
    decide
  simp [tokens, not_space, not_quote, digit, others]

/-- The character can start a word. -/
def startsWord (c : Char) : Bool := isWordChar c && !c.isDigit

theorem tokens_word {c : Char} {word : List Char} (first : startsWord c = true)
    (all : ∀ d ∈ word, isWordChar d = true) (stops : Stops isWordChar rest) :
    tokens (fuel + 1) (c :: (word ++ rest)) =
      (tokens fuel rest).map (.word (c :: word) :: ·) := by
  obtain ⟨starts, no_digit⟩ : isWordChar c = true ∧ c.isDigit = false := by
    simpa [startsWord] using first
  have others := Runs.takeWhile_dropWhile_append all stops
  have not_space : ¬(c = ' ' ∨ c = '\n') := by
    rintro (rfl | rfl) <;> revert starts <;> decide
  have not_quote : c ≠ '\'' := by
    rintro rfl
    revert starts
    decide
  simp [tokens, not_space, not_quote, no_digit, starts, others]

/-- The character is a token by itself. -/
def isSymbol (c : Char) : Bool :=
  c ≠ ' ' && c ≠ '\n' && c ≠ '\'' && !c.isDigit && !isWordChar c

theorem tokens_symbol {c : Char} (symbol : isSymbol c = true) (rest : List Char) :
    tokens (fuel + 1) (c :: rest) = (tokens fuel rest).map (.symbol c :: ·) := by
  obtain ⟨⟨⟨⟨no_space, no_break⟩, not_quote⟩, no_digit⟩, no_word⟩ :
      (((c ≠ ' ' ∧ c ≠ '\n') ∧ c ≠ '\'') ∧ c.isDigit = false) ∧ isWordChar c = false := by
    simpa [isSymbol] using symbol
  simp [tokens, no_space, no_break, not_quote, no_digit, no_word]

end FirstToken

/-! ## Reading a given text -/

/-- The text splits into the tokens, with any fuel beyond its length. -/
def Lexes (text : List Char) (read : List Token) : Prop :=
  ∀ fuel, text.length < fuel → tokens fuel text = some read

variable {read : List Token} {rest : List Char}

/-- The first token is read with one unit of fuel, if the rest is shorter. -/
theorem lexes_of_step {text : List Char} {read' : List Token} (shorter : rest.length < text.length)
    (step : ∀ fuel, tokens fuel rest = some read → tokens (fuel + 1) text = some read')
    (later : Lexes rest read) : Lexes text read' := by
  intro fuel enough
  cases fuel with
  | zero => simp at enough
  | succ fuel => exact step fuel (later fuel (by omega))

theorem lexes_nil : Lexes [] [] := by
  intro fuel enough
  obtain ⟨fuel, rfl⟩ := Nat.exists_eq_succ_of_ne_zero (Nat.pos_iff_ne_zero.mp enough)
  rfl

theorem lexes_space (later : Lexes rest read) : Lexes (' ' :: rest) read := by
  refine lexes_of_step (by simp) (fun fuel tail => ?_) later
  rw [tokens_space, tail]

theorem lexes_string {value : List Char} (verbatim : Verbatim value)
    (later : Lexes rest read) :
    Lexes ('\'' :: (value ++ '\'' :: rest)) (.text value :: read) := by
  have shorter : rest.length < ('\'' :: (value ++ '\'' :: rest)).length := by
    simp only [List.length_cons, List.length_append]
    omega
  refine lexes_of_step shorter (fun fuel tail => ?_) later
  rw [tokens_string, readString_of_verbatim verbatim, Option.bind_some, tail, Option.map_some]

theorem lexes_number {digits : List Char} (nonempty : digits ≠ [])
    (all : ∀ c ∈ digits, c.isDigit = true) (stops : Stops Char.isDigit rest)
    (later : Lexes rest read) : Lexes (digits ++ rest) (.number digits :: read) := by
  have positive : 0 < digits.length := List.length_pos_iff.mpr nonempty
  refine lexes_of_step (by simp [positive]) (fun fuel tail => ?_) later
  rw [tokens_number fuel nonempty all stops, tail, Option.map_some]

theorem lexes_word {c : Char} {word : List Char} (first : startsWord c = true)
    (all : ∀ d ∈ word, isWordChar d = true) (stops : Stops isWordChar rest)
    (later : Lexes rest read) : Lexes (c :: (word ++ rest)) (.word (c :: word) :: read) := by
  have shorter : rest.length < (c :: (word ++ rest)).length := by
    simp only [List.length_cons, List.length_append]
    omega
  refine lexes_of_step shorter (fun fuel tail => ?_) later
  rw [tokens_word fuel first all stops, tail, Option.map_some]

theorem lexes_symbol {c : Char} (symbol : isSymbol c = true) (later : Lexes rest read) :
    Lexes (c :: rest) (.symbol c :: read) := by
  refine lexes_of_step (by simp) (fun fuel tail => ?_) later
  rw [tokens_symbol fuel symbol, tail, Option.map_some]

/-- The first equation of a text which starts with `column = 'value'`. -/
theorem equations_text {fuel : Nat} {column value : List Char} {rest : List Token}
    {read : List Equation}
    (found : equations fuel (.word column :: .symbol '=' :: .text value :: rest) = some read) :
    ∃ later, read = ⟨String.ofList column, .text (String.ofList value)⟩ :: later := by
  cases fuel with
  | zero => simp [equations] at found
  | succ fuel =>
      simp only [equations, literal_text] at found
      split at found
      · simp at found
      · rename_i first last
        obtain ⟨rfl, -⟩ := Prod.mk.inj (Option.some.inj last)
        exact ⟨[], (Option.some.inj found).symm⟩
      · rename_i first joint tokens last
        obtain ⟨rfl, -⟩ := Prod.mk.inj (Option.some.inj last)
        split at found
        · obtain ⟨later, -, rfl⟩ := Option.map_eq_some_iff.mp found
          exact ⟨later, rfl⟩
        · simp at found
      · simp at found

theorem readPredicate_of_lexes {text : String} (lexes : Lexes text.toList read) :
    readPredicate text = equations read.length read := by
  rw [readPredicate, lexes _ (Nat.lt_succ_self _), Option.bind_some]

example : readPredicate "event_date = '2024-06-11' AND event_hour = 10" =
    some [⟨"event_date", .text "2024-06-11"⟩, ⟨"event_hour", .number 10⟩] := by
  decide +kernel

end Foundation.Sql
