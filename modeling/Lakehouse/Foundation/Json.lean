import Mathlib.Data.List.Basic

/-!
# JSON texts

Strings are written with ASCII characters only: a character outside of them is escaped by its UTF-16
code units.  A text is split into tokens, and an object of texts is read from these.  Lone
surrogates are not characters, and a string which holds one is not read.
-/

namespace Foundation.Json

/-! ## Strings -/

/-- The UTF-16 code units of a character. -/
def units (c : Char) : List Nat :=
  if c.toNat < 0x10000 then [c.toNat]
  else [0xd800 + (c.toNat - 0x10000) / 0x400, 0xdc00 + (c.toNat - 0x10000) % 0x400]

/-- Four hexadecimal digits. -/
def hexDigits (unit : Nat) : List Char :=
  [unit / 0x1000 % 0x10, unit / 0x100 % 0x10, unit / 0x10 % 0x10, unit % 0x10].map Nat.digitChar

def hexValue? (c : Char) : Option Nat :=
  if c.isDigit then some (c.toNat - '0'.toNat)
  else if 'a' ≤ c ∧ c ≤ 'f' then some (c.toNat - 'a'.toNat + 10)
  else if 'A' ≤ c ∧ c ≤ 'F' then some (c.toNat - 'A'.toNat + 10)
  else none

/-- The number of hexadecimal digits, the most significant first. -/
def hexNumber? (digits : List Char) : Option Nat :=
  digits.foldlM (fun value c => (hexValue? c).map fun digit => 0x10 * value + digit) 0

/-- The letter of a character which has a short escape. -/
def escapeLetter? : Char → Option Char
  | '"' => some '"'
  | '\\' => some '\\'
  | '\n' => some 'n'
  | '\r' => some 'r'
  | '\t' => some 't'
  | '\x0c' => some 'f'
  | '\x08' => some 'b'
  | _ => none

def unescapeLetter? : Char → Option Char
  | '"' => some '"'
  | '\\' => some '\\'
  | '/' => some '/'
  | 'n' => some '\n'
  | 'r' => some '\r'
  | 't' => some '\t'
  | 'f' => some '\x0c'
  | 'b' => some '\x08'
  | _ => none

def escape (c : Char) : List Char :=
  match escapeLetter? c with
  | some letter => ['\\', letter]
  | none =>
      if ' ' ≤ c ∧ c ≤ '~' then [c]
      else (units c).flatMap fun unit => '\\' :: 'u' :: hexDigits unit

/-- A string literal. -/
def quote (text : List Char) : List Char :=
  '"' :: (text.flatMap escape ++ ['"'])

/-- Read the code units of a string from behind its opening quote, and what follows the closing
quote.  A character which is not escaped counts as one unit. -/
def readUnits : List Char → Option (List Nat × List Char)
  | [] => none
  | c :: rest =>
      if c = '"' then some ([], rest)
      else if c = '\\' then
        match rest with
        | 'u' :: first :: second :: third :: fourth :: rest =>
            (hexNumber? [first, second, third, fourth]).bind fun unit =>
              (readUnits rest).map fun read => (unit :: read.1, read.2)
        | letter :: rest =>
            (unescapeLetter? letter).bind fun c =>
              (readUnits rest).map fun read => (c.toNat :: read.1, read.2)
        | [] => none
      else if c.toNat < 0x20 then none
      else (readUnits rest).map fun read => (c.toNat :: read.1, read.2)

def charOf? (code : Nat) : Option Char :=
  if code.isValidChar then some (Char.ofNat code) else none

/-- Decode code units; a high surrogate and a low one make one character. -/
def ofUnits : List Nat → Option (List Char)
  | [] => some []
  | [unit] => (charOf? unit).map ([·])
  | high :: low :: rest =>
      if (0xd800 ≤ high ∧ high < 0xdc00) ∧ 0xdc00 ≤ low ∧ low < 0xe000 then
        (charOf? (0x10000 + ((high - 0xd800) * 0x400 + (low - 0xdc00)))).bind fun c =>
          (ofUnits rest).map (c :: ·)
      else (charOf? high).bind fun c => (ofUnits (low :: rest)).map (c :: ·)

/-- Read a string from behind its opening quote: its text, and what follows the closing quote. -/
def readString (text : List Char) : Option (List Char × List Char) :=
  (readUnits text).bind fun read => (ofUnits read.1).map fun chars => (chars, read.2)

example : readString "a\\u00e9\\ud83d\\ude00\\n\": 1".toList =
    some ("aé😀\n".toList, ": 1".toList) := by
  decide +kernel

section Strings

theorem charOf?_toNat (c : Char) : charOf? c.toNat = some c := by
  have valid : c.toNat.isValidChar := c.valid
  rw [charOf?, if_pos valid, Char.ofNat_toNat]

/-- No character is a surrogate. -/
theorem not_surrogate (c : Char) : c.toNat < 0xd800 ∨ 0xe000 ≤ c.toNat ∧ c.toNat < 0x110000 := by
  have valid : c.toNat.isValidChar := c.valid
  unfold Nat.isValidChar at valid
  omega

/-- The units of a character are decoded to it, whatever follows. -/
theorem ofUnits_units (c : Char) (rest : List Nat) :
    ofUnits (units c ++ rest) = (ofUnits rest).map (c :: ·) := by
  have range := not_surrogate c
  have decoded := charOf?_toNat c
  unfold units
  split
  · have alone : ¬(0xd800 ≤ c.toNat ∧ c.toNat < 0xdc00) := by omega
    cases rest with
    | nil => simp [ofUnits, decoded]
    | cons next rest => simp [ofUnits, alone, decoded]
  · have high : 0xd800 ≤ 0xd800 + (c.toNat - 0x10000) / 0x400 ∧
        0xd800 + (c.toNat - 0x10000) / 0x400 < 0xdc00 := by omega
    have low : 0xdc00 ≤ 0xdc00 + (c.toNat - 0x10000) % 0x400 ∧
        0xdc00 + (c.toNat - 0x10000) % 0x400 < 0xe000 := by omega
    have joined : 0x10000 + ((0xd800 + (c.toNat - 0x10000) / 0x400 - 0xd800) * 0x400 +
        (0xdc00 + (c.toNat - 0x10000) % 0x400 - 0xdc00)) = c.toNat := by omega
    simp only [List.cons_append, List.nil_append, ofUnits, if_pos (And.intro high low), joined,
      decoded, Option.bind_some]

theorem hexValue?_digitChar : ∀ digit < 0x10, hexValue? (Nat.digitChar digit) = some digit := by
  decide

theorem hexNumber?_hexDigits {unit : Nat} (small : unit < 0x10000) :
    hexNumber? (hexDigits unit) = some unit := by
  have digit : ∀ value, hexValue? (Nat.digitChar (value % 0x10)) = some (value % 0x10) :=
    fun value => hexValue?_digitChar _ (Nat.mod_lt _ (by decide))
  have whole : 0x10 * (0x10 * (0x10 * (unit / 0x1000 % 0x10) + unit / 0x100 % 0x10) +
      unit / 0x10 % 0x10) + unit % 0x10 = unit := by omega
  simp [hexNumber?, hexDigits, digit, whole]

theorem readUnits_quote (rest : List Char) : readUnits ('"' :: rest) = some ([], rest) := by
  rw [readUnits.eq_def]
  rfl

theorem readUnits_hexDigits {unit : Nat} (small : unit < 0x10000) (rest : List Char) :
    readUnits ('\\' :: 'u' :: (hexDigits unit ++ rest)) =
      (readUnits rest).map fun read => (unit :: read.1, read.2) := by
  have number := hexNumber?_hexDigits small
  simp only [hexDigits, List.map_cons, List.map_nil] at number ⊢
  rw [readUnits.eq_def]
  simp [number]

theorem unescapeLetter?_of_escapeLetter? {c letter : Char} (short : escapeLetter? c = some letter) :
    unescapeLetter? letter = some c ∧ letter ≠ 'u' ∧ units c = [c.toNat] := by
  unfold escapeLetter? at short
  split at short <;> cases short <;> exact ⟨rfl, by decide, rfl⟩

theorem readUnits_letter {c letter : Char} (short : escapeLetter? c = some letter)
    (rest : List Char) :
    readUnits ('\\' :: letter :: rest) =
      (readUnits rest).map fun read => (c.toNat :: read.1, read.2) := by
  obtain ⟨back, not_code, -⟩ := unescapeLetter?_of_escapeLetter? short
  rw [readUnits.eq_def]
  simp [not_code, back]

theorem readUnits_plain {c : Char} (long : escapeLetter? c = none) (printed : ' ' ≤ c)
    (rest : List Char) :
    readUnits (c :: rest) = (readUnits rest).map fun read => (c.toNat :: read.1, read.2) := by
  have not_quote : c ≠ '"' := by
    rintro rfl
    simp [escapeLetter?] at long
  have not_escape : c ≠ '\\' := by
    rintro rfl
    simp [escapeLetter?] at long
  have not_control : ¬c.toNat < 0x20 := Nat.not_lt.mpr (UInt32.le_iff_toNat_le.mp printed)
  rw [readUnits.eq_def]
  simp [not_quote, not_escape, not_control]

/-- An escaped character is read as its units. -/
theorem readUnits_escape (c : Char) (rest : List Char) :
    readUnits (escape c ++ rest) =
      (readUnits rest).map fun read => (units c ++ read.1, read.2) := by
  unfold escape
  split
  · rename_i letter short
    rw [(unescapeLetter?_of_escapeLetter? short).2.2]
    exact readUnits_letter short rest
  · rename_i long
    split
    · rename_i printed
      have last : c.toNat ≤ '~'.toNat := UInt32.le_iff_toNat_le.mp printed.2
      have small : c.toNat < 0x10000 := Nat.lt_of_le_of_lt last (by decide)
      rw [units, if_pos small]
      exact readUnits_plain long printed.1 rest
    · have range := not_surrogate c
      unfold units
      split
      · rename_i small
        simp only [List.flatMap_cons, List.flatMap_nil, List.append_nil, List.cons_append]
        exact readUnits_hexDigits small rest
      · have high : 0xd800 + (c.toNat - 0x10000) / 0x400 < 0x10000 := by omega
        have low : 0xdc00 + (c.toNat - 0x10000) % 0x400 < 0x10000 := by omega
        simp only [List.flatMap_cons, List.flatMap_nil, List.append_nil, List.cons_append,
          List.append_assoc, List.nil_append]
        rw [readUnits_hexDigits high, readUnits_hexDigits low, Option.map_map]
        rfl

/-- A string literal is read back. -/
theorem readString_quote (text rest : List Char) :
    readString (text.flatMap escape ++ '"' :: rest) = some (text, rest) := by
  have as_units : readUnits (text.flatMap escape ++ '"' :: rest) =
      some (text.flatMap units, rest) := by
    induction text with
    | nil => exact readUnits_quote rest
    | cons c text ih =>
        rw [List.flatMap_cons, List.append_assoc, readUnits_escape, ih]
        rfl
  have decoded : ofUnits (text.flatMap units) = some text := by
    clear as_units
    induction text with
    | nil => rfl
    | cons c text ih => rw [List.flatMap_cons, ofUnits_units, ih, Option.map_some]
  rw [readString, as_units, Option.bind_some, decoded, Option.map_some]

end Strings

/-! ## Tokens -/

/-- A lexical unit. -/
inductive Token
  | punctuation (c : Char)
  | text (value : List Char)
  /-- A number or a constant. -/
  | word (text : List Char)
  deriving DecidableEq

def isSpace (c : Char) : Bool :=
  c == ' ' || c == '\n' || c == '\r' || c == '\t'

def isPunctuation (c : Char) : Bool :=
  c == '\x7b' || c == '\x7d' || c == '[' || c == ']' || c == ':' || c == ','

def isWordChar (c : Char) : Bool :=
  !isSpace c && !isPunctuation c && c != '"'

/-- Split a text into tokens; the fuel bounds the number of characters. -/
def tokens : Nat → List Char → Option (List Token)
  | 0, _ => none
  | _ + 1, [] => some []
  | fuel + 1, c :: rest =>
      if isSpace c then tokens fuel rest
      else if isPunctuation c then (tokens fuel rest).map (.punctuation c :: ·)
      else if c = '"' then
        (readString rest).bind fun read => (tokens fuel read.2).map (.text read.1 :: ·)
      else
        (tokens fuel (rest.dropWhile isWordChar)).map
          (.word (c :: rest.takeWhile isWordChar) :: ·)

/-- The text splits into the tokens, with any fuel beyond its length. -/
def Lexes (text : List Char) (read : List Token) : Prop :=
  ∀ fuel, text.length < fuel → tokens fuel text = some read

section Lexes

variable {read : List Token} {rest : List Char}

/-- The first token is read with one unit of fuel, if the rest is shorter. -/
theorem lexes_of_step {text : List Char} {read' : List Token} (shorter : rest.length < text.length)
    (step : ∀ fuel, tokens fuel rest = some read → tokens (fuel + 1) text = some read')
    (later : Lexes rest read) : Lexes text read' := by
  intro fuel enough
  cases fuel with
  | zero => simp at enough
  | succ fuel => exact step fuel (later fuel (by omega))

theorem lexes_nil : Lexes [] [] := by
  intro fuel enough
  obtain ⟨fuel, rfl⟩ := Nat.exists_eq_succ_of_ne_zero (Nat.pos_iff_ne_zero.mp enough)
  rfl

theorem lexes_space {c : Char} (space : isSpace c = true) (later : Lexes rest read) :
    Lexes (c :: rest) read := by
  refine lexes_of_step (by simp) (fun fuel tail => ?_) later
  rw [tokens, if_pos space, tail]

theorem lexes_punctuation {c : Char} (no_space : isSpace c = false)
    (punctuation : isPunctuation c = true) (later : Lexes rest read) :
    Lexes (c :: rest) (.punctuation c :: read) := by
  refine lexes_of_step (by simp) (fun fuel tail => ?_) later
  simp [tokens, no_space, punctuation, tail]

theorem lexes_quote (text : List Char) (later : Lexes rest read) :
    Lexes (quote text ++ rest) (.text text :: read) := by
  have shorter : rest.length < (quote text ++ rest).length := by
    simp only [quote, List.length_append, List.length_cons]
    omega
  refine lexes_of_step shorter (fun fuel tail => ?_) later
  have no_space : isSpace '"' = false := by decide
  have no_punctuation : isPunctuation '"' = false := by decide
  simp [quote, tokens, no_space, no_punctuation, readString_quote, tail]

end Lexes

/-! ## Objects of texts -/

/-- The members behind an opening brace or a comma. -/
def readMembers : List Token → Option (List (List Char × List Char))
  | .text name :: .punctuation ':' :: .text value :: .punctuation c :: rest =>
      if c = ',' then (readMembers rest).map ((name, value) :: ·)
      else if c = '\x7d' ∧ rest = [] then some [(name, value)]
      else none
  | _ => none

/-- The members of an object of texts, or `none` where the tokens are something else. -/
def readObject : List Token → Option (List (List Char × List Char))
  | .punctuation c :: rest =>
      if c = '\x7b' then
        if rest = [.punctuation '\x7d'] then some [] else readMembers rest
      else none
  | _ => none

/-- `json.loads` of an object of texts. -/
def loads (text : List Char) : Option (List (List Char × List Char)) :=
  (tokens (text.length + 1) text).bind readObject

/-- A member on a line of its own, indented by two spaces. -/
def writeMember (member : List Char × List Char) : List Char :=
  '\n' :: ' ' :: ' ' :: (quote member.1 ++ ':' :: ' ' :: quote member.2)

/-- The members and the closing brace. -/
def writeMembers : List (List Char × List Char) → List Char
  | [] => ['\x7d']
  | [member] => writeMember member ++ ['\n', '\x7d']
  | member :: members => writeMember member ++ ',' :: writeMembers members

/-- `json.dumps(…, indent=2)` of an object of texts. -/
def dumps (members : List (List Char × List Char)) : List Char :=
  '\x7b' :: writeMembers members

/-- The tokens of the members and the closing brace. -/
def memberTokens : List (List Char × List Char) → List Token
  | [] => [.punctuation '\x7d']
  | [member] =>
      [.text member.1, .punctuation ':', .text member.2, .punctuation '\x7d']
  | member :: members =>
      .text member.1 :: .punctuation ':' :: .text member.2 :: .punctuation ',' ::
        memberTokens members

theorem lexes_writeMember (member : List Char × List Char) {rest : List Char} {read : List Token}
    (later : Lexes rest read) :
    Lexes (writeMember member ++ rest)
      (.text member.1 :: .punctuation ':' :: .text member.2 :: read) := by
  have value : Lexes (' ' :: (quote member.2 ++ rest)) (.text member.2 :: read) :=
    lexes_space rfl (lexes_quote member.2 later)
  have colon : Lexes (':' :: ' ' :: (quote member.2 ++ rest))
      (.punctuation ':' :: .text member.2 :: read) :=
    lexes_punctuation rfl rfl value
  have name := lexes_quote member.1 colon
  have line : Lexes ('\n' :: ' ' :: ' ' :: (quote member.1 ++ ':' :: ' ' ::
      (quote member.2 ++ rest))) _ := lexes_space rfl (lexes_space rfl (lexes_space rfl name))
  simpa [writeMember] using line

theorem lexes_writeMembers (members : List (List Char × List Char)) :
    Lexes (writeMembers members) (memberTokens members) := by
  have closing : Lexes ['\x7d'] [.punctuation '\x7d'] := lexes_punctuation rfl rfl lexes_nil
  fun_induction writeMembers members with
  | case1 => exact closing
  | case2 member => exact lexes_writeMember member (lexes_space rfl closing)
  | case3 member members nonempty ih =>
      rw [memberTokens]
      · exact lexes_writeMember member (lexes_punctuation rfl rfl ih)
      · exact nonempty

theorem readMembers_memberTokens {members : List (List Char × List Char)}
    (nonempty : members ≠ []) : readMembers (memberTokens members) = some members := by
  fun_induction memberTokens members with
  | case1 => exact absurd rfl nonempty
  | case2 member => simp [readMembers]
  | case3 member members more ih => simp [readMembers, ih more]

/-- An object of texts is read back. -/
theorem loads_dumps (members : List (List Char × List Char)) :
    loads (dumps members) = some members := by
  have lexed : Lexes (dumps members) (.punctuation '\x7b' :: memberTokens members) :=
    lexes_punctuation rfl rfl (lexes_writeMembers members)
  rw [loads, lexed _ (Nat.lt_succ_self _), Option.bind_some]
  cases members with
  | nil => rfl
  | cons member members =>
      have first : memberTokens (member :: members) ≠ [.punctuation '\x7d'] := by
        cases members <;> simp [memberTokens]
      have read := readMembers_memberTokens (List.cons_ne_nil member members)
      simp [readObject, first, read]

end Foundation.Json
