import Lakehouse.Foundation.JsonNumber

/-!
# JSON values

All the values of JSON, written on one line with a blank behind each comma and colon.  A text is
read through its tokens, and what has been written is read back.
-/

namespace Foundation.Json

inductive Value
  | null
  | bool (value : Bool)
  | number (value : Number)
  | text (chars : List Char)
  | array (items : List Value)
  | object (members : List (List Char × Value))

/-- The value of a key; of two members with one name the last counts. -/
def Value.get? (members : List (List Char × Value)) (name : List Char) : Option Value :=
  members.reverse.lookup name

/-! ## Writing -/

mutual

/-- `json.dumps` -/
def Value.write : Value → List Char
  | .null => "null".toList
  | .bool value => (if value then "true" else "false").toList
  | .number value => writeNumber value
  | .text chars => quote chars
  | .array items => '[' :: writeItems items
  | .object members => '\x7b' :: writeEntries members

/-- The items of an array and its closing bracket. -/
def writeItems : List Value → List Char
  | [] => [']']
  | [item] => item.write ++ [']']
  | item :: next :: items => item.write ++ ',' :: ' ' :: writeItems (next :: items)

/-- The members of an object and its closing brace. -/
def writeEntries : List (List Char × Value) → List Char
  | [] => ['\x7d']
  | [(name, value)] => quote name ++ ':' :: ' ' :: (value.write ++ ['\x7d'])
  | (name, value) :: next :: members =>
      quote name ++ ':' :: ' ' :: (value.write ++ ',' :: ' ' :: writeEntries (next :: members))

end

/-! ## Reading -/

/-- The words which are not numbers in digits. -/
def constants : List (List Char × Value) :=
  [("null".toList, .null), ("true".toList, .bool true), ("false".toList, .bool false),
    ("NaN".toList, .number (.float .nan)),
    ("Infinity".toList, .number (.float (.infinite false))),
    ("-Infinity".toList, .number (.float (.infinite true)))]

def readWord (word : List Char) : Option Value :=
  match readNumber word with
  | some number => some (.number number)
  | none => constants.lookup word

mutual

/-- Read a value, and the tokens behind it. -/
def readValue : Nat → List Token → Option (Value × List Token)
  | 0, _ => none
  | _ + 1, [] => none
  | _ + 1, .text chars :: rest => some (.text chars, rest)
  | _ + 1, .word word :: rest => (readWord word).map fun value => (value, rest)
  | fuel + 1, .punctuation c :: rest =>
      if c = '[' then
        if rest.head? = some (.punctuation ']') then some (.array [], rest.tail)
        else (readItems fuel rest).map fun read => (.array read.1, read.2)
      else if c = '\x7b' then
        if rest.head? = some (.punctuation '\x7d') then some (.object [], rest.tail)
        else (readEntries fuel rest).map fun read => (.object read.1, read.2)
      else none

/-- The items behind an opening bracket or a comma. -/
def readItems : Nat → List Token → Option (List Value × List Token)
  | 0, _ => none
  | fuel + 1, tokens =>
      match readValue fuel tokens with
      | some (item, .punctuation c :: rest) =>
          if c = ',' then (readItems fuel rest).map fun read => (item :: read.1, read.2)
          else if c = ']' then some ([item], rest)
          else none
      | _ => none

/-- The members behind an opening brace or a comma. -/
def readEntries : Nat → List Token → Option (List (List Char × Value) × List Token)
  | fuel + 1, .text name :: .punctuation ':' :: tokens =>
      match readValue fuel tokens with
      | some (value, .punctuation c :: rest) =>
          if c = ',' then (readEntries fuel rest).map fun read => ((name, value) :: read.1, read.2)
          else if c = '\x7d' then some ([(name, value)], rest)
          else none
      | _ => none
  | _, _ => none

end

/-- `json.loads` -/
def Value.read (text : List Char) : Option Value :=
  (tokens (text.length + 1) text).bind fun lexed =>
    (readValue (2 * lexed.length) lexed).bind fun read =>
      if read.2 = [] then some read.1 else none

/-! ## Tokens of values -/

mutual

def Value.tokens : Value → List Token
  | .null => [.word "null".toList]
  | .bool value => [.word (if value then "true" else "false").toList]
  | .number value => [.word (writeNumber value)]
  | .text chars => [.text chars]
  | .array items => .punctuation '[' :: itemTokens items
  | .object members => .punctuation '\x7b' :: entryTokens members

def itemTokens : List Value → List Token
  | [] => [.punctuation ']']
  | [item] => item.tokens ++ [.punctuation ']']
  | item :: next :: items => item.tokens ++ .punctuation ',' :: itemTokens (next :: items)

def entryTokens : List (List Char × Value) → List Token
  | [] => [.punctuation '\x7d']
  | [(name, value)] =>
      .text name :: .punctuation ':' :: (value.tokens ++ [.punctuation '\x7d'])
  | (name, value) :: next :: members =>
      .text name :: .punctuation ':' ::
        (value.tokens ++ .punctuation ',' :: entryTokens (next :: members))

end

/-! ## Words -/

theorem isWordChar_of_isNumberChar {c : Char} (number : isNumberChar c = true) :
    isWordChar c = true := by
  simp only [isWordChar, isSpace, isPunctuation, Bool.and_eq_true, Bool.not_eq_true',
    Bool.or_eq_false_iff, beq_eq_false_iff_ne, bne_iff_ne]
  refine ⟨⟨⟨⟨⟨?_, ?_⟩, ?_⟩, ?_⟩, ⟨⟨⟨⟨⟨?_, ?_⟩, ?_⟩, ?_⟩, ?_⟩, ?_⟩⟩, ?_⟩ <;> rintro rfl <;>
    revert number <;> decide

/-- A number is read as this number. -/
theorem readWord_writeNumber (number : Number) :
    readWord (writeNumber number) = some (.number number) := by
  cases number with
  | int value => rw [readWord, writeNumber, readNumber_writeInt]
  | float value =>
      cases value with
      | finite number => rw [readWord, writeNumber, readNumber_writeFloat]
      | infinite negative => cases negative <;> rfl
      | nan => rfl

theorem isWordChar_of_mem_writeNumber {number : Number} :
    ∀ c ∈ writeNumber number, isWordChar c = true := by
  cases number with
  | int value =>
      intro c member
      have all := isNumberChar_of_readNumber (readNumber_writeInt value)
      exact isWordChar_of_isNumberChar (all c member)
  | float value =>
      cases value with
      | finite number =>
          intro c member
          have all := isNumberChar_of_readNumber (readNumber_writeFloat number)
          exact isWordChar_of_isNumberChar (all c member)
      | infinite negative => cases negative <;> exact List.all_eq_true.mp (by decide)
      | nan => exact List.all_eq_true.mp (by decide)

theorem writeNumber_ne_nil (number : Number) : writeNumber number ≠ [] := by
  intro empty
  have read := readWord_writeNumber number
  rw [empty] at read
  cases read

/-- A word ends where a character of another kind follows. -/
theorem lexes_word {word rest : List Char} {read : List Token} (nonempty : word ≠ [])
    (all : ∀ c ∈ word, isWordChar c = true)
    (stops : ∀ c, rest.head? = some c → isWordChar c = false) (later : Lexes rest read) :
    Lexes (word ++ rest) (.word word :: read) := by
  obtain ⟨first, word, rfl⟩ := List.exists_cons_of_ne_nil nonempty
  have shorter : rest.length < (first :: word ++ rest).length := by
    simp only [List.length_append, List.length_cons]
    omega
  refine lexes_of_step shorter (fun fuel tail => ?_) later
  have inside : ∀ c ∈ word, isWordChar c = true := fun c member =>
    all c (List.mem_cons_of_mem first member)
  obtain ⟨taken, dropped⟩ := Runs.takeWhile_dropWhile_append inside stops
  have kinds : (isSpace first = false ∧ isPunctuation first = false) ∧ first ≠ '"' := by
    simpa [isWordChar] using all first List.mem_cons_self
  simp [tokens, kinds, taken, dropped, tail]

/-! ## Values are read back -/

/-- What may follow a value. -/
def StopsWord (rest : List Char) : Prop :=
  ∀ c, rest.head? = some c → isWordChar c = false

mutual

theorem Value.lexes_write : ∀ (value : Value) {rest : List Char} {read : List Token},
    StopsWord rest → Lexes rest read → Lexes (value.write ++ rest) (value.tokens ++ read)
  | .null, _, _, stops, later =>
      lexes_word (by decide) (List.all_eq_true.mp (by decide)) stops later
  | .bool true, _, _, stops, later =>
      lexes_word (by decide) (List.all_eq_true.mp (by decide)) stops later
  | .bool false, _, _, stops, later =>
      lexes_word (by decide) (List.all_eq_true.mp (by decide)) stops later
  | .number value, _, _, stops, later =>
      lexes_word (writeNumber_ne_nil value) isWordChar_of_mem_writeNumber stops later
  | .text chars, _, _, _, later => lexes_quote chars later
  | .array items, _, _, _, later =>
      lexes_punctuation rfl rfl (lexes_writeItems items later)
  | .object members, _, _, _, later =>
      lexes_punctuation rfl rfl (lexes_writeEntries members later)

theorem lexes_writeItems : ∀ (items : List Value) {rest : List Char} {read : List Token},
    Lexes rest read → Lexes (writeItems items ++ rest) (itemTokens items ++ read)
  | [], _, _, later => lexes_punctuation rfl rfl later
  | [item], rest, read, later => by
      have closing : Lexes (']' :: rest) (.punctuation ']' :: read) :=
        lexes_punctuation rfl rfl later
      have stops : StopsWord (']' :: rest) := fun c head => Option.some.inj head ▸ rfl
      simpa [writeItems, itemTokens] using item.lexes_write stops closing
  | item :: next :: items, rest, read, later => by
      have comma := lexes_punctuation (c := ',') rfl rfl
        (lexes_space (c := ' ') rfl (lexes_writeItems (next :: items) later))
      have stops : StopsWord (',' :: ' ' :: (writeItems (next :: items) ++ rest)) :=
        fun c head => Option.some.inj head ▸ rfl
      simpa [writeItems, itemTokens] using item.lexes_write stops comma

theorem lexes_writeEntries :
    ∀ (members : List (List Char × Value)) {rest : List Char} {read : List Token},
      Lexes rest read → Lexes (writeEntries members ++ rest) (entryTokens members ++ read)
  | [], _, _, later => lexes_punctuation rfl rfl later
  | [(name, value)], rest, read, later => by
      have closing : Lexes ('\x7d' :: rest) (.punctuation '\x7d' :: read) :=
        lexes_punctuation rfl rfl later
      have stops : StopsWord ('\x7d' :: rest) := fun c head => Option.some.inj head ▸ rfl
      have entry := lexes_quote name (lexes_punctuation (c := ':') rfl rfl
        (lexes_space (c := ' ') rfl (value.lexes_write stops closing)))
      simpa [writeEntries, entryTokens] using entry
  | (name, value) :: next :: members, rest, read, later => by
      have comma := lexes_punctuation (c := ',') rfl rfl
        (lexes_space (c := ' ') rfl (lexes_writeEntries (next :: members) later))
      have stops : StopsWord (',' :: ' ' :: (writeEntries (next :: members) ++ rest)) :=
        fun c head => Option.some.inj head ▸ rfl
      have entry := lexes_quote name (lexes_punctuation (c := ':') rfl rfl
        (lexes_space (c := ' ') rfl (value.lexes_write stops comma)))
      simpa [writeEntries, entryTokens] using entry

end

/-- No value starts with a closing bracket. -/
theorem Value.exists_tokens (value : Value) :
    ∃ first more, value.tokens = first :: more ∧ first ≠ .punctuation ']' := by
  cases value <;> simp [Value.tokens]

theorem exists_itemTokens (item : Value) (items : List Value) :
    ∃ first more, itemTokens (item :: items) = first :: more ∧ first ≠ .punctuation ']' := by
  obtain ⟨first, more, tokens_eq, no_bracket⟩ := item.exists_tokens
  cases items <;> simp [itemTokens, tokens_eq, no_bracket]

theorem exists_entryTokens (member : List Char × Value) (members : List (List Char × Value)) :
    ∃ first more, entryTokens (member :: members) = first :: more ∧
      first ≠ .punctuation '\x7d' := by
  cases members <;> simp [entryTokens]

mutual

/-- The tokens of a value are read with twice as much fuel as there are tokens. -/
theorem Value.readValue_tokens : ∀ (value : Value) (rest : List Token) (fuel : Nat),
    2 * value.tokens.length ≤ fuel → readValue fuel (value.tokens ++ rest) = some (value, rest)
  | .null, _, fuel + 1, _ => rfl
  | .bool true, _, fuel + 1, _ => rfl
  | .bool false, _, fuel + 1, _ => rfl
  | .number value, _, fuel + 1, _ => by
      simp [Value.tokens, readValue, readWord_writeNumber]
  | .text chars, _, fuel + 1, _ => rfl
  | .array [], _, fuel + 1, _ => rfl
  | .array (item :: items), rest, fuel + 1, enough => by
      have more : 2 * (itemTokens (item :: items)).length ≤ fuel := by
        simp only [Value.tokens, List.length_cons] at enough
        omega
      have read := readItems_itemTokens (item :: items) (List.cons_ne_nil item items) rest fuel more
      obtain ⟨first, later, tokens_eq, no_bracket⟩ := exists_itemTokens item items
      rw [tokens_eq, List.cons_append] at read
      simp [Value.tokens, readValue, tokens_eq, no_bracket, read]
  | .object [], _, fuel + 1, _ => rfl
  | .object (member :: members), rest, fuel + 1, enough => by
      have more : 2 * (entryTokens (member :: members)).length ≤ fuel := by
        simp only [Value.tokens, List.length_cons] at enough
        omega
      have read := readEntries_entryTokens (member :: members) (List.cons_ne_nil member members)
        rest fuel more
      obtain ⟨first, later, tokens_eq, no_brace⟩ := exists_entryTokens member members
      rw [tokens_eq, List.cons_append] at read
      simp [Value.tokens, readValue, tokens_eq, no_brace, read]

theorem readItems_itemTokens : ∀ (items : List Value), items ≠ [] →
    ∀ (rest : List Token) (fuel : Nat), 2 * (itemTokens items).length ≤ fuel →
      readItems fuel (itemTokens items ++ rest) = some (items, rest)
  | [], nonempty, _, _, _ => absurd rfl nonempty
  | [_], _, _, 0, enough => by simp [itemTokens] at enough
  | _ :: _ :: _, _, _, 0, enough => by simp [itemTokens] at enough
  | [item], _, rest, fuel + 1, enough => by
      have more : 2 * item.tokens.length ≤ fuel := by
        simp only [itemTokens, List.length_append, List.length_singleton] at enough
        omega
      have read := item.readValue_tokens (.punctuation ']' :: rest) fuel more
      simp [itemTokens, readItems, read]
  | item :: next :: items, _, rest, fuel + 1, enough => by
      have lengths : 2 * item.tokens.length ≤ fuel ∧
          2 * (itemTokens (next :: items)).length ≤ fuel := by
        simp only [itemTokens, List.length_append, List.length_cons] at enough
        omega
      have read := item.readValue_tokens
        (.punctuation ',' :: (itemTokens (next :: items) ++ rest)) fuel lengths.1
      have later := readItems_itemTokens (next :: items) (List.cons_ne_nil next items) rest fuel
        lengths.2
      simp [itemTokens, readItems, read, later]

theorem readEntries_entryTokens : ∀ (members : List (List Char × Value)), members ≠ [] →
    ∀ (rest : List Token) (fuel : Nat), 2 * (entryTokens members).length ≤ fuel →
      readEntries fuel (entryTokens members ++ rest) = some (members, rest)
  | [(name, value)], _, rest, fuel + 1, enough => by
      have more : 2 * value.tokens.length ≤ fuel := by
        simp only [entryTokens, List.length_append, List.length_cons] at enough
        omega
      have read := value.readValue_tokens (.punctuation '\x7d' :: rest) fuel more
      simp [entryTokens, readEntries, read]
  | (name, value) :: next :: members, _, rest, fuel + 1, enough => by
      have lengths : 2 * value.tokens.length ≤ fuel ∧
          2 * (entryTokens (next :: members)).length ≤ fuel := by
        simp only [entryTokens, List.length_append, List.length_cons] at enough
        omega
      have read := value.readValue_tokens
        (.punctuation ',' :: (entryTokens (next :: members) ++ rest)) fuel lengths.1
      have later := readEntries_entryTokens (next :: members) (List.cons_ne_nil next members) rest
        fuel lengths.2
      simp [entryTokens, readEntries, read, later]

end

/-- Every value is read back from its text. -/
theorem Value.read_write (value : Value) : Value.read value.write = some value := by
  have stops : StopsWord [] := fun c head => by cases head
  have lexed := value.lexes_write stops lexes_nil
  rw [List.append_nil, List.append_nil] at lexed
  have read := value.readValue_tokens [] (2 * value.tokens.length) (Nat.le_refl _)
  rw [List.append_nil] at read
  rw [Value.read, lexed _ (Nat.lt_succ_self _), Option.bind_some, read]
  rfl

/-! ## Printed characters -/

/-- A printed ASCII character. -/
def IsPrinted (c : Char) : Prop := ' ' ≤ c ∧ c ≤ '~'

instance (c : Char) : Decidable (IsPrinted c) :=
  inferInstanceAs (Decidable (_ ∧ _))

/-- All characters of a text are printed. -/
def Printed (text : List Char) : Prop := ∀ c ∈ text, IsPrinted c

instance (text : List Char) : Decidable (Printed text) :=
  List.decidableBAll IsPrinted text

theorem Printed.cons {c : Char} {text : List Char} (head : IsPrinted c) (tail : Printed text) :
    Printed (c :: text) := by
  intro d member
  rcases List.mem_cons.mp member with rfl | later
  · exact head
  · exact tail d later

theorem Printed.append {text text' : List Char} (left : Printed text) (right : Printed text') :
    Printed (text ++ text') := fun c member =>
  (List.mem_append.mp member).elim (left c) (right c)

theorem isPrinted_of_isNumberChar {c : Char} (number : isNumberChar c = true) : IsPrinted c := by
  simp only [isNumberChar, Bool.or_eq_true, beq_iff_eq] at number
  rcases number with ((((digit | rfl) | rfl) | rfl) | rfl) | rfl
  · have bounds : 48 ≤ c.toNat ∧ c.toNat ≤ 57 := by
      simpa [Char.isDigit, UInt32.le_iff_toNat_le] using digit
    refine ⟨UInt32.le_iff_toNat_le.mpr ?_, UInt32.le_iff_toNat_le.mpr ?_⟩
    · exact Nat.le_trans (by decide) bounds.1
    · exact Nat.le_trans bounds.2 (by decide)
  all_goals decide

theorem printed_writeNumber (number : Number) : Printed (writeNumber number) := by
  cases number with
  | int value =>
      intro c member
      have all := isNumberChar_of_readNumber (readNumber_writeInt value)
      exact isPrinted_of_isNumberChar (all c member)
  | float value =>
      cases value with
      | finite number =>
          intro c member
          have all := isNumberChar_of_readNumber (readNumber_writeFloat number)
          exact isPrinted_of_isNumberChar (all c member)
      | infinite negative => cases negative <;> decide
      | nan => decide

theorem isPrinted_of_mem_hexDigits {unit : Nat} {c : Char} (member : c ∈ hexDigits unit) :
    IsPrinted c := by
  have all : ∀ digit < 0x10, IsPrinted (Nat.digitChar digit) := by decide
  obtain ⟨digit, digits, rfl⟩ := List.mem_map.mp member
  have small : digit < 0x10 := by
    simp only [List.mem_cons, List.not_mem_nil, or_false] at digits
    omega
  exact all digit small

/-- Whatever character is escaped, its escape is printed. -/
theorem isPrinted_of_mem_escape {c d : Char} (member : d ∈ escape c) : IsPrinted d := by
  unfold escape at member
  split at member
  · rename_i letter short
    have letter_printed : IsPrinted letter := by
      unfold escapeLetter? at short
      split at short <;> cases short <;> decide
    rcases List.mem_cons.mp member with rfl | last
    · decide
    · rwa [List.mem_singleton.mp last]
  · split at member
    · rename_i printed
      rwa [List.mem_singleton.mp member]
    · obtain ⟨unit, -, inside⟩ := List.mem_flatMap.mp member
      rcases List.mem_cons.mp inside with rfl | later
      · decide
      · rcases List.mem_cons.mp later with rfl | digit
        · decide
        · exact isPrinted_of_mem_hexDigits digit

theorem isPrinted_of_mem_quote {text : List Char} {c : Char} (member : c ∈ quote text) :
    IsPrinted c := by
  rcases List.mem_cons.mp member with rfl | later
  · decide
  · rcases List.mem_append.mp later with inside | last
    · obtain ⟨d, -, escaped⟩ := List.mem_flatMap.mp inside
      exact isPrinted_of_mem_escape escaped
    · rw [List.mem_singleton.mp last]
      decide

theorem printed_quote (text : List Char) : Printed (quote text) :=
  fun _ member => isPrinted_of_mem_quote member

mutual

/-- A value is written with printed ASCII characters only. -/
theorem Value.printed_write : ∀ value : Value, Printed value.write
  | .null => by decide
  | .bool true => by decide
  | .bool false => by decide
  | .number number => printed_writeNumber number
  | .text chars => printed_quote chars
  | .array items => (printed_writeItems items).cons (by decide)
  | .object members => (printed_writeEntries members).cons (by decide)

theorem printed_writeItems : ∀ items : List Value, Printed (writeItems items)
  | [] => by decide
  | [item] => item.printed_write.append (by decide)
  | item :: next :: items =>
      item.printed_write.append
        (((printed_writeItems (next :: items)).cons (by decide)).cons (by decide))

theorem printed_writeEntries : ∀ members : List (List Char × Value), Printed (writeEntries members)
  | [] => by decide
  | [(name, value)] =>
      (printed_quote name).append
        (((value.printed_write.append (by decide)).cons (by decide)).cons (by decide))
  | (name, value) :: next :: members =>
      (printed_quote name).append (((value.printed_write.append
        (((printed_writeEntries (next :: members)).cons (by decide)).cons (by decide))).cons
          (by decide)).cons (by decide))

end

end Foundation.Json
