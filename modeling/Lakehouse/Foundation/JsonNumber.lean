import Lakehouse.Foundation.Binary64
import Lakehouse.Foundation.Json
import Lakehouse.Foundation.Text

/-!
# Numbers in JSON texts

A literal with a fraction or an exponent is read as a float, any other as an integer.  A float is
written as the shortest decimal fraction which is read as this float.
-/

namespace Foundation.Json

open Binary64

inductive Number
  | int (value : Int)
  | float (value : Value)
  deriving DecidableEq

/-! ## Reading -/

/-- The digits which a text starts with, if there are any, and what follows them. -/
def readDigits (text : List Char) : Option (List Char × List Char) :=
  let digits := text.takeWhile Char.isDigit
  if digits = [] then none else some (digits, text.dropWhile Char.isDigit)

/-- The digits behind a point, if there is one. -/
def readFraction (text : List Char) : Option (Option (List Char) × List Char) :=
  if text.head? = some '.' then (readDigits text.tail).map fun read => (some read.1, read.2)
  else some (none, text)

/-- The exponent behind its letter, if there is one. -/
def readExponent (text : List Char) : Option (Option Int × List Char) :=
  if text.head? = some 'e' ∨ text.head? = some 'E' then
    let signed := text.tail
    let digits := if signed.head? = some '-' ∨ signed.head? = some '+' then signed.tail else signed
    (readDigits digits).map fun read =>
      let size : Int := Nat.ofDigitChars 10 read.1 0
      (some (if signed.head? = some '-' then -size else size), read.2)
  else some (none, text)

/-- The number of the parts of a literal. -/
def numberOf (negative : Bool) (whole : List Char) (fraction : Option (List Char))
    (exponent : Option Int) : Number :=
  if fraction = none ∧ exponent = none then
    let size : Int := Nat.ofDigitChars 10 whole 0
    .int (if negative then -size else size)
  else
    let digits := whole ++ fraction.getD []
    .float (ofDecimal negative (Nat.ofDigitChars 10 digits 0)
      (exponent.getD 0 - (fraction.getD []).length))

/-- Read a whole text as a number. -/
def readNumber (text : List Char) : Option Number := do
  let negative : Bool := text.head? = some '-'
  let (whole, rest) ← readDigits (if negative then text.tail else text)
  -- only zero starts with the digit 0
  if whole.head? = some '0' ∧ whole ≠ ['0'] then none
  else
    let (fraction, rest) ← readFraction rest
    let (exponent, rest) ← readExponent rest
    if rest = [] then some (numberOf negative whole fraction exponent) else none

/-! ## Writing -/

def writeInt (value : Int) : List Char :=
  (if value < 0 then ['-'] else []) ++ Nat.toDigits 10 value.natAbs

/-- Zeros between the point and the first other digit; the fuel bounds their number. -/
def leadingZeros : Nat → Nat → Nat
  | 0, _ => 0
  | fuel + 1, units => if one ≤ 10 * units then 0 else leadingZeros fuel (10 * units) + 1

/-- How many digits stand in front of the point; zeros behind the point count as missing ones. -/
def pointOf (units : Nat) : Int :=
  if one ≤ units then (Nat.toDigits 10 (units / one)).length else -leadingZeros 330 units

/-- Digits with the point after some of them, or with an exponent where the point is far off. -/
def layout (digits : List Char) (point : Int) : List Char :=
  if -4 < point ∧ point ≤ 0 then
    '0' :: '.' :: (List.replicate (-point).toNat '0' ++ digits)
  else if 0 < point ∧ point ≤ 16 then
    if point < digits.length then digits.take point.toNat ++ '.' :: digits.drop point.toNat
    else digits ++ List.replicate (point.toNat - digits.length) '0' ++ ".0".toList
  else
    let exponent := point - 1
    digits.take 1 ++ (if digits.tail = [] then [] else '.' :: digits.tail) ++
      'e' :: (if exponent < 0 then '-' else '+') ::
        (Nat.toDigits 10 exponent.natAbs).leftpad 2 '0'

/-- The text of `digits * 10 ^ exponent`. -/
def layoutDecimal (digits : Nat) (exponent : Int) : List Char :=
  let text := Nat.toDigits 10 digits
  layout (text.reverse.dropWhile (· == '0')).reverse (text.length + exponent)

/-- The decimal fractions of a number of digits next to a number of units, the nearest first. -/
def decimalsNear (units count : Nat) : List (List Char) :=
  let exponent := pointOf units - count
  let dividend := units * 10 ^ (-exponent).toNat
  let divisor := one * 10 ^ exponent.toNat
  [roundDiv dividend divisor, dividend / divisor, dividend / divisor + 1].map
    (layoutDecimal · exponent)

def writeSign (negative : Bool) : List Char := if negative then ['-'] else []

/-- All the digits of a number. -/
def writeExactly (number : Finite) : List Char :=
  writeSign number.negative ++ Nat.toDigits 10 (number.units * 5 ^ unitPlaces) ++
    'e' :: '-' :: Nat.toDigits 10 unitPlaces

/-- The texts for a float, the shorter ones first; 17 digits are enough. -/
def floatTexts (number : Finite) : List (List Char) :=
  if number.units = 0 then ["0.0".toList]
  else (List.range 17).flatMap fun count => decimalsNear number.units (count + 1)

/-- `float.__repr__` of a finite float: the first text which is read back. -/
def writeFloat (number : Finite) : List Char :=
  (((floatTexts number).map (writeSign number.negative ++ ·)).find? fun text =>
    readNumber text = some (.float (.finite number))).getD (writeExactly number)

/-- An integer or a float; the floats which are not finite have names. -/
def writeNumber : Number → List Char
  | .int value => writeInt value
  | .float (.finite number) => writeFloat number
  | .float (.infinite negative) => writeSign negative ++ "Infinity".toList
  | .float .nan => "NaN".toList

example : (["0.1", "12.0", "-0.0", "1e16", "0.00001", "4.9e-324", "1125899906842624.25"].map
      fun text => (readNumber text.toList).map fun number => String.ofList (writeNumber number)) =
    ["0.1", "12.0", "-0.0", "1e+16", "1e-05", "5e-324", "1125899906842624.2"].map some := by
  decide +kernel

/-! ## Characters of numbers -/

def isNumberChar (c : Char) : Bool :=
  c.isDigit || c == '-' || c == '+' || c == '.' || c == 'e' || c == 'E'

theorem isNumberChar_of_isDigit {c : Char} (digit : c.isDigit = true) : isNumberChar c = true := by
  simp [isNumberChar, digit]

theorem readDigits_sound {text digits rest : List Char}
    (read : readDigits text = some (digits, rest)) :
    text = digits ++ rest ∧ ∀ c ∈ digits, c.isDigit = true := by
  unfold readDigits at read
  dsimp only at read
  split at read
  · cases read
  · obtain ⟨rfl, rfl⟩ := Prod.mk.inj (Option.some.inj read)
    exact ⟨(List.takeWhile_append_dropWhile).symm, fun c member => List.mem_takeWhile_imp member⟩

/-- A text is read with nothing but characters of numbers in front of the rest. -/
def ReadsUpTo (text rest : List Char) : Prop :=
  ∃ front, text = front ++ rest ∧ ∀ c ∈ front, isNumberChar c = true

theorem ReadsUpTo.refl (text : List Char) : ReadsUpTo text text :=
  ⟨[], rfl, fun _ member => absurd member List.not_mem_nil⟩

theorem ReadsUpTo.trans {text middle rest : List Char} (first : ReadsUpTo text middle)
    (second : ReadsUpTo middle rest) : ReadsUpTo text rest := by
  obtain ⟨front, rfl, front_chars⟩ := first
  obtain ⟨front', rfl, front_chars'⟩ := second
  refine ⟨front ++ front', (List.append_assoc ..).symm, fun c member => ?_⟩
  exact (List.mem_append.mp member).elim (front_chars c) (front_chars' c)

theorem readsUpTo_readDigits {text digits rest : List Char}
    (read : readDigits text = some (digits, rest)) : ReadsUpTo text rest := by
  obtain ⟨text_eq, all⟩ := readDigits_sound read
  exact ⟨digits, text_eq, fun c member => isNumberChar_of_isDigit (all c member)⟩

/-- One character of a number may be skipped. -/
theorem readsUpTo_tail {text : List Char} {c : Char} (head : text.head? = some c)
    (number : isNumberChar c = true) : ReadsUpTo text text.tail := by
  obtain ⟨rest, rfl⟩ := List.head?_eq_some_iff.mp head
  refine ⟨[c], rfl, fun d member => ?_⟩
  rwa [List.mem_singleton.mp member]

theorem readsUpTo_readFraction {text rest : List Char} {fraction : Option (List Char)}
    (read : readFraction text = some (fraction, rest)) : ReadsUpTo text rest := by
  unfold readFraction at read
  split at read
  · rename_i point
    obtain ⟨⟨digits, rest'⟩, digits_eq, same⟩ := Option.map_eq_some_iff.mp read
    obtain ⟨-, rfl⟩ := Prod.mk.inj same
    exact (readsUpTo_tail point rfl).trans (readsUpTo_readDigits digits_eq)
  · obtain ⟨-, rfl⟩ := Prod.mk.inj (Option.some.inj read)
    exact .refl _

theorem readsUpTo_readExponent {text rest : List Char} {exponent : Option Int}
    (read : readExponent text = some (exponent, rest)) : ReadsUpTo text rest := by
  unfold readExponent at read
  split at read
  · rename_i letter
    obtain ⟨⟨digits, rest'⟩, digits_eq, same⟩ := Option.map_eq_some_iff.mp read
    obtain ⟨-, rfl⟩ := Prod.mk.inj same
    have behind_letter : ReadsUpTo text text.tail :=
      letter.elim (readsUpTo_tail · rfl) (readsUpTo_tail · rfl)
    refine behind_letter.trans (ReadsUpTo.trans ?_ (readsUpTo_readDigits digits_eq))
    split
    · rename_i sign
      exact sign.elim (readsUpTo_tail · rfl) (readsUpTo_tail · rfl)
    · exact .refl _
  · obtain ⟨-, rfl⟩ := Prod.mk.inj (Option.some.inj read)
    exact .refl _

/-- A number is written with digits, signs, points and letters of exponents only. -/
theorem isNumberChar_of_readNumber {text : List Char} {number : Number}
    (read : readNumber text = some number) : ∀ c ∈ text, isNumberChar c = true := by
  obtain ⟨⟨whole, rest⟩, whole_eq, read⟩ := Option.bind_eq_some_iff.mp read
  dsimp only at read
  split at read
  · cases read
  · obtain ⟨⟨fraction, rest'⟩, fraction_eq, read⟩ := Option.bind_eq_some_iff.mp read
    obtain ⟨⟨exponent, rest''⟩, exponent_eq, read⟩ := Option.bind_eq_some_iff.mp read
    dsimp only at read
    split at read
    · rename_i ends
      have signed : ReadsUpTo text (if text.head? = some '-' then text.tail else text) := by
        split
        · rename_i minus
          exact readsUpTo_tail minus rfl
        · exact .refl _
      simp only [decide_eq_true_eq] at whole_eq
      obtain ⟨front, text_eq, chars⟩ := ((signed.trans (readsUpTo_readDigits whole_eq)).trans
        (readsUpTo_readFraction fraction_eq)).trans (readsUpTo_readExponent exponent_eq)
      rw [ends, List.append_nil] at text_eq
      exact text_eq ▸ chars
    · cases read

/-! ## Round trips -/

theorem readDigits_append {digits : List Char} (nonempty : digits ≠ [])
    (all : ∀ c ∈ digits, c.isDigit = true) {rest : List Char}
    (stops : ∀ c, rest.head? = some c → c.isDigit = false) :
    readDigits (digits ++ rest) = some (digits, rest) := by
  obtain ⟨taken, dropped⟩ := Runs.takeWhile_dropWhile_append all stops
  rw [readDigits, taken, dropped]
  exact if_neg nonempty

theorem isDigit_of_mem_toDigits {value : Nat} {c : Char} (member : c ∈ Nat.toDigits 10 value) :
    c.isDigit = true :=
  Nat.isDigit_of_mem_toDigits (by decide) (by decide) member

/-- Only zero is written with the digit 0 in front. -/
theorem head?_toDigits {value : Nat} (positive : value ≠ 0) :
    (Nat.toDigits 10 value).head? ≠ some '0' := by
  induction value using Nat.strong_induction_on with
  | _ value ih =>
      by_cases small : value < 10
      · rw [Nat.toDigits_of_lt_base small]
        simpa using positive
      · rw [Nat.toDigits_of_base_le (by decide) (Nat.not_lt.mp small), List.head?_append_of_ne_nil
          _ Nat.toDigits_ne_nil]
        exact ih (value / 10) (by omega) (by omega)

theorem toDigits_no_leading_zero (value : Nat) :
    ¬((Nat.toDigits 10 value).head? = some '0' ∧ Nat.toDigits 10 value ≠ ['0']) := by
  rintro ⟨head, longer⟩
  by_cases zero : value = 0
  · exact longer (zero ▸ Nat.toDigits_zero 10)
  · exact head?_toDigits zero head

/-- A literal without a fraction, with or without an exponent. -/
theorem readNumber_toDigits (negative : Bool) (value : Nat) {rest : List Char}
    {exponent : Option Int} (stops : ∀ c, rest.head? = some c → c.isDigit = false ∧ c ≠ '.')
    (read : readExponent rest = some (exponent, [])) :
    readNumber (writeSign negative ++ Nat.toDigits 10 value ++ rest) =
      some (numberOf negative (Nat.toDigits 10 value) none exponent) := by
  have whole := readDigits_append Nat.toDigits_ne_nil
    (fun c member => @isDigit_of_mem_toDigits value c member) fun c head => (stops c head).1
  have no_point : rest.head? ≠ some '.' := fun point => (stops '.' point).2 rfl
  have fraction : readFraction rest = some (none, rest) := if_neg no_point
  have unsigned : (Nat.toDigits 10 value).head? ≠ some '-' := by
    intro minus
    have digit := isDigit_of_mem_toDigits (List.mem_of_head? minus)
    exact absurd digit (by decide)
  have no_zero := toDigits_no_leading_zero value
  rw [List.append_assoc]
  cases negative with
  | false => simp [readNumber, writeSign, unsigned, whole, no_zero, fraction, read]
  | true => simp [readNumber, writeSign, whole, no_zero, fraction, read]

theorem readNumber_writeInt (value : Int) : readNumber (writeInt value) = some (.int value) := by
  have none_left : readExponent [] = some (none, []) := rfl
  have read := @readNumber_toDigits (decide (value < 0)) value.natAbs [] none (by simp) none_left
  have sign : (if value < 0 then ['-'] else []) = writeSign (decide (value < 0)) := by
    simp [writeSign]
  rw [List.append_nil] at read
  rw [writeInt, sign, read, numberOf, if_pos ⟨rfl, rfl⟩]
  dsimp only
  rw [Nat.ofDigitChars_ten_toDigits]
  congr 2
  by_cases negative : value < 0
  · simp only [negative, decide_true, if_true]
    omega
  · simp only [negative, decide_false, Bool.false_eq_true, if_false]
    omega

theorem readNumber_writeExactly (number : Finite) :
    readNumber (writeExactly number) = some (.float (.finite number)) := by
  have digits := @readDigits_append (Nat.toDigits 10 unitPlaces) Nat.toDigits_ne_nil
    (fun c member => isDigit_of_mem_toDigits member) [] (by simp)
  have exponent : readExponent ('e' :: '-' :: Nat.toDigits 10 unitPlaces) =
      some (some (-(unitPlaces : Int)), []) := by
    rw [List.append_nil] at digits
    simp [readExponent, digits]
  rw [writeExactly, readNumber_toDigits number.negative _ (by simp) exponent, numberOf,
    if_neg (by simp)]
  simp [ofDecimal_units]

theorem readNumber_writeFloat (number : Finite) :
    readNumber (writeFloat number) = some (.float (.finite number)) := by
  unfold writeFloat
  cases search : ((floatTexts number).map (writeSign number.negative ++ ·)).find? fun text =>
      readNumber text = some (.float (.finite number)) with
  | none => exact readNumber_writeExactly number
  | some text => simpa using List.find?_some search

end Foundation.Json
