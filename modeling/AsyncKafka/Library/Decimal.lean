import Mathlib.Data.Nat.Digits.Defs
import Mathlib.Data.List.TakeWhile
import Mathlib.Tactic

/-!
# Decimal text

Integers written in decimal by an output stream, and their reading: the last
word of a text, and the conversion of a word to a signed integer of a given
width, which fails when there is no digit or the value is out of range.
-/

namespace Decimal

/-- The code of a decimal digit. -/
def digitCode (digit : Nat) : UInt8 := UInt8.ofNat (48 + digit)

def isDigit (code : UInt8) : Bool := 48 ≤ code && code ≤ 57

/-- The white space of the standard locale. -/
def isSpace (code : UInt8) : Bool :=
  code == 32 || (9 ≤ code && code ≤ 13)

/-- The decimal text of a natural number. -/
def ofNat (value : Nat) : List UInt8 :=
  if value = 0 then [digitCode 0]
  else ((Nat.digits 10 value).map digitCode).reverse

/-- The decimal text of an integer. -/
def ofInt (value : Int) : List UInt8 :=
  if value < 0 then 45 :: ofNat value.natAbs else ofNat value.natAbs

/-- The number spelled by a sequence of digits. -/
def digitsValue (text : List UInt8) : Nat :=
  text.foldl (fun total code => total * 10 + (code.toNat - 48)) 0

/-- The last word of a text, which is empty when there is none. -/
def lastWord (text : List UInt8) : List UInt8 :=
  (((text.splitOnP isSpace).filter fun word => !word.isEmpty).getLast?).getD []

/-- Convert the leading number of a text to a signed integer of the given
width.  Leading white space is skipped and what follows the digits is
ignored. -/
def toSigned (bits : Nat) (text : List UInt8) : Option Int :=
  let text := text.dropWhile isSpace
  let negative := text.head? == some 45
  let signed := negative || text.head? == some 43
  let digits := (if signed then text.tail else text).takeWhile isDigit
  let value : Int :=
    if negative then -(digitsValue digits : Int) else digitsValue digits
  if digits.isEmpty then none
  else if -(2 ^ (bits - 1)) ≤ value ∧ value < 2 ^ (bits - 1) then some value
  else none

theorem digitCode_isDigit {digit : Nat} (small : digit < 10) :
    isDigit (digitCode digit) = true := by
  interval_cases digit <;> decide

theorem digitCode_value {digit : Nat} (small : digit < 10) :
    (digitCode digit).toNat - 48 = digit := by
  interval_cases digit <;> decide

theorem not_isSpace_of_isDigit {code : UInt8} (digit : isDigit code = true) :
    isSpace code = false := by
  simp only [isDigit, Bool.and_eq_true, decide_eq_true_eq, UInt8.le_iff_toNat_le] at digit
  simp only [isSpace, Bool.or_eq_false_iff, beq_eq_false_iff_ne, ne_eq,
    Bool.and_eq_false_iff, decide_eq_false_iff_not, UInt8.le_iff_toNat_le]
  constructor
  · intro equal
    rw [equal] at digit
    exact absurd digit (by decide)
  · right
    have : (13 : UInt8).toNat = 13 := rfl
    have : (48 : UInt8).toNat = 48 := rfl
    omega

/-- Every character of the decimal text of a number is a digit. -/
theorem all_isDigit_ofNat (value : Nat) :
    ∀ code ∈ ofNat value, isDigit code = true := by
  intro code member
  unfold ofNat at member
  split at member
  · simp only [List.mem_singleton] at member
    subst member
    decide
  · simp only [List.mem_reverse, List.mem_map] at member
    obtain ⟨digit, digitMember, rfl⟩ := member
    exact digitCode_isDigit (Nat.digits_lt_base (by decide) digitMember)

theorem ofNat_ne_nil (value : Nat) : ofNat value ≠ [] := by
  unfold ofNat
  split
  · simp
  · rename_i nonzero
    simpa [Nat.digits_eq_nil_iff_eq_zero] using nonzero

theorem foldr_digits (digits : List Nat) (small : ∀ digit ∈ digits, digit < 10) :
    (digits.map digitCode).foldr
        (fun code total => total * 10 + (code.toNat - 48)) 0 =
      Nat.ofDigits 10 digits := by
  induction digits with
  | nil => rfl
  | cons digit digits inductionHypothesis =>
      have later := inductionHypothesis
        fun other member => small other (List.mem_cons_of_mem _ member)
      simp only [List.map_cons, List.foldr_cons, later, Nat.ofDigits_cons,
        digitCode_value (small digit List.mem_cons_self)]
      ring

/-- The digits of the decimal text of a number spell it. -/
theorem digitsValue_ofNat (value : Nat) : digitsValue (ofNat value) = value := by
  unfold ofNat digitsValue
  split
  · rename_i zero
    rw [zero]
    rfl
  · rw [List.foldl_reverse, foldr_digits _
      fun digit member => Nat.digits_lt_base (by decide) member,
      Nat.ofDigits_digits]

/-- Different numbers have different texts. -/
theorem ofNat_injective : Function.Injective ofNat := by
  intro first second equal
  have values := congrArg digitsValue equal
  rwa [digitsValue_ofNat, digitsValue_ofNat] at values

theorem ofInt_of_nonneg {value : Int} (nonnegative : 0 ≤ value) :
    ofInt value = ofNat value.natAbs := by
  rw [ofInt, if_neg (not_lt.mpr nonnegative)]

/-- Different integers that are not negative have different texts. -/
theorem ofInt_inj
    {first second : Int}
    (firstNonnegative : 0 ≤ first)
    (secondNonnegative : 0 ≤ second) :
    ofInt first = ofInt second ↔ first = second := by
  rw [ofInt_of_nonneg firstNonnegative, ofInt_of_nonneg secondNonnegative,
    ofNat_injective.eq_iff]
  omega

/-- There is no minus sign in the text of an integer that is not negative. -/
theorem minus_notMem_ofInt {value : Int} (nonnegative : 0 ≤ value) :
    45 ∉ ofInt value := by
  rw [ofInt_of_nonneg nonnegative]
  intro member
  have digit := all_isDigit_ofNat _ 45 member
  exact absurd digit (by decide)

/-- A text of digits is its own last word. -/
theorem lastWord_of_isDigit
    {text : List UInt8}
    (digits : ∀ code ∈ text, isDigit code = true) :
    lastWord text = text := by
  have single : text.splitOnP isSpace = [text] := by
    apply List.splitOnP_eq_singleton
    intro code member
    simp [not_isSpace_of_isDigit (digits code member)]
  rw [lastWord, single]
  by_cases empty : text = []
  · subst empty
    rfl
  · simp [empty]

/-- The conversion reads the decimal text of a natural number back when it is
in range. -/
theorem toSigned_ofNat (bits value : Nat) :
    toSigned bits (ofNat value) =
      if (value : Int) < 2 ^ (bits - 1) then some (value : Int) else none := by
  have digits := all_isDigit_ofNat value
  obtain ⟨head, tail, shape⟩ := List.exists_cons_of_ne_nil (ofNat_ne_nil value)
  have headDigit : isDigit head = true := digits head (by simp [shape])
  have kept : (ofNat value).dropWhile isSpace = ofNat value := by
    rw [shape, List.dropWhile_cons, not_isSpace_of_isDigit headDigit]
    rfl
  have unsigned : ((ofNat value).head? == some 45) = false ∧
      ((ofNat value).head? == some 43) = false := by
    rw [shape]
    constructor <;>
      · simp only [List.head?_cons, beq_eq_false_iff_ne, ne_eq,
          Option.some.injEq]
        intro equal
        rw [equal] at headDigit
        exact absurd headDigit (by decide)
  have taken : (ofNat value).takeWhile isDigit = ofNat value :=
    List.takeWhile_eq_self_iff.mpr digits
  have nonnegative : -(2 ^ (bits - 1) : Int) ≤ (value : Int) := by
    have : (0 : Int) < 2 ^ (bits - 1) := by positivity
    omega
  simp [toSigned, kept, unsigned.1, unsigned.2, taken, digitsValue_ofNat,
    ofNat_ne_nil, nonnegative]

/-- A conversion that succeeds is in range. -/
theorem toSigned_inRange
    {bits : Nat}
    {text : List UInt8}
    {value : Int}
    (converted : toSigned bits text = some value) :
    -(2 ^ (bits - 1)) ≤ value ∧ value < 2 ^ (bits - 1) := by
  unfold toSigned at converted
  simp only [Option.ite_none_left_eq_some, Option.ite_none_right_eq_some,
    Option.some.injEq] at converted
  obtain ⟨-, inRange, rfl⟩ := converted
  exact inRange

end Decimal
