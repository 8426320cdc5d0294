import ParDiff.Lib.Double
import ParDiff.Lib.Numeral

/-!
# Numbers from Perl to MySQL

Perl multiplies integers of 64 bits as integers, and so it does with a double below
`2 ^ 53` that holds one; everything else is a double, of which 15 digits are printed.
`DBI` binds a number as this text.

MySQL reads a text as a double when it computes with it, and digit by digit when it
stores it in an integer column.  Halves of a double are rounded to the even integer,
halves of a text away from zero, and a value out of the range of the column is stored as
the nearest bound.  An operation that overflows is `NULL`.

A text is read as the nearest double.
-/

namespace ParDiff.Lib

open Text

/-! ## Perl -/

namespace Perl

inductive Number
  | int (n : Int)
  | float (x : Double)
  deriving DecidableEq, Repr

/-- `IV` or `UV`. -/
def Fits (n : Int) : Prop := -2 ^ 63 ≤ n ∧ n < 2 ^ 64

instance (n : Int) : Decidable (Fits n) := inferInstanceAs (Decidable (_ ∧ _))

/-- The number at the front of a string; undefined and empty count as zero. -/
def numberOf (param : Option Str) : Number :=
  let s := (param.getD []).dropWhile Char.isWhitespace
  let negative := decide (signOf s = some '-')
  if (afterSign s).all Char.isDigit ∧ Fits (intPrefix s) then .int (intPrefix s)
  else if "inf".toList <+: lower (afterSign s) then .float (.infinite negative)
  else if "nan".toList <+: lower (afterSign s) then .float .nan
  else .float (.ofRat negative (numPrefix s))

namespace Number

def toDouble : Number → Double
  | .int n => .ofRat false n
  | .float x => x

/-- The integer that a number is, or that a double holds. -/
def integer : Number → Option Int
  | .int n => some n
  | .float x => x.rat.bind fun r => if r.den = 1 ∧ r.num.natAbs < 2 ^ 53 then some r.num else none

def mul (a b : Number) : Number :=
  match a.integer, b.integer with
  | some m, some n => if Fits (m * n) then .int (m * n) else .float (a.toDouble.mul b.toDouble)
  | _, _ => .float (a.toDouble.mul b.toDouble)

/-- `>= 0`. -/
def nonneg (a : Number) : Bool :=
  match a with
  | .int n => decide (0 ≤ n)
  | .float (.finite x) => decide (0 ≤ x)
  | .float .negZero => true
  | .float (.infinite negative) => !negative
  | .float .nan => false

end Number

/-- `d.dde+dd`. -/
def scientific (digits : Str) (e : Int) : Str :=
  digits.take 1 ++ (if digits.tail = [] then [] else '.' :: digits.tail) ++
    ['e', if e < 0 then '-' else '+'] ++
      (if e.natAbs < 10 then '0' :: dec e.natAbs else dec e.natAbs)

/-- `%.15g` of a positive number. -/
def positiveText (x : Rat) : Str :=
  let (m, e) := significant 14 x
  let digits := (dec m).rdropWhile (· = '0')
  if e < -4 ∨ 15 ≤ e then scientific digits e else positional digits e

/-- A number as a string. -/
def Number.text : Number → Str
  | .int n => decInt n
  | .float (.finite x) =>
      if x = 0 then ['0'] else if x < 0 then '-' :: positiveText (-x) else positiveText x
  | .float .negZero => ['0']
  | .float (.infinite negative) => (if negative then "-inf" else "inf").toList
  | .float .nan => "nan".toList

theorem numberOf_decInt {z : Int} (h : Fits z) : numberOf (some (decInt z)) = .int z := by
  obtain ⟨hblank, hdigits⟩ : (decInt z).dropWhile Char.isWhitespace = decInt z ∧
      (afterSign (decInt z)).all Char.isDigit = true := by
    cases z with
    | ofNat n =>
        obtain ⟨c, s, hcs⟩ := List.exists_cons_of_ne_nil (dec_ne_nil n)
        have hc : c.isDigit := isDigit_of_mem_dec (n := n) (by simp [hcs])
        have hsign : signOf (dec n) = none := by
          rw [hcs]
          unfold signOf
          split <;> simp_all
        refine ⟨?_, ?_⟩
        · rw [decInt, hcs, List.dropWhile_cons, (not_blank_or_sign hc).1]
          rfl
        · rw [decInt, afterSign, hsign]
          exact List.all_eq_true.2 fun c hc => isDigit_of_mem_dec hc
    | negSucc n =>
        exact ⟨rfl, List.all_eq_true.2 fun c hc => isDigit_of_mem_dec hc⟩
  simp only [numberOf, Option.getD_some, hblank, hdigits, intPrefix_decInt, h, true_and, if_true]

theorem Number.mul_int {m n : Int} (h : Fits (m * n)) :
    (Number.int m).mul (.int n) = .int (m * n) := if_pos h

/-- A part of a byte, and more digits than are printed. -/
example : (((numberOf (some "1073741824.3".toList)).mul (.int 1024)).mul (.int 1024)).text =
    "1.1258999071572e+15".toList := by decide +kernel

end Perl

/-! ## MySQL -/

namespace MySql

/-- The range of a `BIGINT`. -/
def clampBigint (z : Int) : Int := max (-2 ^ 63) (min z (2 ^ 63 - 1))

/-- A text, stored in a `BIGINT`. -/
def bigintOfText (s : Str) : Int := clampBigint (roundAway (numPrefix s))

/-- A double, stored in a `BIGINT`. -/
def bigintOfDouble (x : Rat) : Int := clampBigint (roundEven x)

/-- The double that a text counts as, at most the greatest one. -/
def doubleOfText (s : Str) : Rat :=
  if doubleLimit ≤ numPrefix s then 2 ^ 1024 - 2 ^ 971
  else if numPrefix s ≤ -doubleLimit then -(2 ^ 1024 - 2 ^ 971)
  else nearest (numPrefix s)

/-- What an operation on doubles gives. -/
def result (x : Rat) : Option Rat :=
  if doubleLimit ≤ x ∨ x ≤ -doubleLimit then none else some (nearest x)

/-- `column + ?` for a `BIGINT` column, stored there. -/
def addText (column : Int) (s : Str) : Option Int :=
  (result (nearest column + doubleOfText s)).map bigintOfDouble

theorem clampBigint_of_range {z : Int} (h : z.natAbs < 2 ^ 63) : clampBigint z = z := by
  unfold clampBigint
  omega

theorem bigintOfText_decInt {z : Int} (h : z.natAbs < 2 ^ 63) : bigintOfText (decInt z) = z := by
  rw [bigintOfText, numPrefix_decInt, roundAway_intCast, clampBigint_of_range h]

theorem bigintOfDouble_intCast {z : Int} (h : z.natAbs < 2 ^ 63) : bigintOfDouble z = z := by
  rw [bigintOfDouble, roundEven_intCast, clampBigint_of_range h]

/-- An integer below `2 ^ 53` is far from an overflow. -/
theorem not_overflow {z : Int} (h : z.natAbs < 2 ^ 53) :
    ¬doubleLimit ≤ (z : Rat) ∧ ¬(z : Rat) ≤ -doubleLimit := by
  have hlimit : (2 : Rat) ^ 53 < doubleLimit := by
    have hdouble : (2 : Rat) ^ 1024 = 2 * 2 ^ 1023 := pow_succ' 2 1023
    have hlow : (2 : Rat) ^ 53 < 2 ^ 970 := pow_lt_pow_right₀ (by norm_num) (by norm_num)
    have hhigh : (2 : Rat) ^ 970 < 2 ^ 1023 := pow_lt_pow_right₀ (by norm_num) (by norm_num)
    rw [doubleLimit, hdouble]
    generalize (2 : Rat) ^ 970 = a at hlow hhigh ⊢
    generalize (2 : Rat) ^ 1023 = b at hhigh ⊢
    linarith
  have hle : (z : Rat) < 2 ^ 53 ∧ -(2 : Rat) ^ 53 < z := by
    constructor
    · exact_mod_cast show z < 2 ^ 53 by omega
    · exact_mod_cast show -2 ^ 53 < z by omega
  constructor <;> linarith

theorem result_intCast {z : Int} (h : z.natAbs < 2 ^ 53) : result z = some (z : Rat) := by
  obtain ⟨hhigh, hlow⟩ := not_overflow h
  rw [result, if_neg (not_or.2 ⟨hhigh, hlow⟩), nearest_intCast h]

theorem doubleOfText_decInt {z : Int} (h : z.natAbs < 2 ^ 53) : doubleOfText (decInt z) = z := by
  obtain ⟨hhigh, hlow⟩ := not_overflow h
  rw [doubleOfText, numPrefix_decInt, if_neg hhigh, if_neg hlow, nearest_intCast h]

/-- Below `2 ^ 53` integers are added as integers. -/
theorem addText_decInt {a b : Int} (ha : a.natAbs < 2 ^ 53) (hb : b.natAbs < 2 ^ 53)
    (hsum : (a + b).natAbs < 2 ^ 53) : addText a (decInt b) = some (a + b) := by
  rw [addText, nearest_intCast ha, doubleOfText_decInt hb, ← Int.cast_add, result_intCast hsum,
    Option.map_some, bigintOfDouble_intCast (by omega)]

end MySql

end ParDiff.Lib
