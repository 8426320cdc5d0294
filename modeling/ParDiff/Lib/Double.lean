import Mathlib.Algebra.Field.Rat
import Mathlib.Tactic.FieldSimp
import Mathlib.Tactic.Linarith
import Mathlib.Tactic.NormNum
import ParDiff.Lib.Text

/-!
# Doubles

Doubles are rationals rounded to the nearest, ties to even, with the signed zero, the
infinities and NaN that arithmetic can produce.  Printing one takes its first decimal
digits, and how many they are is up to the language.
-/

namespace ParDiff.Lib

open Text

/-! ## Rounding -/

theorem le_roundEven {x : Rat} {k : Int} (h : (k : Rat) ≤ x) : k ≤ roundEven x := by
  have hfloor : k ≤ x.floor := Rat.le_floor_iff.2 h
  unfold roundEven
  repeat' split
  all_goals omega

theorem roundEven_le (x : Rat) : (roundEven x : Rat) ≤ x + 1 / 2 := by
  have hfloor : (x.floor : Rat) ≤ x := Rat.floor_le x
  unfold roundEven
  split
  · linarith
  · split
    · push_cast
      linarith
    · split
      · linarith
      · push_cast
        linarith

theorem floor_eq_of_le {x : Rat} {z : Int} (hlo : (z : Rat) ≤ x) (hhi : x < z + 1) :
    x.floor = z := by
  have hle : z ≤ x.floor := Rat.le_floor_iff.2 hlo
  have hlt : x.floor < z + 1 := Rat.floor_lt_iff.2 (by exact_mod_cast hhi)
  omega

theorem roundAway_intCast (z : Int) : roundAway z = z := by
  unfold roundAway
  split
  · exact floor_eq_of_le (by linarith) (by linarith)
  · have h : (-(z : Rat) + 1 / 2).floor = -z :=
      floor_eq_of_le (by push_cast; linarith) (by push_cast; linarith)
    omega

theorem roundEven_intCast (z : Int) : roundEven z = z := by
  have hfloor : (z : Rat).floor = z := Rat.floor_intCast z
  simp [roundEven, hfloor]

/-- Doubles end here: what rounds to more is infinite. -/
def doubleLimit : Rat := 2 ^ 1024 - 2 ^ 970

/-! ## Doubles -/

inductive Double
  | finite (x : Rat)
  | negZero
  | infinite (negative : Bool)
  | nan
  deriving DecidableEq, Repr

/-- The exponent of the first binary digit. -/
def binaryExponent (x : Rat) : Int :=
  let e : Int := (x.num.natAbs.log2 : Int) - x.den.log2
  if mkRat (2 ^ e.toNat) (2 ^ (-e).toNat) ≤ x then e else e - 1

/-- 53 binary digits, less below the smallest normal number. -/
def nearest (x : Rat) : Rat :=
  if x = 0 then 0
  else
    let e := max (binaryExponent (mkRat x.num.natAbs x.den) - 52) (-1074)
    roundEven (x * mkRat (2 ^ (-e).toNat) (2 ^ e.toNat)) * mkRat (2 ^ e.toNat) (2 ^ (-e).toNat)

namespace Double

/-- The double for a rational; `negative` is the sign of its zero. -/
def ofRat (negative : Bool) (x : Rat) : Double :=
  if doubleLimit ≤ x then .infinite false
  else if x ≤ -doubleLimit then .infinite true
  else if negative ∧ nearest x = 0 then .negZero
  else .finite (nearest x)

def add : Double → Double → Double
  | .nan, _ => .nan
  | _, .nan => .nan
  | .infinite a, .infinite b => if a = b then .infinite a else .nan
  | .infinite a, _ => .infinite a
  | _, .infinite b => .infinite b
  | .negZero, y => y
  | x, .negZero => x
  | .finite x, .finite y => ofRat false (x + y)

/-- The sign, also of a zero; NaN has none. -/
def negative : Double → Bool
  | .finite x => decide (x < 0)
  | .negZero => true
  | .infinite a => a
  | .nan => false

/-- The value of a finite double. -/
def rat : Double → Option Rat
  | .finite x => some x
  | .negZero => some 0
  | _ => none

def mul (x y : Double) : Double :=
  match x.rat, y.rat with
  | some a, some b => ofRat (x.negative != y.negative) (a * b)
  | _, _ =>
      if x = .nan ∨ y = .nan ∨ x.rat = some 0 ∨ y.rat = some 0 then .nan
      else .infinite (x.negative != y.negative)

/-- `==`; the zeros are equal, and NaN is not equal to anything. -/
def equal : Double → Double → Bool
  | .infinite a, .infinite b => a == b
  | x, y => x.rat.isSome && x.rat == y.rat

theorem equal_self {x : Double} (h : x ≠ .nan) : x.equal x = true := by
  cases x with
  | nan => exact absurd rfl h
  | _ => simp [equal, rat]

theorem ofRat_ne_nan (negative : Bool) (x : Rat) : ofRat negative x ≠ .nan := by
  unfold ofRat
  repeat' split
  all_goals simp

end Double

/-! ## Integers -/

theorem binaryExponent_natCast {n : Nat} (h : n ≠ 0) : binaryExponent n = n.log2 := by
  have hpow : mkRat (2 ^ n.log2) 1 ≤ (n : Rat) := by
    rw [Rat.mkRat_one]
    exact_mod_cast Nat.log2_self_le h
  have hone : Nat.log2 1 = 0 := rfl
  simp [binaryExponent, hone, hpow]

/-- Below `2 ^ 53` every integer is a double. -/
theorem nearest_intCast {z : Int} (h : z.natAbs < 2 ^ 53) : nearest z = z := by
  by_cases hz : z = 0
  · simp [hz, nearest]
  have hlog : z.natAbs.log2 ≤ 52 := by
    have := (Nat.log2_lt (Int.natAbs_ne_zero.2 hz)).2 h
    omega
  obtain ⟨k, hk⟩ : ∃ k, z.natAbs.log2 + k = 52 := ⟨_, Nat.add_sub_cancel' hlog⟩
  have he : max (binaryExponent (mkRat (z : Rat).num.natAbs (z : Rat).den) - 52) (-1074) =
      -(k : Int) := by
    rw [Rat.num_intCast, Rat.den_intCast, Rat.mkRat_one, Int.cast_natCast,
      binaryExponent_natCast (Int.natAbs_ne_zero.2 hz)]
    omega
  have hscaled : (z : Rat) * mkRat (2 ^ k) 1 = ((z * 2 ^ k : Int) : Rat) := by
    rw [Rat.mkRat_one]
    push_cast
    rfl
  have hback : ((z * 2 ^ k : Int) : Rat) * mkRat 1 (2 ^ k) = z := by
    rw [Rat.mkRat_eq_div]
    push_cast
    field_simp
  have hpos : (-(-(k : Int))).toNat = k := by omega
  have hneg : (-(k : Int)).toNat = 0 := by omega
  rw [nearest, if_neg (by exact_mod_cast hz)]
  simp only [he, hpos, hneg, pow_zero, hscaled, roundEven_intCast, hback]

/-! ## Decimal digits -/

/-- The exponent of the first digit. -/
def decimalExponent (x : Rat) : Int :=
  let e : Int := (dec x.num.natAbs).length - (dec x.den).length
  if mkRat (10 ^ e.toNat) (10 ^ (-e).toNat) ≤ x then e else e - 1

/-- The first digit and `k` more, and the exponent of the first. -/
def significant (k : Nat) (x : Rat) : Nat × Int :=
  let e := decimalExponent x
  let m := (roundEven (x * mkRat (10 ^ ((k : Int) - e).toNat) (10 ^ (e - k).toNat))).toNat
  if m = 10 ^ (k + 1) then (10 ^ k, e + 1) else (m, e)

/-- The digits, with the point where the exponent of the first puts it. -/
def positional (digits : Str) (e : Int) : Str :=
  if e < 0 then "0.".toList ++ List.replicate (-e - 1).toNat '0' ++ digits
  else
    let whole := digits.takeD (e.toNat + 1) '0'
    if digits.length ≤ e.toNat + 1 then whole else whole ++ '.' :: digits.drop (e.toNat + 1)

end ParDiff.Lib
