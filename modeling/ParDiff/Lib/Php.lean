import Mathlib.Algebra.Field.Rat
import Mathlib.Algebra.Order.Field.Power
import Mathlib.Tactic.LinearCombination
import Mathlib.Tactic.Ring
import Mathlib.Tactic.Linarith
import Mathlib.Tactic.NormNum
import Mathlib.Tactic.Positivity
import ParDiff.Lib.Double
import ParDiff.Lib.Numeral

/-!
# Numbers in PHP 5

A string is numeric if it is a number after leading blanks: an optional sign and
a decimal numeral, or a hexadecimal numeral without a sign.  In arithmetic any
string counts as the number at its front, and `==` compares two numeric strings as
numbers.  Integers have 64 bits; a larger one is a float.  A float is printed with
`precision` 14.

The value of a float is exact, up to the largest double.
-/

namespace ParDiff.Lib.Php

open Text

/-! ## Numeric strings -/

structure Numeric where
  sign : Option Char
  numeral : Numeral
  deriving DecidableEq, Repr

/-- The numerals that may follow a sign. -/
def parseAfter (sign : Option Char) (s : Str) : Option Numeral :=
  if sign.isNone then Numeral.parse s else Numeral.parseDecimal s

/-- `is_numeric`, with what was read. -/
def numeric (s : Str) : Option Numeric :=
  let t := s.dropWhile isSpace
  (parseAfter (signOf t) (afterSign t)).map (⟨signOf t, ·⟩)

def Numeric.value (n : Numeric) : Rat := signed n.sign n.numeral.value

/-- The spelling of a numeric string. -/
theorem of_numeric {s : Str} {n : Numeric} (h : numeric s = some n) :
    ∃ blanks, (∀ c ∈ blanks, isSpace c = true) ∧
      s = blanks ++ (n.sign.toList ++ n.numeral.text) ∧ n.numeral.Valid ∧
      ∀ c ∈ n.sign, c = '+' ∨ c = '-' := by
  obtain ⟨m, hm, rfl⟩ := Option.map_eq_some_iff.1 h
  obtain ⟨htext, hvalid⟩ : m.text = afterSign (s.dropWhile isSpace) ∧ m.Valid := by
    unfold parseAfter at hm
    split at hm
    · exact Numeral.of_parse hm
    · exact Numeral.of_parseDecimal hm
  refine ⟨s.takeWhile isSpace, fun c hc => List.mem_takeWhile_imp hc, ?_, hvalid,
    fun c hc => eq_of_mem_signOf hc⟩
  rw [htext, signOf_append_afterSign, List.takeWhile_append_dropWhile]

/-! ## Printing -/

/-- `d.ddE+e`, with at least one digit after the point. -/
def scientific (digits : Str) (e : Int) : Numeral :=
  .decimal (digits.take 1) (some (if digits.tail = [] then ['0'] else digits.tail))
    (some ⟨'E', some (if e < 0 then '-' else '+'), dec e.natAbs⟩)

/-- The text of a positive float. -/
def positiveText (x : Rat) : Str :=
  let (m, e) := significant 13 x
  let digits := (dec m).rdropWhile (· = '0')
  if e < -4 ∨ 14 ≤ e then (scientific digits e).text
  else positional digits e

/-- The text of a float. -/
def floatText (x : Rat) : Str :=
  if x.den = 1 ∧ x.num.natAbs < 10 ^ 14 then decInt x.num
  else if doubleLimit ≤ x then "INF".toList
  else if x ≤ -doubleLimit then "-INF".toList
  else if x < 0 then '-' :: positiveText (-x)
  else positiveText x

example : floatText (-12345678901234567) = "-1.2345678901235E+16".toList := by decide +kernel

/-! ## Printing an integral float -/

theorem floatText_of_lt {n : Nat} (h : n < 10 ^ 14) : floatText n = dec n := by
  have hden : (n : Rat).den = 1 := Rat.den_natCast n
  have hnum : (n : Rat).num = n := Rat.num_natCast n
  rw [floatText, if_pos ⟨hden, by rw [hnum]; simpa using h⟩, hnum]
  rfl

/-- The digits of a number without the zeros at its end. -/
theorem rdropWhile_dec {n : Nat} (h : 0 < n) :
    ∃ c s, (dec n).rdropWhile (· = '0') = c :: s ∧ c ≠ '0' ∧ ∀ x ∈ c :: s, x.isDigit := by
  obtain ⟨c, s, hcs, hc⟩ := dec_eq_cons h
  have hmem : ∀ x ∈ (dec n).rdropWhile (· = '0'), x ∈ dec n :=
    fun x hx => (List.rdropWhile_prefix _ _).subset hx
  have hne : (dec n).rdropWhile (· = '0') ≠ [] := by
    intro hnil
    have hzero := List.rdropWhile_eq_nil_iff.1 hnil c (by simp [hcs])
    simp [hc] at hzero
  obtain ⟨d, t, hdt⟩ := List.exists_cons_of_ne_nil hne
  obtain ⟨rest, hrest⟩ := List.rdropWhile_prefix (p := (· = '0')) (dec n)
  rw [hdt, hcs] at hrest
  obtain ⟨rfl, -⟩ := List.cons.inj hrest
  refine ⟨d, t, hdt, hc, fun x hx => isDigit_of_mem_dec (hmem x (hdt ▸ hx))⟩

theorem decimalExponent_natCast {n : Nat} (h : 0 < n) :
    ∃ k : Nat, decimalExponent n = k ∧ 10 ^ k ≤ n ∧ n < 10 ^ (k + 1) := by
  have hlen : 0 < (dec n).length := List.length_pos_of_ne_nil (dec_ne_nil n)
  obtain ⟨k, hk⟩ : ∃ k, (dec n).length = k + 1 := ⟨(dec n).length - 1, by omega⟩
  have hlo : 10 ^ k ≤ n := by
    by_contra hlt
    rcases Nat.eq_zero_or_pos k with rfl | hpos
    · simp at hlt
      omega
    · have := length_dec_le hpos (not_le.1 hlt)
      omega
  have hhi : n < 10 ^ (k + 1) := (Nat.length_toDigits_le_iff (by decide) (by omega)).1 hk.le
  have hone : (dec 1).length = 1 := rfl
  have hscale : mkRat (10 ^ (k : Int).toNat) (10 ^ (-(k : Int)).toNat) ≤ (n : Rat) := by
    have h10 : mkRat (10 ^ (k : Int).toNat) (10 ^ (-(k : Int)).toNat) = ((10 ^ k : Nat) : Rat) := by
      simp [Rat.mkRat_eq_div]
    rw [h10]
    exact_mod_cast hlo
  have he : ((k + 1 : Nat) : Int) - ((1 : Nat) : Int) = k := by omega
  refine ⟨k, ?_, hlo, hhi⟩
  simp only [decimalExponent, Rat.num_natCast, Rat.den_natCast, Int.natAbs_natCast, hk, hone, he,
    if_pos hscale]

theorem mkRat_pow (N : Int) (s : Int) :
    mkRat (N * 10 ^ s.toNat) (10 ^ (-s).toNat) = N * (10 : Rat) ^ s := by
  rw [Rat.mkRat_eq_div]
  rcases Int.le_total 0 s with h | h
  · obtain ⟨k, rfl⟩ := Int.eq_ofNat_of_zero_le h
    simp
  · obtain ⟨k, hk⟩ := Int.eq_ofNat_of_zero_le (Int.neg_nonneg.2 h)
    obtain rfl : s = -(k : Int) := by omega
    simp [div_eq_mul_inv]

theorem length_dec_eq {m k : Nat} (hlo : 10 ^ k ≤ m) (hhi : m < 10 ^ (k + 1)) :
    (dec m).length = k + 1 := by
  have hle := length_dec_le (Nat.succ_pos k) hhi
  have hpos : 0 < (dec m).length := List.length_pos_of_ne_nil (dec_ne_nil m)
  rcases Nat.eq_zero_or_pos k with rfl | hk
  · omega
  · have hgt : ¬(dec m).length ≤ k := fun h =>
      absurd ((Nat.length_toDigits_le_iff (by decide) hk).1 h) (by omega)
    omega

/-- Fourteen digits are those that are printed, and the zeros at their end. -/
theorem exists_digits_zeros {m : Nat} (hlo : 10 ^ 13 ≤ m) (hhi : m < 10 ^ 14) :
    ∃ c s z, (dec m).rdropWhile (· = '0') = c :: s ∧ (∀ x ∈ c :: s, x.isDigit) ∧
      s.length + z = 13 ∧ 10 ^ z * Nat.ofDigitChars 10 (c :: s) 0 = m := by
  obtain ⟨c, s, hcs, -, hdigits⟩ := rdropWhile_dec (n := m) (by omega)
  have hlength : (dec m).length = 14 := length_dec_eq hlo hhi
  obtain ⟨z, hz⟩ : ∃ z, (dec m).rtakeWhile (· = '0') = List.replicate z '0' :=
    ⟨_, List.eq_replicate_iff.2 ⟨rfl, fun x hx => by simpa using List.mem_rtakeWhile_imp hx⟩⟩
  have hsplit : dec m = (c :: s) ++ List.replicate z '0' := by
    rw [← hcs, ← hz, List.rdropWhile_append_rtakeWhile]
  refine ⟨c, s, z, hcs, hdigits, ?_, ?_⟩
  · have := congrArg List.length hsplit
    simp [hlength] at this
    omega
  · have h : Nat.ofDigitChars 10 (dec m) 0 = m := by simp [dec]
    rwa [hsplit, Nat.ofDigitChars_append, Nat.ofDigitChars_replicate_zero] at h

theorem value_exponent (e : Int) :
    (Exponent.mk 'E' (some (if e < 0 then '-' else '+')) (dec e.natAbs)).value = e := by
  have hdigits : (Nat.ofDigitChars 10 (dec e.natAbs) 0 : Int) = e.natAbs := by
    simp [dec]
  by_cases he : e < 0
  · simp only [Exponent.value, he, if_true, hdigits]
    omega
  · simp only [Exponent.value, he, if_false, hdigits]
    rw [if_neg (by decide)]
    omega

theorem valid_scientific {c : Char} {s : Str} (hdigits : ∀ x ∈ c :: s, x.isDigit) (e : Int) :
    (scientific (c :: s) e).Valid := by
  refine ⟨by simpa using hdigits c (by simp), ?_, .inl (by simp), ?_⟩
  · rintro _ ⟨⟩ x hx
    by_cases hs : s = []
    · obtain rfl : x = '0' := by simpa [hs] using hx
      rfl
    · exact hdigits x (List.mem_cons_of_mem c (by simpa [hs] using hx))
  · rintro _ ⟨⟩
    refine ⟨.inr rfl, ?_, dec_ne_nil _, fun x hx => isDigit_of_mem_dec hx⟩
    rintro _ ⟨⟩
    split <;> simp

/-- Zeros after the point change nothing. -/
theorem shift_zeros (d l z j : Nat) (e : Int) :
    ((10 ^ j * d : Nat) : Rat) * (10 : Rat) ^ (e - ((l + j : Nat) : Int)) =
      ((10 ^ z * d : Nat) : Rat) * (10 : Rat) ^ (e - ((l + z : Nat) : Int)) := by
  have hten : (10 : Rat) ≠ 0 := by norm_num
  have hpow : ∀ i : Nat,
      (10 : Rat) ^ i * 10 ^ (e - ((l + i : Nat) : Int)) = 10 ^ (e - (l : Int)) := by
    intro i
    rw [← zpow_natCast (10 : Rat) i, ← zpow_add₀ hten]
    congr 1
    push_cast
    omega
  push_cast
  have hj := hpow j
  have hz := hpow z
  push_cast at hj hz
  linear_combination (d : Rat) * hj - (d : Rat) * hz

/-- Fourteen digits, less the zeros at their end, keep their value. -/
theorem value_scientific {m : Nat} (hlo : 10 ^ 13 ≤ m) (hhi : m < 10 ^ 14) (e : Int) :
    (scientific ((dec m).rdropWhile (· = '0')) e).Valid ∧
      (scientific ((dec m).rdropWhile (· = '0')) e).value = m * (10 : Rat) ^ (e - 13) := by
  obtain ⟨c, s, z, hcs, hdigits, hlength, hm⟩ := exists_digits_zeros hlo hhi
  rw [hcs]
  refine ⟨valid_scientific hdigits e, ?_⟩
  have hshift : ∀ j : Nat, ((10 ^ j * Nat.ofDigitChars 10 (c :: s) 0 : Nat) : Rat) *
      (10 : Rat) ^ (e - ((s.length + j : Nat) : Int)) = m * (10 : Rat) ^ (e - 13) := by
    intro j
    rw [shift_zeros _ _ z j, hm, hlength]
    rfl
  simp only [scientific, Numeral.value, Option.elim_some, value_exponent, mkRat_pow,
    Option.getD_some, List.take_succ_cons, List.take_zero, List.tail_cons]
  by_cases hs : s = []
  · subst hs
    -- a single digit is printed with a zero after the point
    have := hshift 1
    simpa [Nat.ofDigitChars_cons] using this
  · have := hshift 0
    simpa [hs] using this

/-- A number of `k + 1` digits, moved to fourteen digits before the point. -/
theorem scaled_bounds {n k : Nat} (hlo : 10 ^ k ≤ n) (hhi : n < 10 ^ (k + 1)) :
    (10 : Rat) ^ 13 ≤ n * (10 : Rat) ^ (13 - (k : Int)) ∧
      n * (10 : Rat) ^ (13 - (k : Int)) < (10 : Rat) ^ 14 := by
  have hten : (0 : Rat) < 10 := by norm_num
  have hpos : (0 : Rat) < (10 : Rat) ^ (13 - (k : Int)) := zpow_pos hten _
  have hpow : ∀ j : Nat, (10 : Rat) ^ (k + j) * 10 ^ (13 - (k : Int)) = 10 ^ (13 + j) := by
    intro j
    rw [← zpow_natCast, ← zpow_natCast, ← zpow_add₀ hten.ne']
    congr 1
    push_cast
    omega
  constructor
  · calc (10 : Rat) ^ 13 = 10 ^ k * 10 ^ (13 - (k : Int)) := (hpow 0).symm
      _ ≤ n * 10 ^ (13 - (k : Int)) := mul_le_mul_of_nonneg_right (by exact_mod_cast hlo) hpos.le
  · calc n * (10 : Rat) ^ (13 - (k : Int)) < 10 ^ (k + 1) * 10 ^ (13 - (k : Int)) :=
          mul_lt_mul_of_pos_right (by exact_mod_cast hhi) hpos
      _ = 10 ^ 14 := hpow 1

/-- The fourteen digits after rounding; a carry may give one more. -/
theorem roundEven_bounds {y : Rat} (hlo : (10 : Rat) ^ 13 ≤ y) (hhi : y < (10 : Rat) ^ 14) :
    (10 : Int) ^ 13 ≤ roundEven y ∧ roundEven y ≤ (10 : Int) ^ 14 ∧
      (roundEven y : Rat) ≤ y + y / 8 := by
  have hhalf := roundEven_le y
  refine ⟨le_roundEven (by exact_mod_cast hlo), ?_, by linarith⟩
  have hlt : (roundEven y : Rat) < (10 : Int) ^ 14 + 1 := by
    push_cast
    linarith
  have hlt' : roundEven y < (10 : Int) ^ 14 + 1 := by exact_mod_cast hlt
  omega

theorem significant_natCast {n : Nat} (h : 0 < n) :
    ∃ (m k : Nat), significant 13 n = (m, (k : Int)) ∧ 10 ^ 13 ≤ m ∧ m < 10 ^ 14 ∧ n < 10 ^ (k + 1) ∧
      (m : Rat) * 10 ^ ((k : Int) - 13) ≤ n + n / 8 := by
  obtain ⟨k, he, hlo, hhi⟩ := decimalExponent_natCast h
  have hten : (10 : Rat) ≠ 0 := by norm_num
  obtain ⟨hylo, hyhi⟩ := scaled_bounds hlo hhi
  have hback : (n : Rat) * 10 ^ (13 - (k : Int)) * 10 ^ ((k : Int) - 13) = n := by
    rw [mul_assoc, ← zpow_add₀ hten]
    simp
  have hmk : mkRat (10 ^ (13 - (k : Int)).toNat) (10 ^ ((k : Int) - 13).toNat) =
      (10 : Rat) ^ (13 - (k : Int)) := by
    have := mkRat_pow 1 (13 - (k : Int))
    rw [show -(13 - (k : Int)) = (k : Int) - 13 by omega] at this
    simpa using this
  generalize hy : (n : Rat) * 10 ^ (13 - (k : Int)) = y at hylo hyhi hback
  obtain ⟨hround, hround', hnear⟩ := roundEven_bounds hylo hyhi
  have hpos : (0 : Rat) < 10 ^ ((k : Int) - 13) := zpow_pos (by norm_num) _
  have hvalue : (roundEven y : Rat) * 10 ^ ((k : Int) - 13) ≤ n + n / 8 := by
    calc (roundEven y : Rat) * 10 ^ ((k : Int) - 13)
        ≤ (y + y / 8) * 10 ^ ((k : Int) - 13) := mul_le_mul_of_nonneg_right hnear hpos.le
      _ = y * 10 ^ ((k : Int) - 13) + y * 10 ^ ((k : Int) - 13) / 8 := by ring
      _ = n + n / 8 := by rw [hback]
  have hsignificant : significant 13 n =
      if (roundEven y).toNat = 10 ^ 14 then (10 ^ 13, (k : Int) + 1)
      else ((roundEven y).toNat, (k : Int)) := by
    simp only [significant, he, Nat.cast_ofNat, hmk, hy]
  by_cases hcarry : (roundEven y).toNat = 10 ^ 14
  · refine ⟨10 ^ 13, k + 1, ?_, le_rfl, by norm_num, ?_, ?_⟩
    · rw [hsignificant, if_pos hcarry]
      rfl
    · exact hhi.trans (Nat.pow_lt_pow_right (by norm_num) (by omega))
    · have hten14 : roundEven y = 10 ^ 14 := by omega
      have hstep : (10 : Rat) ^ (((k + 1 : Nat) : Int) - 13) = 10 * 10 ^ ((k : Int) - 13) := by
        rw [← zpow_one_add₀ hten]
        congr 1
        push_cast
        omega
      rw [hten14] at hvalue
      rw [hstep]
      push_cast at hvalue ⊢
      linarith
  · refine ⟨(roundEven y).toNat, k, ?_, by omega, by omega, hhi, ?_⟩
    · rw [hsignificant, if_neg hcarry]
    · have hcast : (((roundEven y).toNat : Nat) : Rat) = (roundEven y : Rat) := by
        exact_mod_cast Int.toNat_of_nonneg (by omega)
      rw [hcast]
      exact hvalue

/-- A float of more than fourteen digits is printed with an exponent, and the printed
number is about the same. -/
theorem floatText_of_le {n : Nat} (hn : 10 ^ 14 ≤ n) (hlimit : (n : Rat) < doubleLimit) :
    ∃ whole fraction exponent, (Numeral.decimal whole fraction (some exponent)).Valid ∧
      floatText n = (Numeral.decimal whole fraction (some exponent)).text ∧
      (10 : Rat) ^ 14 ≤ (Numeral.decimal whole fraction (some exponent)).value ∧
      (Numeral.decimal whole fraction (some exponent)).value ≤ n + n / 8 := by
  obtain ⟨m, k, hsignificant, hlo, hhi, hk, hvalue⟩ := significant_natCast (n := n) (by omega)
  have hk14 : 14 ≤ k := by
    by_contra hlt
    have := Nat.pow_le_pow_right (n := 10) (by norm_num) (show k + 1 ≤ 14 by omega)
    omega
  obtain ⟨hvalid, heq⟩ := value_scientific hlo hhi k
  have htext : floatText n = (scientific ((dec m).rdropWhile (· = '0')) k).text := by
    have hsmall : ¬((n : Rat).den = 1 ∧ (n : Rat).num.natAbs < 10 ^ 14) := by
      rw [Rat.num_natCast, Int.natAbs_natCast]
      omega
    have hneg : ¬((n : Rat) ≤ -doubleLimit) := by
      have hnonneg : (0 : Rat) ≤ n := Nat.cast_nonneg n
      linarith
    have hnonneg : ¬((n : Rat) < 0) := not_lt.2 (Nat.cast_nonneg n)
    rw [floatText, if_neg hsmall, if_neg (not_le.2 hlimit), if_neg hneg, if_neg hnonneg,
      positiveText, hsignificant]
    simp only
    rw [if_pos (.inr (by omega))]
  refine ⟨_, _, _, hvalid, htext, ?_, heq.trans_le hvalue⟩
  refine le_trans ?_ heq.symm.le
  have hpow : (10 : Rat) ≤ 10 ^ ((k : Int) - 13) := by
    calc (10 : Rat) = 10 ^ (1 : Int) := (zpow_one _).symm
      _ ≤ 10 ^ ((k : Int) - 13) := zpow_le_zpow_right₀ (by norm_num) (by omega)
  have hm : (10 : Rat) ^ 13 ≤ m := by exact_mod_cast hlo
  calc (10 : Rat) ^ 14 = 10 ^ 13 * 10 := by norm_num
    _ ≤ (m : Rat) * 10 ^ ((k : Int) - 13) := mul_le_mul hm hpow (by norm_num) (by positivity)

end ParDiff.Lib.Php
