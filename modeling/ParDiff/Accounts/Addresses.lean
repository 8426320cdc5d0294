import Mathlib.Data.Rat.Floor
import ParDiff.Accounts.Pages

/-!
# Client addresses as numbers

`num_to_ip` takes a number apart by division and `%`, `ip_to_num` puts the four parts
together again by Horner's rule.  The parts are digits to the base 256, except that the
first one has no upper limit.
-/

namespace ParDiff.Accounts

open Lib Lib.Text

/-! ## Perl's operators -/

/-- `int`. -/
def perlInt (x : Rat) : Int := if 0 ≤ x then x.floor else x.ceil

/-- `%` on truncated operands; the result has the sign of the right one. -/
def perlMod (x y : Rat) : Int := (perlInt x).fmod (perlInt y)

/-- `num_to_ip`, operator by operator and with `/` as exact division. -/
def numToIpExact (num : Rat) : Str :=
  decInt (perlInt (num / (256 * 256 * 256))) ++
    '.' :: (decInt (perlInt (perlMod (num / (256 * 256)) 256)) ++
      '.' :: (decInt (perlInt (perlMod (num / 256) 256)) ++
        '.' :: decInt (perlMod num 256)))

theorem perlInt_intCast (z : Int) : perlInt z = z := by
  rw [perlInt]
  split
  · exact Rat.floor_intCast z
  · exact Rat.ceil_intCast z

theorem perlInt_div (n d : Nat) : perlInt ((n : Rat) / d) = (n / d : Nat) := by
  have hpos : (0 : Rat) ≤ n / d := by positivity
  rw [perlInt, if_pos hpos]
  exact Rat.floor_natCast_div_natCast n d

theorem perlMod_div (n d : Nat) : perlMod ((n : Rat) / d) 256 = (n / d % 256 : Nat) := by
  have hmodulus : perlInt 256 = 256 := perlInt_intCast 256
  rw [perlMod, perlInt_div, hmodulus, Int.fmod_eq_emod_of_nonneg _ (by decide)]
  norm_cast

/-- On the numbers that addresses have, `/` and `%` are those of the natural numbers. -/
theorem numToIpExact_natCast (n : Nat) : numToIpExact n = numToIp n := by
  have hfirst : perlInt ((n : Rat) / (256 * 256 * 256)) = (n / (256 * 256 * 256) : Nat) := by
    exact_mod_cast perlInt_div n (256 * 256 * 256)
  have hsecond : perlMod ((n : Rat) / (256 * 256)) 256 = (n / (256 * 256) % 256 : Nat) := by
    exact_mod_cast perlMod_div n (256 * 256)
  have hthird : perlMod ((n : Rat) / 256) 256 = (n / 256 % 256 : Nat) := perlMod_div n 256
  have hfourth : perlMod (n : Rat) 256 = (n % 256 : Nat) := by
    simpa using perlMod_div n 1
  rw [numToIpExact, hfirst, hsecond, hthird, hfourth, perlInt_intCast, perlInt_intCast]
  rfl

/-! ## Four components -/

/-- A decimal number below 256 without leading zeros. -/
def isComponent (s : Str) : Bool :=
  !s.isEmpty && s.all Char.isDigit && (s == ['0'] || s.head? != some '0') &&
    decide (Nat.ofDigitChars 10 s 0 < 256)

def dottedQuad (s : Str) : Bool :=
  match s.splitOn '.' with
  | [a, b, c, d] => [a, b, c, d].all isComponent
  | _ => false

def quad (a b c d : Nat) : Str := dec a ++ '.' :: (dec b ++ '.' :: (dec c ++ '.' :: dec d))

theorem isComponent_dec {n : Nat} : isComponent (dec n) = true ↔ n < 256 := by
  have hvalue : Nat.ofDigitChars 10 (dec n) 0 = n := by simp [dec]
  have hdigits : (dec n).all Char.isDigit = true :=
    List.all_eq_true.2 fun c hc => isDigit_of_mem_dec hc
  have hhead : (dec n == ['0'] || (dec n).head? != some '0') = true := by
    rcases Nat.eq_zero_or_pos n with rfl | hpos
    · rfl
    · obtain ⟨c, s, hcs, hc⟩ := dec_eq_cons hpos
      simp [hcs, hc]
  simp [isComponent, hvalue, hdigits, hhead, dec_ne_nil]

theorem exists_dec_of_isComponent {s : Str} (h : isComponent s = true) :
    ∃ n < 256, s = dec n := by
  simp only [isComponent, Bool.and_eq_true, Bool.or_eq_true, decide_eq_true_eq] at h
  obtain ⟨⟨⟨hne, hdigits⟩, hzero⟩, hlt⟩ := h
  rcases hzero with hzero | hhead
  · exact ⟨0, by decide, eq_of_beq hzero⟩
  · refine ⟨_, hlt, (dec_ofDigitChars (List.all_eq_true.1 hdigits) ?_ ?_).symm⟩
    · simpa using hne
    · simpa using hhead

theorem splitOn_quad (a b c d : Nat) :
    (quad a b c d).splitOn '.' = [dec a, dec b, dec c, dec d] := by
  have hdot : ∀ n : Nat, '.' ∉ dec n := fun n h => absurd (isDigit_of_mem_dec h) (by decide)
  have hparts : ∀ l ∈ [dec a, dec b, dec c, dec d], '.' ∉ l := by
    simp [hdot]
  have hjoin := List.splitOn_intercalate '.' hparts (by simp)
  simpa [quad] using hjoin

theorem dottedQuad_iff {s : Str} :
    dottedQuad s = true ↔
      ∃ a < 256, ∃ b < 256, ∃ c < 256, ∃ d < 256, s = quad a b c d := by
  constructor
  · intro h
    rw [dottedQuad] at h
    split at h
    · rename_i p q r t hsplit
      simp only [List.all_cons, List.all_nil, Bool.and_true, Bool.and_eq_true] at h
      obtain ⟨hp, hq, hr, ht⟩ := h
      obtain ⟨a, ha, rfl⟩ := exists_dec_of_isComponent hp
      obtain ⟨b, hb, rfl⟩ := exists_dec_of_isComponent hq
      obtain ⟨c, hc, rfl⟩ := exists_dec_of_isComponent hr
      obtain ⟨d, hd, rfl⟩ := exists_dec_of_isComponent ht
      refine ⟨a, ha, b, hb, c, hc, d, hd, ?_⟩
      have hjoin : ['.'].intercalate (s.splitOn '.') = s := List.intercalate_splitOn '.'
      rw [← hjoin, hsplit]
      simp [quad]
    · exact absurd h (by decide)
  · rintro ⟨a, ha, b, hb, c, hc, d, hd, rfl⟩
    simp [dottedQuad, splitOn_quad, isComponent_dec, ha, hb, hc, hd]

/-! ## There and back -/

theorem chomp_quad (a b c d : Nat) : chomp (quad a b c d) = quad a b c d := by
  have hline : ∀ n : Nat, '\n' ∉ dec n := fun n h => absurd (isDigit_of_mem_dec h) (by decide)
  apply chomp_of_notMem
  simp [quad, hline]

/-- Horner's rule. -/
theorem ipToNum_quad (a b c d : Nat) :
    ipToNum (quad a b c d) = ((a * 256 + b) * 256 + c) * 256 + d := by
  have hdigits : ∀ n : Nat, (!(dec n).isEmpty && (dec n).all Char.isDigit) = true := by
    intro n
    have hall : (dec n).all Char.isDigit = true :=
      List.all_eq_true.2 fun c hc => isDigit_of_mem_dec hc
    simp [hall, dec_ne_nil]
  rw [ipToNum, chomp_quad, splitOn_quad]
  simp [hdigits]

theorem numToIp_horner {b c d : Nat} (a : Nat) (hb : b < 256) (hc : c < 256) (hd : d < 256) :
    numToIp (((a * 256 + b) * 256 + c) * 256 + d) = quad a b c d := by
  have hfirst : (((a * 256 + b) * 256 + c) * 256 + d) / (256 * 256 * 256) = a := by omega
  have hsecond : (((a * 256 + b) * 256 + c) * 256 + d) / (256 * 256) % 256 = b := by omega
  have hthird : (((a * 256 + b) * 256 + c) * 256 + d) / 256 % 256 = c := by omega
  have hfourth : (((a * 256 + b) * 256 + c) * 256 + d) % 256 = d := by omega
  rw [numToIp, hfirst, hsecond, hthird, hfourth, quad]

theorem ipToNum_numToIp (n : Nat) : ipToNum (numToIp n) = n := by
  have hquad : numToIp n =
    quad (n / (256 * 256 * 256)) (n / (256 * 256) % 256) (n / 256 % 256) (n % 256) := rfl
  rw [hquad, ipToNum_quad]
  omega

theorem numToIp_injective : Function.Injective numToIp :=
  Function.LeftInverse.injective ipToNum_numToIp

theorem dottedQuad_numToIp {n : Nat} (h : n < 2 ^ 32) : dottedQuad (numToIp n) = true :=
  dottedQuad_iff.2
    ⟨n / (256 * 256 * 256), by omega, n / (256 * 256) % 256, by omega, n / 256 % 256, by omega,
      n % 256, by omega, rfl⟩

/-- **Addresses.**  Conversion from number to text and back, and from text to number and
back. -/
theorem address_round_trip :
    (∀ n : Nat, ipToNum (numToIpExact n) = n) ∧
    (∀ s, dottedQuad s = true → numToIpExact (ipToNum s) = s) ∧
    (∀ m n : Nat, numToIpExact m = numToIpExact n → m = n) ∧
    ∀ n : Nat, n < 2 ^ 32 → dottedQuad (numToIpExact n) = true := by
  simp only [numToIpExact_natCast]
  refine ⟨ipToNum_numToIp, fun s hs => ?_, fun m n h => numToIp_injective h,
    fun n => dottedQuad_numToIp⟩
  obtain ⟨a, -, b, hb, c, hc, d, hd, rfl⟩ := dottedQuad_iff.1 hs
  rw [ipToNum_quad, numToIp_horner a hb hc hd]

end ParDiff.Accounts
