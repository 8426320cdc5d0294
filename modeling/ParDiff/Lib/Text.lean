import Mathlib.Algebra.Order.Ring.Int
import Mathlib.Algebra.Order.Ring.Rat
import Mathlib.Data.List.DropRight
import Mathlib.Data.List.Infix

/-!
# Text as the scripts see it

Strings are lists of characters.  This module has the conversions between
numbers and text that several languages share (plain decimal, and the number a
numeric context reads from the front of a string), Perl's truth value of a
string, and MySQL's default comparison of strings: letter case and trailing
blanks do not matter, and `LIKE` knows the wildcards `%` and `_`.
-/

namespace ParDiff.Lib

abbrev Str := List Char

namespace Text

/-! ## Decimal numbers -/

/-- Plain decimal, no leading zeros. -/
def dec (n : Nat) : Str := Nat.toDigits 10 n

/-- Signed decimal, as `%d` prints it. -/
def decInt : Int → Str
  | .ofNat n => dec n
  | .negSucc n => '-' :: dec (n + 1)

private def leadingNat (s : Str) : Nat :=
  Nat.ofDigitChars 10 (s.takeWhile Char.isDigit) 0

/-- The integer a numeric context reads from the front of a string: leading
blanks, an optional sign, digits, and whatever follows is ignored.  A string
without such a prefix counts as zero. -/
def intPrefix (s : Str) : Int :=
  match s.dropWhile Char.isWhitespace with
  | '-' :: t => -(leadingNat t : Int)
  | '+' :: t => leadingNat t
  | t => leadingNat t

/-- The exponent at the front of a string, zero without one. -/
private def leadingExponent (s : Str) : Int :=
  match s with
  | e :: '-' :: t => if e = 'e' ∨ e = 'E' then -(leadingNat t : Int) else 0
  | e :: '+' :: t => if e = 'e' ∨ e = 'E' then leadingNat t else 0
  | e :: t => if e = 'e' ∨ e = 'E' then leadingNat t else 0
  | [] => 0

private def leadingDecimal (s : Str) : Rat :=
  let whole := s.takeWhile Char.isDigit
  let rest := s.dropWhile Char.isDigit
  let fraction := if rest.head? = some '.' then rest.tail.takeWhile Char.isDigit else []
  let rest := if rest.head? = some '.' then rest.tail.dropWhile Char.isDigit else rest
  let scale := leadingExponent rest - fraction.length
  mkRat (Nat.ofDigitChars 10 (whole ++ fraction) 0 * 10 ^ scale.toNat) (10 ^ (-scale).toNat)

/-- The number a numeric context reads from the front of a string, with fraction
and exponent.  It is exact; no floating point format is modelled. -/
def numPrefix (s : Str) : Rat :=
  match s.dropWhile Char.isWhitespace with
  | '-' :: t => -leadingDecimal t
  | '+' :: t => leadingDecimal t
  | t => leadingDecimal t

/-- What an integer column stores: halves are rounded away from zero. -/
def roundAway (x : Rat) : Int :=
  if 0 ≤ x then (x + 1 / 2).floor else -(-x + 1 / 2).floor

/-- `rint`: halves are rounded to the even integer. -/
def roundEven (x : Rat) : Int :=
  if x - x.floor < 1 / 2 then x.floor
  else if 1 / 2 < x - x.floor then x.floor + 1
  else if x.floor % 2 = 0 then x.floor
  else x.floor + 1

/-- The blanks of `isspace`. -/
def isSpace (c : Char) : Bool :=
  c == ' ' || c == '\t' || c == '\n' || c == '\r' || c == '\x0b' || c == '\x0c'

theorem isDigit_of_mem_dec {n : Nat} {c : Char} (h : c ∈ dec n) : c.isDigit :=
  Nat.isDigit_of_mem_toDigits (by decide) (by decide) h

theorem dec_ne_nil (n : Nat) : dec n ≠ [] := Nat.toDigits_ne_nil

theorem dec_injective : Function.Injective dec := by
  intro a b h
  have := congrArg (fun s => Nat.ofDigitChars 10 s 0) h
  simpa [dec] using this

theorem dec_eq_cons {n : Nat} (h : 0 < n) : ∃ c s, dec n = c :: s ∧ c ≠ '0' := by
  induction n using Nat.strong_induction_on with
  | _ n ih =>
      by_cases hn : n < 10
      · exact ⟨n.digitChar, [], Nat.toDigits_of_lt_base hn, by simpa using h.ne'⟩
      · obtain ⟨c, s, hcs, hc⟩ := ih (n / 10) (by omega) (by omega)
        refine ⟨c, s ++ [Nat.digitChar (n % 10)], ?_, hc⟩
        rw [dec, Nat.toDigits_of_base_le (by decide) (by omega), ← dec, hcs]
        rfl

private theorem exists_digitChar {c : Char} (hc : c.isDigit) : ∃ k < 10, c = Nat.digitChar k := by
  have hlow : 48 ≤ c.toNat ∧ c.toNat ≤ 57 := by simpa using Char.isDigit_iff_toNat.1 hc
  refine ⟨c.toNat - 48, by omega, ?_⟩
  rw [← Char.toNat_inj, Nat.toNat_digitChar_of_lt_ten (by omega)]
  omega

/-- Digits without leading zeros are the decimal text of their number. -/
theorem dec_ofDigitChars {s : Str} (hdigits : ∀ c ∈ s, c.isDigit) (hne : s ≠ [])
    (hzero : s.head? ≠ some '0') : dec (Nat.ofDigitChars 10 s 0) = s := by
  induction s using List.reverseRecOn with
  | nil => exact absurd rfl hne
  | append_singleton s c ih =>
      obtain ⟨k, hk, rfl⟩ := exists_digitChar (hdigits c (by simp))
      rw [Nat.ofDigitChars_append, Nat.ofDigitChars_cons_digitChar_of_lt_ten hk,
        Nat.ofDigitChars_nil]
      rcases s with - | ⟨x, s⟩
      · simpa [dec] using Nat.toDigits_of_lt_base hk
      · have hrest := ih (fun c hc => hdigits c (List.mem_append_left _ hc)) (by simp)
          (by simpa using hzero)
        have hpos : 0 < Nat.ofDigitChars 10 (x :: s) 0 := by
          refine Nat.pos_of_ne_zero fun hnull => hzero ?_
          have hnil : ['0'] = x :: s := by simpa [hnull, dec] using hrest
          simp [← hnil]
        rw [dec, ← Nat.toDigits_append_toDigits (by decide) hpos hk, ← dec, hrest,
          Nat.toDigits_of_lt_base hk]

theorem length_dec_le {n k : Nat} (hk : 0 < k) (h : n < 10 ^ k) : (dec n).length ≤ k :=
  (Nat.length_toDigits_le_iff (by decide) hk).2 h

private theorem leadingNat_dec (n : Nat) : leadingNat (dec n) = n := by
  have h : (dec n).takeWhile Char.isDigit = dec n :=
    List.takeWhile_eq_self_iff.2 fun c hc => isDigit_of_mem_dec hc
  rw [leadingNat, h]
  exact Nat.ofDigitChars_ten_toDigits

theorem not_blank_or_sign {c : Char} (hc : c.isDigit) :
    c.isWhitespace = false ∧ c ≠ '-' ∧ c ≠ '+' := by
  refine ⟨Bool.eq_false_iff.2 fun h => ?_, ?_, ?_⟩
  · simp only [Char.isWhitespace, Bool.or_eq_true, decide_eq_true_eq] at h
    rcases h with ((rfl | rfl) | rfl) | rfl <;> exact absurd hc (by decide)
  · rintro rfl
    exact absurd hc (by decide)
  · rintro rfl
    exact absurd hc (by decide)

private theorem numPrefix_of_digit {c : Char} {s : Str} (hc : c.isDigit) :
    numPrefix (c :: s) = leadingDecimal (c :: s) := by
  obtain ⟨hspace, hminus, hplus⟩ := not_blank_or_sign hc
  simp only [numPrefix, List.dropWhile_cons, hspace, Bool.false_eq_true, if_false]
  split
  · rename_i h; exact absurd (List.cons.inj h).1 hminus
  · rename_i h; exact absurd (List.cons.inj h).1 hplus
  · rfl

private theorem intPrefix_of_digit {c : Char} {s : Str} (hc : c.isDigit) :
    intPrefix (c :: s) = leadingNat (c :: s) := by
  obtain ⟨hspace, hminus, hplus⟩ := not_blank_or_sign hc
  simp only [intPrefix, List.dropWhile_cons, hspace, Bool.false_eq_true, if_false]
  split
  · rename_i h; exact absurd (List.cons.inj h).1 hminus
  · rename_i h; exact absurd (List.cons.inj h).1 hplus
  · rfl

@[simp] theorem intPrefix_dec (n : Nat) : intPrefix (dec n) = n := by
  obtain ⟨c, s, hcs⟩ := List.exists_cons_of_ne_nil (dec_ne_nil n)
  have hc : c.isDigit := isDigit_of_mem_dec (n := n) (by simp [hcs])
  rw [hcs, intPrefix_of_digit hc, ← hcs, leadingNat_dec]

@[simp] theorem intPrefix_decInt (z : Int) : intPrefix (decInt z) = z := by
  cases z with
  | ofNat n => simp [decInt]
  | negSucc n =>
      have h : intPrefix ('-' :: dec (n + 1)) = -(leadingNat (dec (n + 1)) : Int) := by
        simp [intPrefix, show Char.isWhitespace '-' = false by decide]
      rw [decInt, h, leadingNat_dec]
      omega

private theorem leadingDecimal_dec (n : Nat) : leadingDecimal (dec n) = n := by
  have htake : (dec n).takeWhile Char.isDigit = dec n :=
    List.takeWhile_eq_self_iff.2 fun c hc => isDigit_of_mem_dec hc
  have hdrop : (dec n).dropWhile Char.isDigit = [] :=
    List.dropWhile_eq_nil_iff.2 fun c hc => isDigit_of_mem_dec hc
  have hvalue : Nat.ofDigitChars 10 (dec n) 0 = n := Nat.ofDigitChars_ten_toDigits
  simp [leadingDecimal, htake, hdrop, leadingExponent, hvalue, Rat.mkRat_one]

/-- An integer is read back as it was printed. -/
@[simp] theorem numPrefix_decInt (z : Int) : numPrefix (decInt z) = z := by
  cases z with
  | ofNat n =>
      obtain ⟨c, s, hcs⟩ := List.exists_cons_of_ne_nil (dec_ne_nil n)
      have hc : c.isDigit := isDigit_of_mem_dec (n := n) (by simp [hcs])
      have hread : numPrefix (dec n) = leadingDecimal (dec n) := by
        rw [hcs]
        exact numPrefix_of_digit hc
      rw [decInt, hread, leadingDecimal_dec]
      rfl
  | negSucc n =>
      have hread : numPrefix ('-' :: dec (n + 1)) = -leadingDecimal (dec (n + 1)) := by
        simp [numPrefix, show Char.isWhitespace '-' = false by decide]
      rw [decInt, hread, leadingDecimal_dec]
      push_cast [Int.negSucc_eq]
      rfl

theorem decInt_injective : Function.Injective decInt := by
  intro a b h
  rw [← intPrefix_decInt a, h, intPrefix_decInt]

theorem append_cons_inj_right {a a' b b' : Str} {c : Char} (hb : c ∉ b) (hb' : c ∉ b') :
    a ++ c :: b = a' ++ c :: b' ↔ a = a' ∧ b = b' := by
  constructor
  · intro h
    rcases List.append_eq_append_iff.1 h with ⟨d, rfl, hd⟩ | ⟨d, rfl, hd⟩ <;>
      cases d with
      | nil => simp_all
      | cons x d =>
          have hmem := (List.cons.inj hd).2
          first
            | exact absurd (hmem ▸ by simp : c ∈ b) hb
            | exact absurd (hmem ▸ by simp : c ∈ b') hb'
  · rintro ⟨rfl, rfl⟩
    rfl

/-! ## Perl -/

/-- Truth of a scalar: undefined, empty and `"0"` are false. -/
def truthy : Option Str → Bool
  | none => false
  | some s => !(s.isEmpty || s == ['0'])

/-- Remove one trailing newline. -/
def chomp (s : Str) : Str :=
  if s.getLast? = some '\n' then s.dropLast else s

theorem chomp_of_notMem {s : Str} (h : '\n' ∉ s) : chomp s = s :=
  if_neg fun hlast => h (List.mem_of_mem_getLast? hlast)

theorem chomp_dec (n : Nat) : chomp (dec n) = dec n :=
  chomp_of_notMem fun h => absurd (isDigit_of_mem_dec h) (by decide)

theorem chomp_newline (s : Str) : chomp (s ++ ['\n']) = s := by
  simp [chomp]

/-! ## MySQL -/

/-- Letter case is folded for the ASCII letters. -/
def lower (s : Str) : Str := s.map Char.toLower

/-- Canonical form under the default collation of a `VARCHAR`: comparison
ignores letter case and trailing blanks. -/
def fold (s : Str) : Str := (lower s).rdropWhile (· = ' ')

/-- `=` on strings. -/
def ciEq (a b : Str) : Bool := fold a = fold b

@[simp] theorem ciEq_iff {a b : Str} : ciEq a b = true ↔ fold a = fold b := by
  simp [ciEq]

theorem toLower_of_isDigit {c : Char} (h : c.isDigit) : c.toLower = c := by
  simp only [Char.isDigit, Bool.and_eq_true, decide_eq_true_eq] at h
  refine dif_neg fun hupper => ?_
  exact absurd (UInt32.le_trans hupper.1 h.2) (by decide)

theorem fold_eq_self {s : Str} (h : ∀ c ∈ s, c.toLower = c ∧ c ≠ ' ') : fold s = s := by
  have hlower : lower s = s := by
    conv_rhs => rw [← List.map_id s]
    exact List.map_congr_left fun c hc => (h c hc).1
  rw [fold, hlower, List.rdropWhile_eq_self_iff]
  intro hs
  simpa using (h _ (List.getLast_mem hs)).2

private theorem rdropWhile_append_blanks {a b : Str} (h : ∀ c ∈ b, c = ' ') :
    (a ++ b).rdropWhile (· = ' ') = a.rdropWhile (· = ' ') := by
  unfold List.rdropWhile
  rw [List.reverse_append, List.dropWhile_append_of_pos]
  simpa using h

/-- Cutting off more than the trailing blanks never happens to a string that is
short without them. -/
theorem fold_take {s : Str} {n : Nat} (h : (fold s).length ≤ n) : fold (s.take n) = fold s := by
  have hsplit : lower s = fold s ++ (lower s).rtakeWhile (· = ' ') :=
    (List.rdropWhile_append_rtakeWhile).symm
  have htake : lower (s.take n) =
      fold s ++ ((lower s).rtakeWhile (· = ' ')).take (n - (fold s).length) := by
    rw [lower, List.map_take, ← lower, hsplit, List.take_append, List.take_of_length_le h,
      ← hsplit]
  have hblanks : ∀ c ∈ ((lower s).rtakeWhile (· = ' ')).take (n - (fold s).length), c = ' ' := by
    intro c hc
    simpa using List.mem_rtakeWhile_imp (List.mem_of_mem_take hc)
  calc fold (s.take n) = (fold s).rdropWhile (· = ' ') := by
        rw [fold, htake, rdropWhile_append_blanks hblanks]
    _ = fold s := List.rdropWhile_idempotent _ _

theorem length_fold_le (s : Str) : (fold s).length ≤ s.length := by
  have h := (List.rdropWhile_prefix (p := (· = ' ')) (lower s)).length_le
  simpa [fold, lower] using h

/-- Store into a signed 32-bit column: values out of range are clamped. -/
def clampInt (z : Int) : Int := max (-2 ^ 31) (min z (2 ^ 31 - 1))

theorem clampInt_of_range {z : Int} (hlo : -2 ^ 31 ≤ z) (hhi : z < 2 ^ 31) :
    clampInt z = z := by
  unfold clampInt
  omega

/-- `s LIKE pattern`. -/
def like : (pattern : Str) → (s : Str) → Bool
  | [], s => s.isEmpty
  | '%' :: p, s => s.tails.any (like p)
  | '_' :: p, s =>
      match s with
      | [] => false
      | _ :: t => like p t
  | '\\' :: c :: p, s =>
      match s with
      | [] => false
      | x :: t => x.toLower == c.toLower && like p t
  | c :: p, s =>
      match s with
      | [] => false
      | x :: t => x.toLower == c.toLower && like p t

/-- A character that stands for itself in a `LIKE` pattern. -/
def Literal (c : Char) : Prop := c ≠ '%' ∧ c ≠ '_' ∧ c ≠ '\\'

theorem like_literal {c : Char} (hc : Literal c) (p s : Str) :
    like (c :: p) s = true ↔ ∃ x t, s = x :: t ∧ x.toLower = c.toLower ∧ like p t = true := by
  obtain ⟨hpercent, hunderscore, hescape⟩ := hc
  cases s with
  | nil => simp [like, hescape]
  | cons x t => simp [like, hescape]

theorem like_literals {w : Str} (hw : ∀ c ∈ w, Literal c) (p s : Str) :
    like (w ++ p) s = true ↔ ∃ a b, s = a ++ b ∧ lower a = lower w ∧ like p b = true := by
  induction w generalizing s with
  | nil =>
      constructor
      · intro h
        exact ⟨[], s, rfl, rfl, h⟩
      · rintro ⟨a, b, rfl, ha, h⟩
        have : a = [] := by simpa [lower] using ha
        simpa [this] using h
  | cons c w ih =>
      have hc : Literal c := hw c (by simp)
      have hw' : ∀ c ∈ w, Literal c := fun c h => hw c (by simp [h])
      rw [List.cons_append, like_literal hc]
      constructor
      · rintro ⟨x, t, rfl, hx, ht⟩
        obtain ⟨a, b, rfl, ha, hb⟩ := (ih hw' t).1 ht
        exact ⟨x :: a, b, rfl, by simpa [lower, hx] using ha, hb⟩
      · rintro ⟨a, b, rfl, ha, hb⟩
        cases a with
        | nil => simp [lower] at ha
        | cons x a =>
            simp only [lower, List.map_cons, List.cons.injEq] at ha
            exact ⟨x, a ++ b, rfl, ha.1, (ih hw' _).2 ⟨a, b, rfl, ha.2, hb⟩⟩

/-- `LIKE 'w%'` for a wildcard-free `w`: the string starts with `w`. -/
theorem like_starts {w : Str} (hw : ∀ c ∈ w, Literal c) (s : Str) :
    like (w ++ ['%']) s = true ↔ lower (s.take w.length) = lower w := by
  have hany : ∀ b : Str, like ['%'] b = true := by
    intro b
    simp only [like, List.any_eq_true]
    exact ⟨[], by simp, rfl⟩
  rw [like_literals hw]
  constructor
  · rintro ⟨a, b, rfl, ha, -⟩
    have hlen : a.length = w.length := by simpa [lower] using congrArg List.length ha
    rw [← hlen, List.take_left' rfl]
    exact ha
  · intro h
    exact ⟨s.take w.length, s.drop w.length, (List.take_append_drop _ _).symm, h, hany _⟩

/-- `LIKE '%w'` for a wildcard-free `w`: the string ends with `w`. -/
theorem like_ends {w : Str} (hw : ∀ c ∈ w, Literal c) (s : Str) :
    like ('%' :: w) s = true ↔ lower (s.drop (s.length - w.length)) = lower w := by
  have hself : ∀ b, like w b = true ↔ lower b = lower w := by
    intro b
    have h := like_literals hw [] b
    rw [List.append_nil] at h
    rw [h]
    constructor
    · rintro ⟨a, b', rfl, ha, hb'⟩
      have : b' = [] := by simpa [like] using hb'
      simpa [this] using ha
    · intro hb
      exact ⟨b, [], by simp, hb, rfl⟩
  simp only [like, List.any_eq_true, List.mem_tails, hself]
  constructor
  · rintro ⟨b, ⟨a, rfl⟩, hb⟩
    have hlen : b.length = w.length := by simpa [lower] using congrArg List.length hb
    simpa [← hlen] using hb
  · intro h
    exact ⟨_, List.drop_suffix _ _, h⟩

example : like "ab%".toList "aBcd".toList = true := by decide

end Text

end ParDiff.Lib
