import ParDiff.Lib.Text

/-!
# Numbers as text

The unsigned numerals that PHP, Perl and MySQL have in common: decimal digits with
an optional fraction and exponent, and hexadecimal digits after `0x`.  A numeral
keeps its spelling, since the languages differ in what they make of it, and its
value is exact.
-/

namespace ParDiff.Lib

open Text

structure Exponent where
  mark : Char
  sign : Option Char
  digits : Str
  deriving DecidableEq, Repr

inductive Numeral
  | decimal (whole : Str) (fraction : Option Str) (exponent : Option Exponent)
  | hex (mark : Char) (digits : Str)
  deriving DecidableEq, Repr

def isHexDigit (c : Char) : Bool :=
  c.isDigit || ('a' ≤ c && c ≤ 'f') || ('A' ≤ c && c ≤ 'F')

def hexDigit (c : Char) : Nat :=
  if c.isDigit then c.toNat - '0'.toNat
  else if 'a' ≤ c then c.toNat - 'a'.toNat + 10
  else c.toNat - 'A'.toNat + 10

/-- The sign at the front of a text. -/
def signOf : Str → Option Char
  | '+' :: _ => some '+'
  | '-' :: _ => some '-'
  | _ => none

def signed (sign : Option Char) (x : Rat) : Rat := if sign = some '-' then -x else x

/-- What follows the sign, if there is one. -/
def afterSign (s : Str) : Str := s.drop (signOf s).toList.length

namespace Exponent

def text (e : Exponent) : Str := e.mark :: (e.sign.toList ++ e.digits)

def value (e : Exponent) : Int :=
  if e.sign = some '-' then -(Nat.ofDigitChars 10 e.digits 0 : Int)
  else Nat.ofDigitChars 10 e.digits 0

structure Valid (e : Exponent) : Prop where
  mark : e.mark = 'e' ∨ e.mark = 'E'
  sign : ∀ c ∈ e.sign, c = '+' ∨ c = '-'
  nonempty : e.digits ≠ []
  digits : ∀ c ∈ e.digits, c.isDigit

/-- The rest of a numeral after its fraction. -/
def parse : Str → Option Exponent
  | [] => none
  | mark :: s =>
      if (mark = 'e' ∨ mark = 'E') ∧ afterSign s ≠ [] ∧ (afterSign s).all Char.isDigit then
        some ⟨mark, signOf s, afterSign s⟩
      else none

end Exponent

namespace Numeral

def text : Numeral → Str
  | .decimal whole fraction exponent =>
      whole ++ (fraction.elim [] ('.' :: ·) ++ exponent.elim [] Exponent.text)
  | .hex mark digits => '0' :: mark :: digits

def value : Numeral → Rat
  | .decimal whole fraction exponent =>
      let scale := exponent.elim 0 Exponent.value - (fraction.getD []).length
      mkRat (Nat.ofDigitChars 10 (whole ++ fraction.getD []) 0 * 10 ^ scale.toNat)
        (10 ^ (-scale).toNat)
  | .hex _ digits => (digits.foldl (fun n c => 16 * n + hexDigit c) 0 : Nat)

def Valid : Numeral → Prop
  | .decimal whole fraction exponent =>
      (∀ c ∈ whole, c.isDigit) ∧ (∀ s ∈ fraction, ∀ c ∈ s, c.isDigit) ∧
        (whole ≠ [] ∨ ∃ s ∈ fraction, s ≠ []) ∧ ∀ e ∈ exponent, e.Valid
  | .hex mark digits =>
      (mark = 'x' ∨ mark = 'X') ∧ digits ≠ [] ∧ ∀ c ∈ digits, isHexDigit c

/-- An exponent up to the end of the text, if there is anything left. -/
def parseExponent (s : Str) : Option (Option Exponent) :=
  if s.isEmpty then some none else (Exponent.parse s).map some

def parseDecimal (s : Str) : Option Numeral :=
  let whole := s.takeWhile Char.isDigit
  let rest := s.dropWhile Char.isDigit
  if rest.head? = some '.' then
    let fraction := rest.tail.takeWhile Char.isDigit
    if whole = [] ∧ fraction = [] then none
    else (parseExponent (rest.tail.dropWhile Char.isDigit)).map (.decimal whole (some fraction))
  else if whole = [] then none
  else (parseExponent rest).map (.decimal whole none)

def parseHex : Str → Option Numeral
  | '0' :: mark :: digits =>
      if (mark = 'x' ∨ mark = 'X') ∧ digits ≠ [] ∧ digits.all isHexDigit then
        some (.hex mark digits)
      else none
  | _ => none

def parse (s : Str) : Option Numeral := (parseHex s).or (parseDecimal s)

end Numeral

/-! ## What is accepted -/

theorem signOf_append_afterSign (s : Str) : (signOf s).toList ++ afterSign s = s := by
  unfold afterSign signOf
  split <;> rfl

theorem eq_of_mem_signOf {s : Str} {c : Char} (h : c ∈ signOf s) : c = '+' ∨ c = '-' := by
  unfold signOf at h
  split at h
  · exact .inl (Option.some.inj h).symm
  · exact .inr (Option.some.inj h).symm
  · simp at h

theorem Exponent.of_parse {s : Str} {e : Exponent} (h : Exponent.parse s = some e) :
    e.text = s ∧ e.Valid := by
  cases s with
  | nil => simp [Exponent.parse] at h
  | cons mark s =>
      simp only [Exponent.parse, Option.ite_none_right_eq_some, Option.some.injEq] at h
      obtain ⟨⟨hmark, hne, hdigits⟩, rfl⟩ := h
      refine ⟨?_, hmark, fun c hc => eq_of_mem_signOf hc, hne, by simpa using hdigits⟩
      rw [Exponent.text, signOf_append_afterSign]

namespace Numeral

theorem of_parseExponent {s : Str} {e : Option Exponent} (h : parseExponent s = some e) :
    e.elim [] Exponent.text = s ∧ ∀ x ∈ e, x.Valid := by
  unfold parseExponent at h
  split at h
  · rename_i hs
    obtain rfl : none = e := by simpa using h
    simp_all
  · obtain ⟨x, hx, rfl⟩ := Option.map_eq_some_iff.1 h
    obtain ⟨htext, hvalid⟩ := Exponent.of_parse hx
    simp [htext, hvalid]

theorem of_parseDecimal {s : Str} {n : Numeral} (h : parseDecimal s = some n) :
    n.text = s ∧ n.Valid := by
  have hsplit : s.takeWhile Char.isDigit ++ s.dropWhile Char.isDigit = s :=
    List.takeWhile_append_dropWhile
  have hwhole : ∀ c ∈ s.takeWhile Char.isDigit, c.isDigit := fun c hc => List.mem_takeWhile_imp hc
  unfold parseDecimal at h
  simp only at h
  split at h
  · rename_i hdot
    obtain ⟨rest, hrest⟩ := List.head?_eq_some_iff.1 hdot
    have hfraction : rest.takeWhile Char.isDigit ++ rest.dropWhile Char.isDigit = rest :=
      List.takeWhile_append_dropWhile
    split at h
    · simp at h
    · rename_i hsome
      obtain ⟨e, he, rfl⟩ := Option.map_eq_some_iff.1 h
      obtain ⟨htext, hvalid⟩ := of_parseExponent he
      rw [hrest, List.tail_cons] at htext hsome ⊢
      refine ⟨?_, hwhole, ?_, ?_, hvalid⟩
      · rw [text, htext, Option.elim_some, List.cons_append, hfraction, ← hrest, hsplit]
      · intro f hf c hc
        obtain rfl : rest.takeWhile Char.isDigit = f := by simpa using hf
        exact List.mem_takeWhile_imp hc
      · simpa [or_iff_not_imp_left] using hsome
  · split at h
    · simp at h
    · rename_i hne
      obtain ⟨e, he, rfl⟩ := Option.map_eq_some_iff.1 h
      obtain ⟨htext, hvalid⟩ := of_parseExponent he
      refine ⟨?_, hwhole, by simp, .inl hne, hvalid⟩
      rw [text, htext]
      exact hsplit

theorem of_parseHex {s : Str} {n : Numeral} (h : parseHex s = some n) :
    n.text = s ∧ n.Valid := by
  unfold parseHex at h
  split at h
  · obtain ⟨⟨hmark, hne, hdigits⟩, rfl⟩ :=
      (Option.ite_none_right_eq_some.1 h).imp_right Option.some.inj
    exact ⟨rfl, hmark, hne, by simpa using hdigits⟩
  · simp at h

theorem of_parse {s : Str} {n : Numeral} (h : parse s = some n) : n.text = s ∧ n.Valid := by
  rcases Option.or_eq_some_iff.1 h with h | ⟨-, h⟩
  · exact of_parseHex h
  · exact of_parseDecimal h

end Numeral

/-! ## Every numeral is accepted -/

theorem afterSign_append {sign : Option Char} {digits : Str}
    (hsign : ∀ c ∈ sign, c = '+' ∨ c = '-') (hdigits : ∀ c ∈ digits, c.isDigit) :
    signOf (sign.toList ++ digits) = sign ∧ afterSign (sign.toList ++ digits) = digits := by
  have h : signOf (sign.toList ++ digits) = sign := by
    cases sign with
    | some c => rcases hsign c rfl with rfl | rfl <;> rfl
    | none =>
        cases digits with
        | nil => rfl
        | cons c digits =>
            have hc := hdigits c (by simp)
            unfold signOf
            split
            · rename_i heq
              obtain rfl : c = '+' := (List.cons.inj heq).1
              exact absurd hc (by decide)
            · rename_i heq
              obtain rfl : c = '-' := (List.cons.inj heq).1
              exact absurd hc (by decide)
            · rfl
  exact ⟨h, by rw [afterSign, h]; simp⟩

theorem Exponent.parse_text {e : Exponent} (h : e.Valid) : Exponent.parse e.text = some e := by
  obtain ⟨hsign, hafter⟩ := afterSign_append h.sign h.digits
  have hdigits : e.digits.all Char.isDigit = true := List.all_eq_true.2 h.digits
  simp [Exponent.parse, Exponent.text, hsign, hafter, h.mark, h.nonempty, hdigits]

namespace Numeral

theorem parseExponent_text {e : Option Exponent} (h : ∀ x ∈ e, x.Valid) :
    parseExponent (e.elim [] Exponent.text) = some e := by
  cases e with
  | none => rfl
  | some e =>
      have hne : e.text.isEmpty = false := rfl
      simp [parseExponent, hne, Exponent.parse_text (h e rfl)]

/-- Digits up to something else. -/
theorem span_digits {w rest : Str} (hw : ∀ c ∈ w, c.isDigit)
    (hrest : ∀ c ∈ rest.head?, c.isDigit = false) :
    (w ++ rest).takeWhile Char.isDigit = w ∧ (w ++ rest).dropWhile Char.isDigit = rest := by
  have htake : rest.takeWhile Char.isDigit = [] := by
    cases rest with
    | nil => rfl
    | cons c rest => simp [hrest c rfl]
  have hdrop : rest.dropWhile Char.isDigit = rest := by
    cases rest with
    | nil => rfl
    | cons c rest => simp [hrest c rfl]
  rw [List.takeWhile_append_of_pos hw, List.dropWhile_append_of_pos hw, htake, hdrop]
  simp

theorem head?_exponent {e : Option Exponent} (h : ∀ x ∈ e, x.Valid) :
    ∀ c ∈ (e.elim [] Exponent.text).head?, c = 'e' ∨ c = 'E' := by
  cases e with
  | none => simp
  | some e =>
      intro c hc
      obtain rfl : e.mark = c := by simpa [Exponent.text] using hc
      exact (h e rfl).mark

theorem parseDecimal_text {whole : Str} {fraction : Option Str} {exponent : Option Exponent}
    (h : (decimal whole fraction exponent).Valid) :
    parseDecimal (decimal whole fraction exponent).text =
      some (decimal whole fraction exponent) := by
  obtain ⟨hwhole, hfraction, hsome, hexponent⟩ := h
  have hdigit : ∀ c ∈ (exponent.elim [] Exponent.text).head?, c.isDigit = false := by
    intro c hc
    rcases head?_exponent hexponent c hc with rfl | rfl <;> decide
  have hdot : (exponent.elim [] Exponent.text).head? ≠ some '.' := by
    intro hc
    rcases head?_exponent hexponent _ hc with h | h <;> exact absurd h (by decide)
  cases fraction with
  | none =>
      have hne : whole ≠ [] := by simpa using hsome
      obtain ⟨htake, hdrop⟩ := span_digits hwhole hdigit
      simp [parseDecimal, text, htake, hdrop, hdot, hne, parseExponent_text hexponent]
  | some fraction =>
      have hne : ¬(whole = [] ∧ fraction = []) := by
        rintro ⟨rfl, rfl⟩
        simp at hsome
      obtain ⟨htake, hdrop⟩ := span_digits hwhole
        (show ∀ c ∈ ('.' :: (fraction ++ exponent.elim [] Exponent.text)).head?, c.isDigit = false by
          simp)
      obtain ⟨htake', hdrop'⟩ := span_digits (hfraction fraction rfl) hdigit
      simp [parseDecimal, text, htake, hdrop, htake', hdrop', hne, parseExponent_text hexponent]

theorem of_mem_text_decimal {whole : Str} {fraction : Option Str} {exponent : Option Exponent}
    (h : (decimal whole fraction exponent).Valid) {c : Char}
    (hc : c ∈ (decimal whole fraction exponent).text) :
    c.isDigit ∨ c = '.' ∨ c = 'e' ∨ c = 'E' ∨ c = '+' ∨ c = '-' := by
  obtain ⟨hwhole, hfraction, -, hexponent⟩ := h
  simp only [text, List.mem_append] at hc
  rcases hc with hc | hc | hc
  · exact .inl (hwhole c hc)
  · cases fraction with
    | none => simp at hc
    | some fraction =>
        rcases List.mem_cons.1 hc with rfl | hc
        · simp
        · exact .inl (hfraction fraction rfl c hc)
  · cases exponent with
    | none => simp at hc
    | some e =>
        obtain ⟨hmark, hsign, -, hdigits⟩ := hexponent e rfl
        rcases List.mem_cons.1 hc with rfl | hc
        · tauto
        · rcases List.mem_append.1 hc with hc | hc
          · have := hsign c (by simpa using hc)
            tauto
          · exact .inl (hdigits c hc)

/-- A decimal numeral is no hexadecimal one. -/
theorem parseHex_text {whole : Str} {fraction : Option Str} {exponent : Option Exponent}
    (h : (decimal whole fraction exponent).Valid) :
    parseHex (decimal whole fraction exponent).text = none := by
  refine Option.eq_none_iff_forall_ne_some.2 fun n hn => ?_
  unfold parseHex at hn
  split at hn
  · rename_i mark digits htext
    obtain ⟨⟨hmark, -⟩, -⟩ := Option.ite_none_right_eq_some.1 hn
    have hmem : mark ∈ (decimal whole fraction exponent).text := by simp [htext]
    have hchar := of_mem_text_decimal h hmem
    rcases hmark with rfl | rfl <;> revert hchar <;> decide
  · simp at hn

theorem parse_text {n : Numeral} (h : n.Valid) : parse n.text = some n := by
  cases n with
  | decimal whole fraction exponent =>
      rw [parse, parseHex_text h, Option.none_or, parseDecimal_text h]
  | hex mark digits =>
      obtain ⟨hmark, hne, hdigits⟩ := h
      have hall : digits.all isHexDigit = true := List.all_eq_true.2 hdigits
      simp [parse, text, parseHex, hmark, hne, hall]

theorem text_eq_cons {n : Numeral} (h : n.Valid) :
    ∃ c s, n.text = c :: s ∧ (c.isDigit ∨ c = '.') := by
  cases n with
  | hex mark digits => exact ⟨'0', mark :: digits, rfl, .inl (by decide)⟩
  | decimal whole fraction exponent =>
      obtain ⟨hwhole, -, hsome, -⟩ := h
      cases whole with
      | cons c whole => exact ⟨c, _, rfl, .inl (hwhole c (by simp))⟩
      | nil =>
          obtain ⟨f, hf, -⟩ := hsome.resolve_left (by simp)
          obtain rfl : fraction = some f := hf
          exact ⟨'.', _, rfl, .inr rfl⟩

end Numeral

end ParDiff.Lib
