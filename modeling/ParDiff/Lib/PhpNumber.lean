import ParDiff.Lib.Php

/-!
# Arithmetic on strings in PHP 5

An operand of `+` that is a string counts as the number at its front, and as 0 without
one.  A sum of integers that does not fit into 64 bits is a sum of doubles, and a sum
is printed when a string is wanted.  `==` compares two numeric strings as numbers and
all others character by character.
-/

namespace ParDiff.Lib.Php

open Text

/-! ## Numbers -/

/-- A double as it is printed. -/
def doubleText : Double → Str
  | .finite x => floatText x
  | .negZero => "-0".toList
  | .infinite negative => (if negative then "-INF" else "INF").toList
  | .nan => "NAN".toList

inductive Number
  | int (n : Int)
  | float (x : Double)
  deriving DecidableEq, Repr

/-- The integers of 64 bits. -/
def Fits (n : Int) : Prop := -2 ^ 63 ≤ n ∧ n < 2 ^ 63

instance (n : Int) : Decidable (Fits n) := inferInstanceAs (Decidable (_ ∧ _))

/-- A numeral without fraction and exponent. -/
def Numeric.integral (n : Numeric) : Bool :=
  match n.numeral with
  | .decimal _ none none => true
  | .hex _ _ => true
  | _ => false

/-- The number at the front of a string. -/
def numericPrefix (s : Str) : Option Numeric :=
  let t := s.dropWhile isSpace
  ((afterSign t).inits.reverse.findSome? (parseAfter (signOf t))).map (⟨signOf t, ·⟩)

namespace Number

def ofNumeric (n : Numeric) : Number :=
  if n.integral ∧ Fits n.value.num then .int n.value.num
  else .float (.ofRat (n.sign = some '-') n.value)

/-- The operand a string stands for. -/
def ofString (s : Str) : Number := (numericPrefix s).elim (.int 0) ofNumeric

def toDouble : Number → Double
  | .int n => .ofRat false n
  | .float x => x

def add : Number → Number → Number
  | .int a, .int b =>
      if Fits (a + b) then .int (a + b) else .float ((int a).toDouble.add (int b).toDouble)
  | x, y => .float (x.toDouble.add y.toDouble)

def text : Number → Str
  | .int n => decInt n
  | .float x => doubleText x

def equal : Number → Number → Bool
  | .int a, .int b => a == b
  | x, y => x.toDouble.equal y.toDouble

theorem equal_ofNumeric_self (n : Numeric) : (ofNumeric n).equal (ofNumeric n) = true := by
  unfold ofNumeric
  split
  · simp [equal]
  · exact Double.equal_self (Double.ofRat_ne_nan _ _)

theorem add_int {a b : Int} (h : Fits (a + b)) : (int a).add (int b) = int (a + b) := if_pos h

end Number

/-! ## Strings without a number -/

/-- What a number can begin with. -/
def beginsNumber (c : Char) : Bool := c.isDigit || c == '+' || c == '-' || c == '.'

theorem parseAfter_eq_none {s : Str} (h : ∀ c ∈ s.head?, beginsNumber c = false) :
    parseAfter none s = none := by
  cases s with
  | nil => rfl
  | cons c s =>
      have hc : beginsNumber c = false := h c rfl
      simp only [beginsNumber, Bool.or_eq_false_iff, beq_eq_false_iff_ne] at hc
      obtain ⟨⟨⟨hdigit, -⟩, -⟩, hpoint⟩ := hc
      have hzero : c ≠ '0' := by
        rintro rfl
        simp at hdigit
      have hhex : Numeral.parseHex (c :: s) = none := by
        unfold Numeral.parseHex
        split
        · rename_i hcs
          exact absurd (List.cons.inj hcs).1 hzero
        · rfl
      simp [parseAfter, Numeral.parse, hhex, Numeral.parseDecimal, hdigit, hpoint]

/-- A string that does not begin with a number counts as 0. -/
theorem ofString_eq_zero {s : Str}
    (h : ∀ c ∈ (s.dropWhile isSpace).head?, beginsNumber c = false) :
    Number.ofString s = .int 0 := by
  have hsign : signOf (s.dropWhile isSpace) = none := by
    unfold signOf
    split <;> simp_all [beginsNumber]
  have hafter : afterSign (s.dropWhile isSpace) = s.dropWhile isSpace := by
    simp [afterSign, hsign]
  have hnone : (s.dropWhile isSpace).inits.reverse.findSome? (parseAfter none) = none := by
    rw [List.findSome?_eq_none_iff]
    intro t ht
    obtain ⟨rest, hrest⟩ : t <+: s.dropWhile isSpace := by simpa using ht
    refine parseAfter_eq_none fun c hc => h c ?_
    rw [← hrest, List.head?_append]
    exact Option.or_eq_some_iff.2 (.inl hc)
  rw [Number.ofString, numericPrefix]
  simp only [hsign, hafter, hnone, Option.map_none, Option.elim_none]

example : (Number.ofString " 9223372036854775807 apples".toList).add (.ofString "1".toList) =
    .float (.finite (2 ^ 63)) := by decide +kernel

/-! ## Comparison -/

/-- `==` of two strings. -/
def looseEq (s t : Str) : Bool :=
  match numeric s, numeric t with
  | some a, some b => (Number.ofNumeric a).equal (.ofNumeric b)
  | _, _ => s == t

/-- Both strings are numeric, with equal numbers. -/
def SameNumber (s t : Str) : Prop :=
  ∃ a b, numeric s = some a ∧ numeric t = some b ∧
    (Number.ofNumeric a).equal (.ofNumeric b) = true

theorem looseEq_iff {s t : Str} : looseEq s t = true ↔ s = t ∨ SameNumber s t := by
  unfold looseEq SameNumber
  cases hs : numeric s with
  | none => simp
  | some a =>
      cases ht : numeric t with
      | none => simp
      | some b =>
          simp only [Option.some.injEq]
          constructor
          · intro h
            exact .inr ⟨a, b, rfl, rfl, h⟩
          · rintro (rfl | ⟨_, _, rfl, rfl, h⟩)
            · obtain rfl : a = b := Option.some.inj (hs.symm.trans ht)
              exact Number.equal_ofNumeric_self a
            · exact h

end ParDiff.Lib.Php
