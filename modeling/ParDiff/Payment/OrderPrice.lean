import Mathlib.Tactic.Ring
import ParDiff.Payment.OrderText

/-!
# Price and traffic of an order

PHP computes the price from the amount that was asked for, and the server rounds
this amount to the integer that `charge` grants later.  The price is monotone, so
the order is paid for unless the amount is rounded up; between one and ten the
`floor` of the price may absorb the difference.
-/

namespace ParDiff.Payment

open Lib Lib.Text Lib.SqlText Lib.Php

/-- Every order for this amount costs at least the price of the traffic it grants. -/
def PaidFor (amount : Str) : Prop :=
  ∀ currentUser row rows, storedOrders currentUser amount = some (row :: rows) →
    orderTotal row.traffic ≤ row.total

/-- The amount as the column rounds it. -/
def roundedAmount (n : Numeric) : Int :=
  match n.numeral with
  | .decimal _ _ (some _) => clampInt (roundEven n.value)
  | _ => clampInt (roundAway n.value)

/-- The amount is not rounded up, up to where eight times the traffic is still in the
range of the column; or nothing is granted; or the `floor` of the price of a small
amount absorbs what was rounded up. -/
def FairlyRounded (n : Numeric) : Prop :=
  roundedAmount n ≤ 0 ∨
    ((roundedAmount n : Rat) ≤ n.value ∧ roundedAmount n ≤ 268435455) ∨
    (roundedAmount n ≤ 10 ∧
      ((10 * (roundedAmount n : Rat) - (roundedAmount n : Rat) ^ 2 / 5).floor : Rat) ≤
        10 * n.value - n.value ^ 2 / 5)

/-! ## The price -/

/-- The price before `floor` and the minimum. -/
def price (a : Rat) : Rat := getPrice a * getDiscount a

theorem price_of_gt {a : Rat} (h : 10 < a) : price a = 8 * a := by
  rw [price, getPrice, getDiscount, if_pos h]
  ring

theorem price_of_le {a : Rat} (h : a ≤ 10) : price a = 10 * a - a ^ 2 / 5 := by
  rw [price, getPrice, getDiscount, if_neg (not_lt.2 h)]
  ring

theorem le_orderTotal_iff {z : Int} {a : Rat} :
    z ≤ orderTotal a ↔ z ≤ 1 ∨ (z : Rat) ≤ price a := by
  rw [show orderTotal a = (if price a < 1 then 1 else price a).floor from rfl, Rat.le_floor_iff]
  split
  · rename_i hlt
    constructor
    · intro h
      exact .inl (by exact_mod_cast h)
    · rintro (h | h)
      · exact_mod_cast h
      · linarith
  · rename_i hge
    constructor
    · exact .inr
    · rintro (h | h)
      · have : (z : Rat) ≤ 1 := by exact_mod_cast h
        linarith
      · exact h

theorem orderTotal_of_nonpos {k : Int} (h : k ≤ 0) : orderTotal k = 1 := by
  have hk : (k : Rat) ≤ 0 := by exact_mod_cast h
  refine le_antisymm ?_ (one_le_orderTotal _)
  by_contra hlt
  rcases le_orderTotal_iff.1 (show 2 ≤ orderTotal k by omega) with h2 | h2
  · omega
  · rw [price_of_le (by linarith)] at h2
    have := sq_nonneg (k : Rat)
    push_cast at h2
    linarith

theorem orderTotal_of_large {k : Int} (h : 10 < k) : orderTotal k = 8 * k := by
  have hk : (10 : Rat) < k := by exact_mod_cast h
  have hiff : ∀ z : Int, z ≤ orderTotal k ↔ z ≤ 1 ∨ z ≤ 8 * k := by
    intro z
    rw [le_orderTotal_iff, price_of_gt hk]
    exact_mod_cast Iff.rfl
  refine le_antisymm ?_ ((hiff _).2 (.inr le_rfl))
  have := (hiff _).1 (le_refl (orderTotal k))
  omega

/-- The price of a small amount of traffic. -/
theorem orderTotal_of_small {k : Int} (hpos : 0 < k) (hle : k ≤ 10) :
    orderTotal k = (10 * (k : Rat) - (k : Rat) ^ 2 / 5).floor ∧ 9 ≤ orderTotal k ∧
      orderTotal k ≤ 80 := by
  obtain rfl | rfl | rfl | rfl | rfl | rfl | rfl | rfl | rfl | rfl :
    k = 1 ∨ k = 2 ∨ k = 3 ∨ k = 4 ∨ k = 5 ∨ k = 6 ∨ k = 7 ∨ k = 8 ∨ k = 9 ∨ k = 10 := by omega
  all_goals decide +kernel

theorem price_le {a b : Rat} (h : a ≤ b) (hb : b ≤ 10) : price a ≤ price b := by
  rw [price_of_le (h.trans hb), price_of_le hb]
  nlinarith

theorem price_le_eighty {a : Rat} (h : a ≤ 10) : price a ≤ 80 := by
  rw [price_of_le h]
  nlinarith

/-- What the total of the order for `a` pays for. -/
theorem orderTotal_le_clampInt_iff {k : Int} {a : Rat} :
    orderTotal k ≤ clampInt (orderTotal a) ↔
      orderTotal k ≤ 2 ^ 31 - 1 ∧ orderTotal k ≤ orderTotal a := by
  have := one_le_orderTotal a
  unfold clampInt
  omega

/-- Up to ten gigabytes the `floor` may be paid for by a smaller amount. -/
theorem orderTotal_le_price_of_small {k : Int} {a : Rat} (hpos : 0 < k) (hsmall : k ≤ 10) :
    (orderTotal k : Rat) ≤ price a ↔ (k : Rat) ≤ a ∨
      ((10 * (k : Rat) - (k : Rat) ^ 2 / 5).floor : Rat) ≤ 10 * a - a ^ 2 / 5 := by
  obtain ⟨heq, hlo, hhi⟩ := orderTotal_of_small hpos hsmall
  rw [← heq]
  have hk : (k : Rat) ≤ 10 := by exact_mod_cast hsmall
  rcases le_or_gt a 10 with ha | ha
  · have hfloor : (orderTotal k : Rat) ≤ price k := by
      refine (le_orderTotal_iff.1 le_rfl).resolve_left ?_
      omega
    rw [← price_of_le ha]
    constructor
    · exact .inr
    · rintro (hka | hprice)
      · exact hfloor.trans (price_le hka ha)
      · exact hprice
  · refine iff_of_true ?_ (.inl (hk.trans ha.le))
    have hhi' : (orderTotal k : Rat) ≤ 80 := by exact_mod_cast hhi
    rw [price_of_gt ha]
    linarith

/-- Beyond ten gigabytes only the amount itself pays. -/
theorem orderTotal_le_price_of_large {k : Int} {a : Rat} (hlarge : 10 < k) :
    (orderTotal k : Rat) ≤ price a ↔ (k : Rat) ≤ a := by
  have hk : (10 : Rat) < k := by exact_mod_cast hlarge
  rw [orderTotal_of_large hlarge]
  push_cast
  rcases le_or_gt a 10 with ha | ha
  · have heighty := price_le_eighty ha
    refine iff_of_false ?_ ?_
    · linarith
    · linarith
  · rw [price_of_gt ha]
    constructor
    · intro h
      linarith
    · intro h
      linarith

/-- The price of the rounded amount against the price of the amount. -/
theorem orderTotal_le_iff {k : Int} {a : Rat} :
    orderTotal k ≤ clampInt (orderTotal a) ↔
      k ≤ 0 ∨ ((k : Rat) ≤ a ∧ k ≤ 268435455) ∨
        (k ≤ 10 ∧ ((10 * (k : Rat) - (k : Rat) ^ 2 / 5).floor : Rat) ≤ 10 * a - a ^ 2 / 5) := by
  rw [orderTotal_le_clampInt_iff, le_orderTotal_iff]
  rcases le_or_gt k 0 with hneg | hpos
  · rw [orderTotal_of_nonpos hneg]
    simp [hneg]
  · rcases le_or_gt k 10 with hsmall | hlarge
    · obtain ⟨-, hlo, hhi⟩ := orderTotal_of_small hpos hsmall
      have hrange : orderTotal k ≤ 2 ^ 31 - 1 := by omega
      have hone : ¬orderTotal k ≤ 1 := by omega
      have hcolumn : k ≤ 268435455 := by omega
      rw [orderTotal_le_price_of_small hpos hsmall]
      simp only [hrange, hone, hcolumn, hsmall, not_le.2 hpos, true_and, and_true, false_or]
    · have hone : ¬orderTotal k ≤ 1 := by
        rw [orderTotal_of_large hlarge]
        omega
      have hrange : orderTotal k ≤ 2 ^ 31 - 1 ↔ k ≤ 268435455 := by
        rw [orderTotal_of_large hlarge]
        omega
      rw [orderTotal_le_price_of_large hlarge, hrange]
      simp [hone, not_le.2 hpos, not_le.2 hlarge, and_comm]

/-! ## The row -/

theorem storedInt_eq {n : Numeric} (h : ReadableNumeral n.numeral) :
    storedInt n.sign n.numeral = some (roundedAmount n) := by
  cases hn : n.numeral with
  | hex mark digits =>
      rw [hn] at h
      simp [storedInt, roundedAmount, Numeric.value, hn, show mark = 'x' from h]
  | decimal whole fraction exponent =>
      rw [hn] at h
      cases exponent with
      | none => simp [storedInt, roundedAmount, Numeric.value, hn]
      | some e =>
          have hlt : ¬doubleLimit ≤ (Numeral.decimal whole fraction (some e)).value := not_le.2 h
          simp [storedInt, roundedAmount, Numeric.value, hn, hlt]

/-- **Prices.**  Every order for an amount is paid for exactly if the server rejects it,
or rounds the amount fairly. -/
theorem paidFor_iff {amount : Str} {n : Numeric} (hnumeric : numeric amount = some n) :
    PaidFor amount ↔ (Readable n → FairlyRounded n) := by
  constructor
  · intro h hreadable
    have hempty : Verbatim '\'' [] := trivial
    obtain ⟨row, hrow, -⟩ := exists_storedOrders hnumeric hempty hreadable
    obtain ⟨-, htotal, htraffic⟩ := readable_of_storedOrders hnumeric hrow
    rw [storedInt_eq hreadable.1, Option.some.injEq] at htraffic
    refine orderTotal_le_iff.1 ?_
    rw [htraffic, ← htotal]
    exact h _ _ _ hrow
  · intro h currentUser row others hrow
    obtain ⟨hreadable, htotal, htraffic⟩ := readable_of_storedOrders hnumeric hrow
    rw [storedInt_eq hreadable.1, Option.some.injEq] at htraffic
    rw [htotal, ← htraffic]
    exact orderTotal_le_iff.2 (h hreadable)

theorem five_paidFor : PaidFor "5".toList := by
  have hnumeric : numeric "5".toList = some ⟨none, .decimal "5".toList none none⟩ := by decide
  refine (paidFor_iff hnumeric).2 fun _ => ?_
  exact .inr (.inl (by decide +kernel))

/-- Ten and a half gigabytes cost 84, and eleven, which are granted, cost 88. -/
theorem rounded_up_underpaid :
    (∃ row, storedOrders "ann".toList "10.5".toList = some [row] ∧ row.total = 84 ∧
      row.traffic = 11 ∧ orderTotal row.traffic = 88) ∧ ¬PaidFor "10.5".toList := by
  have hstored : storedOrders "ann".toList "10.5".toList =
      some [⟨"ParDiff VPN traffic 10.5 GB - ￥84".toList,
        "ParDiff VPN traffic 10.5 GB - ￥84, http://www.pardiffvpn.com".toList, 84, 11,
        "ann".toList, some .UNPAID, true⟩] := by
    have hnumeric : numeric "10.5".toList =
        some ⟨none, .decimal "10".toList (some "5".toList) none⟩ := by decide
    rw [storedOrders_eq hnumeric]
    decide +kernel
  refine ⟨⟨_, hstored, rfl, rfl, by decide +kernel⟩, fun h => ?_⟩
  exact absurd (h _ _ _ hstored) (by decide +kernel)

end ParDiff.Payment
