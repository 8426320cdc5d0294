import Mathlib.Data.Int.Interval
import ParDiff.Payment.OrderPrice

/-!
# The tariff as a function of the amount

Below ten gigabytes the price grows by less with each gigabyte, from ten on it is
eight for each.  Both regimes meet at 80, so the tariff is monotone, and on the exact
prices splitting an order never pays.  `floor` takes up to one from each part: two
orders for one gigabyte each are the only ones that lose more to it than the common
order has in discount.
-/

namespace ParDiff.Payment

open Lib

/-! ## Monotonicity -/

theorem price_mono {a b : Rat} (h : a ≤ b) : price a ≤ price b := by
  rcases le_or_gt b 10 with hb | hb
  · exact price_le h hb
  · rw [price_of_gt hb]
    rcases le_or_gt a 10 with ha | ha
    · have heighty := price_le_eighty ha
      linarith
    · rw [price_of_gt ha]
      linarith

/-- **Monotonicity.**  Whatever number is asked for, an order costs at least one, and a
larger amount does not cost less. -/
theorem orderTotal_monotone {a b : Rat} (h : a ≤ b) :
    1 ≤ orderTotal a ∧ orderTotal a ≤ orderTotal b := by
  refine ⟨one_le_orderTotal a, ?_⟩
  apply le_orderTotal_iff.2
  rcases le_orderTotal_iff.1 (le_refl (orderTotal a)) with hone | hprice
  · exact .inl hone
  · exact .inr (hprice.trans (price_mono h))

/-- From a negative amount to one beyond ten gigabytes. -/
theorem orderTotal_monotone_example :
    1 ≤ orderTotal (-5 / 2) ∧ orderTotal (-5 / 2) ≤ orderTotal (21 / 2) :=
  orderTotal_monotone (by norm_num)

/-! ## Splitting an order -/

theorem price_lt_orderTotal_add_one (a : Rat) : price a < orderTotal a + 1 := by
  by_contra hge
  have hle : orderTotal a + 1 ≤ orderTotal a := by
    apply le_orderTotal_iff.2
    refine .inr ?_
    push_cast
    exact not_lt.1 hge
  omega

/-- The discount that a common order has over two orders. -/
theorem price_add {a b : Rat} (ha : 0 ≤ a) (hb : 0 ≤ b) (h : a + b ≤ 10) :
    price (a + b) + 2 * (a * b) / 5 = price a + price b := by
  rw [price_of_le h, price_of_le (by linarith), price_of_le (by linarith)]
  ring

/-- No gigabyte costs less than eight. -/
theorem eight_mul_le_orderTotal {k : Int} (h : 0 ≤ k) : 8 * k ≤ orderTotal k := by
  rcases le_or_gt k 10 with hsmall | hlarge
  · apply le_orderTotal_iff.2
    have hpos : (0 : Rat) ≤ k := by exact_mod_cast h
    have hle : (k : Rat) ≤ 10 := by exact_mod_cast hsmall
    rw [price_of_le hle]
    push_cast
    refine .inr ?_
    nlinarith
  · rw [orderTotal_of_large hlarge]

/-- Where the discount of the common order makes up for both `floor`s. -/
theorem orderTotal_add_le_of_six_le {a b : Int} (ha : 1 ≤ a) (hb : 1 ≤ b) (hsix : 6 ≤ a + b)
    (hten : a + b ≤ 10) : orderTotal (a + b : Int) ≤ orderTotal a + orderTotal b := by
  have ha' : (1 : Rat) ≤ a := by exact_mod_cast ha
  have hb' : (1 : Rat) ≤ b := by exact_mod_cast hb
  have hten' : (a : Rat) + b ≤ 10 := by exact_mod_cast hten
  have hfive : (5 : Rat) ≤ a * b := by
    have : 5 ≤ a * b := by nlinarith
    exact_mod_cast this
  have hdiscount := price_add (by linarith) (by linarith) hten'
  have hfloor_a := price_lt_orderTotal_add_one a
  have hfloor_b := price_lt_orderTotal_add_one b
  rcases le_orderTotal_iff.1 (le_refl (orderTotal (a + b : Int))) with hone | hprice
  · have hone_a := one_le_orderTotal a
    have hone_b := one_le_orderTotal b
    omega
  · push_cast at hprice
    have hlt : (orderTotal (a + b : Int) : Rat) < orderTotal a + orderTotal b + 1 := by
      push_cast
      linarith
    have hlt' : orderTotal (a + b : Int) < orderTotal a + orderTotal b + 1 := by
      exact_mod_cast hlt
    omega

/-- Two orders for one gigabyte each cost 18, the order for both 19. -/
theorem split_order_cheaper :
    ¬∀ a b : Int, 1 ≤ a → 1 ≤ b → orderTotal (a + b : Int) ≤ orderTotal a + orderTotal b := by
  intro h
  exact absurd (h 1 1 le_rfl le_rfl) (by decide +kernel)

/-- **Bulk orders.**  A common order is at most as dear as the two orders it replaces,
unless each of these is for a single gigabyte. -/
theorem orderTotal_add_le_iff {a b : Int} (ha : 1 ≤ a) (hb : 1 ≤ b) :
    orderTotal (a + b : Int) ≤ orderTotal a + orderTotal b ↔ ¬(a = 1 ∧ b = 1) := by
  rcases le_or_gt (a + b) 5 with hfive | hsix
  · have htable : ∀ a ∈ Finset.Icc (1 : Int) 4, ∀ b ∈ Finset.Icc (1 : Int) 4,
        orderTotal (a + b : Int) ≤ orderTotal a + orderTotal b ↔ ¬(a = 1 ∧ b = 1) := by
      decide +kernel
    apply htable
    · exact Finset.mem_Icc.2 ⟨ha, by omega⟩
    · exact Finset.mem_Icc.2 ⟨hb, by omega⟩
  · have hdear : ¬(a = 1 ∧ b = 1) := by omega
    refine iff_of_true ?_ hdear
    rcases le_or_gt (a + b) 10 with hten | hlarge
    · exact orderTotal_add_le_of_six_le ha hb hsix hten
    · have hrate_a := eight_mul_le_orderTotal (show 0 ≤ a by omega)
      have hrate_b := eight_mul_le_orderTotal (show 0 ≤ b by omega)
      rw [orderTotal_of_large hlarge]
      omega

/-- One gigabyte and ten are on different sides of the discount rule. -/
theorem orderTotal_add_le_example :
    orderTotal (1 + 10 : Int) ≤ orderTotal (1 : Int) + orderTotal (10 : Int) ↔
      ¬((1 : Int) = 1 ∧ (10 : Int) = 1) :=
  orderTotal_add_le_iff (by decide) (by decide)

end ParDiff.Payment
