import ParDiff.Vouchers.CouponCredit

/-!
# Printed cards

`generate-coupons.pl` prints `substr($token, 0, 16) . substr($pass, 16, 16)`,
where token and pass are MD5 digests in lower-case hex.  For such rows the two
`LIKE` conditions of `coupon_credit.cgi` compare the whole card, up to the
letter case in which it was typed.
-/

namespace ParDiff.Vouchers

open Lib Lib.Text

def hexDigits : Str := "0123456789abcdef".toList

/-- Shape of `md5_hex`. -/
def IsMd5Hex (s : Str) : Prop := s.length = 32 ∧ ∀ c ∈ s, c ∈ hexDigits

/-- A typed card of 32 hex digits, in either letter case. -/
def IsHexCard (card : Str) : Prop := card.length = 32 ∧ ∀ c ∈ card, c.toLower ∈ hexDigits

-- The instance is named: enumerating all characters would be one as well.
instance (s : Str) : Decidable (IsMd5Hex s) :=
  have : Decidable (∀ c ∈ s, c ∈ hexDigits) := List.decidableBAll _ s
  inferInstanceAs (Decidable (_ ∧ _))

instance (s : Str) : Decidable (IsHexCard s) :=
  have : Decidable (∀ c ∈ s, c.toLower ∈ hexDigits) := List.decidableBAll _ s
  inferInstanceAs (Decidable (_ ∧ _))

/-- The card printed for a coupon. -/
def printed (k : Coupon) : Str := k.token.take 16 ++ (k.pass.drop 16).take 16

/-- A coupons table as the generator fills it, with pairwise distinct cards. -/
structure PrintedCards (t : Table Coupon Coupon.id) : Prop where
  token_hex : ∀ k ∈ t.rows, IsMd5Hex k.token
  pass_hex : ∀ k ∈ t.rows, IsMd5Hex k.pass
  distinct : (t.rows.map printed).Nodup

theorem literal_of_hex {c : Char} (h : c.toLower ∈ hexDigits) : Literal c := by
  refine ⟨?_, ?_, ?_⟩ <;> rintro rfl <;> exact absurd h (by decide)

theorem lower_of_hex {s : Str} (h : ∀ c ∈ s, c ∈ hexDigits) : lower s = s := by
  have hall : hexDigits.all (fun c => c.toLower == c) = true := by decide
  conv_rhs => rw [← List.map_id s]
  exact List.map_congr_left fun c hc => beq_iff_eq.1 (List.all_eq_true.1 hall c (h c hc))

theorem carries_iff {card : Str} (hcard : IsHexCard card) {k : Coupon}
    (htoken : IsMd5Hex k.token) (hpass : IsMd5Hex k.pass) :
    carries card k = true ↔ printed k = lower card := by
  obtain ⟨hlen, hhex⟩ := hcard
  have hfront : ∀ c ∈ card.take 16, Literal c := fun c hc =>
    literal_of_hex (hhex c (List.mem_of_mem_take hc))
  have hback : ∀ c ∈ (card.drop 16).take 16, Literal c := fun c hc =>
    literal_of_hex (hhex c (List.mem_of_mem_drop (List.mem_of_mem_take hc)))
  have hsplit : lower card = lower (card.take 16) ++ lower ((card.drop 16).take 16) := by
    have hrest : (card.drop 16).take 16 = card.drop 16 :=
      List.take_of_length_le (by simp [hlen])
    rw [hrest, lower, lower, lower, ← List.map_append, List.take_append_drop]
  have htake : lower (k.token.take 16) = k.token.take 16 :=
    lower_of_hex fun c hc => htoken.2 c (List.mem_of_mem_take hc)
  have hdrop : lower (k.pass.drop 16) = k.pass.drop 16 :=
    lower_of_hex fun c hc => hpass.2 c (List.mem_of_mem_drop hc)
  have hend : (k.pass.drop 16).take 16 = k.pass.drop 16 :=
    List.take_of_length_le (by simp [hpass.1])
  have hlenfront : (card.take 16).length = 16 := by simp [hlen]
  have hlenback : ((card.drop 16).take 16).length = 16 := by simp [hlen]
  rw [carries, Bool.and_eq_true, partToken, partPass, like_starts hfront, like_ends hback,
    hlenfront, hlenback, hpass.1, htake, show 32 - 16 = 16 from rfl, hdrop, printed, hend,
    hsplit]
  constructor
  · rintro ⟨h₁, h₂⟩
    rw [h₁, h₂]
  · intro h
    exact List.append_inj h (by simp [lower, hlen, htoken.1])

theorem PrintedCards.carries_unique {t : Table Coupon Coupon.id} (h : PrintedCards t)
    {card : Str} (hcard : IsHexCard card) {a b : Coupon} (ha : a ∈ t.rows) (hb : b ∈ t.rows)
    (hca : carries card a = true) (hcb : carries card b = true) : a = b := by
  rw [carries_iff hcard (h.token_hex a ha) (h.pass_hex a ha)] at hca
  rw [carries_iff hcard (h.token_hex b hb) (h.pass_hex b hb)] at hcb
  exact eq_of_nodup_map h.distinct ha hb (hca.trans hcb.symm)

end ParDiff.Vouchers
