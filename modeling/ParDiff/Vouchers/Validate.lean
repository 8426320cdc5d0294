import ParDiff.Vouchers.CardCheck

/-!
# `web/user/coupon/validate.cgi` and `check-status-coupon.pl`

Both read the first coupon that carries the card and then look at its status.
`coupon_credit.cgi` looks for an unused coupon first and reads the first match
afterwards.  The three answer the same question, and this module says on which
tables they agree.
-/

namespace ParDiff.Vouchers

open Lib Lib.Text

/-! ## `validate.cgi` -/

inductive ValidatePage
  /-- `_fail`. -/
  | fail
  /-- `_success($credit, $expire)`. -/
  | success (credit expire : Int)
  deriving DecidableEq, Repr

/-- Title and text of the page; `captcha` is what `get_html` returns. -/
def ValidatePage.html (card captcha : Str) : ValidatePage → Str × Str
  | .fail => ("无效充值卡!".toList, failMsg)
  | .success credit expire =>
      ("验证成功".toList,
        "<h1>该充值卡当前有效! 点数: ".toList ++ decInt (credit.tdiv (1024 * 1024)) ++
          "MB</h1><p>我们建议您立刻充值。</p>".toList ++
          "<p>该卡充值后，有效期为".toList ++ decInt expire ++ "天</p>".toList ++
          "<form method=\"POST\" action=\"coupon_credit.cgi\">".toList ++
          "<input type=\"hidden\" name=\"card\" value=\"".toList ++ card ++
          "\" />请输入将冲入的用户名<input type=\"text\" name=\"username\" /><br>验证码".toList ++
          captcha ++ "<input type=\"submit\" value=\"充值\" /></form>".toList)

/-- `SELECT * FROM coupons WHERE token LIKE ? AND pass LIKE ?`, first row. -/
def selectFirst (card : Str) : Sql (Option Coupon) := .query fun db => found db card

/-- `$ref && $ref->{status} eq 'N'`. -/
def isNew (ref : Option Coupon) : Bool := ref.any fun k => decide (k.status = some .N)

def validate (card : Option Str) : Sql ValidatePage := do
  if !truthy card then
    return .fail
  let card := card.getD []
  if card.length ≠ 32 then
    return .fail
  let ref ← selectFirst card
  match ref with
  | none => return .fail
  | some k => return if isNew ref then .success k.credit k.expire else .fail

/-! ## `check-status-coupon.pl` -/

/-- What is printed, or the message it dies with. -/
def checkStatusCoupon (argv : List Str) : Sql (Except Str Str) :=
  match argv with
  | [coupon] => do
      let ref ← selectFirst coupon
      return .ok (if isNew ref then "OK\n".toList else "wrong!\n".toList)
  | _ => return .error "check-status-coupon.pl coupon".toList

/-! ## Agreement -/

/-- The page says that the card is valid, with this credit and these days. -/
def ShowsValid (db : Db) (card : Str) (credit expire : Int) : Prop :=
  ((validate (some card)).run db).value = .success credit expire

/-- The request right after it. -/
def redemption (db : Db) (card username : Str) : Outcome Db Event Page :=
  (couponCredit (request card username)).run ((validate (some card)).run db).state

structure ChecksAgree (db : Db) (card username : Str) : Prop where
  verdict : (∃ c e, ShowsValid db card c e) ↔ (redemption db card username).value = .success
  applied : ∀ c e, ShowsValid db card c e → (redemption db card username).value = .success →
    ∃ coupons, (redemption db card username).state =
      topUp card username c e { db with coupons := coupons }
  status : card.length = 32 →
    (((checkStatusCoupon [card]).run db).value = .ok "OK\n".toList ↔
      ∃ c e, ShowsValid db card c e)

/-- If the first match is unused, it is worth something; if it is not, then no
other match is unused, or the first one is worth nothing. -/
def FirstDecides (db : Db) (card : Str) : Prop :=
  card.length = 32 → ∀ f, found db card = some f →
    if f.status = some .N then f.credit ≠ 0 else f.credit = 0 ∨ claimed db card = none

theorem validate_run (card : Option Str) (db : Db) : ((validate card).run db).state = db := by
  unfold validate
  split
  · rfl
  · dsimp only
    split
    · rfl
    · simp only [Script.bind_eq, Script.run_bind, selectFirst, Script.run_query]
      cases found db (card.getD []) <;> rfl

theorem redemption_eq (db : Db) (card username : Str) :
    redemption db card username = (couponCredit (request card username)).run db := by
  rw [redemption, validate_run]

theorem showsValid_iff {db : Db} {card : Str} (hlen : card.length = 32) {c e : Int} :
    ShowsValid db card c e ↔
      ∃ f, found db card = some f ∧ f.status = some .N ∧ f.credit = c ∧ f.expire = e := by
  simp only [ShowsValid, validate, truthy_of_length hlen, Option.getD_some, hlen, selectFirst,
    Script.bind_eq, Script.run_bind, Script.run_query, Bool.not_true, Bool.false_eq_true,
    if_false, ne_eq, not_true_eq_false]
  cases hf : found db card with
  | none => simp
  | some f =>
      by_cases hstatus : f.status = some .N <;> simp [isNew, hstatus]

theorem showsValid_length {db : Db} {card : Str} {c e : Int} (h : ShowsValid db card c e) :
    card.length = 32 := by
  by_contra hlen
  unfold ShowsValid validate at h
  split at h
  · simp at h
  · simp [hlen] at h

/-- The unused match that is claimed need not be the match that is found. -/
theorem redemption_success_iff {db : Db} {card username : Str} (hlen : card.length = 32)
    (huser : db.countLogin (some username) ≠ 0) {f : Coupon} (hf : found db card = some f) :
    (redemption db card username).value = .success ↔ claimed db card ≠ none ∧ f.credit ≠ 0 := by
  rw [redemption_eq]
  cases hk : claimed db card with
  | none => simp [couponCredit_run_unmatched hlen huser hk]
  | some k =>
      by_cases hcredit : f.credit = 0
      · simp [couponCredit_run_worthless hlen huser hk hf hcredit, hcredit]
      · simp [couponCredit_run_success hlen huser hk hf hcredit, hcredit]

theorem claimed_of_found {db : Db} {card : Str} {f : Coupon} (hf : found db card = some f)
    (hstatus : f.status = some .N) : claimed db card ≠ none := by
  have hcarries : carries card f = true := List.find?_some hf
  have hclaimable : claimable card f = true := by simp [claimable, hstatus, hcarries]
  rw [claimed, Ne, List.find?_eq_none]
  intro h
  exact h f (List.mem_of_find?_eq_some hf) hclaimable

/-- On a card of the right length, the verdicts agree exactly when the first match
decides. -/
theorem verdict_iff {db : Db} {card username : Str} (hlen : card.length = 32)
    (huser : db.countLogin (some username) ≠ 0) :
    ((∃ c e, ShowsValid db card c e) ↔ (redemption db card username).value = .success) ↔
      FirstDecides db card := by
  cases hf : found db card with
  | none =>
      have hk : claimed db card = none := by
        by_contra hne
        obtain ⟨k, hk⟩ := Option.ne_none_iff_exists'.1 hne
        obtain ⟨f, hf'⟩ := found_of_claimed hk
        simp [hf] at hf'
      have hfail := couponCredit_run_unmatched hlen huser hk
      simp [FirstDecides, showsValid_iff hlen, redemption_eq, hfail, hf]
  | some f =>
      rw [redemption_success_iff hlen huser hf]
      simp only [showsValid_iff hlen, FirstDecides, hlen, hf, Option.some.injEq, forall_const,
        forall_eq', exists_eq_left']
      by_cases hstatus : f.status = some .N
      · simp [hstatus, claimed_of_found hf hstatus]
      · simp only [hstatus, false_and, exists_false, false_iff, if_false]
        tauto

theorem applied_of_showsValid {db : Db} {card username : Str}
    (huser : db.countLogin (some username) ≠ 0) {c e : Int} (hvalid : ShowsValid db card c e)
    (hsuccess : (redemption db card username).value = .success) :
    ∃ coupons, (redemption db card username).state =
      topUp card username c e { db with coupons := coupons } := by
  have hlen := showsValid_length hvalid
  obtain ⟨f, hf, hstatus, rfl, rfl⟩ := (showsValid_iff hlen).1 hvalid
  obtain ⟨hk, hcredit⟩ := (redemption_success_iff hlen huser hf).1 hsuccess
  obtain ⟨k, hk⟩ := Option.ne_none_iff_exists'.1 hk
  refine ⟨(useCoupon k db).coupons, ?_⟩
  rw [redemption_eq, couponCredit_run_success hlen huser hk hf hcredit]
  rfl

/-- `check-status-coupon.pl` and `validate.cgi` ask the same question. -/
theorem checkStatusCoupon_iff {db : Db} {card : Str} (hlen : card.length = 32) :
    ((checkStatusCoupon [card]).run db).value = .ok "OK\n".toList ↔
      ∃ c e, ShowsValid db card c e := by
  simp only [checkStatusCoupon, selectFirst, Script.bind_eq, Script.run_bind, Script.run_query,
    Script.pure_eq_done, Script.run_done, Except.ok.injEq, showsValid_iff hlen]
  cases hf : found db card with
  | none => simp [isNew]
  | some f => by_cases hstatus : f.status = some .N <;> simp [isNew, hstatus]

/-- **Checking and redeeming.**  For every table, every card and every existing
account, the page, the script and the redemption agree exactly when the first
match of the card decides. -/
theorem checksAgree_iff (db : Db) (card username : Str)
    (huser : db.countLogin (some username) ≠ 0) :
    ChecksAgree db card username ↔ FirstDecides db card := by
  by_cases hlen : card.length = 32
  · constructor
    · intro h
      exact (verdict_iff hlen huser).1 h.verdict
    · intro h
      exact ⟨(verdict_iff hlen huser).2 h, fun _ _ => applied_of_showsValid huser,
        checkStatusCoupon_iff⟩
  · have hinvalid : ¬∃ c e, ShowsValid db card c e := by
      rintro ⟨c, e, h⟩
      exact hlen (showsValid_length h)
    have hfail : (redemption db card username).value ≠ .success := by
      intro h
      rw [redemption_eq] at h
      exact hlen (length_of_success h)
    constructor
    · intro _ h
      exact absurd h hlen
    · intro _
      exact ⟨by simp [hinvalid, hfail], fun _ _ _ h => absurd h hfail, fun h => absurd h hlen⟩

/-- The first coupon is used, so the page rejects the wildcards; the redemption
finds the second one. -/
theorem checksAgree_wildcards :
    PrintedCards batchDb.coupons ∧ batchDb.countLogin (some "bob".toList) ≠ 0 ∧
      ¬ChecksAgree batchDb anyCard "bob".toList := by
  refine ⟨⟨by decide, by decide, by decide⟩, by decide, ?_⟩
  intro h
  obtain ⟨c, e, hvalid⟩ := h.verdict.2 (by decide)
  have hfail : ((validate (some anyCard)).run batchDb).value = .fail := by decide
  rw [ShowsValid, hfail] at hvalid
  simp at hvalid

theorem checksAgree_iff_batch :
    ChecksAgree batchDb (printed (batchCoupon .N 2)) "bob".toList := by
  refine (checksAgree_iff batchDb _ _ (by decide)).2 ?_
  intro _ f hf
  obtain rfl : batchCoupon .N 2 = f := by
    have hfound : found batchDb (printed (batchCoupon .N 2)) = some (batchCoupon .N 2) := by decide
    rw [hfound] at hf
    exact Option.some.inj hf
  decide

end ParDiff.Vouchers
