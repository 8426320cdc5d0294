import ParDiff.Vouchers.CardCheck

/-!
# All or nothing

The request claims its coupon before it looks at the coupon's value, and no
transaction holds its statements together.  Up to the claim every failure leaves
the tables as they were; after it, every failure leaves a coupon used up, and the
success page does not depend on what the last two statements did.
-/

namespace ParDiff.Vouchers

open Lib Lib.Text

/-- A redemption of the coupon `k`, as a whole. -/
structure Redeems (db db' : Db) (card username : Str) (k : Coupon) : Prop where
  mem : k ∈ db.coupons.rows
  unused : k.status = some .N
  coupons : db'.coupons = (useCoupon k db).coupons
  login : db'.login = (creditAccount (some username) k.credit k.expire db).login
  /-- The account has a credit that something can be added to. -/
  counted : ∀ u ∈ db.login.rows, Login.named (some username) u = true → u.credit.isSome
  record : db'.transactionsRecords = (topUp card username k.credit k.expire db).transactionsRecords

/-- A failure page leaves the three tables as they were, and the success page stands
for one whole redemption. -/
def AllOrNothing (db : Db) (r : Request) : Prop :=
  (((couponCredit r).run db).value ≠ .success →
    ((couponCredit r).run db).state.coupons = db.coupons ∧
      ((couponCredit r).run db).state.login = db.login ∧
      ((couponCredit r).run db).state.transactionsRecords = db.transactionsRecords) ∧
  (((couponCredit r).run db).value = .success →
    ∃ card username k, r.card = some card ∧ r.username = some username ∧
      Redeems db ((couponCredit r).run db).state card username k)

/-- The request gets to its claim, and the claim takes a coupon. -/
structure Claims (db : Db) (r : Request) (card username : Str) (k : Coupon) : Prop where
  hasCard : r.card = some card
  length : card.length = 32
  hasUser : r.username = some username
  known : db.countLogin (some username) ≠ 0
  countLogin : r.sqlError .countLogin = false
  countCoupons : r.sqlError .countCoupons = false
  claim : r.sqlError .claim = false
  claimed : claimed db card = some k

/-- Once a coupon is claimed, no later statement fails, the first coupon that matches
has the value of the claimed one, which is not zero, and the account has a credit. -/
def GoesThrough (db : Db) (r : Request) : Prop :=
  ∀ card username k, Claims db r card username k →
    r.sqlError .select = false ∧ r.sqlError .credit = false ∧ r.sqlError .record = false ∧
      (∀ f, found db card = some f → f.credit ≠ 0 ∧ f.credit = k.credit ∧ f.expire = k.expire) ∧
      ∀ u ∈ db.login.rows, Login.named (some username) u = true → u.credit.isSome

/-! ## What the request does -/

section

variable {db : Db} {r : Request} {card username : Str}

/-- The request up to its claim. -/
theorem couponCredit_run (hcard : r.card = some card) (hlen : card.length = 32) :
    (couponCredit r).run db =
      if ((countLogin r).run db).value = 0 then ⟨.fail (noUserMsg r.username), db, []⟩
      else if ((countCoupons r card).run db).value = 0 then ⟨.fail checkCardMsg, db, []⟩
      else (redeem r card).run db := by
  have hcount : (countLogin r).run db = ⟨((countLogin r).run db).value, db, []⟩ := by
    simp [countLogin]
  have hcoupons : (countCoupons r card).run db = ⟨((countCoupons r card).run db).value, db, []⟩ := by
    simp [countCoupons]
  generalize ((countLogin r).run db).value = c at hcount ⊢
  generalize ((countCoupons r card).run db).value = d at hcoupons ⊢
  by_cases hc : c = 0
  · simp [couponCredit, hcard, truthy_of_length hlen, hlen, hcount, hc]
  · by_cases hd : d = 0
    · simp [couponCredit, hcard, truthy_of_length hlen, hlen, hcount, hc, hcoupons, hd]
    · rw [if_neg hc, if_neg hd]
      simp only [couponCredit, hcard, truthy_of_length hlen, Option.getD_some, hlen, Script.bind_eq,
        Script.run_bind, hcount, hc, hcoupons, hd, ne_eq, not_true_eq_false, if_false,
        Bool.not_true, Bool.false_eq_true, List.nil_append, Script.pure_eq_done]

/-- A text that is no card is turned away at once. -/
theorem couponCredit_run_of_length (h : ∀ card, r.card = some card → card.length ≠ 32) :
    ((couponCredit r).run db).value = .fail failMsg ∧ ((couponCredit r).run db).state = db := by
  cases hcard : r.card with
  | none => simp [couponCredit, hcard, truthy]
  | some card =>
      rw [couponCredit, hcard]
      split
      · simp
      · simp [h card hcard]

/-- Without a claim nothing is done. -/
theorem run_of_not_claims (h : ∀ card username k, ¬Claims db r card username k) :
    ((couponCredit r).run db).value ≠ .success ∧ ((couponCredit r).run db).state = db := by
  by_cases hlen : ∃ card, r.card = some card ∧ card.length = 32
  · obtain ⟨card, hcard, hlen⟩ := hlen
    rw [couponCredit_run hcard hlen]
    by_cases hc : ((countLogin r).run db).value = 0
    · simp [hc]
    · by_cases hd : ((countCoupons r card).run db).value = 0
      · simp [hc, hd]
      · rw [if_neg hc, if_neg hd]
        -- everything up to the claim went well, so the claim did not
        have hclaim : r.sqlError .claim = true := by
          by_contra hok
          obtain ⟨hcount, hknown⟩ : r.sqlError .countLogin = false ∧ db.countLogin r.username ≠ 0 := by
            simpa [countLogin] using hc
          obtain ⟨hcoupons, hmatch⟩ : r.sqlError .countCoupons = false ∧
              db.coupons.rows.countP (claimable card) ≠ 0 := by
            simpa [countCoupons] using hd
          obtain ⟨username, huser⟩ : ∃ username, r.username = some username := by
            refine Option.ne_none_iff_exists'.1 fun hnone => hknown ?_
            simp [hnone, Db.countLogin, Login.named]
          obtain ⟨k, hk⟩ := Option.ne_none_iff_exists'.1
            ((not_congr countP_claimable_eq_zero).1 hmatch)
          exact h card username k ⟨hcard, hlen, huser, huser ▸ hknown, hcount, hcoupons,
            by simpa using hok, hk⟩
        simp [redeem, claim, hclaim]
  · have hno : ∀ card, r.card = some card → card.length ≠ 32 :=
      fun card hcard hlen' => hlen ⟨card, hcard, hlen'⟩
    simp [couponCredit_run_of_length hno]

/-- The state after a claim that found a coupon of some value. -/
def afterClaim (r : Request) (card username : Str) (k f : Coupon) (db : Db) : Db :=
  let db := useCoupon k db
  let db := if r.sqlError .credit then db
    else creditAccount (some username) f.credit f.expire db
  if r.sqlError .record then db
  else db.insertRecord f.credit "coupon".toList username
    (some (card ++ "++".toList ++ decInt f.expire))

theorem afterClaim_coupons (r : Request) (card username : Str) (k f : Coupon) (db : Db) :
    (afterClaim r card username k f db).coupons = (useCoupon k db).coupons := by
  unfold afterClaim
  split <;> split <;> rfl

theorem afterClaim_login (r : Request) (card username : Str) (k f : Coupon) (db : Db) :
    (afterClaim r card username k f db).login =
      if r.sqlError .credit then db.login
      else (creditAccount (some username) f.credit f.expire db).login := by
  unfold afterClaim
  split <;> split <;> rfl

theorem afterClaim_records (r : Request) (card username : Str) (k f : Coupon) (db : Db) :
    (afterClaim r card username k f db).transactionsRecords =
      if r.sqlError .record then db.transactionsRecords
      else (topUp card username f.credit f.expire db).transactionsRecords := by
  unfold afterClaim
  split <;> split <;> rfl

theorem run_of_claims {k f : Coupon} (h : Claims db r card username k)
    (hf : found db card = some f) :
    ((couponCredit r).run db).value =
        (if r.sqlError .select = true ∨ f.credit = 0 then .fail failMsg else .success) ∧
      ((couponCredit r).run db).state =
        if r.sqlError .select = true ∨ f.credit = 0 then useCoupon k db
        else afterClaim r card username k f db := by
  have hcount : ((countLogin r).run db).value ≠ 0 := by
    simpa [countLogin, h.countLogin, h.hasUser] using h.known
  have hcoupons : ((countCoupons r card).run db).value ≠ 0 := by
    have hne : claimed db card ≠ none := by simp [h.claimed]
    rw [ne_eq, ← countP_claimable_eq_zero] at hne
    simpa [countCoupons, h.countCoupons] using hne
  have hselect := selected_useCoupon db card k
  rw [hf, Option.map_some] at hselect
  rw [couponCredit_run h.hasCard h.length, if_neg hcount, if_neg hcoupons]
  cases hsel : r.sqlError .select with
  | true => simp [redeem, claim, h.claim, selectCoupon, hsel, claimCoupon_eq h.claimed]
  | false =>
      by_cases hzero : f.credit = 0
      · simp [redeem, claim, h.claim, selectCoupon, hsel, claimCoupon_eq h.claimed, hselect, hzero]
      · simp only [redeem, claim, h.claim, selectCoupon, hsel, claimCoupon_eq h.claimed, hselect,
          hzero, credit, record, h.hasUser, afterClaim, Script.pure_eq_done, Script.bind_eq,
          Script.run_bind, Script.run_exec, Script.run_query, Script.run_modify, Script.run_done,
          Bool.false_eq_true, Bool.true_eq_false, Bool.not_eq_eq_eq_not, Bool.not_true,
          Option.getD_some, List.append_nil, or_self, and_self, ↓reduceIte]

end

/-! ## When it is all or nothing -/

/-- A used coupon shows in the table. -/
theorem useCoupon_coupons_ne {db : Db} {k : Coupon} (hk : k ∈ db.coupons.rows)
    (hstatus : k.status = some .N) : (useCoupon k db).coupons ≠ db.coupons := by
  intro h
  have hmem : use k ∈ db.coupons.rows := by
    rw [← h]
    exact mem_updateAll.2 ⟨k, hk, by simp⟩
  have hsame : use k = k := db.coupons.eq_of_key_eq hmem hk rfl
  have hused := congrArg Coupon.status hsame
  rw [hstatus] at hused
  simp [use] at hused

/-- Credit that was added to an account shows in the table. -/
theorem creditAccount_login_ne {db : Db} {username : Str} {amount expire : Int}
    (hamount : amount ≠ 0) (hknown : db.countLogin (some username) ≠ 0)
    (hcounted : ∀ u ∈ db.login.rows, Login.named (some username) u = true → u.credit.isSome) :
    (creditAccount (some username) amount expire db).login ≠ db.login := by
  intro h
  obtain ⟨u, hu, hnamed⟩ := List.countP_pos_iff.1 (Nat.pos_of_ne_zero hknown)
  obtain ⟨c, hc⟩ := Option.isSome_iff_exists.1 (hcounted u hu hnamed)
  have hmem : redeemed db.now amount expire u ∈ db.login.rows := by
    rw [← h]
    exact mem_updateAll.2 ⟨u, hu, by simp [hnamed, redeemed]⟩
  have hsame : redeemed db.now amount expire u = u :=
    eq_of_nodup_map db.login.unique hmem hu rfl
  have hcredit := congrArg Login.credit hsame
  simp [redeemed, Login.addCredit, hc, hamount] at hcredit

/-- What a whole redemption says about the statements after the claim. -/
theorem goesThrough_of_redeems {db : Db} {r : Request} {card username : Str} {k k' f : Coupon}
    (hclaims : Claims db r card username k) (hfits : FitsInt f.expire) (hfits' : FitsInt k.expire)
    (hcredit : f.credit ≠ 0)
    (hredeems : Redeems db (afterClaim r card username k f db) card username k') :
    r.sqlError .credit = false ∧ r.sqlError .record = false ∧ f.credit = k.credit ∧
      f.expire = k.expire := by
  obtain ⟨hmem, hstatus⟩ := claimed_unused hclaims.claimed
  have hcoupons : (useCoupon k db).coupons = (useCoupon k' db).coupons := by
    rw [← hredeems.coupons, afterClaim_coupons]
  obtain rfl := eq_of_useCoupon_eq hmem hstatus hredeems.mem hcoupons
  have hrecord : r.sqlError .record = false := by
    by_contra herror
    have hlength := congrArg List.length hredeems.record
    rw [afterClaim_records, if_pos (by simpa using herror)] at hlength
    simp [topUp, Db.insertRecord, creditAccount] at hlength
  have hrow := hredeems.record
  rw [afterClaim_records, if_neg (by simp [hrecord])] at hrow
  obtain ⟨hamount, hexpire⟩ := topUp_records_injective hclaims.length hfits hfits' hrow rfl
  refine ⟨?_, hrecord, hamount, hexpire⟩
  by_contra herror
  have hlogin := hredeems.login
  rw [afterClaim_login, if_pos (by simpa using herror)] at hlogin
  exact creditAccount_login_ne (hamount ▸ hcredit) hclaims.known hredeems.counted hlogin.symm

/-- **All or nothing.**  A request is all or nothing exactly if it goes through once it
has claimed a coupon. -/
theorem allOrNothing_iff (db : Db) (r : Request)
    (hfits : ∀ k ∈ db.coupons.rows, FitsInt k.expire) :
    AllOrNothing db r ↔ GoesThrough db r := by
  constructor
  · intro h card username k hclaims
    obtain ⟨f, hf⟩ := found_of_claimed hclaims.claimed
    obtain ⟨hmem, hstatus⟩ := claimed_unused hclaims.claimed
    obtain ⟨hvalue, hstate⟩ := run_of_claims hclaims hf
    rw [AllOrNothing, hvalue, hstate] at h
    by_cases hlost : r.sqlError .select = true ∨ f.credit = 0
    · have hcoupons := (h.1 (by simp [hlost])).1
      rw [if_pos hlost] at hcoupons
      exact absurd hcoupons (useCoupon_coupons_ne hmem hstatus)
    · obtain ⟨card', username', k', hcard, huser, hredeems⟩ := h.2 (by simp [hlost])
      obtain rfl : card = card' := Option.some.inj (hclaims.hasCard.symm.trans hcard)
      obtain rfl : username = username' := Option.some.inj (hclaims.hasUser.symm.trans huser)
      rw [if_neg hlost] at hredeems
      obtain ⟨hselect, hcredit⟩ := not_or.1 hlost
      obtain ⟨hadded, hrecord, hamount, hexpire⟩ :=
        goesThrough_of_redeems hclaims (hfits f (List.mem_of_find?_eq_some hf)) (hfits k hmem)
          hcredit hredeems
      refine ⟨by simpa using hselect, hadded, hrecord, fun f' hf' => ?_, hredeems.counted⟩
      obtain rfl : f = f' := Option.some.inj (hf.symm.trans hf')
      exact ⟨hcredit, hamount, hexpire⟩
  · intro h
    by_cases hclaims : ∃ card username k, Claims db r card username k
    · obtain ⟨card, username, k, hclaims⟩ := hclaims
      obtain ⟨f, hf⟩ := found_of_claimed hclaims.claimed
      obtain ⟨hmem, hstatus⟩ := claimed_unused hclaims.claimed
      obtain ⟨hvalue, hstate⟩ := run_of_claims hclaims hf
      obtain ⟨hselect, hcredit, hrecord, hfound, hcounted⟩ := h card username k hclaims
      obtain ⟨hzero, hamount, hexpire⟩ := hfound f hf
      have hgoes : ¬(r.sqlError .select = true ∨ f.credit = 0) := by simp [hselect, hzero]
      rw [AllOrNothing, hvalue, hstate, if_neg hgoes, if_neg hgoes]
      refine ⟨fun hne => absurd rfl hne, fun _ => ⟨card, username, k, hclaims.hasCard,
        hclaims.hasUser, hmem, hstatus, ?_, ?_, hcounted, ?_⟩⟩
      · exact afterClaim_coupons r card username k f db
      · simp [afterClaim_login, hcredit, hamount, hexpire]
      · simp [afterClaim_records, hrecord, hamount, hexpire]
    · have hnone : ∀ card username k, ¬Claims db r card username k :=
        fun card username k hc => hclaims ⟨card, username, k, hc⟩
      obtain ⟨hvalue, hstate⟩ := run_of_not_claims hnone
      rw [AllOrNothing, hstate]
      exact ⟨fun _ => ⟨rfl, rfl, rfl⟩, fun hsuccess => absurd hsuccess hvalue⟩

theorem allOrNothing_batch :
    AllOrNothing batchDb (request (printed (batchCoupon .N 2)) "bob".toList) := by
  refine (allOrNothing_iff _ _ (by unfold FitsInt; decide)).2 fun card username k h => ?_
  obtain rfl : printed (batchCoupon .N 2) = card := Option.some.inj h.hasCard
  obtain rfl : "bob".toList = username := Option.some.inj h.hasUser
  have hclaimed : claimed batchDb (printed (batchCoupon .N 2)) = some (batchCoupon .N 2) := by decide
  have hfound : found batchDb (printed (batchCoupon .N 2)) = some (batchCoupon .N 2) := by decide
  obtain rfl : batchCoupon .N 2 = k := Option.some.inj (hclaimed.symm.trans h.claimed)
  refine ⟨rfl, rfl, rfl, fun f hf => ?_, by decide⟩
  obtain rfl : batchCoupon .N 2 = f := Option.some.inj (hfound.symm.trans hf)
  decide

/-- The request for the unused card, whose `SELECT` of the coupon's value fails. -/
def unreadRequest : Request :=
  { request (printed (batchCoupon .N 2)) "bob".toList with
    sqlError := fun s => decide (s = .select) }

/-- The customer is told that the card is invalid, and the coupon is used up. -/
theorem unread_coupon_lost :
    ((couponCredit unreadRequest).run batchDb).value = .fail failMsg ∧
      ((couponCredit unreadRequest).run batchDb).state.coupons.rows.map (·.status) =
        [some .U, some .U] ∧
      ¬AllOrNothing batchDb unreadRequest := by
  have hvalue : ((couponCredit unreadRequest).run batchDb).value = .fail failMsg := by decide
  have hstate : ((couponCredit unreadRequest).run batchDb).state.coupons.rows.map (·.status) =
      [some .U, some .U] := by decide
  refine ⟨hvalue, hstate, fun h => ?_⟩
  have hcoupons := (h.1 (by simp [hvalue])).1
  rw [hcoupons] at hstate
  exact absurd hstate (by decide)

end ParDiff.Vouchers
