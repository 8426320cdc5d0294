import ParDiff.Vouchers.PrintedCard

/-!
# What one request accepts

A `coupon_credit.cgi` request that runs alone and without an SQL error.  Three of
its statements choose a coupon, each on its own: the count looks for any unused
match, the claim takes the first unused match, and the re-read takes the first
match of whatever status.  The pattern is the raw text of the customer, so a
match is not yet the coupon whose card was typed.
-/

namespace ParDiff.Vouchers

open Lib Lib.Text

/-- The request for `card` and `username`, without SQL errors. -/
def request (card username : Str) : Request := ⟨some card, some username, fun _ => false⟩

/-- The coupon that the claim takes. -/
def claimed (db : Db) (card : Str) : Option Coupon := db.coupons.rows.find? (claimable card)

/-- The coupon that the re-read finds. -/
def found (db : Db) (card : Str) : Option Coupon := db.coupons.rows.find? (carries card)

theorem use_id (k : Coupon) : (use k).id = k.id := rfl

/-- `UPDATE coupons SET status = 'U'` for exactly this coupon. -/
def useCoupon (k : Coupon) (db : Db) : Db :=
  { db with coupons := db.coupons.update (fun a => decide (a.id = k.id)) use use_id }

/-- Credit and days go to the account, and a record is written. -/
def topUp (card username : Str) (amount expire : Int) (db : Db) : Db :=
  (creditAccount (some username) amount expire db).insertRecord amount "coupon".toList username
    (some (card ++ "++".toList ++ decInt expire))

/-- The account after the coupon's `UPDATE login`. -/
def redeemed (now : Time) (amount expire : Int) (u : Login) : Login :=
  { u.addCredit amount with
    accountState := .ACTIVE
    expireAt := extendExpiry now expire u.expireAt }

theorem truthy_of_length {card : Str} (h : card.length = 32) : truthy (some card) = true := by
  match card, h with
  | a :: b :: rest, _ => simp [truthy]

theorem countP_claimable_eq_zero {db : Db} {card : Str} :
    db.coupons.rows.countP (claimable card) = 0 ↔ claimed db card = none := by
  simp [claimed]

theorem found_of_claimed {db : Db} {card : Str} {k : Coupon} (h : claimed db card = some k) :
    ∃ f, found db card = some f := by
  have hk : claimable card k = true := List.find?_some h
  rw [claimable, Bool.and_eq_true] at hk
  exact Option.isSome_iff_exists.1
    (List.find?_isSome.2 ⟨k, List.mem_of_find?_eq_some h, hk.2⟩)

theorem claimCoupon_eq {db : Db} {card : Str} {k : Coupon} (h : claimed db card = some k) :
    claimCoupon card db = useCoupon k db := by
  have hrows := updateFirst_eq_updateAll_key (f := use) db.coupons.nodup h
  unfold claimCoupon useCoupon
  congr 1
  ext1
  · exact hrows
  · rfl

theorem claimed_ids {db : Db} {card : Str} {k : Coupon} (h : claimed db card = some k) :
    ((db.coupons.rows.filter (claimable card)).map (·.id)).take 1 = [k.id] := by
  rw [claimed, ← List.head?_filter] at h
  obtain ⟨rest, hrest⟩ := List.head?_eq_some_iff.1 h
  simp [hrest]

theorem selected_useCoupon (db : Db) (card : Str) (k : Coupon) :
    ((useCoupon k db).coupons.rows.find? (carries card)).map (fun a => (a.credit, a.expire)) =
      (found db card).map fun a => (a.credit, a.expire) :=
  find?_updateAll (f := use) (fun _ => rfl) (fun _ => rfl) _

section Alone

variable {db : Db} {card username : Str} (hlen : card.length = 32)
  (huser : db.countLogin (some username) ≠ 0)

include hlen huser

theorem couponCredit_run_eq :
    (couponCredit (request card username)).run db =
      if claimed db card = none then ⟨.fail checkCardMsg, db, []⟩
      else (redeem (request card username) card).run db := by
  have hcount : (countLogin (request card username)).run db =
      ⟨db.countLogin (some username), db, []⟩ := by
    simp [countLogin, request]
  have hcoupons : (countCoupons (request card username) card).run db =
      ⟨db.coupons.rows.countP (claimable card), db, []⟩ := by
    simp [countCoupons, request]
  have hcard : (request card username).card = some card := rfl
  by_cases hnone : claimed db card = none
  · rw [if_pos hnone]
    rw [← countP_claimable_eq_zero] at hnone
    simp [couponCredit, hcard, truthy_of_length hlen, hlen, hcount, huser, hcoupons, hnone]
  · rw [if_neg hnone]
    rw [← countP_claimable_eq_zero] at hnone
    simp only [couponCredit, hcard, truthy_of_length hlen, Option.getD_some, hlen, Script.bind_eq,
      Script.run_bind, hcount, huser, hcoupons, hnone, ne_eq, not_true_eq_false, if_false,
      Bool.not_true, Bool.false_eq_true, List.nil_append, Script.pure_eq_done]

theorem couponCredit_run_unmatched (hnone : claimed db card = none) :
    (couponCredit (request card username)).run db = ⟨.fail checkCardMsg, db, []⟩ := by
  rw [couponCredit_run_eq hlen huser, if_pos hnone]

variable {k f : Coupon} (hk : claimed db card = some k) (hf : found db card = some f)

include hk hf

/-- A match without credit uses up the claimed coupon for nothing. -/
theorem couponCredit_run_worthless (hzero : f.credit = 0) :
    (couponCredit (request card username)).run db =
      ⟨.fail failMsg, useCoupon k db, [.couponClaimed card [k.id]]⟩ := by
  have hselect := selected_useCoupon db card k
  rw [hf, Option.map_some] at hselect
  rw [couponCredit_run_eq hlen huser, if_neg (by simp [hk])]
  simp [redeem, claim, selectCoupon, request, claimCoupon_eq hk, hselect, hzero, claimed_ids hk]

/-- Credit and days are those of the coupon that was found, and the coupon that is
used up is the one that was claimed. -/
theorem couponCredit_run_success (hcredit : f.credit ≠ 0) :
    (couponCredit (request card username)).run db =
      ⟨.success, topUp card username f.credit f.expire (useCoupon k db),
        [.couponClaimed card [k.id],
          .credited (.coupon card) username f.credit (db.countLogin (some username)),
          .recorded (.coupon card) username f.credit]⟩ := by
  have hselect := selected_useCoupon db card k
  rw [hf, Option.map_some] at hselect
  rw [couponCredit_run_eq hlen huser, if_neg (by simp [hk])]
  simp [redeem, claim, selectCoupon, credit, record, request, claimCoupon_eq hk, hselect,
    hcredit, claimed_ids hk, topUp]
  rfl

end Alone

theorem length_of_success {db : Db} {card username : Str}
    (h : ((couponCredit (request card username)).run db).value = .success) :
    card.length = 32 := by
  by_contra hlen
  have hcard : (request card username).card = some card := rfl
  rw [couponCredit, hcard] at h
  split at h
  · simp at h
  · simp [hlen] at h

/-- What a request that reports success has done. -/
theorem couponCredit_success {db : Db} {card username : Str}
    (huser : db.countLogin (some username) ≠ 0)
    (h : ((couponCredit (request card username)).run db).value = .success) :
    ∃ k f, claimed db card = some k ∧ found db card = some f ∧ f.credit ≠ 0 ∧
      ((couponCredit (request card username)).run db).state =
        topUp card username f.credit f.expire (useCoupon k db) := by
  have hlen := length_of_success h
  cases hk : claimed db card with
  | none => simp [couponCredit_run_unmatched hlen huser hk] at h
  | some k =>
      obtain ⟨f, hf⟩ := found_of_claimed hk
      by_cases hcredit : f.credit = 0
      · simp [couponCredit_run_worthless hlen huser hk hf hcredit] at h
      · exact ⟨k, f, rfl, hf, hcredit, by rw [couponCredit_run_success hlen huser hk hf hcredit]⟩

/-! ## Soundness of the card check -/

/-- If the request adds credit, `card` is the printed card of an unused coupon, up
to letter case; exactly that coupon is used up, and credit and days are its own. -/
def SoundCheck (db : Db) (card username : Str) : Prop :=
  ∀ amount rows, .credited (.coupon card) username amount rows ∈
      ((couponCredit (request card username)).run db).events →
    ∃ k ∈ db.coupons.rows, k.status = some .N ∧ lower card = lower (printed k) ∧
      ((couponCredit (request card username)).run db).state =
        topUp card username k.credit k.expire (useCoupon k db)

/-- Wherever credit is going to be added, the claimed coupon is the one whose card
was typed, and the coupon found has the same credit and days. -/
def FindsTyped (db : Db) (card : Str) : Prop :=
  ∀ k f, claimed db card = some k → found db card = some f → f.credit ≠ 0 →
    lower card = lower (printed k) ∧ f.credit = k.credit ∧ f.expire = k.expire

/-- The range of an `int(11)` column. -/
def FitsInt (z : Int) : Prop := -2 ^ 31 ≤ z ∧ z < 2 ^ 31

theorem length_decInt_le {z : Int} (h : FitsInt z) : (decInt z).length ≤ 11 := by
  obtain ⟨hlo, hhi⟩ := h
  cases z with
  | ofNat n =>
      have hn : n < 2 ^ 31 := by simpa using hhi
      exact (length_dec_le (k := 10) (by decide) (by omega)).trans (by decide)
  | negSucc n =>
      have hn : n + 1 < 10 ^ 10 := by omega
      exact Nat.succ_le_succ (length_dec_le (k := 10) (by decide) hn)

theorem claimed_unused {db : Db} {card : Str} {k : Coupon} (h : claimed db card = some k) :
    k ∈ db.coupons.rows ∧ k.status = some .N := by
  have hk : claimable card k = true := List.find?_some h
  rw [claimable, Bool.and_eq_true, decide_eq_true_eq] at hk
  exact ⟨List.mem_of_find?_eq_some h, hk.1⟩

/-- Which unused coupon was used up can be read off the table. -/
theorem eq_of_useCoupon_eq {db : Db} {k k' : Coupon} (hk : k ∈ db.coupons.rows)
    (hstatus : k.status = some .N) (hk' : k' ∈ db.coupons.rows)
    (h : (useCoupon k db).coupons = (useCoupon k' db).coupons) : k = k' := by
  have hmem : use k ∈ (useCoupon k' db).coupons.rows := by
    rw [← h]
    exact mem_updateAll.2 ⟨k, hk, by simp⟩
  obtain ⟨a, ha, heq⟩ := mem_updateAll.1 hmem
  by_cases hid : a.id = k'.id
  · have hak : a.id = k.id := by
      have := congrArg Coupon.id heq
      simpa [hid, use] using this.symm
    exact db.coupons.eq_of_key_eq hk hk' (hak.symm.trans hid)
  · have hu : use k = a := by simpa [hid] using heq
    have hid : (use k).id = a.id := congrArg Coupon.id hu
    have hak : k = a := db.coupons.eq_of_key_eq hk ha hid
    have hused : (use k).status = k.status := by rw [hu, ← hak]
    rw [hstatus] at hused
    simp [use] at hused

/-- Credit and days of a top-up can be read off its record. -/
theorem topUp_records_injective {card username : Str} (hlen : card.length = 32) {a a' e e' : Int}
    (he : FitsInt e) (he' : FitsInt e') {db db' : Db}
    (h : (topUp card username a e db).transactionsRecords =
      (topUp card username a' e' db').transactionsRecords)
    (hrecords : db.transactionsRecords = db'.transactionsRecords) : a = a' ∧ e = e' := by
  simp only [topUp, Db.insertRecord, creditAccount, hrecords, List.append_cancel_left_eq,
    List.cons.injEq, TransactionsRecord.mk.injEq, Option.some.injEq, Option.map_some] at h
  obtain ⟨⟨hamount, -, -, -, hnote⟩, -⟩ := h
  have hshort : ∀ {z : Int}, FitsInt z → (card ++ "++".toList ++ decInt z).length ≤ 2000 := by
    intro z hz
    have := length_decInt_le hz
    simp [hlen]
    omega
  rw [List.take_of_length_le (hshort he), List.take_of_length_le (hshort he'),
    List.append_cancel_left_eq] at hnote
  exact ⟨hamount, decInt_injective hnote⟩

theorem findsTyped_of_soundCheck {db : Db} {card username : Str} (hlen : card.length = 32)
    (huser : db.countLogin (some username) ≠ 0) (hfits : ∀ k ∈ db.coupons.rows, FitsInt k.expire)
    (h : SoundCheck db card username) : FindsTyped db card := by
  intro k f hk hf hcredit
  obtain ⟨hmem, hstatus⟩ := claimed_unused hk
  have hrun := couponCredit_run_success hlen huser hk hf hcredit
  rw [SoundCheck, hrun] at h
  obtain ⟨k', hk', -, hprinted, hstate⟩ :=
    h f.credit (db.countLogin (some username)) (by simp)
  have hcoupons : (topUp card username f.credit f.expire (useCoupon k db)).coupons =
      (topUp card username k'.credit k'.expire (useCoupon k' db)).coupons :=
    congrArg Db.coupons hstate
  obtain ⟨hamount, hexpire⟩ := topUp_records_injective hlen
    (hfits f (List.mem_of_find?_eq_some hf)) (hfits k' hk')
    (congrArg Db.transactionsRecords hstate) rfl
  obtain rfl := eq_of_useCoupon_eq hmem hstatus hk' hcoupons
  exact ⟨hprinted, hamount, hexpire⟩

theorem soundCheck_of_findsTyped {db : Db} {card username : Str} (hlen : card.length = 32)
    (huser : db.countLogin (some username) ≠ 0) (h : FindsTyped db card) :
    SoundCheck db card username := by
  intro amount rows hevent
  cases hk : claimed db card with
  | none =>
      rw [couponCredit_run_unmatched hlen huser hk] at hevent
      simp at hevent
  | some k =>
      obtain ⟨f, hf⟩ := found_of_claimed hk
      obtain ⟨hmem, hstatus⟩ := claimed_unused hk
      by_cases hcredit : f.credit = 0
      · rw [couponCredit_run_worthless hlen huser hk hf hcredit] at hevent
        simp at hevent
      · obtain ⟨hprinted, hamount, hexpire⟩ := h k f hk hf hcredit
        refine ⟨k, hmem, hstatus, hprinted, ?_⟩
        rw [couponCredit_run_success hlen huser hk hf hcredit, hamount, hexpire]

/-- Cards as they are printed, typed in either letter case, are safe. -/
theorem findsTyped_of_printed {db : Db} (hdb : PrintedCards db.coupons) {card : Str}
    (hcard : IsHexCard card) : FindsTyped db card := by
  intro k f hk hf _
  obtain ⟨hmem, -⟩ := claimed_unused hk
  have hcarries : carries card k = true := by
    have hclaimable : claimable card k = true := List.find?_some hk
    rw [claimable, Bool.and_eq_true] at hclaimable
    exact hclaimable.2
  obtain rfl : f = k := hdb.carries_unique hcard (List.mem_of_find?_eq_some hf) hmem
    (List.find?_some hf) hcarries
  have htoken := hdb.token_hex f hmem
  have hpass := hdb.pass_hex f hmem
  have hhex : ∀ c ∈ printed f, c ∈ hexDigits := by
    intro c hc
    rcases List.mem_append.1 hc with hc | hc
    · exact htoken.2 c (List.mem_of_mem_take hc)
    · exact hpass.2 c (List.mem_of_mem_drop (List.mem_of_mem_take hc))
  refine ⟨?_, rfl, rfl⟩
  rw [lower_of_hex hhex, (carries_iff hcard htoken hpass).1 hcarries]

/-- **Soundness of the card check.**  For every table, every text of 32 characters
and every existing account, the request is sound exactly when its three choices of
a coupon come to the one whose card was typed. -/
theorem soundCheck_iff (db : Db) (card username : Str) (hlen : card.length = 32)
    (huser : db.countLogin (some username) ≠ 0)
    (hfits : ∀ k ∈ db.coupons.rows, FitsInt k.expire) :
    SoundCheck db card username ↔ FindsTyped db card := by
  constructor
  · exact findsTyped_of_soundCheck hlen huser hfits
  · exact soundCheck_of_findsTyped hlen huser

/-! ## A batch of two coupons -/

def batchCoupon (status : CouponStatus) (id : Nat) : Coupon :=
  ⟨id, some status, 1048576, List.replicate 32 (Nat.digitChar id),
    List.replicate 32 (Nat.digitChar (id + 2)), 30⟩

theorem batchCoupon_id (status : CouponStatus) (id : Nat) : (batchCoupon status id).id = id := rfl

/-- The first coupon is used, the second is not, and there is one account. -/
def batchDb : Db :=
  { Db.empty 1 with
    coupons := (Table.empty.insert (batchCoupon .U) (batchCoupon_id .U)).insert (batchCoupon .N)
      (batchCoupon_id .N)
    login := .single (.holding "bob".toList 0) }

/-- A card that nobody printed. -/
def anyCard : Str := List.replicate 32 '%'

/-- Thirty-two wildcards match every coupon: bob is credited, and no coupon has
that card. -/
theorem soundCheck_wildcards :
    PrintedCards batchDb.coupons ∧ anyCard.length = 32 ∧
      batchDb.countLogin (some "bob".toList) ≠ 0 ∧
      ¬SoundCheck batchDb anyCard "bob".toList := by
  refine ⟨⟨by decide, by decide, by decide⟩, by decide, by decide, ?_⟩
  intro h
  obtain ⟨k, hk, -, hprinted, -⟩ := h 1048576 1 (by decide)
  have hnone : ∀ k ∈ batchDb.coupons.rows, lower anyCard ≠ lower (printed k) := by decide
  exact hnone k hk hprinted

theorem soundCheck_iff_batch :
    SoundCheck batchDb (printed (batchCoupon .N 2)) "bob".toList :=
  (soundCheck_iff batchDb _ _ (by decide) (by decide) (by unfold FitsInt; decide)).2
    (findsTyped_of_printed ⟨by decide, by decide, by decide⟩ (by decide))

end ParDiff.Vouchers
