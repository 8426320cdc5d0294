import ParDiff.Lib.Run
import ParDiff.Vouchers.CardCheck

/-!
# `scripts/generate-coupons.pl`

Every pass of the generator's loop inserts a coupon and prints its card: half of
one digest and half of another.  Cards are redeemed in between.  `md5_hex` is any
function to digests, and the salts are whatever `rand` gave.

The credit is a number of megabytes.  Perl multiplies it and binds the text of the
product, of at most 15 digits unless it is an integer, and the `bigint` rounds it.
-/

namespace ParDiff.Vouchers

open Lib Lib.Text

/-- The arguments that decide what a coupon is worth, and how many there are. -/
structure Generation where
  credit : Str
  amount : Str
  expireDays : Str
  deriving DecidableEq, Repr

namespace Generation

/-- `$credit = $credit * 1024 * 1024`. -/
def bytes (g : Generation) : Perl.Number := megabytes (Perl.numberOf (some g.credit))

/-- `coupons.credit`, a `bigint(20)`. -/
def storedCredit (g : Generation) : Int := MySql.bigintOfText g.bytes.text

/-- `coupons.expire`, an `int(11)`. -/
def storedDays (g : Generation) : Int := clampInt (roundAway (numPrefix g.expireDays))

/-- Whole megabytes are stored as they are. -/
theorem storedCredit_of_whole {g : Generation} {n : Nat} (hcredit : g.credit = dec n)
    (hn : n < 2 ^ 43) : g.storedCredit = n * 1024 * 1024 := by
  have htext : dec n = decInt n := rfl
  rw [storedCredit, bytes, hcredit, htext, megabytes_decInt (by omega), Perl.Number.text,
    MySql.bigintOfText_decInt (by omega)]

end Generation

section

variable (md5Hex : Str → Str)

def tokenOf (salt : Str) : Str := md5Hex salt

def passOf (salt : Str) : Str := md5Hex (tokenOf md5Hex salt ++ salt)

/-- `substr($token, 0, 16), substr($pass, 16, 16)`. -/
def cardOf (salt : Str) : Str :=
  (tokenOf md5Hex salt).take 16 ++ ((passOf md5Hex salt).drop 16).take 16

/-- `INSERT INTO coupons (status, credit, generator, token, pass, salt, ts, expire, notes)`. -/
def generated (g : Generation) (salt : Str) (id : Nat) : Coupon :=
  ⟨id, some .N, g.storedCredit, tokenOf md5Hex salt, passOf md5Hex salt, g.storedDays⟩

theorem generated_id (g : Generation) (salt : Str) (id : Nat) :
    (generated md5Hex g salt id).id = id := rfl

/-- The database, the cards with the generation each was printed for, and the cards
that were redeemed. -/
structure Issue where
  db : Db
  printed : List (Str × Generation)
  redeemed : List Str

inductive Op
  /-- One pass of the generator's loop. -/
  | pass (g : Generation) (salt : Str)
  /-- One complete `coupon_credit.cgi` request. -/
  | redeem (card username : Str)

/-- The passes of one execution of the generator. -/
def Generation.passes (g : Generation) (salts : Nat → Str) : List Op :=
  (List.range (intPrefix g.amount).toNat).map fun i => .pass g (salts i)

def Issue.step (s : Issue) : Op → Issue
  | .pass g salt =>
      { s with
        db := { s.db with
          coupons := s.db.coupons.insert (generated md5Hex g salt) (generated_id md5Hex g salt) }
        printed := s.printed ++ [(cardOf md5Hex salt, g)] }
  | .redeem card username =>
      { s with
        db := (couponCredit (request card username)).final s.db
        redeemed := s.redeemed ++ [card] }

/-- The account exists, and its credit is not `NULL`. -/
def HasAccount (db : Db) (username : Str) : Prop :=
  db.countLogin (some username) ≠ 0 ∧
    ∀ u ∈ db.login.rows, Login.named (some username) u = true → u.credit.isSome

/-- A new card of some worth is printed, or a printed card is redeemed for an account. -/
def Issue.Ok (s : Issue) : Op → Prop
  | .pass g salt =>
      0 < numPrefix g.credit ∧ g.storedCredit ≠ 0 ∧ cardOf md5Hex salt ∉ s.printed.map (·.1)
  | .redeem card username => card ∈ s.printed.map (·.1) ∧ HasAccount s.db username

end

/-- No coupon yet. -/
def Issue.start (db : Db) : Issue := ⟨db, [], []⟩

/-! ## The invariant -/

/-- Every printed card has its row, with what its generation was given, and the row is
unused until the card is redeemed. -/
structure Issue.Inv (s : Issue) : Prop where
  cards : PrintedCards s.db.coupons
  rows : s.db.coupons.rows.map (fun k => (Vouchers.printed k, k.credit, k.expire)) =
    s.printed.map fun p => (p.1, p.2.storedCredit, p.2.storedDays)
  status : ∀ k ∈ s.db.coupons.rows,
    k.status = some (if Vouchers.printed k ∈ s.redeemed then .U else .N)
  worth : ∀ card g, (card, g) ∈ s.printed → g.storedCredit ≠ 0
  known : ∀ card ∈ s.redeemed, card ∈ s.printed.map (·.1)

theorem find?_eq_some_of_unique {α : Type} {p : α → Bool} {l : List α} {a : α} (ha : a ∈ l)
    (h : ∀ b ∈ l, p b = true ↔ b = a) : l.find? p = some a := by
  obtain ⟨b, hb⟩ := Option.isSome_iff_exists.1 (List.find?_isSome.2 ⟨a, ha, (h a ha).2 rfl⟩)
  rw [hb, (h b (List.mem_of_find?_eq_some hb)).1 (List.find?_some hb)]

theorem hex_printed {k : Coupon} (htoken : IsMd5Hex k.token) (hpass : IsMd5Hex k.pass) :
    (printed k).length = 32 ∧ ∀ c ∈ printed k, c ∈ hexDigits := by
  refine ⟨by simp [printed, htoken.1, hpass.1], fun c hc => ?_⟩
  rcases List.mem_append.1 hc with hc | hc
  · exact htoken.2 c (List.mem_of_mem_take hc)
  · exact hpass.2 c (List.mem_of_mem_drop (List.mem_of_mem_take hc))

namespace Issue.Inv

variable {s : Issue} (h : s.Inv)

include h

/-- A printed card matches its own coupon and no other. -/
theorem exists_coupon {card : Str} {g : Generation} (hcard : (card, g) ∈ s.printed) :
    ∃ k ∈ s.db.coupons.rows, Vouchers.printed k = card ∧ k.credit = g.storedCredit ∧
      k.expire = g.storedDays ∧ ∀ k' ∈ s.db.coupons.rows, carries card k' = true ↔ k' = k := by
  have hmem : (card, g.storedCredit, g.storedDays) ∈
      s.db.coupons.rows.map (fun k => (Vouchers.printed k, k.credit, k.expire)) := by
    rw [h.rows]
    exact List.mem_map.2 ⟨_, hcard, rfl⟩
  obtain ⟨k, hk, heq⟩ := List.mem_map.1 hmem
  obtain ⟨rfl, hcredit, hexpire⟩ : Vouchers.printed k = card ∧ k.credit = g.storedCredit ∧
      k.expire = g.storedDays := by simpa using heq
  obtain ⟨hlen, hhex⟩ := hex_printed (h.cards.token_hex k hk) (h.cards.pass_hex k hk)
  have hlower := lower_of_hex hhex
  have hhexcard : IsHexCard (Vouchers.printed k) := by
    refine ⟨hlen, fun c hc => ?_⟩
    have hc' : c.toLower ∈ lower (Vouchers.printed k) := List.mem_map_of_mem hc
    rw [hlower] at hc'
    exact hhex _ hc'
  refine ⟨k, hk, rfl, hcredit, hexpire, fun k' hk' => ?_⟩
  rw [carries_iff hhexcard (h.cards.token_hex k' hk') (h.cards.pass_hex k' hk'), hlower]
  constructor
  · exact eq_of_nodup_map h.cards.distinct hk' hk
  · rintro rfl
    rfl

/-- What a request with a printed card does. -/
theorem redeem_run {card : Str} {g : Generation} (hcard : (card, g) ∈ s.printed) {k : Coupon}
    (hk : k ∈ s.db.coupons.rows) (hprinted : Vouchers.printed k = card)
    (hcarries : ∀ k' ∈ s.db.coupons.rows, carries card k' = true ↔ k' = k)
    (hcredit : k.credit = g.storedCredit) {username : Str} (huser : HasAccount s.db username) :
    (card ∉ s.redeemed →
      ((couponCredit (request card username)).run s.db).value = .success ∧
        ((couponCredit (request card username)).run s.db).state =
          topUp card username k.credit k.expire (useCoupon k s.db)) ∧
      (card ∈ s.redeemed →
        ((couponCredit (request card username)).run s.db).value = .fail checkCardMsg ∧
          ((couponCredit (request card username)).run s.db).state = s.db) := by
  have hlen : card.length = 32 :=
    hprinted ▸ (hex_printed (h.cards.token_hex k hk) (h.cards.pass_hex k hk)).1
  have hstatus := h.status k hk
  rw [hprinted] at hstatus
  have hfound : found s.db card = some k := find?_eq_some_of_unique hk hcarries
  constructor
  · intro hnew
    have hclaimed : claimed s.db card = some k := by
      refine find?_eq_some_of_unique hk fun k' hk' => ?_
      rw [claimable, Bool.and_eq_true, decide_eq_true_eq, hcarries k' hk']
      constructor
      · exact And.right
      · rintro rfl
        exact ⟨by simpa [hnew] using hstatus, rfl⟩
    have hworth : k.credit ≠ 0 := by
      rw [hcredit]
      exact h.worth card g hcard
    rw [couponCredit_run_success hlen huser.1 hclaimed hfound hworth]
    exact ⟨rfl, rfl⟩
  · intro hold
    have hclaimed : claimed s.db card = none := by
      refine List.find?_eq_none.2 fun k' hk' => ?_
      rw [claimable, Bool.and_eq_true, decide_eq_true_eq, hcarries k' hk']
      rintro ⟨hunused, rfl⟩
      simp [hold, hunused] at hstatus
    rw [couponCredit_run_unmatched hlen huser.1 hclaimed]
    exact ⟨rfl, rfl⟩

end Issue.Inv

/-! ## Every run -/

section

variable {md5Hex : Str → Str}

theorem Issue.Inv.map_printed {s : Issue} (h : s.Inv) :
    s.db.coupons.rows.map Vouchers.printed = s.printed.map (·.1) := by
  have hrows := congrArg (List.map Prod.fst) h.rows
  simpa [Function.comp_def] using hrows

theorem Issue.Inv.pass (hmd5 : ∀ s, IsMd5Hex (md5Hex s)) {s : Issue} (h : s.Inv)
    {g : Generation} {salt : Str} (hok : s.Ok md5Hex (.pass g salt)) :
    (s.step md5Hex (.pass g salt)).Inv := by
  obtain ⟨-, hworth, hnew⟩ := hok
  have hprinted : ∀ id, Vouchers.printed (generated md5Hex g salt id) = cardOf md5Hex salt :=
    fun _ => rfl
  have hrow : ∀ k ∈ (s.step md5Hex (.pass g salt)).db.coupons.rows,
      k ∈ s.db.coupons.rows ∨ k = generated md5Hex g salt s.db.coupons.auto := by
    intro k hk
    simpa [Issue.step] using hk
  refine ⟨⟨?_, ?_, ?_⟩, ?_, ?_, ?_, ?_⟩
  · intro k hk
    rcases hrow k hk with hk | rfl
    · exact h.cards.token_hex k hk
    · exact hmd5 _
  · intro k hk
    rcases hrow k hk with hk | rfl
    · exact h.cards.pass_hex k hk
    · exact hmd5 _
  · simp only [Issue.step, Table.insert_rows, List.map_append, List.map_cons, List.map_nil]
    refine List.nodup_append.2 ⟨h.cards.distinct, by simp, ?_⟩
    rintro c hc d hd rfl
    rw [List.mem_singleton.1 hd, h.map_printed] at hc
    exact hnew hc
  · simp only [Issue.step, Table.insert_rows, List.map_append, h.rows, List.map_cons, List.map_nil,
      hprinted]
    rfl
  · intro k hk
    rcases hrow k hk with hk | rfl
    · exact h.status k hk
    · have hunredeemed : cardOf md5Hex salt ∉ s.redeemed := fun hmem => hnew (h.known _ hmem)
      rw [hprinted]
      exact (congrArg some (if_neg hunredeemed)).symm
  · intro card g' hmem
    rcases List.mem_append.1 hmem with hmem | hmem
    · exact h.worth card g' hmem
    · obtain ⟨-, rfl⟩ := Prod.mk.inj (List.mem_singleton.1 hmem)
      exact hworth
  · intro card hmem
    simp only [Issue.step, List.map_append, List.mem_append]
    exact .inl (h.known card hmem)

/-- The rows after a coupon has been used. -/
theorem mem_useCoupon {db : Db} {k a : Coupon} (hk : k ∈ db.coupons.rows)
    (ha : a ∈ (Vouchers.useCoupon k db).coupons.rows) :
    ∃ b ∈ db.coupons.rows, a = if b = k then use b else b := by
  obtain ⟨b, hb, rfl⟩ := mem_updateAll.1 ha
  refine ⟨b, hb, ?_⟩
  by_cases hid : b = k
  · simp [hid]
  · have hne : b.id ≠ k.id := fun heq => hid (db.coupons.eq_of_key_eq hb hk heq)
    simp [hid, hne]

/-- A used coupon keeps its card and its worth. -/
theorem Issue.Inv.useCoupon {s : Issue} (h : s.Inv) {k : Coupon} (hk : k ∈ s.db.coupons.rows)
    {db : Db} (hdb : db.coupons = (Vouchers.useCoupon k s.db).coupons) :
    (Issue.mk db s.printed (s.redeemed ++ [Vouchers.printed k])).Inv := by
  have hrows : db.coupons.rows =
      updateAll (fun a => decide (a.id = k.id)) use s.db.coupons.rows := by rw [hdb]; rfl
  have hmap : ∀ {β : Type} (f : Coupon → β), (∀ a, f (use a) = f a) →
      db.coupons.rows.map f = s.db.coupons.rows.map f := by
    intro β f hf
    rw [hrows, map_updateAll fun a _ => hf a]
  have hmem : ∀ a ∈ db.coupons.rows, ∃ b ∈ s.db.coupons.rows, a = if b = k then use b else b :=
    fun a ha => mem_useCoupon hk (hdb ▸ ha)
  refine ⟨⟨?_, ?_, ?_⟩, ?_, ?_, h.worth, ?_⟩
  · intro a ha
    obtain ⟨b, hb, rfl⟩ := hmem a ha
    have := h.cards.token_hex b hb
    split <;> exact this
  · intro a ha
    obtain ⟨b, hb, rfl⟩ := hmem a ha
    have := h.cards.pass_hex b hb
    split <;> exact this
  · rw [hmap Vouchers.printed fun _ => rfl]
    exact h.cards.distinct
  · rw [hmap _ fun _ => rfl]
    exact h.rows
  · intro a ha
    obtain ⟨b, hb, rfl⟩ := hmem a ha
    by_cases hbk : b = k
    · subst hbk
      simp [use, Vouchers.printed]
    · have hne : Vouchers.printed b ≠ Vouchers.printed k :=
        fun heq => hbk (eq_of_nodup_map h.cards.distinct hb hk heq)
      simp [hbk, h.status b hb, hne]
  · intro card hcard
    rcases List.mem_append.1 hcard with hcard | hcard
    · exact h.known card hcard
    · rw [List.mem_singleton.1 hcard]
      rw [← h.map_printed]
      exact List.mem_map_of_mem hk

/-- Using a coupon again changes nothing. -/
theorem useCoupon_of_used {db : Db} {k : Coupon} (hk : k ∈ db.coupons.rows)
    (hused : k.status = some .U) : (Vouchers.useCoupon k db).coupons = db.coupons := by
  have hsame : use k = k := by
    rw [use, ← hused]
  ext1
  · change updateAll _ _ _ = _
    unfold updateAll
    conv_rhs => rw [← List.map_id db.coupons.rows]
    refine List.map_congr_left fun a ha => ?_
    by_cases hid : a.id = k.id
    · obtain rfl := db.coupons.eq_of_key_eq ha hk hid
      simp [hsame]
    · simp [hid]
  · rfl

theorem Issue.Inv.redeem {s : Issue} (h : s.Inv) {card username : Str}
    (hok : s.Ok md5Hex (.redeem card username)) :
    (s.step md5Hex (.redeem card username)).Inv := by
  obtain ⟨hcard, huser⟩ := hok
  obtain ⟨⟨_, g⟩, hmem, rfl⟩ := List.mem_map.1 hcard
  obtain ⟨k, hk, rfl, hcredit, -, hcarries⟩ := h.exists_coupon hmem
  obtain ⟨hfirst, hlater⟩ := h.redeem_run hmem hk rfl hcarries hcredit huser
  by_cases hold : Vouchers.printed k ∈ s.redeemed
  · refine h.useCoupon hk ?_
    have hused : k.status = some .U := by simpa [hold] using h.status k hk
    rw [Script.final, (hlater hold).2, useCoupon_of_used hk hused]
  · refine h.useCoupon hk ?_
    rw [Script.final, (hfirst hold).2]
    rfl

theorem Issue.inv_run (hmd5 : ∀ s, IsMd5Hex (md5Hex s)) {db : Db} (hempty : db.coupons.rows = [])
    {ops : List Op} (hops : Along (Issue.step md5Hex) (Issue.Ok md5Hex) (.start db) ops) :
    (ops.foldl (Issue.step md5Hex) (.start db)).Inv := by
  refine hops.invariant (fun s op hs hok => ?_)
    ⟨⟨?_, ?_, ?_⟩, ?_, ?_, ?_, ?_⟩
  · cases op with
    | pass g salt => exact hs.pass hmd5 hok
    | redeem card username => exact hs.redeem hok
  all_goals simp [Issue.start, hempty]

/-- **Printed cards.**  After any passes of the generator and any redemptions, a printed
card matches exactly its own coupon.  Its first redemption succeeds, adds what the
column made of the given credit, and the days, and touches no other coupon; every
later one fails and changes nothing. -/
theorem printed_cards_redeemable (hmd5 : ∀ s, IsMd5Hex (md5Hex s)) {db : Db}
    (hempty : db.coupons.rows = []) {ops : List Op}
    (hops : Along (Issue.step md5Hex) (Issue.Ok md5Hex) (.start db) ops) {s : Issue}
    (hs : ops.foldl (Issue.step md5Hex) (.start db) = s) {card : Str} {g : Generation}
    (hcard : (card, g) ∈ s.printed) :
    ∃ k ∈ s.db.coupons.rows, printed k = card ∧ k.credit = g.storedCredit ∧
      k.expire = g.storedDays ∧ (∀ k' ∈ s.db.coupons.rows, carries card k' = true ↔ k' = k) ∧
      ∀ username, HasAccount s.db username →
        (card ∉ s.redeemed →
          ((couponCredit (request card username)).run s.db).value = .success ∧
            ((couponCredit (request card username)).run s.db).state =
              topUp card username g.storedCredit g.storedDays (useCoupon k s.db)) ∧
        (card ∈ s.redeemed →
          ((couponCredit (request card username)).run s.db).value ≠ .success ∧
            ((couponCredit (request card username)).run s.db).state = s.db) ∧
        ∀ k' ∈ s.db.coupons.rows, k' ≠ k →
          k' ∈ ((couponCredit (request card username)).run s.db).state.coupons.rows := by
  have h : s.Inv := hs ▸ Issue.inv_run hmd5 hempty hops
  obtain ⟨k, hk, hprinted, hcredit, hdays, hcarries⟩ := h.exists_coupon hcard
  refine ⟨k, hk, hprinted, hcredit, hdays, hcarries, fun username huser => ?_⟩
  obtain ⟨hfirst, hlater⟩ := h.redeem_run hcard hk hprinted hcarries hcredit huser
  rw [hcredit, hdays] at hfirst
  refine ⟨hfirst, fun hold => ⟨by simp [(hlater hold).1], (hlater hold).2⟩, fun k' hk' hne => ?_⟩
  by_cases hold : card ∈ s.redeemed
  · rw [(hlater hold).2]
    exact hk'
  · rw [(hfirst hold).2]
    have hid : k'.id ≠ k.id := fun heq => hne (s.db.coupons.eq_of_key_eq hk' hk heq)
    exact mem_updateAll.2 ⟨k', hk', by simp [hid]⟩

end

/-! ## One card -/

/-- One digest will do for one card. -/
def anyDigest (_ : Str) : Str := List.replicate 32 'a'

def emptyDb : Db := { Db.empty 1 with login := .single (.holding "bob".toList 0) }

/-- One coupon of five megabytes, and one of three tenths of a megabyte. -/
def wholeGeneration : Generation := ⟨"5".toList, "1".toList, "30".toList⟩

def partGeneration : Generation := ⟨"0.3".toList, "1".toList, "30".toList⟩

def oneCard (g : Generation) : Issue :=
  (g.passes fun _ => "salt".toList).foldl (Issue.step anyDigest) (.start emptyDb)

theorem isMd5Hex_anyDigest (s : Str) : IsMd5Hex (anyDigest s) := by
  change IsMd5Hex (List.replicate 32 'a')
  decide

theorem five_megabytes_redeemable :
    wholeGeneration.storedCredit = 5 * 1024 * 1024 ∧
      ∃ k, ((couponCredit (request (anyDigest []) "bob".toList)).run
          (oneCard wholeGeneration).db).value = .success ∧
        ((couponCredit (request (anyDigest []) "bob".toList)).run
          (oneCard wholeGeneration).db).state =
            topUp (anyDigest []) "bob".toList wholeGeneration.storedCredit
              wholeGeneration.storedDays (useCoupon k (oneCard wholeGeneration).db) := by
  have hops : Along (Issue.step anyDigest) (Issue.Ok anyDigest) (.start emptyDb)
      (wholeGeneration.passes fun _ => "salt".toList) :=
    ⟨⟨by decide +kernel, by decide +kernel, by decide⟩, trivial⟩
  have hprinted : (anyDigest [], wholeGeneration) ∈ (oneCard wholeGeneration).printed := by decide
  obtain ⟨k, -, -, -, -, -, hredeem⟩ := printed_cards_redeemable isMd5Hex_anyDigest rfl hops rfl
    hprinted
  obtain ⟨hfirst, -⟩ := hredeem "bob".toList (by unfold HasAccount; decide)
  exact ⟨by decide +kernel, k, hfirst (by decide)⟩

/-- Three tenths of a megabyte are 314572.8 bytes; the card adds 314573. -/
theorem part_of_byte_rounded :
    Along (Issue.step anyDigest) (fun s op => match op with
        | .pass g salt => 0 < numPrefix g.credit ∧ cardOf anyDigest salt ∉ s.printed.map (·.1)
        | .redeem _ _ => True) (.start emptyDb) (partGeneration.passes fun _ => "salt".toList) ∧
      (anyDigest [], partGeneration) ∈ (oneCard partGeneration).printed ∧
      ((couponCredit (request (anyDigest []) "bob".toList)).run
        (oneCard partGeneration).db).state.login.rows.map (·.credit) = [some 314573] ∧
      (314573 : Rat) ≠ 0 + numPrefix partGeneration.credit * 1024 * 1024 := by
  refine ⟨⟨⟨by decide +kernel, by decide⟩, trivial⟩, by decide, ?_, by decide +kernel⟩
  decide +kernel

end ParDiff.Vouchers
