import ParDiff.Lib.Interleave
import ParDiff.Vouchers.PrintedCard

/-!
# A card is redeemed at most once, unless a claim finds nothing

Any number of requests carry the same card, and their statements interleave in
any order.  The claim `UPDATE coupons … WHERE status = 'N' …` is a
compare-and-set, but the script takes its result for true even when it matched
no row.  So the guarantee holds exactly as long as no request executes the
claim in a state without a claimable coupon.
-/

namespace ParDiff.Vouchers

open Lib Lib.Text

def isClaimed : Event → Bool
  | .couponClaimed _ _ => true
  | _ => false

def isCredited : Event → Bool
  | .credited _ _ _ _ => true
  | _ => false

/-- Sum of `login.credit`, `NULL` counting as zero. -/
def totalCredit (db : Db) : Int := (db.login.rows.map fun u => u.credit.getD 0).sum

/-- Sum of the credits of the coupons whose status moved from `N` to `U`. -/
def movedCredit (db db' : Db) : Int :=
  ((db.coupons.rows.filter fun k =>
    decide (k.status = some .N) && db'.coupons.rows.any fun k' =>
      decide (k'.id = k.id) && decide (k'.status = some .U)).map (·.credit)).sum

section

variable {ι : Type} [DecidableEq ι]

/-- The requests, all at their start. -/
def requests (db : Db) (reqs : ι → Request) : Config ι Db Event Page :=
  Config.init db fun i => couponCredit (reqs i)

/-- At most one request has executed the statement that adds credit, and all
the credit added is covered by coupons that became used. -/
def RedeemedAtMostOnce (db : Db) (c : Config ι Db Event Page) : Prop :=
  c.log.countP isCredited ≤ 1 ∧
    ((∀ k ∈ db.coupons.rows, 0 ≤ k.credit) →
      totalCredit c.state - totalCredit db ≤ movedCredit db c.state)

/-- If the statement is a claim, there is a claimable coupon before it. -/
def claimFinds (db : Db) : Event → Bool
  | .couponClaimed card _ => db.coupons.rows.any (claimable card)
  | _ => true

/-- No request executes its claim in a state without a claimable coupon. -/
def ClaimFindsCoupon (g : Shared ι Db Event) (_ : Turn ι Nat) (es : List (ι × Event)) : Prop :=
  ∀ e ∈ es, claimFinds g.state e.2 = true

instance (g : Shared ι Db Event) (a : Turn ι Nat) (es : List (ι × Event)) :
    Decidable (ClaimFindsCoupon g a es) :=
  inferInstanceAs (Decidable (∀ e ∈ es, claimFinds g.state e.2 = true))

/-- Credit of the coupon that carries the card. -/
def cardCredit (db : Db) (card : Str) : Int :=
  ((db.coupons.rows.find? (carries card)).map (·.credit)).getD 0

/-- The claim of the coupon has happened zero times or once, no request has
credited without a claim of its own, and the credit added so far is the
coupon's credit once for every credit statement. -/
structure Redeeming (db : Db) (card : Str) (g : Shared ι Db Event) : Prop where
  own : ∀ i, (g.own i).countP isCredited ≤ (g.own i).countP isClaimed
  phase : (g.log.countP isClaimed = 0 ∧ g.state.coupons = db.coupons) ∨
    (g.log.countP isClaimed = 1 ∧ g.state.coupons = (claimCoupon card db).coupons ∧
      ∃ k ∈ db.coupons.rows, claimable card k = true)
  total : 0 ≤ cardCredit db card →
    totalCredit g.state ≤ totalCredit db + g.log.countP isCredited * cardCredit db card

def contract (db : Db) (card : Str) : Contract ι Db Event Nat where
  env := Db.tick
  admits := ClaimFindsCoupon
  inv := Redeeming db card
  guar _ _ _ := True
  halted _ _ := True

/-! ## The claim as a compare-and-set -/

theorem claimable_pairwise {db : Db} (hdb : PrintedCards db.coupons) {card : Str}
    (hcard : IsHexCard card) :
    db.coupons.rows.Pairwise fun a b => ¬(claimable card a ∧ claimable card b) := by
  refine List.Pairwise.imp_of_mem ?_ (List.pairwise_map.1 db.coupons.nodup)
  rintro a b ha hb hid ⟨hca, hcb⟩
  simp only [claimable, Bool.and_eq_true] at hca hcb
  exact hid (congrArg Coupon.id (hdb.carries_unique hcard ha hb hca.2 hcb.2))

theorem claimCoupon_rows {db : Db} (hdb : PrintedCards db.coupons) {card : Str}
    (hcard : IsHexCard card) :
    (claimCoupon card db).coupons.rows = updateAll (claimable card) use db.coupons.rows :=
  updateFirst_eq_updateAll (claimable_pairwise hdb hcard)

theorem not_claimable_claimCoupon {db : Db} (hdb : PrintedCards db.coupons) {card : Str}
    (hcard : IsHexCard card) {k : Coupon} (hk : k ∈ (claimCoupon card db).coupons.rows) :
    claimable card k = false := by
  rw [claimCoupon_rows hdb hcard] at hk
  obtain ⟨a, -, rfl⟩ := mem_updateAll.1 hk
  by_cases ha : claimable card a
  · rw [if_pos ha]
    simp [claimable, use]
  · rw [if_neg ha]
    simpa using ha

/-- The claim does not change what the later `SELECT` reads. -/
theorem find?_claimCoupon {db : Db} (hdb : PrintedCards db.coupons) {card : Str}
    (hcard : IsHexCard card) :
    ((claimCoupon card db).coupons.rows.find? (carries card)).map
        (fun k => (k.credit, k.expire)) =
      (db.coupons.rows.find? (carries card)).map fun k => (k.credit, k.expire) := by
  rw [claimCoupon_rows hdb hcard]
  exact find?_updateAll (f := use) (fun _ => rfl) (fun _ => rfl) _

theorem cardCredit_of_claimable {db : Db} (hdb : PrintedCards db.coupons) {card : Str}
    (hcard : IsHexCard card) {k : Coupon} (hk : k ∈ db.coupons.rows)
    (hc : claimable card k = true) : cardCredit db card = k.credit := by
  simp only [claimable, Bool.and_eq_true] at hc
  obtain ⟨k', hk'⟩ := Option.isSome_iff_exists.1 (List.find?_isSome.2 ⟨k, hk, hc.2⟩)
  have heq : k' = k :=
    hdb.carries_unique hcard (List.mem_of_find?_eq_some hk') hk (List.find?_some hk') hc.2
  simp [cardCredit, hk', heq]

theorem le_movedCredit {db : Db} (hdb : PrintedCards db.coupons) {card : Str}
    (hcard : IsHexCard card) (hpos : ∀ k ∈ db.coupons.rows, 0 ≤ k.credit) {k : Coupon}
    (hk : k ∈ db.coupons.rows) (hc : claimable card k = true) {db' : Db}
    (hdb' : db'.coupons = (claimCoupon card db).coupons) : k.credit ≤ movedCredit db db' := by
  refine List.single_le_sum ?_ _ (List.mem_map_of_mem (List.mem_filter.2 ⟨hk, ?_⟩))
  · intro x hx
    obtain ⟨a, ha, rfl⟩ := List.mem_map.1 hx
    exact hpos a (List.mem_filter.1 ha).1
  · have hmem : use k ∈ db'.coupons.rows := by
      rw [hdb', claimCoupon_rows hdb hcard]
      exact mem_updateAll.2 ⟨k, hk, by simp [hc]⟩
    simp only [claimable, Bool.and_eq_true] at hc
    rw [Bool.and_eq_true]
    exact ⟨hc.1, List.any_eq_true.2 ⟨use k, hmem, by simp [use]⟩⟩

theorem movedCredit_nonneg {db : Db} (hpos : ∀ k ∈ db.coupons.rows, 0 ≤ k.credit) (db' : Db) :
    0 ≤ movedCredit db db' := by
  refine List.sum_nonneg ?_
  intro x hx
  obtain ⟨a, ha, rfl⟩ := List.mem_map.1 hx
  exact hpos a (List.mem_filter.1 ha).1

theorem totalCredit_creditAccount (username : Option Str) {amount : Int} (h : 0 ≤ amount)
    (expire : Int) (db : Db) :
    totalCredit (creditAccount username amount expire db) ≤ totalCredit db + amount := by
  refine sum_updateAll_le h (fun u => ?_) (named_pairwise db.login username)
  cases hu : u.credit <;> simp [Login.addCredit, hu, h]

/-! ## What one statement does to the invariant -/

theorem Redeeming.quiet {db : Db} {card : Str} {g : Shared ι Db Event}
    (h : Redeeming db card g) (i : ι) {act : Db → Db × List Event}
    (hcoupons : (act g.state).1.coupons = g.state.coupons)
    (hlogin : (act g.state).1.login = g.state.login)
    (hclaimed : (act g.state).2.countP isClaimed = 0)
    (hcredited : (act g.state).2.countP isCredited = 0) :
    Redeeming db card (g.exec i act) where
  own j := by
    have := h.own j
    by_cases hij : i = j <;> simp [Shared.own_exec, hij, hclaimed, hcredited, this]
  phase := by simpa [hclaimed, hcoupons] using h.phase
  total := by simpa [totalCredit, hcredited, hlogin] using h.total

/-- A claim that finds a coupon is the first claim. -/
theorem Redeeming.claim {db : Db} (hdb : PrintedCards db.coupons) {card : Str}
    (hcard : IsHexCard card) {g : Shared ι Db Event} (h : Redeeming db card g) (i : ι)
    (ids : List Nat) (hfinds : ∃ k ∈ g.state.coupons.rows, claimable card k = true) :
    Redeeming db card
      (g.exec i fun db => (claimCoupon card db, [.couponClaimed card ids])) := by
  obtain ⟨k, hk, hclaimable⟩ := hfinds
  rcases h.phase with ⟨hzero, hcoupons⟩ | ⟨-, hcoupons, -⟩
  · refine ⟨fun j => ?_, .inr ⟨?_, ?_, k, hcoupons ▸ hk, hclaimable⟩, ?_⟩
    · have := h.own j
      by_cases hij : i = j
      · simp only [Shared.own_exec, hij, if_true, List.countP_append]
        exact Nat.add_le_add this (by simp [isCredited])
      · simpa [Shared.own_exec, hij] using this
    · simp [hzero, isClaimed]
    · simp [claimCoupon, hcoupons]
    · simpa [isCredited, totalCredit, claimCoupon] using h.total
  · rw [hcoupons] at hk
    rw [not_claimable_claimCoupon hdb hcard hk] at hclaimable
    exact absurd hclaimable (by decide)

theorem Redeeming.credit {db : Db} {card : Str} {g : Shared ι Db Event}
    (h : Redeeming db card g) (i : ι) (hown : (g.own i).countP isCredited = 0)
    (hclaimed : (g.own i).countP isClaimed = 1) (source : Source) (username : Option Str)
    (name : Str) (expire : Int) (rows : Nat) :
    Redeeming db card
      (g.exec i fun s => (creditAccount username (cardCredit db card) expire s,
        [.credited source name (cardCredit db card) rows])) where
  own j := by
    have := h.own j
    by_cases hij : i = j
    · subst hij
      simp [hown, hclaimed, isCredited, isClaimed]
    · simpa [Shared.own_exec, hij] using this
  phase := by simpa [isClaimed, creditAccount] using h.phase
  total := by
    intro hpos
    have hbefore := h.total hpos
    have hstep := totalCredit_creditAccount username hpos expire g.state
    have hcount : ((g.log ++ [Event.credited source name (cardCredit db card) rows]).countP
        isCredited : Int) = g.log.countP isCredited + 1 := by
      simp [isCredited]
    simp only [Shared.exec_state, Shared.log_exec]
    rw [hcount, Int.add_mul]
    omega

/-! ## The request meets the contract -/

/-- What a request knows from its own events alone. -/
def Did (i : ι) (claimed credited : Nat) (g : Shared ι Db Event) : Prop :=
  (g.own i).countP isClaimed = claimed ∧ (g.own i).countP isCredited = credited

theorem did_stable (db : Db) (card : Str) (i : ι) (claimed credited : Nat) :
    (contract db card).Stable i (Did i claimed credited) :=
  Contract.Stable.own fun es => es.countP isClaimed = claimed ∧ es.countP isCredited = credited

theorem valid_query {α : Type} {db : Db} {card : Str} {i : ι} {claimed credited : Nat}
    (f : Db → α) :
    (contract db card).Valid i (fun _ => Did i claimed credited) (.query f)
      (Did i claimed credited) := by
  refine Contract.Valid.exec (fun _ => did_stable db card i claimed credited) ?_
  intro g hinv hdid _
  refine ⟨hinv.quiet i rfl rfl rfl rfl, trivial, ?_⟩
  simpa [Did] using hdid

theorem valid_claim {db : Db} (hdb : PrintedCards db.coupons) {card : Str}
    (hcard : IsHexCard card) (r : Request) (i : ι) :
    (contract db card).Valid i (fun found => Did i (if found then 1 else 0) 0)
      (claim r card) (Did i 0 0) := by
  refine Contract.Valid.exec (fun _ => did_stable db card i _ _) ?_
  intro g hinv hdid hfinds
  by_cases herr : r.sqlError .claim
  · simp only [herr, if_true] at hfinds ⊢
    refine ⟨hinv.quiet i rfl rfl rfl rfl, trivial, ?_⟩
    simpa [Did] using hdid
  · simp only [herr, if_false, Bool.false_eq_true] at hfinds ⊢
    have hsome : g.state.coupons.rows.any (claimable card) = true :=
      hfinds (i, _) (List.mem_singleton.2 rfl)
    refine ⟨hinv.claim hdb hcard i _ (List.any_eq_true.1 hsome), trivial, ?_⟩
    simp only [Did] at hdid ⊢
    simp [hdid.1, hdid.2, isClaimed, isCredited]

theorem valid_select {db : Db} (hdb : PrintedCards db.coupons) {card : Str}
    (hcard : IsHexCard card) (r : Request) (i : ι) :
    (contract db card).Valid i
      (fun ref g => (∀ amount expire, ref = some (amount, expire) →
        amount = cardCredit db card) ∧ Did i 1 0 g)
      (selectCoupon r card) (Did i 1 0) := by
  refine Contract.Valid.exec
    (fun _ => (Contract.Stable.const _).and (did_stable db card i 1 0)) ?_
  intro g hinv hdid _
  refine ⟨hinv.quiet i rfl rfl rfl rfl, trivial, ?_, by simpa [Did] using hdid⟩
  intro amount expire href
  by_cases herr : r.sqlError .select
  · simp [herr] at href
  · simp only [herr, Bool.false_eq_true, if_false] at href
    have hsame : (g.state.coupons.rows.find? (carries card)).map
          (fun k => (k.credit, k.expire)) =
        (db.coupons.rows.find? (carries card)).map fun k => (k.credit, k.expire) := by
      rcases hinv.phase with ⟨-, hcoupons⟩ | ⟨-, hcoupons, -⟩
      · rw [hcoupons]
      · rw [hcoupons, find?_claimCoupon hdb hcard]
    rw [hsame] at href
    obtain ⟨k, hk, hkey⟩ := Option.map_eq_some_iff.1 href
    have hcredit := (Prod.mk.inj hkey).1
    simp [cardCredit, hk, hcredit]

theorem valid_credit {db : Db} {card : Str} (r : Request) (i : ι) (amount expire : Int) :
    (contract db card).Valid i (fun _ _ => True) (credit r card amount expire)
      (fun g => amount = cardCredit db card ∧ Did i 1 0 g) := by
  refine Contract.Valid.exec (fun _ => Contract.Stable.const _) ?_
  rintro g hinv ⟨rfl, hclaimed, hcredited⟩ -
  by_cases herr : r.sqlError .credit
  · simp only [herr, if_true]
    exact ⟨hinv.quiet i rfl rfl rfl rfl, trivial, trivial⟩
  · simp only [herr, if_false, Bool.false_eq_true]
    exact ⟨hinv.credit i hcredited hclaimed _ _ _ _ _, trivial, trivial⟩

theorem valid_record {db : Db} {card : Str} (r : Request) (i : ι) (amount expire : Int) :
    (contract db card).Valid i (fun _ _ => True) (record r card amount expire)
      (fun _ => True) := by
  refine Contract.Valid.exec (fun _ => Contract.Stable.const _) ?_
  intro g hinv _ _
  refine ⟨?_, trivial, trivial⟩
  cases hname : r.username with
  | none => exact hinv.quiet i rfl rfl rfl rfl
  | some username =>
      by_cases herr : r.sqlError .record <;> simp only [herr]
      · exact hinv.quiet i rfl rfl rfl rfl
      · exact hinv.quiet i rfl rfl rfl rfl

theorem valid_done {db : Db} {card : Str} {i : ι} (page : Page) (P : Shared ι Db Event → Prop) :
    (contract db card).Valid i (fun _ _ => True) (.done page) P :=
  fun _ _ _ => trivial

theorem valid_redeem {db : Db} (hdb : PrintedCards db.coupons) {card : Str}
    (hcard : IsHexCard card) (r : Request) (i : ι) :
    (contract db card).Valid i (fun _ _ => True) (redeem r card) (Did i 0 0) := by
  refine (valid_claim hdb hcard r i).bind fun found => ?_
  cases found with
  | false => exact valid_done _ _
  | true =>
      refine (valid_select hdb hcard r i).bind fun ref => ?_
      match ref with
      | none => exact valid_done _ _
      | some (amount, expire) =>
          dsimp only
          split
          · exact valid_done _ _
          · refine ((valid_credit r i amount expire).strengthen ?_).bind fun _ => ?_
            · rintro g - ⟨hamount, hdid⟩
              exact ⟨hamount amount expire rfl, hdid⟩
            · exact (valid_record r i amount expire).bind fun _ => valid_done _ _

theorem valid_couponCredit {db : Db} (hdb : PrintedCards db.coupons) {card : Str}
    (hcard : IsHexCard card) (r : Request) (hr : r.card = some card) (i : ι) :
    (contract db card).Valid i (fun _ _ => True) (couponCredit r) (Did i 0 0) := by
  unfold couponCredit
  rw [hr, Option.getD_some]
  split
  · exact valid_done _ _
  · dsimp only
    split
    · exact valid_done _ _
    · refine (valid_query _).bind fun c => ?_
      split
      · exact valid_done _ _
      · refine (valid_query _).bind fun c => ?_
        split
        · exact valid_done _ _
        · exact valid_redeem hdb hcard r i

/-! ## Every schedule -/

theorem redeeming_init (db : Db) (card : Str) :
    Redeeming db card (⟨db, []⟩ : Shared ι Db Event) where
  own _ := Nat.le_refl _
  phase := .inl ⟨rfl, rfl⟩
  total _ := by simp [Shared.log]

theorem redeeming_run {db : Db} (hdb : PrintedCards db.coupons) {card : Str}
    (hcard : IsHexCard card) (reqs : ι → Request) (hreqs : ∀ i, (reqs i).card = some card)
    (schedule : List (Turn ι Nat))
    (hfinds : (requests db reqs).Admits Db.tick ClaimFindsCoupon schedule) :
    Redeeming db card ((requests db reqs).run Db.tick schedule).toShared :=
  (Contract.init_run_sound (C := contract db card) (P := fun i => Did i 0 0)
    ⟨fun _ _ h => ⟨h.own, h.phase, h.total⟩, fun _ _ _ _ => trivial,
      fun _ => Contract.Stable.const _⟩
    (redeeming_init db card) (fun _ => ⟨rfl, rfl⟩) (fun i => did_stable db card i 0 0)
    (fun i => valid_couponCredit hdb hcard (reqs i) (hreqs i) i) schedule hfinds).1

theorem Redeeming.atMostOnce {db : Db} (hdb : PrintedCards db.coupons) {card : Str}
    (hcard : IsHexCard card) {c : Config ι Db Event Page} (h : Redeeming db card c.toShared) :
    RedeemedAtMostOnce db c := by
  have hle : c.log.countP isCredited ≤ c.log.countP isClaimed :=
    Shared.countP_log_le _ _ _ h.own
  rcases h.phase with ⟨hzero, -⟩ | ⟨hone, hcoupons, k, hk, hclaimable⟩
  · refine ⟨by omega, fun hpos => ?_⟩
    have hmoved := movedCredit_nonneg hpos c.state
    have hnone : c.log.countP isCredited = 0 := by omega
    have hcard0 : 0 ≤ cardCredit db card := by
      unfold cardCredit
      cases hfind : db.coupons.rows.find? (carries card) with
      | none => simp
      | some k => simpa using hpos k (List.mem_of_find?_eq_some hfind)
    have htotal := h.total hcard0
    rw [hnone] at htotal
    simp only [Nat.cast_zero, zero_mul, add_zero] at htotal
    omega
  · refine ⟨by omega, fun hpos => ?_⟩
    have hmoved := le_movedCredit hdb hcard hpos hk hclaimable hcoupons
    have hcredit := cardCredit_of_claimable hdb hcard hk hclaimable
    have hk0 := hpos k hk
    have htotal := h.total (by omega)
    have hcases : c.log.countP isCredited = 0 ∨ c.log.countP isCredited = 1 := by omega
    rw [hcredit] at htotal
    rcases hcases with hcount | hcount <;> rw [hcount] at htotal <;>
      simp only [Nat.cast_zero, Nat.cast_one, zero_mul, one_mul, add_zero] at htotal <;> omega

/-- **At most one redemption.**  In every schedule whose claims all find a
claimable coupon, at most one request adds the coupon's credit to an account,
and the credit added is covered by the coupons that became used. -/
theorem redeemed_at_most_once {db : Db} (hdb : PrintedCards db.coupons) {card : Str}
    (hcard : IsHexCard card) (reqs : ι → Request) (hreqs : ∀ i, (reqs i).card = some card)
    (schedule : List (Turn ι Nat))
    (hfinds : (requests db reqs).Admits Db.tick ClaimFindsCoupon schedule) :
    RedeemedAtMostOnce db ((requests db reqs).run Db.tick schedule) :=
  (redeeming_run hdb hcard reqs hreqs schedule hfinds).atMostOnce hdb hcard

end

/-! ## Two requests for one card -/

def raceCoupon (id : Nat) : Coupon :=
  ⟨id, some .N, 1048576, List.replicate 32 '0', List.replicate 32 '1', 30⟩

def raceCard : Str := printed (raceCoupon 1)

/-- One unused coupon and one account. -/
def raceDb : Db :=
  { Db.empty 1 with
    coupons := Table.empty.insert raceCoupon fun _ => rfl
    login := .single (.holding "bob".toList 0) }

def raceRequest : Request := ⟨some raceCard, some "bob".toList, fun _ => false⟩

def raceRequests : Bool → Request := fun _ => raceRequest

/-- Both requests pass the two checks before either of them claims. -/
def raceSchedule : List (Turn Bool Nat) :=
  [.step true, .step true, .step false, .step false,
    .step true, .step true, .step true, .step true,
    .step false, .step false, .step false, .step false]

/-- The second claim matches no row, DBI reports the true value `"0E0"`, and the
card is credited twice. -/
theorem couponCredit_race :
    PrintedCards raceDb.coupons ∧ IsHexCard raceCard ∧
      (∀ i, (raceRequests i).card = some raceCard) ∧
      ¬RedeemedAtMostOnce raceDb ((requests raceDb raceRequests).run Db.tick raceSchedule) := by
  refine ⟨⟨by decide, by decide, by decide⟩, by decide, fun _ => rfl, ?_⟩
  intro h
  have htwice : ((requests raceDb raceRequests).run Db.tick raceSchedule).log.countP
      isCredited = 2 := by decide
  exact absurd h.1 (by rw [htwice]; decide)

theorem redeemed_at_most_once_sequential :
    RedeemedAtMostOnce raceDb ((requests raceDb raceRequests).run Db.tick
      ((List.replicate 6 (.step true)) ++ .tick 5 :: List.replicate 6 (.step false))) :=
  redeemed_at_most_once ⟨by decide, by decide, by decide⟩ (by decide : IsHexCard raceCard)
    raceRequests (fun _ => rfl) _ (by decide)

end ParDiff.Vouchers
