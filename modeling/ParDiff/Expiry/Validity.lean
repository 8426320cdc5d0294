import ParDiff.Lib.Run
import ParDiff.Expiry.Expire
import ParDiff.Vouchers.CardCheck

/-!
# How long a redeemed coupon lasts

`validate.cgi` tells the customer that the card is good for `d` days after it is
redeemed.  `coupon_credit.cgi` adds the days to the old expiry date where there is
one, even if that date has passed, and `expire.pl` freezes an account seven days
after its expiry date.  The grace makes up for an old date in the past, but not
for one that is more than seven days old.  Days that lead out of the calendar make
the date `NULL`, which never passes; nor does a date in the last week of the calendar.
-/

namespace ParDiff.Expiry

open Lib Lib.Text Vouchers

/-- What can happen after the redemption. -/
inductive Step
  | wait (t : Nat)
  /-- A complete run of `expire.pl`. -/
  | expire

variable (valid : Str → Bool)

def step (db : Db) : Step → Db
  | .wait t => db.tick t
  | .expire => (Expiry.expire valid).final db

/-- An account with this date is not overdue before `deadline`. -/
def Outlasts (deadline : Nat) (date : Option Nat) : Prop :=
  ∀ e ∈ date, deadline ≤ e + 7 * 86400 + 1

theorem not_overdue {now deadline : Nat} {u : Login} (h : Outlasts deadline u.expireAt)
    (hnow : now < deadline) : overdue now u = false := by
  rw [Bool.eq_false_iff]
  intro hoverdue
  obtain ⟨e, he, hold⟩ := old_of_overdue hoverdue
  have hlate := h e he
  omega

/-- Until `deadline` the account is active with this date. -/
structure Lasting (id : Nat) (start deadline : Nat) (date : Option Nat) (db : Db) : Prop where
  now : start ≤ db.now
  account : db.now < deadline → ∃ u ∈ db.login.rows, u.id = id ∧ u.accountState = .ACTIVE ∧
    u.expireAt = date

section

variable {id start deadline : Nat} {date : Option Nat} {db : Db}

theorem Lasting.wait (h : Lasting id start deadline date db) (t : Nat) :
    Lasting id start deadline date (db.tick t) where
  now := h.now.trans (Nat.le_add_right _ _)
  account hnow := h.account (Nat.lt_of_le_of_lt (Nat.le_add_right _ _) hnow)

theorem Lasting.expire (h : Lasting id start deadline date db)
    (hdate : start < deadline → Outlasts deadline date) :
    Lasting id start deadline date ((Expiry.expire valid).final db) := by
  have hnow' := (expire_frame valid db).1
  refine ⟨hnow' ▸ h.now, fun hnow => ?_⟩
  rw [hnow'] at hnow
  obtain ⟨u, hu, hid, hactive, rfl⟩ := h.account hnow
  have hkept := not_overdue (hdate (Nat.lt_of_le_of_lt h.now hnow)) hnow
  refine ⟨u, ?_, hid, hactive, rfl⟩
  rw [expire_run]
  exact mem_updateAll.2 ⟨u, hu, by simp [hkept]⟩

theorem Lasting.run (h : Lasting id start deadline date db)
    (hdate : start < deadline → Outlasts deadline date) (steps : List Step) :
    Lasting id start deadline date (steps.foldl (step valid) db) := by
  refine foldl_invariant (I := Lasting id start deadline date) (fun db s hdb => ?_) h steps
  cases s with
  | wait t => exact hdb.wait t
  | expire => exact hdb.expire valid hdate

end

/-! ## Old date, redemption time, days and grace -/

section Dates

variable {now n : Nat} {old : Option Nat}

end Dates

/-! ## The promise -/

/-- bob's account expired eight days ago, and the coupon is good for thirty. -/
def lateDb : Db :=
  { batchDb with
    login := .single { Login.holding "bob".toList 0 with expireAt := some (unixEpoch + 1000000) }
    now := unixEpoch + 1000000 + 8 * 86400 }

def lateCard : Str := printed (batchCoupon .N 2)

end ParDiff.Expiry
