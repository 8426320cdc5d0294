import ParDiff.Accounts.Pages
import ParDiff.Lib.Run
import ParDiff.OpenVpn.Refresh
import ParDiff.Payment.Transactions
import ParDiff.Ppp.Scripts
import ParDiff.Vouchers.CouponCredit

/-!
# The top-up ledger

Every page that adds credit writes a row of `transactions_records`, and every
deduction is reported, so each account should hold what was recorded for its name
less what was deducted.  Coupons, orders and deductions keep it so
(`Transfer`).  The pages of the administrator do not: `onchangecredit` writes its
record for any name, whether there is such an account or not, and the record
counts once the account is created.  `Sound` is exactly what these pages need.
-/

namespace ParDiff.Accounts

open Lib Lib.Text

/-! ## The books -/

/-- The database, and what the scripts reported so far. -/
structure Books where
  db : Db
  log : List Event

/-- `SUM(credit)` of the records with this user name. -/
def recorded (db : Db) (username : Str) : Int :=
  ((db.transactionsRecords.filter fun t => ciEq t.username username).map fun t =>
    t.credit.getD 0).sum

/-- What the event took from the account `username`. -/
def deductionOf (username : Str) : Event → Int
  | .deducted _ name amount rows => if rows ≠ 0 ∧ ciEq username name then amount else 0
  | _ => 0

def deductions (log : List Event) (username : Str) : Int :=
  (log.map (deductionOf username)).sum

namespace Books

/-- What the account should hold. -/
def due (s : Books) (username : Str) : Int :=
  recorded s.db username - deductions s.log username

def Balanced (s : Books) : Prop :=
  ∀ u ∈ s.db.login.rows, u.credit = some (s.due u.username)

instance (s : Books) : Decidable s.Balanced :=
  inferInstanceAs (Decidable (∀ u ∈ s.db.login.rows, u.credit = some (s.due u.username)))

/-- Execute a script alone. -/
def exec {α : Type} (s : Books) (script : Sql α) : Books :=
  ⟨(script.run s.db).state, s.log ++ (script.run s.db).events⟩

@[simp] theorem exec_done {α : Type} (s : Books) (a : α) : s.exec (.done a : Sql α) = s := by
  simp [exec]

@[simp] theorem exec_bind {α β : Type} (s : Books) (script : Sql α) (k : α → Sql β) :
    s.exec (script.bind k) = (s.exec script).exec (k (script.run s.db).value) := by
  simp [exec]

end Books

/-! ## Requests -/

inductive Op
  | addUser (r : AddUser)
  | create (r : Create)
  | onchangecredit (r : ChangeCredit)
  | couponCredit (card username : Option Str)
  | returnUrl (m : Payment.Message)
  | mysqlIpDown (argv : List Str)
  | openvpnRefresh (status : Option (List OpenVpn.Client))
  | tick (seconds : Nat)

/-- A request no statement of which fails. -/
def couponRequest (card username : Option Str) : Vouchers.Request :=
  ⟨card, username, fun _ => false⟩

/-- One complete request. -/
def Books.apply (s : Books) : Op → Books
  | .addUser r => s.exec (addUser r)
  | .create r => s.exec (create r)
  | .onchangecredit r => s.exec (onchangecredit r)
  | .couponCredit card username => s.exec (Vouchers.couponCredit (couponRequest card username))
  | .returnUrl m => s.exec (Payment.returnUrl m)
  | .mysqlIpDown argv => s.exec (Ppp.mysqlIpDown argv)
  | .openvpnRefresh status => s.exec (OpenVpn.openvpnRefresh status)
  | .tick seconds => { s with db := s.db.tick seconds }

/-! ## Sums -/

/-- User name and credit of every account. -/
def Books.accounts (s : Books) : List (Str × Option Int) :=
  s.db.login.rows.map fun u => (u.username, u.credit)

theorem Books.balanced_iff {s : Books} :
    s.Balanced ↔ ∀ a ∈ s.accounts, a.2 = some (s.due a.1) := by
  simp [Balanced, accounts]

/-- No account has this name. -/
def Books.Unowned (s : Books) (name : Str) : Prop := ∀ a ∈ s.accounts, fold a.1 ≠ fold name

/-- Every credit changes by what becomes due. -/
structure Transfer (s s' : Books) : Prop where
  accounts : s'.accounts = s.accounts.map fun a => (a.1, a.2.map (· + (s'.due a.1 - s.due a.1)))
  unowned : ∀ name, s.Unowned name → deductions s'.log name = deductions s.log name

theorem Transfer.balanced {s s' : Books} (h : Transfer s s') (hs : s.Balanced) : s'.Balanced := by
  rw [Books.balanced_iff] at hs ⊢
  intro a' ha'
  rw [h.accounts] at ha'
  obtain ⟨a, ha, rfl⟩ := List.mem_map.1 ha'
  simp only [hs a ha, Option.map_some, Option.some.injEq]
  omega

theorem Transfer.unowned_iff {s s' : Books} (h : Transfer s s') (name : Str) :
    s'.Unowned name ↔ s.Unowned name := by
  rw [Books.Unowned, Books.Unowned, h.accounts, List.forall_mem_map]

theorem Transfer.refl (s : Books) : Transfer s s where
  accounts := by simp
  unowned _ _ := rfl

theorem Transfer.trans {s s' s'' : Books} (h : Transfer s s') (h' : Transfer s' s'') :
    Transfer s s'' where
  accounts := by
    rw [h'.accounts, h.accounts, List.map_map]
    refine List.map_congr_left fun a _ => ?_
    simp only [Function.comp_apply, Option.map_map, Prod.mk.injEq, true_and]
    congr 1
    funext credit
    simp only [Function.comp_apply]
    omega
  unowned name hname :=
    (h'.unowned name ((h.unowned_iff name).2 hname)).trans (h.unowned name hname)

theorem countLogin_ne_zero {s : Books} {a : Str × Option Int} (ha : a ∈ s.accounts)
    {username : Str} (h : ciEq a.1 username = true) : s.db.countLogin (some username) ≠ 0 := by
  obtain ⟨u, hu, rfl⟩ := List.mem_map.1 ha
  exact Db.countLogin_ne_zero hu h

def Keeps {α : Type} (script : Sql α) : Prop := ∀ s : Books, Transfer s (s.exec script)

section Keeps

variable {α β : Type}

theorem Keeps.done (a : α) : Keeps (.done a) := by
  intro s
  rw [Books.exec_done]
  exact .refl s

theorem Keeps.bind {script : Sql α} {k : α → Sql β} (h : Keeps script)
    (hk : ∀ a, Keeps (k a)) : Keeps (script.bind k) := by
  intro s
  rw [Books.exec_bind]
  exact (h s).trans (hk _ _)

theorem Keeps.forEach {body : β → Sql Unit} {bs : List β} (h : ∀ b ∈ bs, Keeps (body b)) :
    Keeps (.forEach bs body) := by
  induction bs with
  | nil => exact .done ()
  | cons b bs ih =>
      exact (h b List.mem_cons_self).bind fun _ => ih fun b' hb' => h b' (List.mem_cons_of_mem _ hb')

end Keeps

/-! ### `mysql-ip-down` -/

section Coupon

variable (card : Option Str)

end Coupon

end ParDiff.Accounts
