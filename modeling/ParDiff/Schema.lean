import ParDiff.Lib.BoundNumber
import ParDiff.Lib.Calendar
import ParDiff.Lib.Script
import ParDiff.Lib.Table
import ParDiff.Lib.Text

/-!
# The billing database

Tables of `db/init.sql`, with the columns that some modelled script reads or
writes.  The `BIGINT` columns are integers.  They are clamped where a parameter of a
request is written, and so is the `INT` column that really overflows
(`openvpn_connections.traffic`); elsewhere whole bytes are added to `login.credit`,
which MySQL does in doubles and exactly below `2 ^ 53` (`Login.addCredit_eq_addText`).
Points in time are seconds since day 0 of the calendar of MySQL.

`Event` is what the statements of the scripts report about themselves.  No
script reads an event; the theorems do.
-/

namespace ParDiff

open Lib Lib.Text

abbrev Time := Nat

/-! ## Rows -/

inductive AccountState
  | ACTIVE
  | DISABLED
  deriving DecidableEq, Repr

structure Login where
  id : Nat
  username : Str
  password : Str
  clientip : Str
  serverip : Str
  credit : Option Int
  email : Option Str
  expireAt : Option Time
  accountState : AccountState
  notes : Option Str
  /-- `varchar(16)`. -/
  username_le : username.length ≤ 16
  deriving DecidableEq, Repr

theorem length_username_le (username : Str) : (username.take 16).length ≤ 16 :=
  List.length_take_le 16 username

/-- Account number 1, with a name and a credit. -/
def Login.holding (username : Str) (credit : Int) : Login where
  id := 1
  username := username.take 16
  password := []
  clientip := []
  serverip := []
  credit := some credit
  email := none
  expireAt := none
  accountState := .ACTIVE
  notes := none
  username_le := length_username_le username

inductive CouponStatus
  | N
  | U
  | R
  | F
  deriving DecidableEq, Repr

structure Coupon where
  id : Nat
  status : Option CouponStatus
  credit : Int
  token : Str
  pass : Str
  expire : Int
  deriving DecidableEq, Repr

structure TransactionsRecord where
  credit : Option Int
  operator : Str
  username : Str
  ts : Time
  note : Option Str
  deriving DecidableEq, Repr

structure Connection where
  id : Nat
  ip : Str
  connectionTraffic : Option Int
  startTime : Time
  endTime : Time
  username : Option Str
  interface : Option Str
  ppid : Int
  deriving DecidableEq, Repr

structure OpenvpnConnection where
  id : Nat
  username : Str
  ip : Str
  port : Int
  internalip : Str
  traffic : Int
  since : Int
  deriving DecidableEq, Repr

inductive OrderStatus
  | UNPAID
  | PAID
  | CHARGED
  | REVOKED
  deriving DecidableEq, Repr

structure PaymentTransaction where
  id : Nat
  traffic : Int
  username : Str
  status : Option OrderStatus
  alipayTradeNo : Option Str
  alipayBuyerEmail : Option Str
  /-- `varchar(200)`. -/
  username_le : username.length ≤ 200
  deriving DecidableEq, Repr

structure LogEntry where
  ts : Time
  event : Str
  deriving DecidableEq, Repr

/-! ## Tables -/

abbrev LoginTable := UniqueTable Login Str Login.id fun u => fold u.username

structure Db where
  login : LoginTable
  coupons : Table Coupon Coupon.id
  transactionsRecords : List TransactionsRecord
  connections : Table Connection Connection.id
  openvpnConnections : Table OpenvpnConnection OpenvpnConnection.id
  paymentTransactions : Table PaymentTransaction PaymentTransaction.id
  logs : List LogEntry
  now : Time

/-- An empty database at time `now`. -/
def Db.empty (now : Time) : Db :=
  ⟨.empty, .empty, [], .empty, .empty, .empty, [], now⟩

/-- The clock moves on by `t` seconds. -/
def Db.tick (t : Nat) (db : Db) : Db := { db with now := db.now + t }

/-! ## Events -/

/-- On whose behalf `login.credit` is changed. -/
inductive Source
  | coupon (card : Str)
  | order (id : Int)
  | ppp (interface : Str)
  | openvpn (row : OpenvpnConnection)
  deriving DecidableEq, Repr

inductive Event
  /-- `UPDATE coupons SET status = 'U'` was executed; `ids` changed. -/
  | couponClaimed (card : Str) (ids : List Nat)
  /-- Credit was added for `username`; so many login rows matched. -/
  | credited (source : Source) (username : Str) (amount : Int) (rows : Nat)
  /-- Credit was deducted for `username`; so many login rows matched. -/
  | deducted (source : Source) (username : Str) (amount : Int) (rows : Nat)
  /-- A `transactions_records` row was inserted. -/
  | recorded (source : Source) (username : Str) (amount : Int)
  /-- `get_transaction_by_id` read this status (`none`: no such order). -/
  | statusRead (id : Int) (status : Option (Option OrderStatus))
  /-- `pay_transaction` moved the order from `UNPAID` to `PAID`. -/
  | orderPaid (id : Int)
  /-- `charge` ran its `SELECT`. -/
  | chargeStarted (id : Int)
  /-- `notify_url.php` answered a verified notification. -/
  | notifyAnswered (id : Int) (success : Bool)
  /-- A status snapshot was taken from the OpenVPN server. -/
  | polled
  /-- A row was inserted into `openvpn_connections`. -/
  | opened (row : OpenvpnConnection)
  /-- The row was read as finished. -/
  | listed (row : OpenvpnConnection)
  /-- A `connections` row was inserted for the finished row. -/
  | moved (row : OpenvpnConnection)
  /-- The finished row was deleted. -/
  | removed (id : Nat)
  /-- `kill` of a process. -/
  | killPid (pid : Int)
  /-- Management command `kill` by common name. -/
  | killCommonName (name : Str)
  deriving DecidableEq, Repr

/-- What an event did to the credit of the account `username`.  A statement that
matched no row did nothing, even if an account of that name is created later. -/
def Event.change (username : Str) : Event → Int
  | .credited _ name amount rows => if rows ≠ 0 ∧ ciEq username name then amount else 0
  | .deducted _ name amount rows => if rows ≠ 0 ∧ ciEq username name then -amount else 0
  | _ => 0

/-- Net change of the account's credit over a log. -/
def creditChange (log : List Event) (username : Str) : Int :=
  (log.map (Event.change username)).sum

/-- Scripts over the billing database. -/
abbrev Sql (α : Type) := Script Db Event α

/-! ## What several scripts share -/

/-- `$x * 1024 * 1024`. -/
def megabytes (x : Perl.Number) : Perl.Number := (x.mul (.int 1024)).mul (.int 1024)

theorem megabytes_decInt {z : Int} (hz : z.natAbs < 2 ^ 43) :
    megabytes (Perl.numberOf (some (decInt z))) = .int (z * 1024 * 1024) := by
  rw [megabytes, Perl.numberOf_decInt (by unfold Perl.Fits; omega),
    Perl.Number.mul_int (by unfold Perl.Fits; omega),
    Perl.Number.mul_int (by unfold Perl.Fits; omega)]

/-- A mail handed to `mail(1)`. -/
structure Mail where
  recipient : Str
  subject : Str
  content : Str
  deriving DecidableEq, Repr

/-- `email_to_address`; `valid` is what `Email::Valid` accepts, and an undefined
address it does not. -/
def emailToAddress (valid : Str → Bool) (email : Option Str) (subject content : Str) :
    List Mail :=
  match email with
  | none => []
  | some address => if valid address then [⟨address, subject, content⟩] else []

/-- `INSERT INTO logs (ts, event) VALUES (NOW(), ?)`. -/
def insertLog (event : Str) : Sql Unit :=
  .modify (fun db => { db with logs := db.logs ++ [⟨db.now, event.take 1000⟩] }) fun _ => []

/-- `username = ?`; a comparison with `NULL` is never true. -/
def Login.named (username : Option Str) (u : Login) : Bool :=
  match username with
  | none => false
  | some name => ciEq u.username name

/-- `credit = credit + ?`; `NULL` stays `NULL`. -/
def Login.addCredit (amount : Int) (u : Login) : Login :=
  { u with credit := u.credit.map (· + amount) }

/-- Of whole bytes below `2 ^ 53`, MySQL makes this of `credit + ?`. -/
theorem Login.addCredit_eq_addText {u : Login} {credit amount : Int} (hu : u.credit = some credit)
    (hcredit : credit.natAbs < 2 ^ 53) (hamount : amount.natAbs < 2 ^ 53)
    (hsum : (credit + amount).natAbs < 2 ^ 53) :
    u.credit.bind (MySql.addText · (decInt amount)) = (u.addCredit amount).credit := by
  rw [Login.addCredit, hu, Option.bind_some, Option.map_some]
  exact MySql.addText_decInt hcredit hamount hsum

/-- `UPDATE login SET credit = credit + ? WHERE username = ?`. -/
def Db.addCredit (db : Db) (username : Str) (amount : Int) : Db :=
  { db with
    login := db.login.update (Login.named (some username)) (Login.addCredit amount)
      (fun _ => rfl) fun _ => rfl }

/-- Number of login rows a statement `WHERE username = ?` finds. -/
def Db.countLogin (db : Db) (username : Option Str) : Nat :=
  db.login.rows.countP (Login.named username)

@[simp] theorem Login.addCredit_username (amount : Int) (u : Login) :
    (u.addCredit amount).username = u.username := rfl

@[simp] theorem Login.addCredit_zero (u : Login) : u.addCredit 0 = u := by
  cases u with
  | mk => simp [Login.addCredit]

theorem Login.addCredit_addCredit (a b : Int) (u : Login) :
    (u.addCredit a).addCredit b = u.addCredit (a + b) := by
  cases hu : u.credit <;> simp [Login.addCredit, hu, Int.add_assoc]

@[simp] theorem creditChange_nil (username : Str) : creditChange [] username = 0 := rfl

@[simp] theorem creditChange_append (log log' : List Event) (username : Str) :
    creditChange (log ++ log') username =
      creditChange log username + creditChange log' username := by
  simp [creditChange]

theorem Db.countLogin_ne_zero {db : Db} {username : Option Str} {u : Login}
    (hu : u ∈ db.login.rows) (hnamed : u.named username = true) :
    db.countLogin username ≠ 0 := by
  intro h
  exact List.countP_eq_zero.1 h u hu hnamed

theorem named_pairwise (t : LoginTable) (username : Option Str) :
    t.rows.Pairwise fun a b => ¬(Login.named username a ∧ Login.named username b) := by
  cases username with
  | none => exact List.pairwise_of_forall fun _ _ => by simp [Login.named]
  | some name => exact t.pairwise_not_both (fold name)

/-- `INSERT INTO transactions_records`, with the widths of the columns. -/
def Db.insertRecord (db : Db) (credit : Int) (operator username : Str)
    (note : Option Str) : Db :=
  { db with
    transactionsRecords := db.transactionsRecords ++
      [⟨some credit, operator.take 200, username.take 200, db.now, note.map (·.take 2000)⟩] }

@[simp] theorem Db.addCredit_login_rows (db : Db) (username : Str) (amount : Int) :
    (db.addCredit username amount).login.rows =
      updateAll (Login.named (some username)) (Login.addCredit amount) db.login.rows := rfl

@[simp] theorem Db.addCredit_paymentTransactions (db : Db) (username : Str) (amount : Int) :
    (db.addCredit username amount).paymentTransactions = db.paymentTransactions := rfl

@[simp] theorem Db.addCredit_transactionsRecords (db : Db) (username : Str) (amount : Int) :
    (db.addCredit username amount).transactionsRecords = db.transactionsRecords := rfl

@[simp] theorem Db.insertRecord_login (db : Db) (credit : Int) (operator username : Str)
    (note : Option Str) : (db.insertRecord credit operator username note).login = db.login := rfl

@[simp] theorem Db.insertRecord_paymentTransactions (db : Db) (credit : Int)
    (operator username : Str) (note : Option Str) :
    (db.insertRecord credit operator username note).paymentTransactions =
      db.paymentTransactions := rfl

/-- Accounts that are their initial balance plus what the log says stay so when
credit is added and logged. -/
theorem Db.addCredit_replay {db s : Db} {log : List Event}
    (h : s.login.rows = db.login.rows.map fun u => u.addCredit (creditChange log u.username))
    {username : Str} {amount : Int} {e : Event}
    (he : ∀ name, e.change name =
      if s.countLogin (some username) ≠ 0 ∧ ciEq name username then amount else 0) :
    (s.addCredit username amount).login.rows =
      db.login.rows.map fun u => u.addCredit (creditChange (log ++ [e]) u.username) := by
  rw [Db.addCredit_login_rows, h, updateAll, List.map_map]
  refine List.map_congr_left fun u hu => ?_
  have hmem : u.addCredit (creditChange log u.username) ∈ s.login.rows := by
    rw [h]
    exact List.mem_map_of_mem hu
  have hone : creditChange [e] u.username = e.change u.username := by simp [creditChange]
  rw [creditChange_append, hone, he]
  by_cases hnamed : fold u.username = fold username
  · have hrows : s.countLogin (some username) ≠ 0 :=
      Db.countLogin_ne_zero hmem (ciEq_iff.2 hnamed)
    simp [Login.named, hnamed, Login.addCredit_addCredit, hrows]
  · simp [Login.named, hnamed]

end ParDiff
