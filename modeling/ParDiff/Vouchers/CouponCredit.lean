import ParDiff.Schema

/-!
# `web/user/coupon/coupon_credit.cgi`

One request redeems one card for one account.  Every SQL statement is a step of
its own; the script uses no transaction.  A statement may fail with an SQL
error: DBI then returns a false value and the script goes on.  An `UPDATE` that
matched no row is not an error: DBI returns the string `"0E0"`, which is true.
-/

namespace ParDiff.Vouchers

open Lib Lib.Text

/-- The SQL statements of a request, in source order. -/
inductive Statement
  | countLogin
  | countCoupons
  | claim
  | select
  | credit
  | record
  deriving DecidableEq, Repr

structure Request where
  card : Option Str
  username : Option Str
  /-- Which statements end in an SQL error. -/
  sqlError : Statement → Bool

inductive Page
  /-- `_fail` with this message. -/
  | fail (msg : Str)
  /-- The page titled `充值成功`. -/
  | success
  deriving DecidableEq, Repr

def failMsg : Str :=
  "<h1>验证失败!</h1><p>该卡号无效，请即刻与销售者联系!</p>".toList

def noUserMsg (username : Option Str) : Str :=
  "<h1>充值失败! 没有找到用户".toList ++ username.getD [] ++ "</h1>".toList

def checkCardMsg : Str := "充值失败，请核实卡号密码。".toList

/-- `substr($card, 0, 16) . '%'`. -/
def partToken (card : Str) : Str := card.take 16 ++ ['%']

/-- `'%' . substr($card, 16, 16)`. -/
def partPass (card : Str) : Str := '%' :: (card.drop 16).take 16

/-- `token LIKE ? AND pass LIKE ?`. -/
def carries (card : Str) (k : Coupon) : Bool :=
  like (partToken card) k.token && like (partPass card) k.pass

/-- `status = 'N' AND token LIKE ? AND pass LIKE ?`. -/
def claimable (card : Str) (k : Coupon) : Bool :=
  decide (k.status = some .N) && carries card k

def use (k : Coupon) : Coupon := { k with status := some .U }

/-- `UPDATE coupons SET status = 'U' WHERE … LIMIT 1`. -/
def claimCoupon (card : Str) (db : Db) : Db :=
  { db with coupons := db.coupons.updateLimitOne (claimable card) use fun _ => rfl }

/-- `IF(expire_at, date_add(expire_at, interval ? day), date_add(now(), interval ? day))`. -/
def extendExpiry (now : Time) (expire : Int) (expireAt : Option Time) : Option Time :=
  match expireAt with
  | none => dateAdd now expire
  | some t => if t = 0 then dateAdd now expire else dateAdd t expire

/-- `UPDATE login SET account_state = 'ACTIVE', credit = credit + ?, expire_at = …`. -/
def creditAccount (username : Option Str) (credit expire : Int) (db : Db) : Db :=
  { db with
    login := db.login.update (Login.named username)
      (fun u => { u.addCredit credit with
        accountState := .ACTIVE
        expireAt := extendExpiry db.now expire u.expireAt })
      (fun _ => rfl) fun _ => rfl }

variable (r : Request)

/-- `SELECT count(*) AS c FROM login WHERE username = ?`; an SQL error leaves
`$ref->{c}` undefined, which counts as zero. -/
def countLogin : Sql Nat :=
  .query fun db => if r.sqlError .countLogin then 0 else db.countLogin r.username

/-- `select count(*) as c FROM coupons WHERE status = 'N' AND …`. -/
def countCoupons (card : Str) : Sql Nat :=
  .query fun db =>
    if r.sqlError .countCoupons then 0 else db.coupons.rows.countP (claimable card)

/-- The claim, with the truth value of what `execute` returns. -/
def claim (card : Str) : Sql Bool :=
  .exec fun db =>
    if r.sqlError .claim then (false, db, [])
    else (true, claimCoupon card db,
      [.couponClaimed card (((db.coupons.rows.filter (claimable card)).map (·.id)).take 1)])

/-- `SELECT credit, expire FROM coupons WHERE token LIKE ? AND pass LIKE ?`, first row. -/
def selectCoupon (card : Str) : Sql (Option (Int × Int)) :=
  .query fun db =>
    if r.sqlError .select then none
    else (db.coupons.rows.find? (carries card)).map fun k => (k.credit, k.expire)

def credit (card : Str) (amount expire : Int) : Sql Unit :=
  .modify
    (fun db => if r.sqlError .credit then db else creditAccount r.username amount expire db)
    fun db =>
      if r.sqlError .credit then []
      else [.credited (.coupon card) (r.username.getD []) amount (db.countLogin r.username)]

/-- `transactions_records.username` is `NOT NULL`: without one the insert fails. -/
def record (card : Str) (amount expire : Int) : Sql Unit :=
  .modify
    (fun db =>
      match r.username with
      | none => db
      | some username =>
          if r.sqlError .record then db
          else db.insertRecord amount "coupon".toList username
            (some (card ++ "++".toList ++ decInt expire)))
    fun _ =>
      match r.username with
      | none => []
      | some username =>
          if r.sqlError .record then []
          else [.recorded (.coupon card) username amount]

/-- From the claim on. -/
def redeem (card : Str) : Sql Page := do
  let couponFound ← claim r card
  if !couponFound then
    return .fail failMsg
  let ref ← selectCoupon r card
  match ref with
  | none => return .fail failMsg
  | some (amount, expire) =>
      if amount = 0 then
        return .fail failMsg
      credit r card amount expire
      record r card amount expire
      return .success

def couponCredit : Sql Page := do
  if !truthy r.card then
    return .fail failMsg
  let card := r.card.getD []
  if card.length ≠ 32 then
    return .fail failMsg
  let c ← countLogin r
  if c = 0 then
    return .fail (noUserMsg r.username)
  let c ← countCoupons r card
  if c = 0 then
    return .fail checkCardMsg
  redeem r card

end ParDiff.Vouchers
