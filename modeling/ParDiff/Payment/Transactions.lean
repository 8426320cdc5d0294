import ParDiff.Schema

/-!
# `payment/web/payment/transactions.php`, `return_url.php`, `notify_url.php`

`out_trade_no` reaches the database through `bind_param('i', …)`, so it is the
integer at the front of the request parameter.  What `return_verify` and
`notify_verify` answer is decided by Alipay's signature and server; a request
carries that answer.
-/

namespace ParDiff.Payment

open Lib Lib.Text

/-- `id = ?`. -/
def hasId (id : Int) (o : PaymentTransaction) : Bool := decide ((o.id : Int) = id)

/-- `id = ? AND status = 'UNPAID'`. -/
def payable (id : Int) (o : PaymentTransaction) : Bool :=
  hasId id o && decide (o.status = some .UNPAID)

/-- `SELECT status FROM payment_transactions WHERE id = ?`; `none` is the
`false` that is returned without a row. -/
def getTransactionById (id : Int) : Sql (Option (Option OrderStatus)) :=
  .exec fun db =>
    let status := (db.paymentTransactions.rows.find? (hasId id)).map (·.status)
    (status, db, [.statusRead id status])

def pay (tn email : Str) (o : PaymentTransaction) : PaymentTransaction :=
  { o with
    status := some .PAID
    alipayTradeNo := some (tn.take 2000)
    alipayBuyerEmail := some (email.take 2000) }

/-- `UPDATE payment_transactions SET status = 'PAID', … WHERE id = ? AND status =
'UNPAID'`. -/
def payOrder (id : Int) (tn email : Str) (db : Db) : Db :=
  { db with
    paymentTransactions :=
      db.paymentTransactions.update (payable id) (pay tn email) fun _ => rfl }

/-- The update, and whether exactly one row was affected. -/
def payTransaction (id : Int) (tn email : Str) : Sql Bool :=
  .exec fun db =>
    (db.paymentTransactions.rows.countP (payable id) == 1, payOrder id tn email db,
      if db.paymentTransactions.rows.countP (payable id) = 1 then [.orderPaid id] else [])

/-- A fetched row of `SELECT traffic, username, alipay_trade_no,
alipay_buyer_email`. -/
structure Tran where
  username : Str
  traffic : Int
  tradeNo : Option Str
  email : Option Str

/-- `$tran['traffic'] * 1024 * 1024 * 1024`. -/
def bytes (traffic : Int) : Int := traffic * 1024 * 1024 * 1024

/-- `CONCAT('online pay: ', ?, ' - ', ?)`, which is `NULL` if an argument is. -/
def payNote (tradeNo email : Option Str) : Option Str :=
  match tradeNo, email with
  | some tn, some mail => some ("online pay: ".toList ++ tn ++ " - ".toList ++ mail)
  | _, _ => none

def selectTrans (id : Int) : Sql (List Tran) :=
  .exec fun db =>
    ((db.paymentTransactions.rows.filter (hasId id)).map fun o =>
        ⟨o.username, o.traffic, o.alipayTradeNo, o.alipayBuyerEmail⟩,
      db, [.chargeStarted id])

def insertAlipayRecord (id : Int) (tran : Tran) : Sql Unit :=
  .modify
    (fun db => db.insertRecord (bytes tran.traffic) "ALIPAY_DIRECT".toList tran.username
      (payNote tran.tradeNo tran.email))
    fun _ => [.recorded (.order id) tran.username (bytes tran.traffic)]

def creditOwner (id : Int) (tran : Tran) : Sql Unit :=
  .modify (fun db => db.addCredit tran.username (bytes tran.traffic))
    fun db => [.credited (.order id) tran.username (bytes tran.traffic)
      (db.countLogin (some tran.username))]

def charge (id : Int) : Sql Unit := do
  let trans ← selectTrans id
  .forEach trans fun tran => do
    insertAlipayRecord id tran
    creditOwner id tran

/-! ## The handlers -/

inductive TradeStatus
  | TRADE_FINISHED
  | TRADE_SUCCESS
  | other (text : Str)
  deriving DecidableEq, Repr

def TradeStatus.succeeded : TradeStatus → Bool
  | .TRADE_FINISHED => true
  | .TRADE_SUCCESS => true
  | .other _ => false

/-- A message from Alipay, with the verdict of the verification. -/
structure Message where
  verifyResult : Bool
  outTradeNo : Str
  tradeStatus : TradeStatus
  tradeNo : Str
  buyerEmail : Str

/-- `$dingdan`, as the statements see it. -/
def Message.dingdan (m : Message) : Int := intPrefix m.outTradeNo

inductive Response
  /-- `header("Location: {$config[view_page]}")`. -/
  | viewPage
  /-- The echoed text. -/
  | echo (text : Str)
  deriving DecidableEq, Repr

/-- `return_url.php` from `if ($status == 'UNPAID')` on. -/
def returnSucceeded (m : Message) (status : Option (Option OrderStatus)) : Sql Response :=
  if status = some (some .UNPAID) then do
    let paid ← payTransaction m.dingdan m.tradeNo m.buyerEmail
    if paid then
      charge m.dingdan
      return .viewPage
    else return .echo "fail".toList
  else return .echo "fail".toList

def returnUrl (m : Message) : Sql Response :=
  if m.verifyResult then do
    let status ← getTransactionById m.dingdan
    match m.tradeStatus with
    | .other text => return .echo ("trade_status=".toList ++ text ++ "fail".toList)
    | _ => returnSucceeded m status
  else return .echo "fail".toList

/-- `notify_url.php`: `$sOld_trade_status` is the constant `"1"`, so the branch
`$sOld_trade_status < 1` is never taken; it is empty anyway.  No table is read
or written, whatever the trade status. -/
def notifyUrl (m : Message) : Sql Response :=
  if m.verifyResult then do
    .modify id fun _ => [.notifyAnswered m.dingdan m.tradeStatus.succeeded]
    return .echo "success".toList
  else return .echo "fail".toList

end ParDiff.Payment
