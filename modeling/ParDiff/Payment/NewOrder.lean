import ParDiff.Lib.Php
import ParDiff.Lib.SqlInsert
import ParDiff.Schema

/-!
# `payment/web/payment/new-order.php`

The page takes the amount of traffic from the request, and PHP's arithmetic gives
the price.  Amount, price and the name of the user then become part of the text of
an `INSERT`, which the server reads by its own rules.  `magic_quotes_gpc` is off.

PHP computes with exact numbers up to the largest double, where its `INF` begins.
-/

namespace ParDiff.Payment

open Lib Lib.Text Lib.SqlText Lib.Php

/-! ## The price -/

/-- `get_price`. -/
def getPrice (amount : Rat) : Rat :=
  let price := 10
  let special := 1
  amount * price * special

/-- `get_discount`. -/
def getDiscount (amount : Rat) : Rat :=
  if 10 < amount then 4 / 5 else 1 - amount / 50

/-- `$total`. -/
def orderTotal (amount : Rat) : Int :=
  let total := getPrice amount * getDiscount amount
  let total := if total < 1 then 1 else total
  total.floor

/-- `{$total}`. -/
def totalText (amount : Rat) : Str :=
  if doubleLimit ≤ getPrice amount then "INF".toList else floatText (orderTotal amount)

/-! ## The statement -/

def orderSubject (amount total : Str) : Str :=
  "ParDiff VPN traffic ".toList ++ amount ++ " GB - ￥".toList ++ total

def orderBody (amount total : Str) : Str :=
  orderSubject amount total ++ ", http://www.pardiffvpn.com".toList

/-- The text of the `INSERT`. -/
def insertText (currentUser amount total : Str) : Str :=
  ("insert into payment_transactions (subject, body, total, traffic, username, status, " ++
      "`type`) VALUES ('").toList ++ (orderSubject amount total ++
    ("', '".toList ++ (orderBody amount total ++
      ("', ".toList ++ (total ++
        (", ".toList ++ (amount ++
          (", '".toList ++ (currentUser ++ "', 'UNPAID', 'VPN')".toList)))))))))

/-- `new-order.php` up to its query; any other amount is answered with `malicious guy`. -/
def newOrder (currentUser amount : Str) : Option Str :=
  (numeric amount).map fun n => insertText currentUser amount (totalText n.value)

/-! ## What the server reads -/

/-- A number for an `INT` column.  `0X` is not hexadecimal but a name, and a literal
with an exponent is a double. -/
def storedInt (sign : Option Char) : Numeral → Option Int
  | .hex mark digits =>
      if mark = 'x' then some (clampInt (roundAway (signed sign (Numeral.hex mark digits).value)))
      else none
  | .decimal whole fraction none =>
      some (clampInt (roundAway (signed sign (Numeral.decimal whole fraction none).value)))
  | .decimal whole fraction (some e) =>
      if doubleLimit ≤ (Numeral.decimal whole fraction (some e)).value then none
      else some (clampInt (roundEven (signed sign (Numeral.decimal whole fraction (some e)).value)))

def intColumn : List Token → Option Int
  | [.word w] => (Numeral.parse w).bind (storedInt none)
  | [.symbol c, .word w] =>
      if c = '+' ∨ c = '-' then (Numeral.parse w).bind (storedInt (some c)) else none
  | _ => none

/-- `enum('UNPAID','PAID','CHARGED','REVOKED')`; any other text is stored as the empty
value. -/
def statusColumn (s : Str) : Option OrderStatus :=
  if ciEq s "UNPAID".toList then some .UNPAID
  else if ciEq s "PAID".toList then some .PAID
  else if ciEq s "CHARGED".toList then some .CHARGED
  else if ciEq s "REVOKED".toList then some .REVOKED
  else none

/-- A row of `payment_transactions` as the statement gives it. -/
structure OrderRow where
  subject : Str
  body : Str
  total : Int
  traffic : Int
  username : Str
  status : Option OrderStatus
  /-- `enum('VPN')`. -/
  isVpn : Bool
  deriving DecidableEq, Repr

/-- One value for each of the columns, and every value a literal. -/
def orderRow : List (List Token) → Option OrderRow
  | [subject, body, total, traffic, username, status, type] =>
      (textValue subject).bind fun subject =>
      (textValue body).bind fun body =>
      (intColumn total).bind fun total =>
      (intColumn traffic).bind fun traffic =>
      (textValue username).bind fun username =>
      (textValue status).bind fun status =>
      (textValue type).map fun type =>
        ⟨subject.take 200, body.take 2000, total, traffic, username.take 200,
          statusColumn status, ciEq type "VPN".toList⟩
  | _ => none

/-- The tokens up to `VALUES`. -/
def insertHeader : List Token :=
  [.word "insert".toList, .word "into".toList, .word "payment_transactions".toList, .symbol '(',
    .word "subject".toList, .symbol ',', .word "body".toList, .symbol ',', .word "total".toList,
    .symbol ',', .word "traffic".toList, .symbol ',', .word "username".toList, .symbol ',',
    .word "status".toList, .symbol ',', .name "type".toList, .symbol ')', .word "VALUES".toList]

/-- The rows the statement stores; `none` if the server rejects it. -/
def insertedRows (statement : Str) : Option (List OrderRow) :=
  (lex statement).bind fun ts =>
    if insertHeader <+: ts then
      (rows .row (ts.drop insertHeader.length)).bind fun rs => rs.mapM orderRow
    else none

/-- What the page stores. -/
def storedOrders (currentUser amount : Str) : Option (List OrderRow) :=
  (newOrder currentUser amount).bind insertedRows

end ParDiff.Payment
