import Mathlib.Data.List.MinMax
import ParDiff.Schema

/-!
# `web/admin/main.cgi` (`add_user`, `onchangecredit`) and `web/user/create.cgi`

The pages that create accounts and change their credit by hand.  A request
carries its parameters as they are, and the answers of what lies outside: the
administrator `auth` recognised, whether the captcha was solved, whether
`Email::Valid` accepts the address.  The mail that `create.cgi` sends is left
out.

A credit is typed in megabytes and may have a fraction.  `add_user` has it multiplied
twice, by MySQL for the account and by Perl for the record, and each way has its own
rounding to whole bytes.
-/

namespace ParDiff.Accounts

open Lib Lib.Text

inductive Page
  | redirect (url : Str)
  | html (title content : Str)
  deriving DecidableEq, Repr

/-! ## Numbering the clients -/

/-- `ip_to_num`: what is not a dotted quad counts as zero. -/
def ipToNum (ip : Str) : Nat :=
  match (chomp ip).splitOn '.' with
  | [a, b, c, d] =>
      if [a, b, c, d].all (fun part => !part.isEmpty && part.all Char.isDigit) then
        (([a, b, c, d].map fun part => (intPrefix part).toNat).foldl fun n k => n * 256 + k) 0
      else 0
  | _ => 0

/-- `num_to_ip`. -/
def numToIp (num : Nat) : Str :=
  dec (num / (256 * 256 * 256)) ++ '.' :: (dec (num / (256 * 256) % 256) ++
    '.' :: (dec (num / 256 % 256) ++ '.' :: dec (num % 256)))

/-- `SELECT clientip FROM login ORDER BY id DESC LIMIT 1`, and the next address. -/
def getClientIp : Sql Str :=
  .query fun db =>
    match db.login.rows.argmax (·.id) with
    | some u => numToIp (ipToNum u.clientip + 1)
    | none => "0.0.0.0".toList

/-! ## Statements -/

/-- `exist_username`. -/
def existUsername (username : Str) : Sql Bool :=
  .query fun db => decide (0 < db.countLogin (some username))

/-- The row of `INSERT INTO login (id, username, password, clientip, serverip,
credit, email, …)`; longer texts are cut to the width of their column. -/
def newLogin (username password clientip : Str) (credit : Option Int) (email : Str)
    (expireAt : Option Time) (id : Nat) : Login where
  id := id
  username := username.take 16
  password := password.take 32
  clientip := clientip.take 15
  serverip := "10.1.1.1".toList
  credit := credit
  email := some (email.take 50)
  expireAt := expireAt
  accountState := .ACTIVE
  notes := none
  username_le := length_username_le username

/-- The insert fails if the name is taken; the scripts go on. -/
def insertLogin (username password clientip : Str) (credit : Option Int) (email : Str)
    (expireAt : Option Time) (db : Db) : Db :=
  match db.login.insert (newLogin username password clientip credit email expireAt)
      (fun _ => rfl) with
  | none => db
  | some login => { db with login := login }

def adminNote : Option Str := some "Admin人工".toList

/-! ## `add_user` -/

structure AddUser where
  admin : Option Str
  username : Option Str
  password : Option Str
  password2 : Option Str
  email : Option Str
  credit : Option Str

/-- The condition but for `!exist_username($new_username)`. -/
def AddUser.complete (r : AddUser) : Bool :=
  truthy r.username && truthy r.password && truthy r.password2 && truthy r.email &&
    (Perl.numberOf r.credit).nonneg && r.password == r.password2

/-- `? * 1024 * 1024` in SQL: `NULL` stays `NULL`. -/
def AddUser.loginCredit (r : AddUser) : Option Int :=
  r.credit.bind fun text =>
    ((MySql.result (MySql.doubleOfText text * 1024)).bind fun x =>
      MySql.result (x * 1024)).map MySql.bigintOfDouble

/-- `$new_credit * 1024 * 1024` in Perl. -/
def AddUser.recordCredit (r : AddUser) : Int :=
  MySql.bigintOfText (megabytes (Perl.numberOf r.credit)).text

def addUser (r : AddUser) : Sql Page :=
  if truthy r.admin then do
    let newUsername := r.username.getD []
    let newClientIp ← getClientIp
    if r.complete then
      let known ← existUsername newUsername
      if known then
        return .redirect "main.cgi?op=add_user_form".toList
      else
        .modify (insertLogin newUsername (r.password.getD []) newClientIp r.loginCredit
          (r.email.getD []) none) fun _ => []
        .modify (fun db => db.insertRecord r.recordCredit (r.admin.getD []) newUsername
          adminNote) fun _ => []
        return .html "增加用户成功".toList
          ("<p>成功增加用户: ".toList ++ newUsername ++ "</p>".toList)
    else return .redirect "main.cgi?op=add_user_form".toList
  else return .redirect "index.html".toList

/-! ## `onchangecredit` -/

structure ChangeCredit where
  admin : Option Str
  username : Option Str
  delta : Option Str

/-- The change, as it is bound in both statements. -/
def ChangeCredit.bytes (r : ChangeCredit) : Str := (megabytes (Perl.numberOf r.delta)).text

/-- `credit + ?` is rounded when it is stored. -/
def changeCredit (bytes : Str) (u : Login) : Login :=
  { u with accountState := .ACTIVE, credit := u.credit.bind (MySql.addText · bytes) }

/-- `UPDATE login SET account_state = 'ACTIVE', credit = credit + ? WHERE username
= ? LIMIT 1`. -/
def changeAccount (r : ChangeCredit) (db : Db) : Db :=
  { db with
    login := db.login.updateLimitOne (Login.named r.username) (changeCredit r.bytes)
      (fun _ => rfl) fun _ => rfl }

/-- The record; `username` is `NOT NULL`. -/
def recordChange (r : ChangeCredit) (db : Db) : Db :=
  match r.username with
  | none => db
  | some username =>
      db.insertRecord (MySql.bigintOfText r.bytes) (r.admin.getD []) username adminNote

def onchangecredit (r : ChangeCredit) : Sql Page :=
  if truthy r.admin then do
    .modify (changeAccount r) fun _ => []
    -- record
    .modify (recordChange r) fun _ => []
    return .redirect ("main.cgi?op=list_user&username=".toList ++ r.username.getD [])
  else return .redirect "index.html".toList

/-! ## `create.cgi` -/

structure Create where
  captchaValid : Bool
  /-- `Email::Valid->address($email)`. -/
  emailValid : Bool
  username : Option Str
  password : Option Str
  passwordAgain : Option Str
  email : Option Str

/-- `_fail`. -/
def fail (msg : String) : Page := .html "建立帐号失败!".toList msg.toList

def createdMsg (username : Str) : Str :=
  "<h1>成功增加用户".toList ++ username ++
    ("</h1><p>稍后使用教程将会发送到您的注册邮箱，您现在即可购买点卡。</p>" ++
      "<p>购买信息可以在<a href=\"http://vpn.pardiff.com\">首页</a>找到</p>").toList

/-- The insert, and whether `mysql_insertid` is positive. -/
def insertAccount (r : Create) (clientip : Str) : Sql Bool :=
  .exec fun db =>
    ((db.login.insert (newLogin (r.username.getD []) (r.password.getD []) clientip (some 0)
        (r.email.getD []) (dateAdd db.now 3)) fun _ => rfl).isSome,
      insertLogin (r.username.getD []) (r.password.getD []) clientip (some 0) (r.email.getD [])
        (dateAdd db.now 3) db, [])

/-- From `get_client_ip` on. -/
def createAccount (r : Create) : Sql Page := do
  let newClientIp ← getClientIp
  let inserted ← insertAccount r newClientIp
  if inserted then
    insertLog ("[user] Successfully created user ".toList ++ r.username.getD [])
    return .html "增加用户成功".toList (createdMsg (r.username.getD []))
  else return fail "重复的用户名"

def create (r : Create) : Sql Page :=
  if !r.captchaValid then
    return .html "验证码不正确!".toList "<h1>验证码不正确，你被判定为机器人!</h1>".toList
  else if !(truthy r.password && truthy r.username && truthy r.passwordAgain &&
      truthy r.email) then
    return fail "请填写完整。"
  else if !r.emailValid then
    return fail "电子邮件不正确。"
  else if r.password ≠ r.passwordAgain then
    return fail "两次密码输入不匹配"
  else createAccount r

end ParDiff.Accounts
