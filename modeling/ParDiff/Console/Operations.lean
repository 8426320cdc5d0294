import Mathlib.Data.List.Sort
import ParDiff.Console.Site

/-!
# The operations of `web/admin/main.cgi`

One definition for each branch of the chain on `$op`, in the order of the source.
Almost all of them open with the same guard and send everybody else to `index.html`;
`change_note` and `check_coupon` have no such branch and go on to an empty page, and a
failed login prints its redirect and then the page all the same.

`ORDER BY … DESC` keeps the order of the table among equals.
-/

namespace ParDiff.Console

open Lib Lib.Text

variable (env : Env)

/-! ## Pieces of pages -/

/-- An undefined value prints as nothing. -/
def print (value : Option Str) : Str := value.getD []

/-- `int($bytes / 1024 / 1024)`. -/
def wholeMegabytes (bytes : Option Int) : Int := (bytes.getD 0).tdiv (1024 * 1024)

/-- Megabytes for more than one of them, else bytes. -/
def traffic (bytes : Option Int) : Str :=
  if 1024 * 1024 < bytes.getD 0 then decInt (wholeMegabytes bytes) ++ "MB".toList
  else print (bytes.map decInt) ++ "B".toList

/-- `ORDER BY … DESC`. -/
def newestFirst {α : Type} (key : α → Nat) (rows : List α) : List α :=
  rows.mergeSort fun a b => decide (key b ≤ key a)

/-- `sum(connection_traffic) / 1024 / 1024`; `NULL` without a number to add. -/
def consumtion (rows : List Connection) : Option Rat :=
  match rows.filterMap (·.connectionTraffic) with
  | [] => none
  | bytes => some (bytes.sum / 1024 / 1024)

def consumed (rows : List Connection) : Str :=
  "<p>客户共消费: ".toList ++ print ((consumtion rows).map env.decimal) ++ " MB 流量</p>".toList

def onlineRow (now : Time) (c : Connection) : Str :=
  "<tr><td>".toList ++ print c.username ++ "</td><td>".toList ++
    decInt (((now : Int) - c.startTime).tdiv 60) ++ "分钟</td><td>".toList ++
    decInt (wholeMegabytes c.connectionTraffic) ++ "MB</span></td></tr>".toList

def activityRow (e : LogEntry) : Str :=
  "<li><span class=ts>".toList ++ env.timestamp e.ts ++ "</span> ".toList ++ e.event ++
    "</li>\n".toList

def recentRow (c : Connection) : Str :=
  "<tr><td><span class=ts>".toList ++ env.timestamp c.startTime ++
    "</span></td><td><span>".toList ++ env.timestamp c.endTime ++ "</span></td>".toList ++
    "<td>".toList ++ print c.username ++ "</td>".toList ++
    "<td>".toList ++ traffic c.connectionTraffic ++ "</td>".toList ++
    "<td>".toList ++ print c.interface ++ "</td>".toList ++ "<tr>".toList

/-- `_index`. -/
def index : Cgi (Str × Str) := do
  let lastDay ← .query fun s =>
    s.db.connections.rows.filter fun c =>
      (dateAdd s.db.now (-1)).any fun t => decide (t < c.endTime)
  let today ← .query fun s =>
    s.db.connections.rows.filter fun c => decide (s.db.now / 86400 * 86400 < c.startTime)
  let online ← .query fun s =>
    (s.db.connections.rows.filter fun c => decide (c.endTime < c.startTime)).map
      (onlineRow s.db.now)
  let activities ← .query fun s => (newestFirst (·.ts) s.db.logs).take 20
  let recent ← .query fun s => (newestFirst (·.startTime) s.db.connections.rows).take 10
  return ("请选择".toList,
    "<div class=\"section\"><h1>最近24小时流量信息</h1>".toList ++ consumed env lastDay ++
    "<h1>今日流量信息</h1>".toList ++ consumed env today ++
    ("<h1>连接数量图</h1><img src=\"ccconnections.png\" /><h1>流量图</h1>" ++
      "<img src=\"trafficc.png\" /></div><div class=\"section\"><h1>当前在线客户</h1>" ++
      "<table border=1><tr><td>Username</td><td>连接时间</td><td>流量</td></tr>").toList ++
    online.flatten ++ "</table></div><div class=\"section\"><h1>近期活动</h1><ol>".toList ++
    activities.flatMap (activityRow env) ++
    "</ol><h1>最近登陆:</h1><table border=1>".toList ++ recent.flatMap (recentRow env) ++
    ("</table></div><form action=\"main.cgi\" method=\"post\">查询充值卡" ++
      "<input type=\"text\" name=\"coupon\" /><br /><input type=\"submit\" value=\"查询\"/>" ++
      "<input type=\"hidden\" name=\"op\" value=\"check_coupon\" /></form>").toList)

/-! ## `login` -/

/-- `username = ? AND password = md5(?)`. -/
def hasPassword (username password : Option Str) (a : Admin) : Bool :=
  a.named username && password.any fun p => ciEq a.password (env.md5Hex p)

/-- `UPDATE admins SET session = ? WHERE username = ?`. -/
def setSession (salt : Str) (username : Option Str) (s : Site) : Site :=
  { s with
    admins := s.admins.update (Admin.named username) (fun a => { a with session := some salt })
      fun _ => rfl }

def captchaRefusal : Ending :=
  .exit [.header [], .startHtml "验证码不正确!".toList,
    .text "<h1>验证码不正确，你被判定为机器人!</h1><a href=\"/admin\">登陆</a>".toList, .endHtml]

/-- The redirect is printed without `exit`. -/
def loginRefusal : Ending := .show [.redirect "index.html".toList] false [] []

/-- `my $salt = md5_hex(rand(20));`. -/
def Request.salt (r : Request) : Str := env.md5Hex r.rand

/-- `md5_hex(md5_hex($password) . $salt)`. -/
def Request.newSession (r : Request) : Str :=
  env.md5Hex (env.md5Hex (print (r.param "password")) ++ r.salt env)

def login (r : Request) : Cgi Ending := do
  let admin ← auth env r
  if truthy admin then
    let (title, content) ← index env
    return .page title content
  else if !r.captchaValid then return captchaRefusal
  else
    let username := r.param "username"
    let rows ← .query fun s =>
      s.admins.rows.countP (hasPassword env username (r.param "password"))
    if rows = 0 then return loginRefusal
    else
      .modify (setSession (r.salt env) username) fun _ => []
      let (title, content) ← index env
      return .show [.header [("username".toList, print username),
        ("session".toList, r.newSession env)]] true title content

/-! ## Accounts -/

def addUserForm (r : Request) : Cgi Ending :=
  guarded env r toIndex fun _ =>
    return .page "增加用户".toList
      ("<form action=\"main.cgi\" method=\"post\">" ++
        "<input type=\"hidden\" name=\"op\" value=\"add_user\" />" ++
        "Username: <input type=\"text\" name=\"username\" /><br>" ++
        "Password: <input type=\"text\" name=\"password\" /><br>" ++
        "Password again: <input type=\"text\" name=\"password-2\"/><br>" ++
        "Email:<input type=\"text\" name=\"email\"/><br>" ++
        "流量(in MB):<input type=\"text\" name=\"credit\" value=0><br>" ++
        "<input type=\"submit\" value=\"建立用户\"/>").toList

def ofPage : Accounts.Page → Ending
  | .redirect url => .exit [.redirect url]
  | .html title content => .page title content

def addUser (r : Request) : Cgi Ending := do
  let admin ← auth env r
  let page ← onDb (Accounts.addUser
    ⟨admin, r.param "username", r.param "password", r.param "password-2", r.param "email",
      r.param "credit"⟩)
  return ofPage page

/-- What `execute(param('userid'))` binds: the call fails unless there is exactly one value. -/
def bound : List Str → Option Str
  | [value] => some value
  | _ => none

/-- `UPDATE login SET account_state = … WHERE id = ?`. -/
def setState (state : AccountState) (userid : Option Str) (db : Db) : Db :=
  { db with
    login := db.login.update (fun u => hasId userid u.id) (fun u => { u with accountState := state })
      (fun _ => rfl) fun _ => rfl }

/-- The state an `action` stands for. -/
def actionState (action : Option Str) : Option AccountState :=
  if action = some "active".toList then some .ACTIVE
  else if action = some "freeze".toList then some .DISABLED
  else none

def changeUserState (r : Request) : Cgi Ending :=
  guarded env r toIndex fun _ => do
    match actionState (r.param "action") with
    | some state =>
        if truthy (r.param "userid") then
          updateDb (setState state (bound (r.values "userid")))
          onDb (insertLog (print (r.param "action") ++ " on userid: ".toList ++
            print (r.param "userid")))
    | none => pure ()
    return .exit [.redirect "main.cgi?op=list".toList]

/-- `UPDATE login SET notes = ? where id = ? LIMIT 1`. -/
def setNotes (notes userid : Option Str) (db : Db) : Db :=
  { db with
    login := db.login.updateLimitOne (fun u => hasId userid u.id)
      (fun u => { u with notes := notes.map (·.take 1024) }) (fun _ => rfl) fun _ => rfl }

/-- Whoever is not recognised gets a page with nothing on it. -/
def changeNote (r : Request) : Cgi Ending :=
  guarded env r (.page [] []) fun _ => do
    updateDb (setNotes (r.param "notes") (r.param "userid"))
    return .page "修改备注".toList "备注修改成功。".toList

def userRow (u : Login) : Str :=
  let id := dec u.id
  "<tr><td>".toList ++ id ++ "</td><td><a href=\"main.cgi?op=list_user&username=".toList ++
    u.username ++ "\"><!--<img src=\"http://www.gravatar.com/avatar/".toList ++
    env.md5Hex (print u.email) ++ "\"></img>-->".toList ++ u.username ++
    "</a></td><td>".toList ++
    (if 0 < wholeMegabytes u.credit then "<span>" else "<span class=\"attention\">").toList ++
    decInt (wholeMegabytes u.credit) ++
    "MB</td><td><a href=\"main.cgi?op=sendmail_form&to=".toList ++ print u.email ++
    "\">".toList ++ print u.email ++ "</a></td><td>".toList ++
    (match u.accountState with
      | .ACTIVE =>
          "活动 (<a href=\"main.cgi?op=change_user_state&action=freeze&userid=".toList ++ id ++
            "\">冻结用户</a>)".toList
      | .DISABLED =>
          ("<span class=\"attention\">冻结</span> " ++
            "(<a href=\"main.cgi?op=change_user_state&action=active&userid=").toList ++ id ++
            "\">激活用户</a> )".toList) ++
    ("</td><td><form action=\"main.cgi\" method=\"post\">" ++
      "<input type=\"hidden\" name=\"op\" value=\"change_note\" />" ++
      "<input size=\"5\" name=\"notes\" value=\"").toList ++
    (if truthy u.notes then print u.notes else "N/A".toList) ++
    ("\" /><input type=\"submit\" value=\"change\" />" ++
      "<input type=\"hidden\" name=\"userid\" value=\"").toList ++ id ++
    "\" /></form></td></tr>".toList

def list (r : Request) : Cgi Ending :=
  guarded env r toIndex fun _ => do
    let users ← .query fun s => s.db.login.rows
    return .page "用户列表".toList
      (("<table id=\"users_list_table\" border=1><tr><td>id</td><td>username</td>" ++
        "<td>credit</td><td>email</td><td>状态</td><td>备注</td></tr>").toList ++
        users.flatMap (userRow env) ++ "</table>".toList)

def userDetails (username : Str) (u : Login) : Str :=
  "<tr><td>ID</td><td>".toList ++ dec u.id ++ "</td></tr>\n".toList ++
    "<tr><td>Username</td><td>".toList ++ u.username ++ "</td></tr>\n".toList ++
    ("<tr><td>Password</td><td><input type=\"text\" name=\"password\" " ++
      "value=\"new password here!\"/></td></tr>\n").toList ++
    "<tr><td>Credit</td><td><a href=\"main.cgi?op=credit_list&username=".toList ++ username ++
    "\">".toList ++ decInt (wholeMegabytes u.credit) ++ "MB</a></td></tr>\n".toList ++
    "<tr><td>Email: </td><td><input type=\"text\" name=\"email\" value=\"".toList ++
    print u.email ++ "\"/></td></tr>\n".toList ++ "<tr><td>过期: </td><td><pre>".toList ++
    (match u.expireAt with
      | some t => env.timestamp t
      | none => "不过期".toList) ++
    "</pre>延长<input type=\"text\" name=extend value=0 />天</td></tr>\n".toList

def connectionRow (c : Connection) : Str :=
  "<tr><td>".toList ++ dec c.id ++ "</td><td>".toList ++ c.ip ++ "</td><td>".toList ++
    env.timestamp c.startTime ++ "</td><td>".toList ++ env.timestamp c.endTime ++
    "</td><td>".toList ++ traffic c.connectionTraffic ++ "</td><td>".toList ++
    print c.interface ++ "</td><tr>".toList

def chargeRow (t : TransactionsRecord) : Str :=
  "<tr><td>".toList ++ env.timestamp t.ts ++ "</td><td>".toList ++
    decInt (wholeMegabytes t.credit) ++ "MB</td><td>".toList ++
    (if t.operator = "coupon".toList then "点卡" else "人工").toList ++ "</td><td>".toList ++
    (if truthy t.note then print t.note else []) ++ "</td></tr>".toList

def listUser (r : Request) : Cgi Ending :=
  guarded env r toIndex fun _ => do
    let username := print (r.param "username")
    let users ← .query fun s => (s.db.login.rows.filter (Login.named (r.param "username"))).take 1
    let connections ← .query fun s =>
      (newestFirst (·.id) (s.db.connections.rows.filter fun c =>
        (r.param "username").any fun name => c.username.any (ciEq · name))).take 100
    let charges ← .query fun s =>
      newestFirst (·.ts) (s.db.transactionsRecords.filter fun t =>
        (r.param "username").any (ciEq t.username))
    return .page (username ++ "详细信息".toList)
      (("<form action=\"main.cgi\" method=\"post\">" ++
        "<input type=\"hidden\" name=\"op\" value=\"change_user_info\" />" ++
        "<table border=1><input type=\"hidden\" name=\"username\" value=\"").toList ++ username ++
        "\"/>".toList ++ users.flatMap (userDetails env username) ++
        ("</table><br><input type=\"submit\" value=\"Submit\"/></form><br>" ++
          "<a href=\"main.cgi?op=list\">退回</a><h1>登录信息</h1><br><table border=1>" ++
          "<tr><td>id</td><td>ip</td><td>from</td><td>to</td><td>Traffic</td>" ++
          "<td>Type</td></tr>\n").toList ++
        connections.flatMap (connectionRow env) ++
        ("</table><hr></table><h2>充值历史</h2><table border=1><tr><td>时间</td>" ++
          "<td>流量</td><td>类型(点卡/人工)</td><td>备注</td>").toList ++
        charges.flatMap (chargeRow env) ++ "</table>".toList)

/-- `UPDATE login SET … WHERE username = ? LIMIT 1`. -/
def editUser (username : Option Str) (f : Login → Login) (hid : ∀ u, (f u).id = u.id)
    (hname : ∀ u, (f u).username = u.username) (db : Db) : Db :=
  { db with
    login := db.login.updateLimitOne (Login.named username) f hid fun u => by rw [hname] }

/-- `IF(expire_at IS NOT NULL, date_add(expire_at, interval ? day), date_add(now(), interval
? day))`; an interval of `NULL` gives `NULL`. -/
def extended (now : Time) (extend : Option Str) (expireAt : Option Time) : Option Time :=
  extend.bind fun days => dateAdd (expireAt.getD now) (intPrefix days)

def changeUserInfo (r : Request) : Cgi Ending :=
  guarded env r toIndex fun _ => do
    let username := r.param "username"
    -- an undefined password is stored as the empty text
    if r.param "password" ≠ some "new password here!".toList then
      updateDb (editUser username
        (fun u => { u with password := (print (r.param "password")).take 32 })
        (fun _ => rfl) fun _ => rfl)
    updateDb (editUser username (fun u => { u with email := (r.param "email").map (·.take 50) })
      (fun _ => rfl) fun _ => rfl)
    updateDb fun db => editUser username
      (fun u => { u with expireAt := extended db.now (r.param "extend") u.expireAt })
      (fun _ => rfl) (fun _ => rfl) db
    return .exit [.redirect ("main.cgi?op=list_user&username=".toList ++ print username)]

def creditForm (newUsername : Str) (u : Login) : Str :=
  "<h1>Change ".toList ++ newUsername ++ " credit</h1>Current credit: ".toList ++
    decInt (wholeMegabytes u.credit) ++ "MB(".toList ++ print (u.credit.map decInt) ++
    (")<br>Delta credit: <form action=\"main.cgi\" method=\"post\">" ++
      "<input type=\"hidden\" value=\"onchangecredit\" name=\"op\"/>" ++
      "<input type=\"text\" name=\"delta\" />MB<br>" ++
      "<input type=\"hidden\" name=\"username\" value=\"").toList ++ u.username ++
    "\"/><input type=\"submit\" value=\"Submit!\" /></form>".toList

def creditList (r : Request) : Cgi Ending :=
  guarded env r toIndex fun _ => do
    let ref ← .query fun s => s.db.login.rows.find? (Login.named (r.param "username"))
    return match ref with
      | some u => .page "余额操作".toList (creditForm (print (r.param "username")) u)
      | none => .exit [.redirect "main.cgi?op=list".toList]

def onchangecredit (r : Request) : Cgi Ending := do
  let admin ← auth env r
  let page ← onDb (Accounts.onchangecredit ⟨admin, r.param "username", r.param "delta"⟩)
  return ofPage page

/-! ## Administrators -/

def changeAdminPasswordForm (r : Request) : Cgi Ending :=
  guarded env r toIndex fun _ =>
    return .page "修改管理员密码".toList
      ("<form action=\"main.cgi\" method=\"post\">" ++
        "<input type=\"hidden\" name=\"op\" value=\"change_admin_password\"/>" ++
        "new password:<input type=\"text\" name=\"password_1\" /><br>" ++
        "retype password:<input type=\"text\" name=\"password_2\" /><br>" ++
        "<input type=\"submit\" value=\"修改\"/></form>").toList

/-- `UPDATE admins SET password = md5(?) WHERE username = ?`. -/
def setPassword (password username : Str) (s : Site) : Site :=
  { s with
    admins := s.admins.update (Admin.named (some username))
      (fun a => { a with password := env.md5Hex password }) fun _ => rfl }

/-- Both fields are given and equal. -/
def Request.newPassword (r : Request) : Option Str :=
  if truthy (r.param "password_1") && truthy (r.param "password_2") &&
      r.param "password_1" == r.param "password_2" then r.param "password_1"
  else none

def changeAdminPassword (r : Request) : Cgi Ending :=
  guarded env r toIndex fun username =>
    match r.newPassword with
    | some password => do
        .modify (setPassword env password username) fun _ => []
        return .exit [.redirect "main.cgi".toList]
    | none => return .exit [.redirect "main.cgi?op=change_admin_password_form".toList]

/-! ## Mails -/

def sendmailForm (r : Request) : Cgi Ending :=
  guarded env r toIndex fun _ =>
    if env.validAddress (r.param "to") then
      return .page "发送邮件".toList
        ("<h1>发送邮件给".toList ++ print (r.param "to") ++
          ("</h1><form action=\"main.cgi\" method=\"post\">" ++
            "<input type=hidden name=\"op\" value=\"sendmail\" />" ++
            "标题:<input type=text name=\"subject\" /><br>" ++
            "正文<textarea name=\"content\"></textarea><br>" ++
            "<input type=submit value=\"submit\"/><input type=hidden name=\"to\" value=\"").toList ++
          print (r.param "to") ++ "\"/></form>".toList)
    else
      return .page "发送邮件给所有用户".toList
        ("<h1>发送邮件给所有用户</h1><form action=\"main.cgi\" method=\"post\">" ++
          "<p>请选择收件人:</p><ul id=\"email_recipient_selection\">" ++
          "<li>新用户<input type=\"radio\" name=\"to\" value=\"new\" /></li>" ++
          "<li>已冻结用户<input type=\"radio\" name=\"to\" value=\"frozen\" /></li>" ++
          "<li>活动用户<input type=\"radio\" name=\"to\" value=\"active\" /></li>" ++
          "<li>所有用户<input type=\"radio\" name=\"to\" value=\"all\" /></li>" ++
          "</ul></p><input type=hidden value=\"sendmail\" name=\"op\"/>标题:<br />" ++
          "<input class=\"email_input_field\" type=text name=\"subject\" /><br />正文<br />" ++
          "<textarea class=\"email_input_field email_input_content_field\" name=\"content\">" ++
          "</textarea><br><input type=submit value=\"submit\"/></form>").toList

/-- The accounts a group of recipients stands for. -/
def group (recipients : Option Str) : Option (Login → Bool) :=
  if recipients = some "all".toList then some fun _ => true
  else if recipients = some "new".toList then some fun u => u.credit == some 0
  else if recipients = some "frozen".toList then some fun u => u.accountState == .DISABLED
  else if recipients = some "active".toList then
    some fun u => u.credit.any (decide <| 0 ≤ ·) && u.accountState == .ACTIVE
  else none

def delivered (recipients : List Str) : Ending :=
  .page "已发送到".toList ("delivered to <br><table border=1>".toList ++
    (recipients.flatMap fun a => "<tr><td>".toList ++ a ++ "</td></tr>".toList) ++
    "</table>".toList)

def sendmail (r : Request) : Cgi Ending :=
  guarded env r toIndex fun _ => do
    let subject := print (r.param "subject")
    let content := print (r.param "content")
    match group (r.param "to") with
    | some member =>
        let users ← .query fun s => s.db.login.rows.filter member
        let recipients := (users.filterMap (·.email)).filter env.emailValid
        .forEach recipients fun email => sendMail env (some email) subject content
        return delivered recipients
    | none =>
        if env.validAddress (r.param "to") then
          sendMail env (r.param "to") subject content
          return delivered (r.param "to").toList
        else return .exit [.redirect "main.cgi?op=list".toList]

/-! ## Tickets -/

def ticketRow (thread : TicketThread) (last : Ticket) : Str :=
  "<tr><td>".toList ++
    (if thread.status = .closed then "closed" else "<span class=\"attention\">open</span>").toList ++
    "</td><td><a href=\"main.cgi?op=view_ticket&ticket_id=".toList ++ dec thread.id ++
    "\">".toList ++ thread.title ++ "</a></td><td>".toList ++ thread.username ++
    "</td><td>".toList ++ thread.email ++ "</td><td>".toList ++ thread.category ++
    "</td><td>".toList ++ env.timestamp last.ts ++ "</td><td>".toList ++ print last.username ++
    "</td></tr>".toList

/-- The threads with the ticket of the highest id in each. -/
def lastTickets (s : Site) : List (TicketThread × Ticket) :=
  s.ticketThreads.rows.filterMap fun thread =>
    ((s.tickets.rows.filter fun t => t.threadId == (thread.id : Int)).argmax (·.id)).map (thread, ·)

def listTickets (r : Request) : Cgi Ending :=
  guarded env r toIndex fun _ => do
    let threads ← .query lastTickets
    return .page "列出所有tickets".toList
      (("<table border=1 width=\"90%\"><tr><td>状态</td><td>标题</td><td>用户名</td>" ++
        "<td>用户邮箱</td><td>类别</td><td>最后修改时间</td><td>最后回复人</td></tr>").toList ++
        (threads.flatMap fun (thread, last) => ticketRow env thread last) ++ "</table>".toList)

def recordRow (t : TransactionsRecord) : Str :=
  "<tr><td>".toList ++ env.number ((t.credit.getD 0 : Rat) / 1024 / 1024) ++
    "MB</td><td>".toList ++ t.operator ++ "</td><td>".toList ++ t.username ++
    "</td><td>".toList ++ env.timestamp t.ts ++ "</td><td>".toList ++ print t.note ++
    "</td></tr>".toList

/-- Whoever is not recognised gets a page with nothing on it. -/
def checkCoupon (r : Request) : Cgi Ending :=
  guarded env r (.page [] []) fun _ => do
    let coupon := '%' :: print (r.param "coupon") ++ ['%']
    let records ← .query fun s =>
      (newestFirst (·.ts) (s.db.transactionsRecords.filter fun t => t.note.any (like coupon))).take 20
    return .page ("Coupon ".toList ++ coupon ++ "  查询".toList)
      (("<table border=\"1\" width=\"90%\"><tr><td>流量</td><td>操作人</td><td>用户</td>" ++
        "<td>时间</td><td>记录</td></tr>").toList ++ records.flatMap (recordRow env) ++
        "</table>".toList)

def ticketContent (t : Ticket) : Str :=
  "<tr><td><p>日期: ".toList ++ env.timestamp t.ts ++ "</p>".toList ++
    (if t.role = .client then [] else "<p>回复人: ".toList ++ print t.username) ++
    "<pre>".toList ++ t.content ++ "</pre></td></tr>".toList

def viewTicket (r : Request) : Cgi Ending :=
  guarded env r toIndex fun _ => do
    let ticketId := r.param "ticket_id"
    let tickets ← .query fun s =>
      newestFirst (·.id) (s.tickets.rows.filter fun t =>
        ticketId.any fun text => decide ((t.threadId : Rat) = numPrefix text))
    return .page ("Ticket ".toList ++ print ticketId)
      ("<table border=\"1\" width=\"90%\">".toList ++ tickets.flatMap (ticketContent env) ++
        ("</table><form action=\"main.cgi\" method=\"post\">\n" ++
          "<input type=\"hidden\" name=\"op\" value=\"mod_ticket\" />\n" ++
          "<input type=\"hidden\" name=\"ticket_id\" value=\"").toList ++ print ticketId ++
        ("\" />\n<textarea name=\"ticket_content\" cols=\"80\" rows=\"10\">\n请在此输入\n" ++
          "</textarea>\n<br />\n<select name=\"status\">\n<option value=\"closed\">关闭</option>\n" ++
          "<option value=\"open\" selected>开启</option>\n</select>\n<br />\n" ++
          "<input type=\"submit\" value=\"提交\" />\n</form>").toList)

/-- `INSERT INTO tickets VALUES (0, ?, 'pardiff', now(), ?, ?)`; `NULL` is refused for the
thread and for the text. -/
def insertTicket (ticketId : Option Str) (username : Str) (content : Option Str) (s : Site) :
    Site :=
  match ticketId, content with
  | some thread, some text =>
      { s with
        tickets := s.tickets.insert
          (fun id => ⟨id, clampInt (roundAway (numPrefix thread)), .pardiff, s.db.now,
            some (username.take 200), text.take 65535⟩) fun _ => rfl }
  | _, _ => s

/-- What the `ENUM` column makes of a text: a value, the number of one, or neither.
`NULL` is stored as the first value. -/
def TicketStatus.ofText : Option Str → TicketStatus
  | none => .opened
  | some text =>
      if ciEq text "open".toList || text = "1".toList then .opened
      else if ciEq text "closed".toList || text = "2".toList then .closed
      else .invalid

/-- `UPDATE ticket_threads SET status = ? WHERE id = ?`. -/
def setStatus (status ticketId : Option Str) (s : Site) : Site :=
  { s with
    ticketThreads := s.ticketThreads.update (fun thread => hasId ticketId thread.id)
      (fun thread => { thread with status := .ofText status }) fun _ => rfl }

def replyNotice (ticketId content token : Str) (thread : TicketThread) : Str :=
  "尊敬的ParDiff客户，\n\n您提交的支持消息(".toList ++ thread.title ++
    ")已经得到ParDiff技术支持响应:\n".toList ++ content ++ "\n目前状态为".toList ++
    (if thread.status = .opened then "打开" else "关闭").toList ++
    ("\n所有后续消息都将通过ParDiff支持系统(vpn.pardiff.com/ticket)完成，" ++
      "您会在此邮箱中收到后续信息提示。\n\n" ++
      "点此浏览后续信息 http://vpn.pardiff.com/ticket/view.cgi?ticket=").toList ++ ticketId ++
    "&token=".toList ++ token ++
    "\n\n感谢您的合作。\n\nParDiff VPN Support\nsupport@pardiff.com\n".toList

def modTicket (r : Request) : Cgi Ending :=
  guarded env r toIndex fun adminName => do
    let ticketId := print (r.param "ticket_id")
    let ticketToken := env.md5Hex (ticketId ++ env.md5Hex ticketId)
    let ticketContent := print (r.param "ticket_content")
    .modify (insertTicket (r.param "ticket_id") adminName (r.param "ticket_content")) fun _ => []
    .modify (setStatus (r.param "status") (r.param "ticket_id")) fun _ => []
    sendMail env (some "support@pardiffvpn.com".toList)
      ("ticket replied - ".toList ++ ticketId ++ " by ".toList ++ adminName)
      (ticketContent ++ "\n\n==========\n\n status: ".toList ++ print (r.param "status") ++
        " \n\n".toList)
    let ref ← .query fun s =>
      s.ticketThreads.rows.find? fun thread => hasId (r.param "ticket_id") thread.id
    match ref with
    | some thread =>
        if truthy (some thread.email) then
          sendMail env (some thread.email) ("技术支持状态修改: TicketID-".toList ++ ticketId)
            (replyNotice ticketId ticketContent ticketToken thread)
    | none => pure ()
    return .page "ticket修改成功".toList ("<p>".toList ++ ticketContent ++ "</p>".toList)

def unknownOp (r : Request) : Cgi Ending :=
  guarded env r toIndex fun _ => return .page "未知操作".toList "<h1>未知操作</h1>".toList

/-! ## The chain on `$op` -/

inductive Op
  | login
  | addUserForm
  | addUser
  | changeUserState
  | changeNote
  | list
  | listUser
  | changeUserInfo
  | creditList
  | onchangecredit
  | changeAdminPasswordForm
  | changeAdminPassword
  | sendmailForm
  | sendmail
  | listTickets
  | checkCoupon
  | viewTicket
  | modTicket
  | unknown
  deriving DecidableEq, Repr

def Op.names : List (String × Op) :=
  [("login", .login), ("add_user_form", .addUserForm), ("add_user", .addUser),
    ("change_user_state", .changeUserState), ("change_note", .changeNote), ("list", .list),
    ("list_user", .listUser), ("change_user_info", .changeUserInfo),
    ("credit_list", .creditList), ("onchangecredit", .onchangecredit),
    ("change_admin_password_form", .changeAdminPasswordForm),
    ("change_admin_password", .changeAdminPassword), ("sendmail_form", .sendmailForm),
    ("sendmail", .sendmail), ("list_tickets", .listTickets), ("check_coupon", .checkCoupon),
    ("view_ticket", .viewTicket), ("mod_ticket", .modTicket)]

/-- The branch that `$op` selects; without a value it is the login. -/
def Request.op (r : Request) : Op :=
  match r.param "op" with
  | none => .login
  | some text =>
      if !truthy (some text) then .login
      else (Op.names.lookup (String.ofList text)).getD .unknown

def operation (r : Request) : Cgi Ending :=
  match r.op with
  | .login => login env r
  | .addUserForm => addUserForm env r
  | .addUser => addUser env r
  | .changeUserState => changeUserState env r
  | .changeNote => changeNote env r
  | .list => list env r
  | .listUser => listUser env r
  | .changeUserInfo => changeUserInfo env r
  | .creditList => creditList env r
  | .onchangecredit => onchangecredit env r
  | .changeAdminPasswordForm => changeAdminPasswordForm env r
  | .changeAdminPassword => changeAdminPassword env r
  | .sendmailForm => sendmailForm env r
  | .sendmail => sendmail env r
  | .listTickets => listTickets env r
  | .checkCoupon => checkCoupon env r
  | .viewTicket => viewTicket env r
  | .modTicket => modTicket env r
  | .unknown => unknownOp env r

/-- `main.cgi`. -/
def mainCgi (r : Request) : Cgi (List Output) := do
  let ending ← operation env r
  return finish ending

end ParDiff.Console
