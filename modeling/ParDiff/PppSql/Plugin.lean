import ParDiff.Lib.Interleave
import ParDiff.Lib.SqlText
import ParDiff.Lib.Transaction
import ParDiff.PppSql.Password

/-!
# The MySQL plugin of pppd

`src/auth-mysql.c` of pppd-sql: how a link is authenticated against a table, and what is
done when IPCP goes up and down.  The options are those of `src/plugin-mysql.c`.  With
`mysql-exclusive` the row of the user is read with a lock, and a column of it says whether
the user is logged in.

Links run at the same time, each in a process of its own, and the server breaks
connections, refuses them and loses replies as it likes.  A connection that broke stays
broken; the client does not open it again by itself.  Texts that do not fit into the
buffers of 1024 bytes are cut off or run over them; no result is about these.
-/

namespace ParDiff.PppSql

open Lib Lib.Text Lib.SqlText Lib.Transaction

def maxNameLen : Nat := 256

/-! ## Options -/

structure Options where
  host : Option Str
  port : Option Str
  user : Option Str
  pass : Option Str
  passEncryption : Option Str
  passKey : Option Str
  database : Option Str
  table : Option Str
  columnUser : Option Str
  columnPass : Option Str
  columnClientIp : Option Str
  columnServerIp : Option Str
  columnUpdate : Option Str
  condition : Option Str
  exclusive : Bool
  authoritative : Bool
  ignoreMultiple : Bool
  ignoreNull : Bool
  retryConnect : Nat
  retryQuery : Nat
  ipUp : Option Str
  ipUpFail : Bool
  ipDown : Option Str
  ipDownFail : Bool

namespace Options

/-- `pppd__mysql_parameter` returns zero. -/
def parameter (opt : Options) : Bool :=
  [opt.host, opt.port, opt.user, opt.pass, opt.passEncryption, opt.database, opt.table,
      opt.columnUser, opt.columnPass, opt.columnClientIp, opt.columnServerIp].all (·.isSome) &&
    !((strcaseeq (opt.passEncryption.getD []) "CRYPT".toList ||
        strcaseeq (opt.passEncryption.getD []) "AES".toList) && opt.passKey.isNone) &&
    !(opt.exclusive && (opt.columnUpdate.isNone || !opt.authoritative))

/-- The row of the user is locked while its password is checked. -/
def locks (opt : Options) : Bool :=
  opt.exclusive && opt.authoritative && opt.columnUpdate.isSome

/-! ## The texts of the queries -/

/-- `%s`. -/
def printS (s : Option Str) : Str := s.getD "(null)".toList

/-- `snprintf (query, 1024, …)`. -/
def snprintf (text : Str) : Str := text.take 1023

def selectText (opt : Options) (name : Str) : Str :=
  "SELECT ".toList ++ printS opt.columnPass ++ ", ".toList ++ printS opt.columnClientIp ++
    ", ".toList ++ printS opt.columnServerIp ++ " FROM ".toList ++ printS opt.table ++
    " WHERE ".toList ++ printS opt.columnUser ++ "='".toList ++ name ++ "'".toList

/-- What `strncat` puts behind the name. -/
def tailText (opt : Options) : Str :=
  (opt.condition.elim [] fun condition => snprintf (" AND ".toList ++ condition)) ++
    if opt.locks then " FOR UPDATE".toList else []

def selectQuery (opt : Options) (name : Str) : Str := snprintf (opt.selectText name) ++ opt.tailText

def updateText (opt : Options) (name status : Str) : Str :=
  "UPDATE ".toList ++ printS opt.table ++ " SET ".toList ++ printS opt.columnUpdate ++
    "='".toList ++ status ++ "' WHERE ".toList ++ printS opt.columnUser ++ "='".toList ++ name ++
    "'".toList

def updateQuery (opt : Options) (name status : Str) : Str := snprintf (opt.updateText name status)

end Options

/-! ## The server -/

structure Account where
  user : Str
  pass : Option Str
  clientIp : Option Str
  serverIp : Option Str
  /-- The column `mysql-column-update`. -/
  update : Str
  /-- The other columns, which a condition may read. -/
  others : List (Str × Option Str)

/-- A status for the rows of a user. -/
structure StatusWrite where
  account : Str
  status : Str

def store (accounts : List Account) (w : StatusWrite) : List Account :=
  accounts.map fun r => if fold r.user = w.account then { r with update := w.status } else r

def rowsOf (accounts : List Account) (account : Str) : List Account :=
  accounts.filter fun r => fold r.user = account

inductive Statement
  | select (name : Str) (condition : Option Str) (forUpdate : Bool)
  | update (name status : Str)

/-- How the server reads a text, and an additional condition. -/
structure Sql where
  parse : Str → Option Statement
  condition : Str → Account → Bool

abbrev Handle (ι : Type) := ι × Nat

abbrev MysqlServer (ι : Type) := Server (Handle ι) Str StatusWrite (List Account)

/-- The server, and how many connections each process had so far. -/
structure Mysql (ι : Type) where
  server : MysqlServer ι
  opened : ι → Nat
  refuses : Bool

/-- What can happen to the server and its connections. -/
inductive Disturbance (ι : Type)
  | refuse (refuses : Bool)
  | fault (f : Fault (Handle ι))

inductive Event
  /-- A status is committed. -/
  | stored (account status : Str)
  /-- The table has let a peer in. -/
  | established (name : Str)
  /-- The link is going down. -/
  | released
  deriving DecidableEq

/-- What the plugin finds on its host. -/
structure Host where
  sql : Sql
  lib : Crypto
  /-- The memory behind the buffers. -/
  beyond : Bytes
  inetAton : Str → Bool

section Plugin

variable {ι : Type} [DecidableEq ι]

def Mysql.disturb (d : Disturbance ι) (s : Mysql ι) : Mysql ι :=
  match d with
  | .refuse refuses => { s with refuses }
  | .fault f => { s with server := s.server.fault f }

namespace Sql

/-- The rows that a `SELECT` finds. -/
def found (sql : Sql) (name : Str) (condition : Option Str) (accounts : List Account) :
    List Account :=
  (rowsOf accounts (fold name)).filter fun r => condition.all (sql.condition · r)

/-- One statement on the server; `none` is an error. -/
def exec (sql : Sql) (c : Handle ι) (text : Str) (s : MysqlServer ι) :
    Option (List Account) × MysqlServer ι :=
  match sql.parse text with
  | none => (none, s)
  | some (.select name condition false) => (some (sql.found name condition s.data), s)
  | some (.select name condition true) =>
      let (locked, s) := s.lock c (fold name)
      (if locked then some (sql.found name condition s.data) else none, s)
  | some (.update name status) =>
      let (written, s) := s.write StatusWrite.account c ⟨fold name, status⟩
      (if written then some [] else none, s)

end Sql

abbrev Program (ι α : Type) := Script (Mysql ι) Event α

/-- A statement on the server that nobody else can see. -/
def onServer {α : Type} (f : MysqlServer ι → α × MysqlServer ι) : Program ι α :=
  .exec fun s => ((f s.server).1, { s with server := (f s.server).2 }, [])

/-- `mysql_real_connect`. -/
def mysqlRealConnect (i : ι) : Program ι (Option (Handle ι)) :=
  .exec fun s =>
    if s.refuses then (none, s, [])
    else
      (some (i, s.opened i),
        { s with
          server := s.server.connect (i, s.opened i)
          opened := Function.update s.opened i (s.opened i + 1) }, [])

/-- `mysql_autocommit (mysql, 0)`. -/
def mysqlAutocommit (c : Handle ι) : Program ι Bool :=
  onServer fun s =>
    let sent := s.send c fun s => ((), s)
    (sent.1.isSome, sent.2)

/-- `mysql_query` and `mysql_store_result`. -/
def mysqlQuery (sql : Sql) (mysql : Option (Handle ι)) (text : Str) :
    Program ι (Option (List Account)) :=
  match mysql with
  | none => .done none
  | some c =>
      onServer fun s =>
        let sent := s.send c (sql.exec c text)
        (sent.1.join, sent.2)

/-- `mysql_commit`. -/
def mysqlCommit (mysql : Option (Handle ι)) : Program ι Bool :=
  match mysql with
  | none => .done false
  | some c =>
      .exec fun s =>
        let sent := s.server.send c fun s => ((), s.commit store c)
        (sent.1.isSome, { s with server := sent.2 },
          if s.server.link c = .lost then []
          else (s.server.writes c).map fun w => .stored w.account w.status)

/-- `mysql_rollback`. -/
def mysqlRollback (mysql : Option (Handle ι)) : Program ι Unit :=
  match mysql with
  | none => .done ()
  | some c => onServer fun s => ((), (s.send c fun s => ((), s.rollback c)).2)

/-- `pppd__mysql_disconnect`. -/
def mysqlDisconnect (mysql : Option (Handle ι)) : Program ι Unit :=
  match mysql with
  | none => .done ()
  | some c => onServer fun s => ((), s.close c)

/-! ## Connecting -/

/-- The loop of `pppd__mysql_connect`; `none` is an error.  It can end without a
connection and without an error. -/
def connectLoop (i : ι) : Nat → Option (Handle ι) → Program ι (Option (Option (Handle ι)))
  | 0, mysql => .done (some mysql)
  | count + 1, _ =>
      (mysqlRealConnect i).bind fun
        | none => if count = 0 then .done none else connectLoop i count none
        | some c =>
            (mysqlAutocommit c).bind fun ok =>
              if ok then .done (some (some c)) else connectLoop i count (some c)

/-- `pppd__mysql_connect`. -/
def mysqlConnect (opt : Options) (i : ι) : Program ι (Option (Option (Handle ι))) :=
  connectLoop i opt.retryConnect none

/-! ## Reading the password -/

/-- A column of the row. -/
def Options.column (opt : Options) : Option Str → Option Str
  | some value => some value
  | none => if opt.ignoreNull then some "NULL".toList else none

/-- What `pppd__mysql_password` makes of the rows; `none` is an error. -/
def fetchPassword (host : Host) (opt : Options) (rows : List Account) : Option Str :=
  if 1 < rows.length ∧ opt.ignoreMultiple = false then none
  else
    match rows with
    | [] => none
    | row :: _ => do
        let pass ← opt.column row.pass
        let clientIp ← opt.column row.clientIp
        if host.inetAton clientIp then
          let serverIp ← opt.column row.serverIp
          if host.inetAton serverIp then some (pass.take maxSecretLen) else none
        else none

/-- The loop over the retries of a query. -/
def queryLoop (sql : Sql) (mysql : Option (Handle ι)) (text : Str) :
    Nat → Program ι (Option (List Account))
  | 0 => .done none
  | count + 1 =>
      (mysqlQuery sql mysql text).bind fun
        | some rows => .done (some rows)
        | none => queryLoop sql mysql text count

/-- `pppd__mysql_password`. -/
def mysqlPassword (host : Host) (opt : Options) (mysql : Option (Handle ι)) (name : Str) :
    Program ι (Option Str) :=
  (queryLoop host.sql mysql (opt.selectQuery name) opt.retryQuery).bind fun
    | none => .done none
    | some rows => .done (fetchPassword host opt rows)

/-! ## The login status -/

/-- The loop of `pppd__mysql_status`. -/
def statusLoop (sql : Sql) (mysql : Option (Handle ι)) (text : Str) : Nat → Program ι Bool
  | 0 => .done false
  | count + 1 =>
      (mysqlQuery sql mysql text).bind fun
        | some _ =>
            (mysqlCommit mysql).bind fun committed =>
              if committed then .done true else statusLoop sql mysql text count
        | none => statusLoop sql mysql text count

/-- `pppd__mysql_status` returns zero. -/
def mysqlStatus (host : Host) (opt : Options) (mysql : Option (Handle ι)) (name status : Str) :
    Program ι Bool :=
  (statusLoop host.sql mysql (opt.updateQuery name status) opt.retryQuery).bind fun found =>
    if found then .done true else (mysqlRollback mysql).bind fun _ => .done false

/-! ## Authentication -/

inductive Credentials
  | pap (passwd : Str)
  /-- The response of the peer, as `verify_response` judges it by the secret. -/
  | chap (verifyResponse : Bytes → Bool)

structure Peer where
  name : Str
  credentials : Credentials
  /-- The file of secrets on the host lets the peer in. -/
  localSecret : Bool

def toBytes (s : Str) : Bytes := s.map fun c => UInt8.ofNat c.toNat

/-- The password that was found is the one of the peer. -/
def Credentials.accepts (host : Host) (opt : Options) (secretName : Str) : Credentials → Bool
  | .pap passwd =>
      verifyPassword host.lib host.beyond (toBytes passwd) (toBytes secretName)
        (opt.passEncryption.getD []) (toBytes (opt.passKey.getD []))
  | .chap verifyResponse =>
      (decryptPassword host.lib (toBytes secretName) (opt.passEncryption.getD [])
        (toBytes (opt.passKey.getD []))).any verifyResponse

/-- The password is right. -/
def logIn (host : Host) (opt : Options) (mysql : Option (Handle ι)) (name : Str) :
    Program ι (Option Str) :=
  (mysqlStatus host opt mysql name "1".toList).bind fun ok =>
    (mysqlDisconnect mysql).bind fun _ => .done (if ok then some (name.take maxNameLen) else none)

/-- The part that `pppd__pap_auth_mysql` and `pppd__chap_verify_mysql` share: the user name
that is stored, if the table lets the peer in. -/
def databaseAuth (host : Host) (opt : Options) (i : ι) (peer : Peer) : Program ι (Option Str) :=
  if opt.parameter then
    (mysqlConnect opt i).bind fun
      | none => .done none
      | some mysql =>
          (mysqlPassword host opt mysql peer.name).bind fun secret =>
            if secret.any (peer.credentials.accepts host opt) then logIn host opt mysql peer.name
            else (mysqlDisconnect mysql).bind fun _ => .done none
  else .done none

/-! ## IPCP -/

inductive IpcpEvent
  /-- IPCP comes up, and the script `mysql-ip-up` fails. -/
  | up (failed : Bool)
  /-- IPCP goes down, and the script `mysql-ip-down` fails. -/
  | down (failed : Bool)

/-- The link is given up. -/
def release : Program ι Unit := .modify id fun _ => [.released]

/-- Set the status back, in a connection of its own. -/
def resetStatus (host : Host) (opt : Options) (i : ι) (username : Str) : Program ι Unit :=
  if opt.locks then
    (mysqlConnect opt i).bind fun
      | none => .done ()
      | some mysql =>
          (mysqlStatus host opt mysql username "0".toList).bind fun _ => mysqlDisconnect mysql
  else .done ()

/-- `pppd__mysql_up`; it is false after `die`. -/
def mysqlUp (host : Host) (opt : Options) (i : ι) (username : Str) (failed : Bool) :
    Program ι Bool :=
  if opt.ipUp.isSome && failed && opt.ipUpFail then
    release.bind fun _ => (resetStatus host opt i username).bind fun _ => .done false
  else .done true

/-- `pppd__mysql_down`; it is false after `die`. -/
def mysqlDown (host : Host) (opt : Options) (i : ι) (username : Str) (failed : Bool) :
    Program ι Bool :=
  release.bind fun _ =>
    if opt.ipDown.isSome && failed && opt.ipDownFail then .done false
    else (resetStatus host opt i username).bind fun _ => .done true

def ipcp (host : Host) (opt : Options) (i : ι) (username : Str) : List IpcpEvent → Program ι Unit
  | [] => .done ()
  | .up failed :: events =>
      (mysqlUp host opt i username failed).bind fun alive =>
        if alive then ipcp host opt i username events else .done ()
  | .down failed :: events =>
      (mysqlDown host opt i username failed).bind fun alive =>
        if alive then ipcp host opt i username events else .done ()

/-! ## A link -/

structure PppLink where
  peer : Peer
  /-- What IPCP does once the peer is authenticated. -/
  events : List IpcpEvent

/-- `pppd` with the plugin.  Who is not let in by the table may be let in by a file, if the
table is not authoritative; the stored name is then empty. -/
def pppLink (host : Host) (opt : Options) (i : ι) (l : PppLink) : Program ι Unit :=
  (databaseAuth host opt i l.peer).bind fun
    | some username =>
        (Script.modify id fun _ => [Event.established username]).bind fun _ =>
          ipcp host opt i username l.events
    | none =>
        if !opt.authoritative && l.peer.localSecret then ipcp host opt i [] l.events else .done ()

end Plugin

end ParDiff.PppSql
