import ParDiff.Accounts.Pages

/-!
# The administration console: tables, requests and `auth`

`web/admin/main.cgi` is one script for all operations.  It works on the billing
tables and on three of its own: `admins`, `ticket_threads` and `tickets`.  A
request carries its parameters and cookies in the order in which they came, the
verdict of the captcha service and the text of `rand(20)`; what the script prints is
a list of pieces.

`Env` is what the script gets from elsewhere: MD5, `Email::Valid`, and the way MySQL
and Perl print points in time and fractions.  An MD5 text has 32 characters, so it is
stored as it is in the columns of 200.
-/

namespace ParDiff.Console

open Lib Lib.Text

/-! ## Tables -/

structure Admin where
  id : Nat
  username : Str
  session : Option Str
  password : Str
  deriving DecidableEq, Repr

/-- An `ENUM` column also holds the empty text, for a value that is none of its own. -/
inductive TicketStatus
  | opened
  | closed
  | invalid
  deriving DecidableEq, Repr

structure TicketThread where
  id : Nat
  title : Str
  username : Str
  email : Str
  category : Str
  status : TicketStatus
  deriving DecidableEq, Repr

inductive Role
  | client
  | pardiff
  deriving DecidableEq, Repr

structure Ticket where
  id : Nat
  threadId : Int
  role : Role
  ts : Time
  username : Option Str
  content : Str
  deriving DecidableEq, Repr

structure Site where
  db : Db
  admins : Table Admin Admin.id
  ticketThreads : Table TicketThread TicketThread.id
  tickets : Table Ticket Ticket.id

/-- `username = ?`. -/
def Admin.named (username : Option Str) (a : Admin) : Bool :=
  match username with
  | none => false
  | some name => ciEq a.username name

/-- `id = ?` with a text: the comparison is one of numbers. -/
def hasId (text : Option Str) (id : Nat) : Bool :=
  match text with
  | none => false
  | some t => decide ((id : Rat) = numPrefix t)

/-! ## Requests and responses -/

structure Env where
  md5Hex : Str → Str
  emailValid : Str → Bool
  /-- A `TIMESTAMP` or `DATETIME` as text. -/
  timestamp : Time → Str
  /-- A `DECIMAL` as text. -/
  decimal : Rat → Str
  /-- A number of Perl as text. -/
  number : Rat → Str

/-- `Email::Valid->address($email)`. -/
def Env.validAddress (env : Env) (email : Option Str) : Bool := email.any env.emailValid

structure Request where
  params : List (Str × Str)
  cookies : List (Str × Str)
  /-- `$result->{is_valid}`. -/
  captchaValid : Bool
  /-- `rand(20)`. -/
  rand : Str

/-- `param` in scalar context: the first value. -/
def Request.param (r : Request) (name : String) : Option Str := r.params.lookup name.toList

/-- `param` in list context. -/
def Request.values (r : Request) (name : String) : List Str :=
  (r.params.filter fun p => p.1 == name.toList).map (·.2)

def Request.cookie (r : Request) (name : String) : Option Str := r.cookies.lookup name.toList

inductive Output
  | redirect (url : Str)
  /-- `header(-charset => 'utf-8', -cookie => …)`. -/
  | header (cookies : List (Str × Str))
  | startHtml (title : Str)
  | text (html : Str)
  | endHtml
  /-- `$template->output()`. -/
  | page (title content : Str)
  deriving DecidableEq, Repr

/-- How an operation ends: with `exit`, or on to the page with what it has printed and
set so far. -/
inductive Ending
  | exit (printed : List Output)
  | show (printed : List Output) (headerSent : Bool) (title content : Str)

/-- The operation has printed nothing and set the two variables. -/
def Ending.page (title content : Str) : Ending := .show [] false title content

/-- The end of the script. -/
def finish : Ending → List Output
  | .exit printed => printed
  | .show printed headerSent title content =>
      printed ++ (if headerSent then [] else [.header []]) ++ [.page title content]

/-- Scripts over the whole site; the events are the mails they send. -/
abbrev Cgi (α : Type) := Script Site Mail α

/-- Statements on the billing tables. -/
def onDb {α : Type} (script : Sql α) : Cgi α :=
  script.within Site.db (fun db s => { s with db := db }) fun _ _ => []

def updateDb (f : Db → Db) : Cgi Unit := .modify (fun s => { s with db := f s.db }) fun _ => []

section

variable (env : Env)

def sendMail (email : Option Str) (subject content : Str) : Cgi Unit :=
  .modify id fun _ => emailToAddress env.emailValid email subject content

/-! ## `auth` -/

/-- `md5(concat(password, session))`; `NULL` for a `NULL` session. -/
def sessionDb (a : Admin) : Option Str := a.session.map fun salt => env.md5Hex (a.password ++ salt)

def auth (r : Request) : Cgi (Option Str) :=
  if !truthy (r.cookie "session") || !truthy (r.cookie "username") then return none
  else do
    let ref ← .query fun s => s.admins.rows.find? (Admin.named (r.cookie "username"))
    return match ref with
      | some a =>
          if (sessionDb env a).getD [] = (r.cookie "session").getD [] then r.cookie "username"
          else none
      | none => none

/-- Whom `auth` recognises. -/
def recognised (admins : Table Admin Admin.id) (r : Request) : Option Str :=
  if !truthy (r.cookie "session") || !truthy (r.cookie "username") then none
  else match admins.rows.find? (Admin.named (r.cookie "username")) with
    | some a =>
        if (sessionDb env a).getD [] = (r.cookie "session").getD [] then r.cookie "username"
        else none
    | none => none

@[simp] theorem auth_run (r : Request) (s : Site) :
    (auth env r).run s = ⟨recognised env s.admins r, s, []⟩ := by
  unfold auth recognised
  split <;> simp

/-- `auth` recognises the sender. -/
def Authenticated (r : Request) (s : Site) : Prop :=
  truthy ((auth env r).run s).value = true

instance (r : Request) (s : Site) : Decidable (Authenticated env r s) :=
  inferInstanceAs (Decidable (_ = _))

/-- `if (auth()) { body } else { refused }`, the guard of almost every operation. -/
def guarded (r : Request) (refused : Ending) (body : Str → Cgi Ending) : Cgi Ending := do
  let admin ← auth env r
  if truthy admin then body (admin.getD []) else return refused

/-- `print redirect('index.html'); exit(0);`. -/
def toIndex : Ending := .exit [.redirect "index.html".toList]

theorem auth_bind_run {α : Type} (r : Request) (k : Option Str → Cgi α) (s : Site) :
    (auth env r >>= k).run s = (k (recognised env s.admins r)).run s := by
  rw [Script.bind_eq, Script.run_bind, auth_run]
  rfl

variable {env} in
theorem authenticated_iff {r : Request} {s : Site} :
    Authenticated env r s ↔ truthy (recognised env s.admins r) = true := by
  rw [Authenticated, auth_run]

theorem guarded_run_of_not {r : Request} {s : Site} (h : ¬Authenticated env r s)
    (refused : Ending) (body : Str → Cgi Ending) :
    (guarded env r refused body).run s = ⟨refused, s, []⟩ := by
  rw [guarded, auth_bind_run, if_neg (mt authenticated_iff.2 h)]
  rfl

end

end ParDiff.Console
