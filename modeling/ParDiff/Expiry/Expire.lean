import ParDiff.Schema

/-!
# `scripts/expire.pl`

A run warns the owners of expired accounts and freezes the accounts that expired
more than seven days ago.  The accounts to freeze are read by one statement and
frozen one by one by others, each by its id alone.  `DBD::mysql` fetches the whole
result when the query is executed, so the loop works on what was read then.

A run returns the mails it sent, in order; what `Email::Valid` accepts is a
parameter.
-/

namespace ParDiff.Expiry

open Lib Lib.Text

/-! ## Mails -/

variable (valid : Str → Bool)

/-- `int($ref->{credit} / 1024 / 1024)`. -/
def megabytesLeft (u : Login) : Str := decInt ((u.credit.getD 0).tdiv (1024 * 1024))

def expireSubject : Str := "[ParDiff VPN] 您的帐户即将失效/Account expire soon".toList

def expireNotice (u : Login) : Str :=
  "亲爱的用户".toList ++ u.username ++
    "\n您的帐户截至今日已经过期，将会在7天之后被冻结。\n\n目前，您还有".toList ++ megabytesLeft u ++
    ("MB未使用流量，您可以在7天内使用完毕。如果7天之后还没有用完，那么将会被冻结。\n\n" ++
      "详细帐户信息请登陆 http://vpn.pardiff.com/cp\n\n" ++
      "ParDiff VPN support\nsupport@pardiff.com\n\nDear Customer ").toList ++ u.username ++
    ("\n\nBased on our record, your VPN account is already expired, " ++
      "and will be closed after 7 days.\n\nUntil now, there is still ").toList ++
    megabytesLeft u ++
    ("MB traffic credit remaining in your account, we decided to give you 7 days extension. " ++
      "After that, your account will be suspended and credit will freezed " ++
      "based on our agreement.\n\nOn the other hand, if you charge your account within 7 days, " ++
      "all the current remaining credit will be kept, and expire date will be delayed as well." ++
      "\n\nFor detailed account information, please login from http://vpn.pardiff.com/cp\n\n" ++
      "Regards,\n\nParDiff VPN Support\nsupport@pardiff.com\n\n").toList

/-- `$ref->{id} . ' ' . $ref->{username} . ' ' . $ref->{email}`. -/
def describe (u : Login) : Str :=
  dec u.id ++ ' ' :: u.username ++ ' ' :: u.email.getD []

def report (intro : Str) (accounts : List Login) : Str :=
  intro ++ accounts.flatMap fun u => describe u ++ "\n\r".toList

def notifyAdmin (subject content : Str) : List Mail :=
  emailToAddress valid (some "admin@pardiff.com".toList) subject content

/-! ## Statements -/

/-- `expire_at IS NOT NULL AND expire_at < ?`. -/
def expiredBefore (t : Time) (u : Login) : Bool := u.expireAt.any fun e => decide (e < t)

/-- `expire_at < NOW()`. -/
def selectExpired : Sql (List Login) :=
  .query fun db => db.login.rows.filter (expiredBefore db.now)

/-- `expire_at IS NOT NULL AND expire_at < date_sub(NOW(), interval 7 day)`. -/
def overdue (now : Time) (u : Login) : Bool :=
  (dateAdd now (-7)).any fun t => expiredBefore t u

def selectOverdue : Sql (List Login) :=
  .query fun db => db.login.rows.filter (overdue db.now)

def frozen (u : Login) : Login := { u with accountState := .DISABLED, expireAt := none }

/-- `UPDATE login SET account_state = 'DISABLED', expire_at = NULL WHERE id = ?`. -/
def freeze (id : Nat) (db : Db) : Db :=
  { db with
    login := db.login.update (fun u => decide (u.id = id)) frozen (fun _ => rfl) fun _ => rfl }

def suspend (u : Login) : Sql Unit := .modify (freeze u.id) fun _ => []

/-- The second half: freeze what was read. -/
def suspendAll (suspended : List Login) : Sql (List Mail) := do
  .forEach suspended suspend
  return notifyAdmin valid "[suspend] Accounts suspended notification".toList
    (report "The following accounts are expired for 7 days, and suspended\n".toList suspended)

/-- The mails of the first half: one to every owner, and the list to the administrator. -/
def warnings (expired : List Login) : List Mail :=
  (expired.flatMap fun u => emailToAddress valid u.email expireSubject (expireNotice u)) ++
    notifyAdmin valid "[suspend] Accounts expired notification".toList
      (report ("The following accounts are expired, " ++
        "and will actually be suspended in 7 days. \n").toList expired)

def expire : Sql (List Mail) := do
  let expired ← selectExpired
  let suspended ← selectOverdue
  let final ← suspendAll valid suspended
  return warnings valid expired ++ final

/-! ## A run alone -/

theorem expiredBefore_iff {t : Nat} {u : Login} :
    expiredBefore t u = true ↔ ∃ e : Nat, u.expireAt = some e ∧ e < t := by
  simp [expiredBefore, Option.any_eq_true]

/-- An overdue account expired more than seven days ago. -/
theorem old_of_overdue {now : Nat} {u : Login} (h : overdue now u = true) :
    ∃ e : Nat, u.expireAt = some e ∧ e + 7 * 86400 < now := by
  obtain ⟨t, ht, hexpired⟩ := (Option.any_eq_true _ _).1 h
  obtain ⟨e, he, hlt⟩ := expiredBefore_iff.1 hexpired
  have hle := le_of_dateAdd ht
  exact ⟨e, he, by omega⟩

theorem suspendAll_run (suspended : List Login) (db : Db) :
    ((suspendAll valid suspended).final db).login.rows =
      updateAll (fun u => suspended.any fun v => decide (u.id = v.id)) frozen db.login.rows := by
  have hloop : ((Script.forEach suspended suspend).run db).state.login.rows =
      suspended.foldl (fun rs v => updateAll (fun u => decide (u.id = v.id)) frozen rs)
        db.login.rows :=
    Script.run_forEach_part (p := fun db : Db => db.login.rows) (fun _ _ => rfl) suspended db
  simp only [suspendAll, Script.final, Script.bind_eq, Script.run_bind, Script.pure_eq_done,
    Script.run_done]
  rw [hloop]
  exact foldl_updateAll (f := frozen) Login.id Login.id (fun _ => rfl) (fun _ => rfl) _ _

/-- **A run alone** freezes exactly the overdue accounts. -/
theorem expire_run (db : Db) :
    ((expire valid).final db).login.rows = updateAll (overdue db.now) frozen db.login.rows := by
  have hfinal : (expire valid).final db =
      (suspendAll valid (db.login.rows.filter (overdue db.now))).final db := by
    simp [expire, selectExpired, selectOverdue, Script.final]
  rw [hfinal, suspendAll_run]
  refine updateAll_congr fun u hu => ?_
  rw [Bool.eq_iff_iff, List.any_eq_true]
  constructor
  · rintro ⟨v, hv, hid⟩
    obtain ⟨hmem, hoverdue⟩ := List.mem_filter.1 hv
    obtain rfl : u = v := db.login.eq_of_key_eq hu hmem (of_decide_eq_true hid)
    exact hoverdue
  · intro hoverdue
    exact ⟨u, List.mem_filter.2 ⟨hu, hoverdue⟩, by simp⟩

theorem suspendAll_frame (suspended : List Login) (db : Db) :
    ((suspendAll valid suspended).final db).now = db.now ∧
      ((suspendAll valid suspended).final db).coupons = db.coupons := by
  have hframe : (fun db : Db => (db.now, db.coupons))
      ((Script.forEach suspended suspend).run db).state =
        suspended.foldl (fun c _ => c) (db.now, db.coupons) :=
    Script.run_forEach_part (p := fun db : Db => (db.now, db.coupons)) (fun _ _ => rfl)
      suspended db
  rw [List.foldl_fixed] at hframe
  simp only [suspendAll, Script.final, Script.bind_eq, Script.run_bind, Script.pure_eq_done,
    Script.run_done]
  exact ⟨congrArg Prod.fst hframe, congrArg Prod.snd hframe⟩

theorem expire_frame (db : Db) :
    ((expire valid).final db).now = db.now ∧ ((expire valid).final db).coupons = db.coupons := by
  have hfinal : (expire valid).final db =
      (suspendAll valid (db.login.rows.filter (overdue db.now))).final db := by
    simp [expire, selectExpired, selectOverdue, Script.final]
  rw [hfinal]
  exact suspendAll_frame valid _ db

end ParDiff.Expiry
