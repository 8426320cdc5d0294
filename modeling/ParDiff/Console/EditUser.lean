import ParDiff.Console.Effects

/-!
# Editing an account

`change_user_info` is three statements on one account: a new password, unless the form
still holds its placeholder; the email; and the expiry, moved by the days in `extend`.
Together they are one function of the row (`step_changeUserInfo`), so what an edit
touches can be read off the function and what two edits do is its composition.

Moving a date by `m` days and then by `n` is moving it by `m + n` as long as the date
stays in the calendar of MySQL, the years 1 to 9999.  An account without an expiry has
no date to move: its days are counted from now, and even the 0 that the form submits with
every other edit gives it an expiry.
-/

namespace ParDiff.Console

open Lib Lib.Text

/-! ## The expiry -/

/-- When moving the expiry `t` by `m` days and then by `n` is one move: its first move stays in the
calendar, or both ways leave it alike. -/
def MovesAdditively (now t : Nat) (m n : Int) : Prop :=
  InCalendar (dayOf t + m) ∨
    (BeforeCalendar (dayOf t + m) ∧ NoDay (dayOf t + m + n)) ∨
    (NoDay (dayOf t + m) ∧
      ((NoDay (dayOf t + m + n) ∧ NoDay (dayOf now + n)) ∨
        (BeforeCalendar (dayOf t + m + n) ∧ BeforeCalendar (dayOf now + n) ∧
          t % 86400 = now % 86400)))

instance (now t : Nat) (m n : Int) : Decidable (MovesAdditively now t m n) :=
  inferInstanceAs (Decidable (_ ∨ _))

@[simp] theorem extended_decInt (now : Time) (days : Int) (expireAt : Option Time) :
    extended now (some (decInt days)) expireAt = dateAdd (expireAt.getD now) days := by
  simp [extended]

section Expiry

variable {now t : Nat} {m n : Int}

/-- Two sums are the same when neither is a date, when both are day 0 at the same time of
day, or when they are the same date. -/
theorem dateAdd_eq_dateAdd_iff {k : Int} (hnow : dayOf now ≠ 0) (ht : dayOf t ≠ 0) :
    dateAdd now n = dateAdd t k ↔
      (NoDay (dayOf t + k) ∧ NoDay (dayOf now + n)) ∨
      (BeforeCalendar (dayOf t + k) ∧ BeforeCalendar (dayOf now + n) ∧
        t % 86400 = now % 86400) ∨
      (InCalendar (dayOf t + k) ∧ InCalendar (dayOf now + n) ∧
        (now : Int) + 86400 * n = t + 86400 * k) := by
  simp only [dateAdd, addDays, InCalendar, BeforeCalendar, NoDay, dayOf] at *
  split_ifs <;> simp <;> omega

/-- Where the first move leaves the calendar, the account is counted from now or from
nothing. -/
theorem dateAdd_dateAdd_iff (hnow : InCalendar (dayOf now)) (ht : InCalendar (dayOf t)) :
    dateAdd ((dateAdd t m).getD now) n = dateAdd t (m + n) ↔ MovesAdditively now t m n := by
  have hnow0 : dayOf now ≠ 0 := by
    unfold InCalendar at hnow
    omega
  have ht0 : dayOf t ≠ 0 := by
    unfold InCalendar at ht
    omega
  have hassoc : dayOf t + (m + n) = dayOf t + m + n := by omega
  rcases day_cases (dayOf t + m) with hin | hbefore | hno
  · rw [dateAdd_inCalendar ht0 hin, Option.getD_some, dateAdd_addDays ht0 hin]
    exact iff_of_true rfl (.inl hin)
  · rw [dateAdd_beforeCalendar ht0 hbefore, Option.getD_some, dateAdd_day_zero (dayOf_mod t),
      eq_comm, dateAdd_eq_none_iff ht0, hassoc]
    unfold MovesAdditively InCalendar BeforeCalendar NoDay at *
    omega
  · rw [dateAdd_noDay hno, Option.getD_none, dateAdd_eq_dateAdd_iff hnow0 ht0, hassoc]
    -- the two ways cannot meet at a date: the first move would have led to the current day
    have hmeet : ¬(now : Int) + 86400 * n = t + 86400 * (m + n) := by
      unfold InCalendar NoDay dayOf at *
      omega
    unfold MovesAdditively
    have hin : ¬InCalendar (dayOf t + m) := by
      unfold InCalendar NoDay at *
      omega
    have hbefore : ¬BeforeCalendar (dayOf t + m) := by
      unfold BeforeCalendar NoDay at *
      omega
    simp [hin, hbefore, hno, hmeet]

/-- An interval of 0 days changes nothing and two intervals are one exactly when there is a
date in the calendar whose moves do not part company outside it. -/
theorem dateAdd_additive_iff (hnow : InCalendar (dayOf now)) (expireAt : Option Nat) :
    (dateAdd (expireAt.getD now) 0 = expireAt ∧
      dateAdd ((dateAdd (expireAt.getD now) m).getD now) n = dateAdd (expireAt.getD now) (m + n)) ↔
      ∃ t, expireAt = some t ∧ InCalendar (dayOf t) ∧ MovesAdditively now t m n := by
  cases expireAt with
  | none =>
      rw [Option.getD_none, dateAdd_zero_iff.2 hnow]
      simp
  | some t =>
      rw [Option.getD_some, dateAdd_zero_iff]
      simp only [Option.some.injEq, exists_eq_left']
      exact and_congr_right fun ht => dateAdd_dateAdd_iff hnow ht

end Expiry

/-! ## The three statements -/

/-- The form is submitted with its placeholder. -/
def Request.KeepsPassword (r : Request) : Prop :=
  r.param "password" = some "new password here!".toList

instance (r : Request) : Decidable r.KeepsPassword := inferInstanceAs (Decidable (_ = _))

/-- What the three statements make of the account. -/
def Request.edit (r : Request) (now : Time) (u : Login) : Login :=
  { u with
    password := if r.KeepsPassword then u.password else (print (r.param "password")).take 32
    email := (r.param "email").map (·.take 50)
    expireAt := extended now (r.param "extend") u.expireAt }

theorem Request.edit_id (r : Request) (now : Time) (u : Login) : (r.edit now u).id = u.id := rfl

theorem Request.edit_username (r : Request) (now : Time) (u : Login) :
    (r.edit now u).username = u.username := rfl

variable {env : Env} {s : Site} {r : Request}

theorem editUser_editUser {username : Option Str} {f g : Login → Login}
    (hf : ∀ u, (f u).id = u.id) (hfn : ∀ u, (f u).username = u.username)
    (hg : ∀ u, (g u).id = u.id) (hgn : ∀ u, (g u).username = u.username) (db : Db) :
    editUser username f hf hfn (editUser username g hg hgn db) =
      editUser username (f ∘ g) (fun u => (hf (g u)).trans (hg u))
        (fun u => (hfn (g u)).trans (hgn u)) db := by
  have hnamed : ∀ u, (g u).named username = u.named username := by
    intro u
    simp only [Login.named, hgn]
  simp only [editUser]
  rw [UniqueTable.updateLimitOne_updateLimitOne _ _ _ _ _ hnamed]

theorem editUser_congr {username : Option Str} {f g : Login → Login}
    {hf : ∀ u, (f u).id = u.id} {hfn : ∀ u, (f u).username = u.username}
    {hg : ∀ u, (g u).id = u.id} {hgn : ∀ u, (g u).username = u.username} (h : ∀ u, f u = g u)
    (db : Db) : editUser username f hf hfn db = editUser username g hg hgn db := by
  obtain rfl : f = g := funext h
  rfl

/-- An edit is one function of the first row with the name. -/
theorem step_changeUserInfo (hauth : Authenticated env r s) (hop : r.op = .changeUserInfo) :
    step env s r = { s with
      db := editUser (r.param "username") (r.edit s.db.now) (r.edit_id _) (r.edit_username _)
        s.db } := by
  rw [step_eq, operation, hop, Script.final, changeUserInfo, guarded, auth_bind_run,
    if_pos (authenticated_iff.1 hauth)]
  by_cases hkeep : r.KeepsPassword
  · have hpassword : ¬r.param "password" ≠ some "new password here!".toList := not_not.2 hkeep
    simp only [if_neg hpassword, updateDb, Script.bind_eq, Script.run_bind, Script.run_modify]
    rw [editUser_editUser]
    refine congrArg (fun db : Db => { s with db := db }) (editUser_congr (fun u => ?_) _)
    rw [Request.edit, if_pos hkeep]
    rfl
  · have hpassword : r.param "password" ≠ some "new password here!".toList := hkeep
    simp only [if_pos hpassword, updateDb, Script.bind_eq, Script.run_bind, Script.run_modify]
    rw [editUser_editUser, editUser_editUser]
    refine congrArg (fun db : Db => { s with db := db }) (editUser_congr (fun u => ?_) _)
    rw [Request.edit, if_neg hkeep]
    rfl

/-! ## What an edit touches -/

/-- `s'` is `s` but for the email, the expiry and, unless it is kept, the password of the
account with number `id`. -/
structure EditsOnly (id : Nat) (keepsPassword : Prop) (s s' : Site) : Prop where
  rest : { s' with db := { s'.db with login := s.db.login } } = s
  auto : s'.db.login.auto = s.db.login.auto
  rows : List.Forall₂ (fun u u' : Login =>
      u' = { u with password := u'.password, email := u'.email, expireAt := u'.expireAt } ∧
      (u.id ≠ id → u' = u) ∧ (keepsPassword → u'.password = u.password))
    s.db.login.rows s'.db.login.rows

/-- The row of the account, found by its name, is the one with its number. -/
theorem editUser_rows {u : Login} {username : Option Str} {f : Login → Login}
    {hid : ∀ u, (f u).id = u.id} {hname : ∀ u, (f u).username = u.username} {db : Db}
    (hu : db.login.rows.find? (Login.named username) = some u) :
    (editUser username f hid hname db).login.rows =
      updateAll (fun v => decide (v.id = u.id)) f db.login.rows :=
  updateFirst_eq_updateAll_key db.login.nodup hu

theorem editsOnly_step {u : Login} (hauth : Authenticated env r s)
    (hop : r.op = .changeUserInfo)
    (hu : s.db.login.rows.find? (Login.named (r.param "username")) = some u) :
    EditsOnly u.id r.KeepsPassword s (step env s r) := by
  rw [step_changeUserInfo hauth hop]
  refine ⟨rfl, rfl, ?_⟩
  dsimp only
  rw [editUser_rows hu, updateAll, List.forall₂_map_right_iff, List.forall₂_same]
  intro v _
  by_cases hv : v.id = u.id
  · rw [if_pos (decide_eq_true hv)]
    exact ⟨rfl, absurd hv, fun hkeep => if_pos hkeep⟩
  · rw [if_neg (by simpa using hv)]
    exact ⟨rfl, fun _ => rfl, fun _ => rfl⟩

/-! ## Edits in a row -/

/-- The form with a number of days in its last field. -/
def Request.extending (r : Request) (days : Int) : Request :=
  { r with params := ("extend".toList, decInt days) :: r.params }

section Extending

variable {days : Int}

@[simp] theorem param_extending {name : String} (hname : name ≠ "extend") :
    (r.extending days).param name = r.param name := by
  have hne : (name.toList == "extend".toList) = false :=
    beq_false_of_ne (mt String.toList_inj.1 hname)
  simp only [Request.param, Request.extending, List.lookup_cons, hne]

@[simp] theorem param_extend_extending : (r.extending days).param "extend" = some (decInt days) := by
  simp [Request.param, Request.extending]

theorem op_extending : (r.extending days).op = r.op := by
  simp only [Request.op, param_extending (show "op" ≠ "extend" by decide)]

theorem keepsPassword_extending : (r.extending days).KeepsPassword ↔ r.KeepsPassword := by
  rw [Request.KeepsPassword, param_extending (by decide), Request.KeepsPassword]

theorem edit_extending (now : Time) (u : Login) :
    (r.extending days).edit now u =
      { r.edit now u with expireAt := dateAdd (u.expireAt.getD now) days } := by
  simp only [Request.edit, keepsPassword_extending, param_extend_extending, extended_decInt,
    param_extending (show "password" ≠ "extend" by decide),
    param_extending (show "email" ≠ "extend" by decide)]

theorem step_extending (hauth : Authenticated env r s) (hop : r.op = .changeUserInfo) :
    step env s (r.extending days) = { s with
      db := editUser (r.param "username") ((r.extending days).edit s.db.now)
        (Request.edit_id _ _) (Request.edit_username _ _) s.db } := by
  rw [step_changeUserInfo (r := r.extending days) hauth (op_extending.trans hop),
    param_extending (by decide)]

end Extending

/-- Edits of one account find the same row, so they are told apart by what they make of it. -/
theorem editUser_eq_iff {u : Login} {username : Option Str} {f g : Login → Login}
    {hf : ∀ u, (f u).id = u.id} {hfn : ∀ u, (f u).username = u.username}
    {hg : ∀ u, (g u).id = u.id} {hgn : ∀ u, (g u).username = u.username} {db : Db}
    (hu : db.login.rows.find? (Login.named username) = some u) :
    editUser username f hf hfn db = editUser username g hg hgn db ↔ f u = g u := by
  constructor
  · intro h
    have hrows := congrArg (fun db : Db => db.login.rows) h
    simp only [editUser_rows hu, updateAll, List.map_inj_left] at hrows
    simpa using hrows u (List.mem_of_find?_eq_some hu)
  · intro h
    have hrows : (editUser username f hf hfn db).login.rows =
        (editUser username g hg hgn db).login.rows := by
      rw [editUser_rows hu, editUser_rows hu, updateAll, updateAll, List.map_inj_left]
      intro v hv
      by_cases hid : v.id = u.id
      · obtain rfl := db.login.eq_of_key_eq hv (List.mem_of_find?_eq_some hu) hid
        simp [h]
      · simp [hid]
    have hlogin : (editUser username f hf hfn db).login = (editUser username g hg hgn db).login :=
      UniqueTable.ext hrows rfl
    exact congrArg (fun login => { db with login := login }) hlogin

/-- An edit of 0 days leaves every expiry alone, an edit of `m` days and one of `n` leave
the site that one of `m + n` days leaves, and no edit touches anything but the account. -/
structure EditsAdditively (env : Env) (s : Site) (r : Request) (u : Login) (m n : Int) : Prop where
  zero : (step env s (r.extending 0)).db.login.rows.map (·.expireAt) =
    s.db.login.rows.map (·.expireAt)
  add : step env (step env s (r.extending m)) (r.extending n) = step env s (r.extending (m + n))
  only : ∀ days, EditsOnly u.id r.KeepsPassword s (step env s (r.extending days))

section Additive

variable {u : Login} {m n : Int}

theorem zero_iff (hauth : Authenticated env r s) (hop : r.op = .changeUserInfo)
    (hu : s.db.login.rows.find? (Login.named (r.param "username")) = some u) :
    (step env s (r.extending 0)).db.login.rows.map (·.expireAt) =
        s.db.login.rows.map (·.expireAt) ↔
      dateAdd (u.expireAt.getD s.db.now) 0 = u.expireAt := by
  rw [step_extending hauth hop]
  dsimp only
  rw [editUser_rows hu, updateAll, List.map_map, List.map_inj_left]
  constructor
  · intro h
    simpa [edit_extending] using h u (List.mem_of_find?_eq_some hu)
  · intro h v hv
    by_cases hid : v.id = u.id
    · obtain rfl := s.db.login.eq_of_key_eq hv (List.mem_of_find?_eq_some hu) hid
      simpa [edit_extending] using h
    · simp [hid]

theorem add_iff (hauth : Authenticated env r s) (hop : r.op = .changeUserInfo)
    (hu : s.db.login.rows.find? (Login.named (r.param "username")) = some u) :
    step env (step env s (r.extending m)) (r.extending n) = step env s (r.extending (m + n)) ↔
      dateAdd ((dateAdd (u.expireAt.getD s.db.now) m).getD s.db.now) n =
        dateAdd (u.expireAt.getD s.db.now) (m + n) := by
  have hauth' : Authenticated env r (step env s (r.extending m)) := by
    rw [authenticated_iff] at hauth ⊢
    rwa [step_extending (authenticated_iff.2 hauth) hop]
  rw [step_extending hauth' hop, step_extending hauth hop, step_extending hauth hop]
  have hsite : ∀ db db' : Db, ({ s with db := db } : Site) = { s with db := db' } ↔ db = db' := by
    intro db db'
    exact ⟨fun h => congrArg Site.db h, fun h => h ▸ rfl⟩
  dsimp only
  rw [hsite, editUser_editUser, editUser_eq_iff hu, Function.comp_apply, edit_extending,
    edit_extending, edit_extending]
  constructor
  · intro h
    exact congrArg Login.expireAt h
  · intro h
    have hnow : (editUser (r.param "username") ((r.extending m).edit s.db.now)
        (Request.edit_id _ _) (Request.edit_username _ _) s.db).now = s.db.now := rfl
    -- the second edit stores the same password and email once more
    have hpassword : ∀ p : Str, (if r.KeepsPassword then if r.KeepsPassword then u.password else p
        else p) = if r.KeepsPassword then u.password else p := by
      intro p
      split <;> rfl
    simp only [Request.edit, hnow, h, hpassword]

/-- Edits of an account add up exactly when it has an expiry in the calendar and the moves
do not part company outside it. -/
theorem editsAdditively_iff (hauth : Authenticated env r s) (hop : r.op = .changeUserInfo)
    (hnow : InCalendar (dayOf s.db.now))
    (hu : s.db.login.rows.find? (Login.named (r.param "username")) = some u) :
    EditsAdditively env s r u m n ↔
      ∃ t, u.expireAt = some t ∧ InCalendar (dayOf t) ∧ MovesAdditively s.db.now t m n := by
  rw [← dateAdd_additive_iff hnow, ← zero_iff hauth hop hu, ← add_iff hauth hop hu]
  constructor
  · intro h
    exact ⟨h.zero, h.add⟩
  · intro h
    refine ⟨h.1, h.2, fun days => ?_⟩
    have hop' : (r.extending days).op = .changeUserInfo := op_extending.trans hop
    have hu' : s.db.login.rows.find? (Login.named ((r.extending days).param "username")) =
        some u := by
      rwa [param_extending (by decide)]
    have honly := editsOnly_step (r := r.extending days) hauth hop' hu'
    rwa [keepsPassword_extending] at honly

end Additive

/-- The form for `bob`, submitted by the administrator with nothing but an email in it. -/
def bobForm : Request where
  params := [("op".toList, "change_user_info".toList), ("username".toList, "bob".toList),
    ("password".toList, "new password here!".toList), ("email".toList, "bob@example.com".toList)]
  cookies := [("username".toList, "root".toList),
    ("session".toList, hexText 0x562eafc8cbb24e41fe1f566242a605fa)]
  captchaValid := false
  rand := []

def bobExpiring (expireAt : Option Time) : Login :=
  { Login.holding "bob".toList 100 with expireAt := expireAt }

/-- `bob` on the first day of 2010. -/
def bobSite (expireAt : Option Time) : Site :=
  secretSite "root" firstSalt
    { Db.empty (734138 * 86400) with login := .single (bobExpiring expireAt) }

/-- He expires in ten days, gets 30 more, and 7 of them are taken back. -/
theorem bob_editsAdditively :
    EditsAdditively sampleEnv (bobSite (some (734148 * 86400))) bobForm
      (bobExpiring (some (734148 * 86400))) 30 (-7) :=
  (editsAdditively_iff (by decide) (by decide) (by decide) rfl).2
    ⟨734148 * 86400, rfl, by decide, by decide⟩

/-- He never expires, until his email is changed: the form's 0 days are counted from now. -/
theorem email_edit_sets_expiry :
    Authenticated sampleEnv bobForm (bobSite none) ∧
      (step sampleEnv (bobSite none) (bobForm.extending 0)).db.login.rows.map (·.expireAt) =
        [some (734138 * 86400)] ∧
      ¬EditsAdditively sampleEnv (bobSite none) bobForm (bobExpiring none) 0 0 := by
  have hauth : Authenticated sampleEnv bobForm (bobSite none) := by decide
  have hrows : (step sampleEnv (bobSite none) (bobForm.extending 0)).db.login.rows.map
      (·.expireAt) = [some (734138 * 86400)] := by
    rw [step_extending hauth (by decide)]
    decide
  refine ⟨hauth, hrows, fun h => ?_⟩
  have hzero := h.zero
  rw [hrows] at hzero
  exact absurd hzero (by decide)

end ParDiff.Console
