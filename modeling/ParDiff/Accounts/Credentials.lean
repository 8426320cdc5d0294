import ParDiff.Accounts.Pages
import ParDiff.OpenVpn.Plugin

/-!
# `web/user/cp/change_password.cgi`, and which credentials work

Registration and password change take any text that is not false; the columns
hold 16 and 32 characters and cut off the rest; the plugin accepts a short list
of characters and compares the name exactly.  `Usable` is where the four agree.
-/

namespace ParDiff.Accounts

open Lib Lib.Text OpenVpn

/-! ## `change_password.cgi` -/

structure ChangePassword where
  username : Option Str
  password : Option Str
  password1 : Option Str
  password2 : Option Str

/-- `username = ? AND password = ?`. -/
def ChangePassword.knows (r : ChangePassword) (u : Login) : Bool :=
  u.named r.username && r.password.any (ciEq u.password)

/-- `$password_1 && $password_2 && $password_1 eq $password_2`. -/
def ChangePassword.repeated (r : ChangePassword) : Bool :=
  truthy r.password1 && truthy r.password2 && r.password1 == r.password2

/-- `UPDATE login SET password = ? WHERE username = ? LIMIT 1`. -/
def setPassword (username : Option Str) (password : Str) (db : Db) : Db :=
  { db with
    login := db.login.updateLimitOne (Login.named username)
      (fun u => { u with password := password.take 32 }) (fun _ => rfl) fun _ => rfl }

def changePassword (r : ChangePassword) : Sql Page := do
  if truthy r.password && truthy r.username then
    let ref ← .query fun db => db.login.rows.any r.knows
    if ref then
      if r.repeated then
        .modify (setPassword r.username (r.password2.getD [])) fun _ => []
        return .redirect "index.html".toList
      else
        return .html "两次密码输入不符".toList "<h1>两次密码输入不符</h1>".toList
  return .redirect "index.html".toList

/-- The request changes the password of this account. -/
def ChangePassword.Sets (r : ChangePassword) (u : Login) : Prop :=
  truthy r.password = true ∧ truthy r.username = true ∧ r.knows u = true ∧ r.repeated = true

/-! ## Credentials over time -/

/-- The page of a successful registration. -/
def created (r : Create) : Page :=
  .html "增加用户成功".toList (createdMsg (r.username.getD []))

/-- Account `id` was registered under `name`, and `password` is the last one that
was set for it. -/
inductive Registered : Db → Nat → Str → Str → Prop
  | create {db : Db} {r : Create} (h : ((create r).run db).value = created r) :
      Registered ((create r).final db) db.login.auto (r.username.getD []) (r.password.getD [])
  | change {db : Db} {id : Nat} {name password : Str} {r : ChangePassword} {u : Login}
      (h : Registered db id name password) (hu : u ∈ db.login.rows) (hid : u.id = id)
      (hsets : r.Sets u) :
      Registered ((changePassword r).final db) id name (r.password2.getD [])
  /-- Whatever else happens leaves the two columns alone. -/
  | other {db db' : Db} {id : Nat} {name password : Str} (h : Registered db id name password)
      (hkept : ∀ u ∈ db.login.rows, u.id = id → ∃ u' ∈ db'.login.rows,
        u'.id = id ∧ u'.username = u.username ∧ u'.password = u.password) :
      Registered db' id name password

/-- The name fits its column, the password does without its trailing blanks, and
the plugin knows every character. -/
def Usable (name password : Str) : Prop :=
  asMysqlValidate (some name) = true ∧ asMysqlValidate (some password) = true ∧
    name.length ≤ 16 ∧ (fold password).length ≤ 32

theorem createAccount_of_created {r : Create} {db : Db}
    (h : ((create r).run db).value = created r) : create r = createAccount r := by
  unfold create at h ⊢
  split_ifs at h ⊢
  · simp [created] at h
  · simp [created, fail] at h
  · simp [created, fail] at h
  · simp [created, fail] at h
  · rfl

theorem mem_of_insert {db : Db} {row : Nat → Login} {hrow : ∀ n, (row n).id = n}
    {login : LoginTable} (h : db.login.insert row hrow = some login) :
    row db.login.auto ∈ login.rows := by
  unfold UniqueTable.insert at h
  split at h
  · simp at h
  · obtain rfl := Option.some.inj h
    simp

/-- From `get_client_ip` on, for an insert with this outcome. -/
theorem createAccount_run {r : Create} {db : Db} {clientip : Str}
    (hip : getClientIp.run db = ⟨clientip, db, []⟩) :
    (createAccount r).run db =
      let inserted := (insertAccount r clientip).run db
      if inserted.value then
        ⟨created r, ((insertLog ("[user] Successfully created user ".toList ++
          r.username.getD [])).run inserted.state).state, []⟩
      else ⟨fail "重复的用户名", inserted.state, []⟩ := by
  simp only [createAccount, Script.bind_eq, Script.run_bind, hip, insertAccount, Script.run_exec,
    List.nil_append]
  split <;> rfl

/-- A registration that reports success has stored what fits the columns. -/
theorem created_stored {r : Create} {db : Db} (h : ((create r).run db).value = created r) :
    ∃ u ∈ ((create r).final db).login.rows, u.id = db.login.auto ∧
      u.username = (r.username.getD []).take 16 ∧ u.password = (r.password.getD []).take 32 := by
  have hcreate := createAccount_of_created h
  rw [hcreate] at h
  rw [hcreate, Script.final]
  obtain ⟨clientip, hip⟩ : ∃ clientip, getClientIp.run db = ⟨clientip, db, []⟩ := ⟨_, rfl⟩
  rw [createAccount_run hip] at h ⊢
  simp only [insertAccount, Script.run_exec] at h ⊢
  cases hinsert : db.login.insert (newLogin (r.username.getD []) (r.password.getD []) clientip
      (some 0) (r.email.getD []) (dateAdd db.now 3)) fun _ => rfl with
  | none =>
      rw [hinsert] at h
      simp [fail, created] at h
  | some login =>
      simp only [Option.isSome_some, if_true, insertLogin, hinsert]
      exact ⟨_, mem_of_insert hinsert, rfl, rfl, rfl⟩

/-- A change of password has stored what fits the column, in this account. -/
theorem changed_stored {r : ChangePassword} {db : Db} {u : Login} (hu : u ∈ db.login.rows)
    (hsets : r.Sets u) :
    ∃ u' ∈ ((changePassword r).final db).login.rows, u'.id = u.id ∧
      u'.username = u.username ∧ u'.password = (r.password2.getD []).take 32 := by
  obtain ⟨hpassword, husername, hknows, hrepeated⟩ := hsets
  have hfound : db.login.rows.any r.knows = true := List.any_eq_true.2 ⟨u, hu, hknows⟩
  have hnamed : u.named r.username = true := (Bool.and_eq_true _ _ ▸ hknows).1
  have hlogin : ((changePassword r).final db).login.rows =
      updateAll (Login.named r.username)
        (fun u => { u with password := (r.password2.getD []).take 32 }) db.login.rows := by
    simp only [changePassword, hpassword, husername, Bool.and_self, if_true, Script.bind_eq,
      Script.final, Script.run_bind, Script.run_query, hfound, hrepeated, Script.run_modify,
      Script.pure_eq_done, Script.run_done]
    exact updateFirst_eq_updateAll (named_pairwise db.login r.username)
  rw [hlogin]
  exact ⟨_, mem_updateAll.2 ⟨u, hu, rfl⟩, by simp [hnamed], by simp [hnamed], by simp [hnamed]⟩

theorem Registered.stored {db : Db} {id : Nat} {name password : Str}
    (h : Registered db id name password) :
    ∃ u ∈ db.login.rows, u.id = id ∧ u.username = name.take 16 ∧
      u.password = password.take 32 := by
  induction h with
  | create h => exact created_stored h
  | @change db id name password r u _ hu hid hsets ih =>
      obtain ⟨v, hv, hvid, hname, -⟩ := ih
      obtain rfl : v = u := db.login.eq_of_key_eq hv hu (hvid.trans hid.symm)
      obtain ⟨u', hu', hid', hname', hpass'⟩ := changed_stored hv hsets
      exact ⟨u', hu', hid'.trans hvid, hname'.trans hname, hpass'⟩
  | other _ hkept ih =>
      obtain ⟨u, hu, hid, hname, hpass⟩ := ih
      obtain ⟨u', hu', hid', hname', hpass'⟩ := hkept u hu hid
      exact ⟨u', hu', hid', hname'.trans hname, hpass'.trans hpass⟩

theorem fold_take_eq_iff {s : Str} {n : Nat} : fold (s.take n) = fold s ↔ (fold s).length ≤ n := by
  constructor
  · intro h
    rw [← h]
    exact (length_fold_le _).trans (List.length_take_le n s)
  · exact fold_take

/-- **Registered credentials.**  Once the account has credit and is active, the
plugin lets the user in with the name he registered and the password he set last
exactly when the two are usable. -/
theorem registered_admits_iff {db : Db} {id : Nat} {name password : Str}
    (h : Registered db id name password) {u : Login} (hu : u ∈ db.login.rows) (hid : u.id = id)
    (hcredit : hasCredit u = true) (hactive : u.accountState = .ACTIVE) :
    Admits db name password ↔ Usable name password := by
  obtain ⟨v, hv, hvid, hname, hpass⟩ := h.stored
  obtain rfl : v = u := db.login.eq_of_key_eq hv hu (hvid.trans hid.symm)
  rw [admits_iff, Usable]
  constructor
  · rintro ⟨hvalidName, hvalidPass, w, hw, hwname, hwpass, -, -⟩
    -- the name that matched is at most 16 characters long, so it was not cut
    have hshort : name.length ≤ 16 := hwname ▸ w.username_le
    have hvw : fold v.username = fold w.username := by
      rw [hname, hwname, List.take_of_length_le hshort]
    obtain rfl : v = w := eq_of_nodup_map db.login.unique hv hw hvw
    rw [hpass] at hwpass
    exact ⟨hvalidName, hvalidPass, hshort, fold_take_eq_iff.1 hwpass⟩
  · rintro ⟨hvalidName, hvalidPass, hshort, hfits⟩
    refine ⟨hvalidName, hvalidPass, v, hv, ?_, ?_, hcredit, hactive⟩
    · rw [hname, List.take_of_length_le hshort]
    · rw [hpass, fold_take hfits]

/-! ## Two registrations -/

def signUp (name : Str) : Create :=
  ⟨true, true, some name, some "secret".toList, some "secret".toList, some "a@b.cn".toList⟩

/-- The new account, with a megabyte. -/
def fundedDb (name : Str) : Db :=
  { Db.empty 1 with
    login := .single { Login.holding name 1048576 with password := "secret".toList } }

theorem registered_funded (name : Str)
    (hcreated : ((create (signUp name)).run (Db.empty 1)).value = created (signUp name)) :
    Registered (fundedDb name) 1 name "secret".toList := by
  refine .other (.create hcreated) fun u hu hid => ?_
  obtain ⟨v, hv, hvid, hname, hpass⟩ := created_stored hcreated
  obtain rfl : u = v := UniqueTable.toTable _ |>.eq_of_key_eq hu hv (hid.trans hvid.symm)
  exact ⟨_, List.mem_singleton.2 rfl, rfl, hname.symm, hpass.symm⟩

/-- A name of 17 characters is registered, and nobody can log in with it. -/
theorem long_name_refused :
    Registered (fundedDb "ann.of.green.gabl".toList) 1 "ann.of.green.gabl".toList
        "secret".toList ∧
      (∃ u ∈ (fundedDb "ann.of.green.gabl".toList).login.rows, u.id = 1 ∧
        hasCredit u = true ∧ u.accountState = .ACTIVE) ∧
      ¬Admits (fundedDb "ann.of.green.gabl".toList) "ann.of.green.gabl".toList
        "secret".toList := by
  refine ⟨registered_funded _ rfl, ⟨_, List.mem_singleton.2 rfl, rfl, rfl, rfl⟩, ?_⟩
  intro h
  exact absurd (h _ (passes_credentials _ _)) (by decide)

theorem registered_admits_short_name :
    Admits (fundedDb "ann".toList) "ann".toList "secret".toList :=
  (registered_admits_iff (registered_funded "ann".toList rfl)
    (List.mem_singleton.2 rfl) rfl rfl rfl).2 (by unfold Usable; decide)

end ParDiff.Accounts
