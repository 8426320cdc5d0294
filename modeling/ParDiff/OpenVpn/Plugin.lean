import ParDiff.Schema

/-!
# `src/myopenvpn/myopenvpn.c`

The plugin that decides who may use OpenVPN.  The server passes the credentials
in the environment.  Texts are C strings, so they hold no zero byte.

`as_mysql_validate` leaves no character that `mysql_escape_string` would change,
and the buffer of the query has room for its four characters of `%s` more than
the query needs; so the query is the two texts as they came.
-/

namespace ParDiff.OpenVpn

open Lib Lib.Text

inductive FuncResult
  | SUCCESS
  | ERROR
  deriving DecidableEq, Repr

/-- `get_env`: the first entry that is `name`, `=` and the value. -/
def getEnv (name : Str) : List Str → Option Str
  | [] => none
  | entry :: envp =>
      if name <+: entry ∧ (entry.drop name.length).head? = some '=' then
        some (entry.drop (name.length + 1))
      else getEnv name envp

/-- The characters of `as_mysql_validate`. -/
def isValidChar (c : Char) : Bool :=
  ('a' ≤ c && c ≤ 'z') || ('A' ≤ c && c ≤ 'Z') || ('0' ≤ c && c ≤ '9') ||
    c == ' ' || c == '-' || c == '_' || c == '.' || c == ':' || c == '@'

/-- `as_mysql_validate(name) == 0`. -/
def asMysqlValidate : Option Str → Bool
  | none => false
  | some name => !name.isEmpty && name.all isValidChar

/-- `credit > 0`; `NULL` is not greater. -/
def hasCredit (u : Login) : Bool := u.credit.any fun c => decide (0 < c)

/-- `password='%s' AND username='%s' AND credit > 0 AND account_state = 'ACTIVE'`. -/
def admissible (password username : Str) (u : Login) : Bool :=
  ciEq u.password password && ciEq u.username username && hasCredit u &&
    decide (u.accountState = .ACTIVE)

/-- `openvpn_plugin_func_v1`; without a database every call is an error. -/
def openvpnPluginFuncV1 (mysql : Option Db) (envp : List Str) : FuncResult :=
  let username := getEnv "username".toList envp
  let password := getEnv "password".toList envp
  -- validate username, then the password
  if !asMysqlValidate username then .ERROR
  else if !asMysqlValidate password then .ERROR
  else
    match mysql with
    | none => .ERROR
    | some db =>
        match db.login.rows.find? (admissible (password.getD []) (username.getD [])) with
        -- `strcmp(username, row[0])`, where the query compared under the collation
        | some row => if username.getD [] = row.username then .SUCCESS else .ERROR
        | none => .ERROR

/-- The server passes these credentials to the plugin. -/
def Passes (envp : List Str) (username password : Str) : Prop :=
  getEnv "username".toList envp = some username ∧ getEnv "password".toList envp = some password

/-- The plugin lets the user in. -/
def Admits (db : Db) (username password : Str) : Prop :=
  ∀ envp, Passes envp username password → openvpnPluginFuncV1 (some db) envp = .SUCCESS

/-! ## Who is let in -/

/-- The server's own way to pass them. -/
def credentials (username password : Str) : List Str :=
  ["username=".toList ++ username, "password=".toList ++ password]

theorem passes_credentials (username password : Str) :
    Passes (credentials username password) username password := by
  constructor
  · simp [credentials, getEnv]
  · simp [credentials, getEnv, List.cons_prefix_cons]

theorem admissible_iff {password username : Str} {u : Login} :
    admissible password username u = true ↔ fold u.password = fold password ∧
      fold u.username = fold username ∧ hasCredit u = true ∧ u.accountState = .ACTIVE := by
  simp [admissible, and_assoc]

/-- Names are unique under the collation, so the query finds at most one account. -/
theorem find?_admissible {db : Db} {password username : Str} {u : Login}
    (hu : u ∈ db.login.rows) (h : admissible password username u = true) :
    db.login.rows.find? (admissible password username) = some u := by
  obtain ⟨v, hv⟩ := Option.isSome_iff_exists.1 (List.find?_isSome.2 ⟨u, hu, h⟩)
  have hnames : fold v.username = fold u.username := by
    have hvu := (admissible_iff.1 (List.find?_some hv)).2.1
    exact hvu.trans (admissible_iff.1 h).2.1.symm
  obtain rfl : v = u :=
    eq_of_nodup_map db.login.unique (List.mem_of_find?_eq_some hv) hu hnames
  exact hv

theorem success_iff {db : Db} {envp : List Str} {username password : Str}
    (henv : Passes envp username password) :
    openvpnPluginFuncV1 (some db) envp = .SUCCESS ↔
      asMysqlValidate (some username) = true ∧ asMysqlValidate (some password) = true ∧
        ∃ u ∈ db.login.rows, u.username = username ∧ fold u.password = fold password ∧
          hasCredit u = true ∧ u.accountState = .ACTIVE := by
  obtain ⟨hname, hpass⟩ := henv
  simp only [openvpnPluginFuncV1, hname, hpass, Option.getD_some]
  by_cases hvalid : asMysqlValidate (some username) = true ∧ asMysqlValidate (some password) = true
  · simp only [hvalid, Bool.not_true, Bool.false_eq_true, if_false, true_and]
    constructor
    · intro h
      split at h
      · rename_i u hu
        have hequal : username = u.username := by
          by_contra hne
          simp [hne] at h
        obtain ⟨hp, -, hcredit, hactive⟩ := admissible_iff.1 (List.find?_some hu)
        exact ⟨u, List.mem_of_find?_eq_some hu, hequal.symm, hp, hcredit, hactive⟩
      · simp at h
    · rintro ⟨u, hu, rfl, hp, hcredit, hactive⟩
      have hadm := admissible_iff.2 ⟨hp, rfl, hcredit, hactive⟩
      simp [find?_admissible hu hadm]
  · constructor
    · intro h
      by_cases hu : asMysqlValidate (some username) = true
      · simp [hu, show asMysqlValidate (some password) = false by simpa [hu] using hvalid] at h
      · simp [hu] at h
    · rintro ⟨hu, hp, -⟩
      exact absurd ⟨hu, hp⟩ hvalid

/-- **Admission.**  Exactly the well-formed credentials of an active account with
credit are let in. -/
theorem admits_iff {db : Db} {username password : Str} :
    Admits db username password ↔
      asMysqlValidate (some username) = true ∧ asMysqlValidate (some password) = true ∧
        ∃ u ∈ db.login.rows, u.username = username ∧ fold u.password = fold password ∧
          hasCredit u = true ∧ u.accountState = .ACTIVE := by
  constructor
  · intro h
    exact (success_iff (passes_credentials _ _)).1 (h _ (passes_credentials _ _))
  · intro h envp henv
    exact (success_iff henv).2 h

/-! ## Exact authentication -/

/-- The account has exactly these credentials, credit, and is active. -/
def Login.Holds (u : Login) (username password : Str) : Prop :=
  u.username = username ∧ u.password = password ∧ hasCredit u = true ∧ u.accountState = .ACTIVE

/-- The plugin succeeds exactly for credentials of allowed characters that an active
account with credit has byte for byte. -/
def ExactAuthentication (db : Db) (envp : List Str) : Prop :=
  openvpnPluginFuncV1 (some db) envp = .SUCCESS ↔
    ∃ username password, Passes envp username password ∧
      asMysqlValidate (some username) = true ∧ asMysqlValidate (some password) = true ∧
      ∃ u ∈ db.login.rows, Login.Holds u username password

/-- No active account with credit has the name that was passed and a password that
differs from the one passed only in what the collation ignores. -/
def NoNearMiss (db : Db) (envp : List Str) : Prop :=
  ∀ username password, Passes envp username password → asMysqlValidate (some username) = true →
    asMysqlValidate (some password) = true → ∀ u ∈ db.login.rows, u.username = username →
      hasCredit u = true → u.accountState = .ACTIVE → fold u.password = fold password →
        u.password = password

/-- A missing credential is no valid one. -/
theorem asMysqlValidate_of_success {db : Db} {envp : List Str}
    (h : openvpnPluginFuncV1 (some db) envp = .SUCCESS) :
    asMysqlValidate (getEnv "username".toList envp) = true ∧
      asMysqlValidate (getEnv "password".toList envp) = true := by
  unfold openvpnPluginFuncV1 at h
  generalize getEnv "username".toList envp = username at h ⊢
  generalize getEnv "password".toList envp = password at h ⊢
  cases husername : asMysqlValidate username with
  | false => simp [husername] at h
  | true =>
      cases hpassword : asMysqlValidate password with
      | false => simp [husername, hpassword] at h
      | true => exact ⟨rfl, rfl⟩

theorem exists_eq_some_of_asMysqlValidate {s : Option Str} (h : asMysqlValidate s = true) :
    ∃ t, s = some t := by
  cases s with
  | none => simp [asMysqlValidate] at h
  | some t => exact ⟨t, rfl⟩

theorem exists_passes_of_success {db : Db} {envp : List Str}
    (h : openvpnPluginFuncV1 (some db) envp = .SUCCESS) :
    ∃ username password, Passes envp username password := by
  obtain ⟨huser, hpass⟩ := asMysqlValidate_of_success h
  obtain ⟨username, hname⟩ := exists_eq_some_of_asMysqlValidate huser
  obtain ⟨password, hpassword⟩ := exists_eq_some_of_asMysqlValidate hpass
  exact ⟨username, password, hname, hpassword⟩

theorem Passes.unique {envp : List Str} {username password username' password' : Str}
    (h : Passes envp username password) (h' : Passes envp username' password') :
    username = username' ∧ password = password' :=
  ⟨Option.some.inj (h.1.symm.trans h'.1), Option.some.inj (h.2.symm.trans h'.2)⟩

/-- **Exact authentication.**  `strcmp` checks the name again and nothing checks the
password again, so the plugin is exact unless letter case or trailing blanks of a
password are all that is wrong. -/
theorem exactAuthentication_iff (db : Db) (envp : List Str) :
    ExactAuthentication db envp ↔ NoNearMiss db envp := by
  constructor
  · intro h username password hpasses huser hpass u hu hname hcredit hactive hfold
    have hsuccess : openvpnPluginFuncV1 (some db) envp = .SUCCESS :=
      (success_iff hpasses).2 ⟨huser, hpass, u, hu, hname, hfold, hcredit, hactive⟩
    obtain ⟨username', password', hpasses', -, -, v, hv, hvname, hvpass, -⟩ := h.1 hsuccess
    obtain ⟨rfl, rfl⟩ := hpasses.unique hpasses'
    obtain rfl : u = v := eq_of_nodup_map db.login.unique hu hv (by rw [hname, hvname])
    exact hvpass
  · intro h
    constructor
    · intro hsuccess
      obtain ⟨username, password, hpasses⟩ := exists_passes_of_success hsuccess
      obtain ⟨huser, hpass, u, hu, hname, hfold, hcredit, hactive⟩ :=
        (success_iff hpasses).1 hsuccess
      have hexact := h username password hpasses huser hpass u hu hname hcredit hactive hfold
      exact ⟨username, password, hpasses, huser, hpass, u, hu, hname, hexact, hcredit, hactive⟩
    · rintro ⟨username, password, hpasses, huser, hpass, u, hu, hname, rfl, hcredit, hactive⟩
      exact (success_iff hpasses).2 ⟨huser, hpass, u, hu, hname, rfl, hcredit, hactive⟩

def shoutingDb : Db :=
  { Db.empty 1 with
    login := .single { Login.holding "bob".toList 5 with password := "SECRET".toList } }

/-- bob's password is `SECRET`, and `secret` lets him in. -/
theorem shouted_password_accepted :
    openvpnPluginFuncV1 (some shoutingDb) (credentials "bob".toList "secret".toList) = .SUCCESS ∧
      ¬ExactAuthentication shoutingDb (credentials "bob".toList "secret".toList) := by
  refine ⟨by decide, fun h => ?_⟩
  have hnear := (exactAuthentication_iff _ _).1 h "bob".toList "secret".toList
    (passes_credentials _ _) (by decide) (by decide)
    { Login.holding "bob".toList 5 with password := "SECRET".toList } (by decide) (by decide)
    (by decide) (by decide) (by decide)
  exact absurd hnear (by decide)

end ParDiff.OpenVpn
