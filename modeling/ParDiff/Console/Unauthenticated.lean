import ParDiff.Console.Operations

/-!
# Requests without a session

Whatever the operation, a request that `auth` does not recognise and that does not
log an administrator in gets an answer that depends on the request alone: `refusal`
says which.  It follows that such a request changes no table, sends no mail and
tells its sender nothing about the tables.
-/

namespace ParDiff.Console

open Lib Lib.Text

variable {env : Env} {r : Request} {s : Site}

variable (env r s) in
/-- A login with a valid captcha and the name and password of an administrator. -/
def CorrectLogin : Prop :=
  r.op = .login ∧ r.captchaValid = true ∧
    ∃ a ∈ s.admins.rows, hasPassword env (r.param "username") (r.param "password") a = true

instance : Decidable (CorrectLogin env r s) := inferInstanceAs (Decidable (_ ∧ _ ∧ _))

/-- What whoever is not let in gets to see. -/
def refusal (r : Request) : Ending :=
  match r.op with
  | .login => if r.captchaValid then loginRefusal else captchaRefusal
  | .changeNote => .page [] []
  | .checkCoupon => .page [] []
  | _ => toIndex

theorem onDb_run {α : Type} (script : Sql α) (s : Site) :
    (onDb script).run s =
      ⟨(script.run s.db).value, { s with db := (script.run s.db).state }, []⟩ := by
  unfold onDb
  rw [Script.run_within]
  · intro db t
    rfl
  · intro t
    rfl
  · intro db db' t
    rfl

theorem login_run_of_not (hauth : ¬Authenticated env r s) (hop : r.op = .login)
    (hlogin : ¬CorrectLogin env r s) : (login env r).run s = ⟨refusal r, s, []⟩ := by
  rw [login, auth_bind_run, if_neg (mt authenticated_iff.2 hauth), refusal, hop]
  by_cases hcaptcha : r.captchaValid = true
  · have hrows : s.admins.rows.countP
        (hasPassword env (r.param "username") (r.param "password")) = 0 := by
      rw [List.countP_eq_zero]
      intro a ha hpassword
      exact hlogin ⟨hop, hcaptcha, a, ha, hpassword⟩
    simp only [hcaptcha, Bool.not_true, Bool.false_eq_true, if_false, if_true, Script.bind_eq,
      Script.run_bind, Script.run_query, hrows]
    rfl
  · simp only [hcaptcha, Bool.not_false, if_true, Bool.false_eq_true, if_false]
    rfl

theorem addUser_run_of_not (hauth : ¬Authenticated env r s) :
    (addUser env r).run s = ⟨toIndex, s, []⟩ := by
  rw [addUser, auth_bind_run, Script.bind_eq, Script.run_bind, onDb_run, Accounts.addUser,
    if_neg (mt authenticated_iff.2 hauth)]
  rfl

theorem onchangecredit_run_of_not (hauth : ¬Authenticated env r s) :
    (onchangecredit env r).run s = ⟨toIndex, s, []⟩ := by
  rw [onchangecredit, auth_bind_run, Script.bind_eq, Script.run_bind, onDb_run,
    Accounts.onchangecredit, if_neg (mt authenticated_iff.2 hauth)]
  rfl

theorem operation_run_of_not (hauth : ¬Authenticated env r s) (hlogin : ¬CorrectLogin env r s) :
    (operation env r).run s = ⟨refusal r, s, []⟩ := by
  unfold operation
  cases hop : r.op with
  | login => exact login_run_of_not hauth hop hlogin
  | addUser => rw [refusal, hop]; exact addUser_run_of_not hauth
  | onchangecredit => rw [refusal, hop]; exact onchangecredit_run_of_not hauth
  | _ => rw [refusal, hop]; exact guarded_run_of_not env hauth _ _

/-- **No effect, no knowledge.** A request that `auth` does not recognise and that is
not a correct login changes no table and sends no mail, and its response is the same
in every state with the same administrators. -/
theorem unauthenticated_learns_nothing {s' : Site} (hadmins : s.admins = s'.admins)
    (hauth : ¬Authenticated env r s) (hlogin : ¬CorrectLogin env r s) :
    ((mainCgi env r).run s).state = s ∧ ((mainCgi env r).run s).events = [] ∧
      ((mainCgi env r).run s').value = ((mainCgi env r).run s).value := by
  have hrun : ∀ t : Site, t.admins = s.admins →
      (mainCgi env r).run t = ⟨finish (refusal r), t, []⟩ := by
    intro t ht
    have hauth' : ¬Authenticated env r t := by
      rwa [authenticated_iff, ht, ← authenticated_iff]
    have hlogin' : ¬CorrectLogin env r t := by
      rwa [CorrectLogin, ht]
    rw [mainCgi, Script.bind_eq, Script.run_bind, operation_run_of_not hauth' hlogin']
    rfl
  rw [hrun s rfl, hrun s' hadmins.symm]
  exact ⟨rfl, rfl, rfl⟩

/-- 32 hexadecimal digits. -/
def hexText (n : Nat) : Str :=
  (List.range 32).reverse.map fun i => Nat.digitChar (n / 16 ^ i % 16)

def secretHash : Str := hexText 0x5ebe2294ecd0e0f08eab7690d2a6ee69

def hiddenHash : Str := hexText 0x662f707d5491e9bce8238a6c0be92190

def firstSalt : Str := hexText 0x729335dcb69db8aa379fe7de718cdb53

def secondSalt : Str := hexText 0x317ab63ed94da3467a96b5637e0f63d3

/-- MD5 of two passwords, of two values of `rand(20)`, and of each password hash followed
by each salt. -/
def md5Samples : List (Str × Nat) :=
  [("secret".toList, 0x5ebe2294ecd0e0f08eab7690d2a6ee69),
    ("hidden".toList, 0x662f707d5491e9bce8238a6c0be92190),
    ("13.8126594720417".toList, 0x729335dcb69db8aa379fe7de718cdb53),
    ("4.20691107311243".toList, 0x317ab63ed94da3467a96b5637e0f63d3),
    (secretHash ++ firstSalt, 0x562eafc8cbb24e41fe1f566242a605fa),
    (secretHash ++ secondSalt, 0x1a42cb41307558506c0690e8fc0095b1),
    (hiddenHash ++ firstSalt, 0x3453a40efa273120f97bf46e15109671),
    (hiddenHash ++ secondSalt, 0xdc1c0635633513bd15ff9fbba36f58ad)]

/-- MD5 on the samples; times and fractions are printed as nothing. -/
def sampleEnv : Env where
  md5Hex := fun text => hexText ((md5Samples.lookup text).getD 0)
  emailValid := fun _ => true
  timestamp := fun _ => []
  decimal := fun _ => []
  number := fun _ => []

/-- A site with one administrator, whose password is `secret`. -/
def secretSite (username : String) (session : Option Str) (db : Db) : Site where
  db := db
  admins := .single ⟨1, username.toList, session, secretHash⟩
  ticketThreads := .empty
  tickets := .empty

/-- The list of accounts is asked for with a session of another password. -/
def listRequest : Request where
  params := [("op".toList, "list".toList)]
  cookies := [("username".toList, "root".toList),
    ("session".toList, hexText 0x3453a40efa273120f97bf46e15109671)]
  captchaValid := false
  rand := []

def bobDb : Db := { Db.empty 5 with login := .single (Login.holding "bob".toList 100) }

/-- It is not shown, whether there is an account or not. -/
theorem unauthenticated_list :
    ((mainCgi sampleEnv listRequest).run (secretSite "root" firstSalt bobDb)).state =
        secretSite "root" firstSalt bobDb ∧
      ((mainCgi sampleEnv listRequest).run (secretSite "root" firstSalt bobDb)).events = [] ∧
      ((mainCgi sampleEnv listRequest).run (secretSite "root" firstSalt (Db.empty 7))).value =
        ((mainCgi sampleEnv listRequest).run (secretSite "root" firstSalt bobDb)).value :=
  unauthenticated_learns_nothing rfl (by decide) (by decide)

end ParDiff.Console
