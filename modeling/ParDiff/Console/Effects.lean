import ParDiff.Console.Unauthenticated

/-!
# What a request does to the administrators

Two operations change the table `admins`: a login stores a new salt, and
`change_admin_password` a new password.  The login is also the only one that hands out
cookies.  All others are `Quiet`: no statement of theirs touches the table and nothing
they print is a cookie.  `step_cases` puts this together for a whole request.
-/

namespace ParDiff.Console

open Lib Lib.Text

variable {env : Env}

/-! ## Cookies -/

/-- The pair of cookies in a response. -/
def cookies (response : List Output) : Option (Str × Str) :=
  response.findSome? fun
    | .header [(_, username), (_, session)] => some (username, session)
    | _ => none

variable (env) in
/-- The pair of cookies that a request is answered with. -/
def issued (s : Site) (r : Request) : Option (Str × Str) :=
  cookies ((mainCgi env r).run s).value

variable (env) in
/-- The site after a request. -/
def step (s : Site) (r : Request) : Site := (mainCgi env r).final s

/-- The ending prints no cookie. -/
def Plain (ending : Ending) : Prop := cookies (finish ending) = none

theorem plain_page (title content : Str) : Plain (.page title content) := rfl

theorem plain_redirect (url : Str) : Plain (.exit [.redirect url]) := rfl

theorem plain_ofPage (page : Accounts.Page) : Plain (ofPage page) := by
  cases page with
  | redirect url => exact plain_redirect url
  | html title content => exact plain_page title content

/-! ## Quiet scripts -/

/-- No statement changes the administrators. -/
def KeepsAdmins {α : Type} (script : Cgi α) : Prop :=
  script.Every fun act => ∀ s, (act s).1.admins = s.admins

structure Quiet (script : Cgi Ending) : Prop where
  keeps : KeepsAdmins script
  plain : script.Returns Plain

section

variable {α : Type}

theorem keepsAdmins_query (f : Site → α) : KeepsAdmins (.query f) :=
  Script.every_exec fun _ => rfl

theorem keepsAdmins_onDb (script : Sql α) : KeepsAdmins (onDb script) :=
  script.every_true.within fun _ _ _ => rfl

theorem keepsAdmins_updateDb (f : Db → Db) : KeepsAdmins (updateDb f) :=
  Script.every_exec fun _ => rfl

theorem keepsAdmins_sendMail (email : Option Str) (subject content : Str) :
    KeepsAdmins (sendMail env email subject content) :=
  Script.every_exec fun _ => rfl

theorem keepsAdmins_auth (r : Request) : KeepsAdmins (auth env r) := by
  unfold auth
  split
  · trivial
  · exact (keepsAdmins_query _).bind fun _ => trivial

theorem keepsAdmins_index : KeepsAdmins (index env) :=
  (keepsAdmins_query _).bind fun _ => (keepsAdmins_query _).bind fun _ =>
    (keepsAdmins_query _).bind fun _ => (keepsAdmins_query _).bind fun _ =>
      (keepsAdmins_query _).bind fun _ => trivial

end

namespace Quiet

theorem done {ending : Ending} (h : Plain ending) : Quiet (pure ending) := ⟨trivial, h⟩

theorem bind {α : Type} {script : Cgi α} {k : α → Cgi Ending} (h : KeepsAdmins script)
    (hk : ∀ a, Quiet (k a)) : Quiet (script >>= k) :=
  ⟨h.bind fun a => (hk a).keeps, (Script.Returns.trivial script).bind fun a _ => (hk a).plain⟩

theorem guarded {r : Request} {refused : Ending} {body : Str → Cgi Ending}
    (hrefused : Plain refused) (hbody : ∀ admin, Quiet (body admin)) :
    Quiet (guarded env r refused body) := by
  refine bind (keepsAdmins_auth r) fun admin => ?_
  split
  · exact hbody _
  · exact done hrefused

end Quiet

/-! ## The operations -/

theorem quiet_changeUserState (r : Request) : Quiet (changeUserState env r) := by
  refine .guarded (plain_redirect _) fun _ => ?_
  have hend := Quiet.done (plain_redirect "main.cgi?op=list".toList)
  cases actionState (r.param "action") with
  | none => exact hend
  | some state =>
      dsimp only
      split
      · exact .bind (keepsAdmins_updateDb _) fun _ => .bind (keepsAdmins_onDb _) fun _ => hend
      · exact hend

theorem quiet_changeUserInfo (r : Request) : Quiet (changeUserInfo env r) := by
  refine .guarded (plain_redirect _) fun _ => ?_
  have hend := fun username : Str =>
    Quiet.done (plain_redirect ("main.cgi?op=list_user&username=".toList ++ username))
  have hrest : ∀ f f' username, Quiet (updateDb f >>= fun _ => updateDb f' >>= fun _ =>
      pure (.exit [.redirect ("main.cgi?op=list_user&username=".toList ++ username)])) :=
    fun _ _ username => .bind (keepsAdmins_updateDb _) fun _ =>
      .bind (keepsAdmins_updateDb _) fun _ => hend username
  dsimp only
  split
  · exact .bind (keepsAdmins_updateDb _) fun _ => hrest _ _ _
  · exact hrest _ _ _

theorem quiet_creditList (r : Request) : Quiet (creditList env r) := by
  refine .guarded (plain_redirect _) fun _ => .bind (keepsAdmins_query _) fun ref => .done ?_
  cases ref with
  | none => exact plain_redirect _
  | some u => exact plain_page _ _

theorem quiet_sendmailForm (r : Request) : Quiet (sendmailForm env r) := by
  refine .guarded (plain_redirect _) fun _ => ?_
  split
  · exact .done (plain_page _ _)
  · exact .done (plain_page _ _)

theorem quiet_sendmail (r : Request) : Quiet (sendmail env r) := by
  refine .guarded (plain_redirect _) fun _ => ?_
  cases group (r.param "to") with
  | some member =>
      refine .bind (keepsAdmins_query _) fun users => .bind ?_ fun _ => .done (plain_page _ _)
      exact Script.every_forEach fun email _ => keepsAdmins_sendMail _ _ _
  | none =>
      dsimp only
      split
      · exact .bind (keepsAdmins_sendMail _ _ _) fun _ => .done (plain_page _ _)
      · exact .done (plain_redirect _)

theorem keepsAdmins_insertTicket (ticketId : Option Str) (username : Str) (content : Option Str) :
    KeepsAdmins (.modify (insertTicket ticketId username content) fun _ => []) := by
  refine Script.every_exec fun s => ?_
  cases ticketId with
  | none => rfl
  | some thread => cases content <;> rfl

theorem keepsAdmins_setStatus (status ticketId : Option Str) :
    KeepsAdmins (.modify (setStatus status ticketId) fun _ => []) :=
  Script.every_exec fun _ => rfl

theorem quiet_modTicket (r : Request) : Quiet (modTicket env r) := by
  refine .guarded (plain_redirect _) fun adminName => ?_
  refine .bind (keepsAdmins_insertTicket _ _ _) fun _ => .bind (keepsAdmins_setStatus _ _) fun _ =>
    .bind (keepsAdmins_sendMail _ _ _) fun _ => .bind (keepsAdmins_query _) fun ref => ?_
  have hend := fun content : Str => Quiet.done (plain_page "ticket修改成功".toList content)
  cases ref with
  | none => exact hend _
  | some thread =>
      dsimp only
      split
      · exact .bind (keepsAdmins_sendMail _ _ _) fun _ => hend _
      · exact hend _

theorem quiet_operation {r : Request} (hlogin : r.op ≠ .login)
    (hpassword : r.op ≠ .changeAdminPassword) : Quiet (operation env r) := by
  unfold operation
  cases hop : r.op with
  | login => exact absurd hop hlogin
  | changeAdminPassword => exact absurd hop hpassword
  | addUserForm => exact .guarded (plain_redirect _) fun _ => .done (plain_page _ _)
  | addUser =>
      exact .bind (keepsAdmins_auth r) fun _ => .bind (keepsAdmins_onDb _) fun _ =>
        .done (plain_ofPage _)
  | changeUserState => exact quiet_changeUserState r
  | changeNote =>
      exact .guarded (plain_page _ _) fun _ => .bind (keepsAdmins_updateDb _) fun _ =>
        .done (plain_page _ _)
  | list =>
      exact .guarded (plain_redirect _) fun _ => .bind (keepsAdmins_query _) fun _ =>
        .done (plain_page _ _)
  | listUser =>
      exact .guarded (plain_redirect _) fun _ => .bind (keepsAdmins_query _) fun _ =>
        .bind (keepsAdmins_query _) fun _ => .bind (keepsAdmins_query _) fun _ =>
          .done (plain_page _ _)
  | changeUserInfo => exact quiet_changeUserInfo r
  | creditList => exact quiet_creditList r
  | onchangecredit =>
      exact .bind (keepsAdmins_auth r) fun _ => .bind (keepsAdmins_onDb _) fun _ =>
        .done (plain_ofPage _)
  | changeAdminPasswordForm => exact .guarded (plain_redirect _) fun _ => .done (plain_page _ _)
  | sendmailForm => exact quiet_sendmailForm r
  | sendmail => exact quiet_sendmail r
  | listTickets =>
      exact .guarded (plain_redirect _) fun _ => .bind (keepsAdmins_query _) fun _ =>
        .done (plain_page _ _)
  | checkCoupon =>
      exact .guarded (plain_page _ _) fun _ => .bind (keepsAdmins_query _) fun _ =>
        .done (plain_page _ _)
  | viewTicket =>
      exact .guarded (plain_redirect _) fun _ => .bind (keepsAdmins_query _) fun _ =>
        .done (plain_page _ _)
  | modTicket => exact quiet_modTicket r
  | unknown => exact .guarded (plain_redirect _) fun _ => .done (plain_page _ _)

/-! ## A whole request -/

variable {s : Site} {r : Request}

theorem step_eq (s : Site) (r : Request) : step env s r = (operation env r).final s := by
  rw [step, mainCgi, Script.final, Script.bind_eq, Script.run_bind]
  rfl

theorem issued_eq (s : Site) (r : Request) :
    issued env s r = cookies (finish ((operation env r).run s).value) := by
  rw [issued, mainCgi, Script.bind_eq, Script.run_bind]
  rfl

theorem Quiet.step (h : Quiet (operation env r)) (s : Site) :
    issued env s r = none ∧ (step env s r).admins = s.admins := by
  rw [issued_eq, step_eq]
  exact ⟨h.plain.run s, h.keeps.run_part (p := Site.admins) s⟩

theorem login_of_authenticated (h : Authenticated env r s) :
    cookies (finish ((login env r).run s).value) = none ∧
      ((login env r).final s).admins = s.admins := by
  rw [Script.final, login, auth_bind_run, if_pos (authenticated_iff.1 h), Script.bind_eq,
    Script.run_bind]
  exact ⟨rfl, keepsAdmins_index.run_part (p := Site.admins) s⟩

theorem login_of_correct (h : ¬Authenticated env r s) (hlogin : CorrectLogin env r s) :
    cookies (finish ((login env r).run s).value) =
        some (print (r.param "username"), r.newSession env) ∧
      ((login env r).final s).admins =
        (setSession (r.salt env) (r.param "username") s).admins := by
  obtain ⟨-, hcaptcha, a, ha, hpassword⟩ := hlogin
  have hrows : s.admins.rows.countP
      (hasPassword env (r.param "username") (r.param "password")) ≠ 0 := by
    intro hzero
    exact List.countP_eq_zero.1 hzero a ha hpassword
  rw [Script.final, login, auth_bind_run, if_neg (mt authenticated_iff.2 h)]
  simp only [hcaptcha, Bool.not_true, Bool.false_eq_true, if_false, Script.bind_eq,
    Script.run_bind, Script.run_query, hrows, Script.run_modify]
  exact ⟨rfl, keepsAdmins_index.run_part (p := Site.admins) _⟩

theorem changeAdminPassword_of_authenticated (h : Authenticated env r s) :
    cookies (finish ((changeAdminPassword env r).run s).value) = none ∧
      ((∃ username password, recognised env s.admins r = some username ∧
        r.newPassword = some password ∧ ((changeAdminPassword env r).final s).admins =
          (setPassword env password username s).admins) ∨
      ((changeAdminPassword env r).final s).admins = s.admins) := by
  have hadmin := authenticated_iff.1 h
  rw [Script.final, changeAdminPassword, guarded, auth_bind_run, if_pos hadmin]
  cases hname : recognised env s.admins r with
  | none => simp [hname, truthy] at hadmin
  | some username =>
      cases hnew : r.newPassword with
      | none => exact ⟨rfl, .inr rfl⟩
      | some password => exact ⟨rfl, .inl ⟨username, password, rfl, rfl, rfl⟩⟩

variable (env) in
/-- What one request can do: hand out a pair of cookies and store its salt, store a new
password, or neither. -/
theorem step_cases (s : Site) (r : Request) :
    (CorrectLogin env r s ∧
      issued env s r = some (print (r.param "username"), r.newSession env) ∧
      (step env s r).admins = (setSession (r.salt env) (r.param "username") s).admins) ∨
    (issued env s r = none ∧ ∃ username password, recognised env s.admins r = some username ∧
      r.newPassword = some password ∧
      (step env s r).admins = (setPassword env password username s).admins) ∨
    (issued env s r = none ∧ (step env s r).admins = s.admins) := by
  by_cases hop : r.op = .login
  · have hoperation : operation env r = login env r := by rw [operation, hop]
    by_cases hauth : Authenticated env r s
    · rw [issued_eq, step_eq, hoperation]
      exact .inr (.inr (login_of_authenticated hauth))
    · by_cases hlogin : CorrectLogin env r s
      · rw [issued_eq, step_eq, hoperation]
        exact .inl ⟨hlogin, login_of_correct hauth hlogin⟩
      · rw [issued_eq, step_eq, Script.final, operation_run_of_not hauth hlogin, refusal, hop]
        refine .inr (.inr ⟨?_, rfl⟩)
        cases hcaptcha : r.captchaValid <;> rfl
  · by_cases hpassword : r.op = .changeAdminPassword
    · have hoperation : operation env r = changeAdminPassword env r := by rw [operation, hpassword]
      rw [issued_eq, step_eq, hoperation]
      by_cases hauth : Authenticated env r s
      · obtain ⟨hplain, hchange | hkept⟩ := changeAdminPassword_of_authenticated hauth
        · exact .inr (.inl ⟨hplain, hchange⟩)
        · exact .inr (.inr ⟨hplain, hkept⟩)
      · rw [Script.final, changeAdminPassword, guarded_run_of_not env hauth]
        exact .inr (.inr ⟨rfl, rfl⟩)
    · exact .inr (.inr ((quiet_operation hop hpassword).step s))

end ParDiff.Console
