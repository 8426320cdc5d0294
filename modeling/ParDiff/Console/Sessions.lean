import ParDiff.Console.Effects
import ParDiff.Lib.Run
import ParDiff.Vouchers.PrintedCard

/-!
# Administrator sessions

The session cookie is computed in Perl from the typed password and a new salt; `auth`
computes it in SQL from the stored password and the stored salt.  The two agree as long
as no later login has replaced the salt and no change has replaced the password, and
for nobody else.

MD5 cannot be injective on all texts.  What the argument needs is that the texts which
are hashed for a session in the run, a stored password followed by a salt, do not collide.
-/

namespace ParDiff.Console

open Lib Lib.Text

section

variable (env : Env)

/-- MD5 texts are 32 hexadecimal digits. -/
def Env.IsMd5 : Prop := ∀ text, Vouchers.IsMd5Hex (env.md5Hex text)

/-- Names are unique, and passwords are stored as MD5 texts. -/
structure Tidy (s : Site) : Prop where
  unique : (s.admins.rows.map fun a => fold a.username).Nodup
  hashed : ∀ a ∈ s.admins.rows, ∃ password, a.password = env.md5Hex password

/-- The site after a run of requests. -/
def run (s : Site) (rs : List Request) : Site := rs.foldl (step env) s

/-- The request is a successful login of the administrator `name`. -/
def logsIn (name : Str) (s : Site) (r : Request) : Bool :=
  (issued env s r).any fun pair => ciEq pair.1 name

/-- No request of the run is a successful login of the administrator `name`. -/
def NoLogin (name : Str) (s : Site) (rs : List Request) : Prop :=
  Along (step env) (fun s r => logsIn env name s r = false) s rs

/-- The salts of the successful logins of a run. -/
def salts : Site → List Request → List Str
  | _, [] => []
  | s, r :: rs =>
      (if (issued env s r).isSome then [r.salt env] else []) ++ salts (step env s r) rs

/-- The salts of earlier logins. -/
def storedSalts (s : Site) : List Str := s.admins.rows.filterMap (·.session)

/-- The salts of the run are new. -/
structure FreshSalts (s : Site) (rs : List Request) : Prop where
  nodup : (salts env s rs).Nodup
  unused : ∀ w ∈ storedSalts s, w ∉ salts env s rs

/-- What may stand in the column `password` in the run. -/
def hashes (s : Site) (rs : List Request) : List Str :=
  s.admins.rows.map (·.password) ++ (rs.filterMap Request.newPassword).map env.md5Hex

/-- The texts that are hashed for a session in the run. -/
def sessionTexts (s : Site) (rs : List Request) : List Str :=
  (hashes env s rs).flatMap fun h => (storedSalts s ++ salts env s rs).map (h ++ ·)

def NoCollision (s : Site) (rs : List Request) : Prop :=
  ∀ x ∈ sessionTexts env s rs, ∀ y ∈ sessionTexts env s rs, env.md5Hex x = env.md5Hex y → x = y

/-- `password` is the password of the administrator `name`. -/
def IsPassword (s : Site) (name password : Str) : Prop :=
  ∃ a ∈ s.admins.rows, a.named (some name) = true ∧ a.password = env.md5Hex password

/-- Which cookies `auth` accepts at the end of a run: a pair that some login of the run
handed out as long as no later login of the same administrator succeeded and his
password is the one typed then, also under another spelling of his name, and no pair at
all for an administrator who never logged in. -/
structure SessionsFresh (s : Site) (rs : List Request) : Prop where
  issued_iff : ∀ before r after, rs = before ++ r :: after → ∀ username session,
    issued env (run env s before) r = some (username, session) →
    ∀ (q : Request) (name : Str), q.cookie "username" = some name →
      q.cookie "session" = some session →
      (Authenticated env q (run env s rs) ↔ truthy (some name) = true ∧
        ciEq name username = true ∧ NoLogin env username (step env (run env s before) r) after ∧
        IsPassword env (run env s rs) username (print (r.param "password")))
  never : ∀ name, (∀ a ∈ s.admins.rows, a.named (some name) = true → a.session = none) →
    NoLogin env name s rs → ∀ q : Request, q.cookie "username" = some name →
    ¬Authenticated env q (run env s rs)

end

variable {env : Env} {s : Site} {r : Request} {rs : List Request} {name : Str}

/-! ## One step -/

variable (env) in
/-- What a request does to every row: a login of the administrator sets the salt, and the
password stays or is a new one. -/
theorem step_rows (s : Site) (r : Request) :
    ∃ f : Admin → Admin, (step env s r).admins.rows = s.admins.rows.map f ∧
      ∀ a, (f a).username = a.username ∧
        (f a).session = (if logsIn env a.username s r then some (r.salt env) else a.session) ∧
        ((f a).password = a.password ∨
          ∃ password, r.newPassword = some password ∧ (f a).password = env.md5Hex password) := by
  obtain ⟨⟨-, -, b, -, hb⟩, hissued, h⟩ | ⟨hissued, username, password, -, hnew, h⟩ |
    ⟨hissued, h⟩ := step_cases env s r
  · obtain ⟨username, husername⟩ : ∃ username, r.param "username" = some username := by
      cases hparam : r.param "username" with
      | none => simp [hasPassword, Admin.named, hparam] at hb
      | some username => exact ⟨username, rfl⟩
    rw [husername] at h hissued
    refine ⟨_, congrArg Table.rows h, fun a => ?_⟩
    have hlogs : logsIn env a.username s r = a.named (some username) := by
      simp [logsIn, hissued, Admin.named, ciEq, print, eq_comm]
    rw [hlogs]
    cases a.named (some username) <;> exact ⟨rfl, rfl, .inl rfl⟩
  · have hlogs : ∀ a : Admin, logsIn env a.username s r = false := by simp [logsIn, hissued]
    refine ⟨_, congrArg Table.rows h, fun a => ?_⟩
    rw [hlogs]
    cases a.named (some username) with
    | false => exact ⟨rfl, rfl, .inl rfl⟩
    | true => exact ⟨rfl, rfl, .inr ⟨password, hnew, rfl⟩⟩
  · have hlogs : ∀ a : Admin, logsIn env a.username s r = false := by simp [logsIn, hissued]
    refine ⟨id, by rw [h, List.map_id], fun a => ?_⟩
    rw [hlogs]
    exact ⟨rfl, rfl, .inl rfl⟩

theorem Tidy.step (h : Tidy env s) (r : Request) : Tidy env (Console.step env s r) := by
  obtain ⟨f, hrows, hf⟩ := step_rows env s r
  refine ⟨?_, ?_⟩
  · have hnames : (fun a => fold a.username) ∘ f = fun a => fold a.username :=
      funext fun a => congrArg fold (hf a).1
    rw [hrows, List.map_map, hnames]
    exact h.unique
  · intro a ha
    rw [hrows] at ha
    obtain ⟨b, hb, rfl⟩ := List.mem_map.1 ha
    rcases (hf b).2.2 with hkept | ⟨password, -, hnew⟩
    · rw [hkept]
      exact h.hashed b hb
    · exact ⟨password, hnew⟩

theorem Tidy.run (h : Tidy env s) (rs : List Request) : Tidy env (Console.run env s rs) :=
  foldl_invariant (I := Tidy env) (fun _ r hs => hs.step r) h rs

theorem password_step {a : Admin} (ha : a ∈ (step env s r).admins.rows) (rs : List Request) :
    a.password ∈ hashes env s (r :: rs) := by
  obtain ⟨f, hrows, hf⟩ := step_rows env s r
  rw [hrows] at ha
  obtain ⟨b, hb, rfl⟩ := List.mem_map.1 ha
  rcases (hf b).2.2 with hkept | ⟨password, hparam, hnew⟩
  · rw [hkept]
    exact List.mem_append_left _ (List.mem_map_of_mem hb)
  · refine List.mem_append_right _ ?_
    simp [hparam, hnew]

theorem password_run {a : Admin} (ha : a ∈ (run env s rs).admins.rows) :
    a.password ∈ hashes env s rs := by
  induction rs generalizing s with
  | nil => exact List.mem_append_left _ (List.mem_map_of_mem ha)
  | cons r rs ih =>
      rcases List.mem_append.1 (ih ha) with hold | hnew
      · obtain ⟨b, hb, hpassword⟩ := List.mem_map.1 hold
        rw [← hpassword]
        exact password_step hb rs
      · refine List.mem_append_right _ ?_
        obtain ⟨password, hmem, hhash⟩ := List.mem_map.1 hnew
        obtain ⟨r', hr', hparam⟩ := List.mem_filterMap.1 hmem
        exact List.mem_map.2 ⟨password, List.mem_filterMap.2 ⟨r', .tail _ hr', hparam⟩, hhash⟩

/-! ## Salts -/

/-- An administrator of this name has this salt. -/
def HasSalt (s : Site) (name : Str) (w : Option Str) : Prop :=
  ∃ a ∈ s.admins.rows, a.named (some name) = true ∧ a.session = w

theorem logsIn_congr {name' : Str} (h : fold name = fold name') (s : Site) (r : Request) :
    logsIn env name s r = logsIn env name' s r := by
  simp only [logsIn, ciEq, h]

theorem noLogin_congr {name' : Str} (h : fold name = fold name') :
    NoLogin env name s rs ↔ NoLogin env name' s rs := by
  have hlogs : (fun s r => logsIn env name s r = false) = fun s r => logsIn env name' s r = false :=
    funext fun s => funext fun r => by rw [logsIn_congr h]
  rw [NoLogin, NoLogin, hlogs]

theorem salts_append (s : Site) (as bs : List Request) :
    salts env s (as ++ bs) = salts env s as ++ salts env (run env s as) bs := by
  induction as generalizing s with
  | nil => rfl
  | cons r as ih => simp [salts, ih, run]

/-- A login gives all rows of its name the new salt, and the others keep theirs. -/
theorem hasSalt_step {w : Option Str} :
    HasSalt (step env s r) name w ↔
      if logsIn env name s r then w = some (r.salt env) ∧ ∃ w', HasSalt s name w'
      else HasSalt s name w := by
  obtain ⟨f, hrows, hf⟩ := step_rows env s r
  have hnamed : ∀ a, (f a).named (some name) = a.named (some name) := by
    intro a
    simp only [Admin.named, (hf a).1]
  have hsession : ∀ a : Admin, a.named (some name) = true →
      (f a).session = if logsIn env name s r then some (r.salt env) else a.session := by
    intro a ha
    rw [(hf a).2.1, logsIn_congr (ciEq_iff.1 ha)]
  have hstep : HasSalt (step env s r) name w ↔
      ∃ a ∈ s.admins.rows, a.named (some name) = true ∧ (f a).session = w := by
    simp only [HasSalt, hrows, List.mem_map]
    constructor
    · rintro ⟨-, ⟨a, ha, rfl⟩, hname, hw⟩
      exact ⟨a, ha, hnamed a ▸ hname, hw⟩
    · rintro ⟨a, ha, hname, hw⟩
      exact ⟨f a, ⟨a, ha, rfl⟩, (hnamed a).trans hname, hw⟩
  rw [hstep]
  cases hlogs : logsIn env name s r with
  | true =>
      rw [if_pos rfl]
      constructor
      · rintro ⟨a, ha, hname, rfl⟩
        rw [hsession a hname, hlogs]
        exact ⟨rfl, a.session, a, ha, hname, rfl⟩
      · rintro ⟨rfl, w', a, ha, hname, -⟩
        refine ⟨a, ha, hname, ?_⟩
        rw [hsession a hname, hlogs]
        rfl
  | false =>
      rw [if_neg (by simp)]
      refine exists_congr fun a => and_congr_right fun _ => and_congr_right fun hname => ?_
      rw [hsession a hname, hlogs]
      rfl

theorem hasSalt_run_of_noLogin {w : Option Str} (h : NoLogin env name s rs) :
    HasSalt (run env s rs) name w ↔ HasSalt s name w := by
  induction rs generalizing s with
  | nil => rfl
  | cons r rs ih =>
      obtain ⟨hr, hrs⟩ := h
      refine (ih hrs).trans ?_
      rw [hasSalt_step, hr]
      rfl

/-- Where a salt comes from: a login of the run, or the time before it. -/
theorem hasSalt_run {w : Str} (h : HasSalt (run env s rs) name (some w)) :
    w ∈ salts env s rs ∨ NoLogin env name s rs ∧ HasSalt s name (some w) := by
  induction rs generalizing s with
  | nil => exact .inr ⟨trivial, h⟩
  | cons r rs ih =>
      rcases ih h with hlater | ⟨hnone, hstep⟩
      · exact .inl (List.mem_append_right _ hlater)
      · rw [hasSalt_step] at hstep
        cases hlogs : logsIn env name s r with
        | true =>
            rw [hlogs, if_pos rfl] at hstep
            obtain ⟨hsalt, -⟩ := hstep
            have hissued : (issued env s r).isSome = true := by
              cases hpair : issued env s r with
              | none => simp [logsIn, hpair] at hlogs
              | some pair => rfl
            left
            rw [salts, hissued, if_pos rfl, Option.some.inj hsalt]
            exact List.mem_append_left _ (List.mem_singleton_self _)
        | false =>
            rw [hlogs, if_neg (by simp)] at hstep
            exact .inr ⟨⟨hlogs, hnone⟩, hstep⟩

theorem session_run {a : Admin} (ha : a ∈ (run env s rs).admins.rows) {w : Str}
    (hw : a.session = some w) : w ∈ storedSalts s ++ salts env s rs := by
  have hhas : HasSalt (run env s rs) a.username (some w) :=
    ⟨a, ha, ciEq_iff.2 rfl, hw⟩
  rcases hasSalt_run hhas with hnew | ⟨-, b, hb, -, hold⟩
  · exact List.mem_append_right _ hnew
  · exact List.mem_append_left _ (List.mem_filterMap.2 ⟨b, hb, hold⟩)

/-! ## Cookies -/

/-- The session that SQL computes; it is NULL for an administrator without a salt. -/
theorem sessionDb_eq_iff {a : Admin} {session : Str} (h : truthy (some session) = true) :
    (sessionDb env a).getD [] = session ↔
      ∃ w, a.session = some w ∧ env.md5Hex (a.password ++ w) = session := by
  have hnonempty : session ≠ [] := by
    rintro rfl
    simp [truthy] at h
  cases hsalt : a.session with
  | none => simp [sessionDb, hsalt, hnonempty.symm]
  | some w => simp [sessionDb, hsalt]

/-- With unique names, `auth` looks at the one row of that name. -/
theorem authenticated_iff_row (h : Tidy env s) {q : Request} {session : Str}
    (hname : q.cookie "username" = some name) (hsession : q.cookie "session" = some session)
    (htruthy : truthy (some session) = true) :
    Authenticated env q s ↔ truthy (some name) = true ∧ ∃ a ∈ s.admins.rows,
      a.named (some name) = true ∧ ∃ w, a.session = some w ∧
        env.md5Hex (a.password ++ w) = session := by
  rw [authenticated_iff, recognised, hname, hsession, htruthy]
  cases hfalse : truthy (some name) with
  | false => simp [truthy]
  | true =>
      simp only [Bool.not_true, Bool.or_self, Bool.false_eq_true, if_false, true_and]
      cases hfind : s.admins.rows.find? (Admin.named (some name)) with
      | none =>
          rw [List.find?_eq_none] at hfind
          constructor
          · simp [truthy]
          · rintro ⟨a, ha, hnamed, -⟩
            exact absurd hnamed (hfind a ha)
      | some a =>
          have ha := List.mem_of_find?_eq_some hfind
          have hnamed := List.find?_some hfind
          have hrow := @sessionDb_eq_iff env a session htruthy
          simp only [Option.getD_some]
          constructor
          · intro haccepted
            refine ⟨a, ha, hnamed, hrow.1 ?_⟩
            by_contra hne
            simp [hne, truthy] at haccepted
          · rintro ⟨b, hb, hbnamed, hbrow⟩
            obtain rfl : a = b := eq_of_nodup_map h.unique ha hb
              ((ciEq_iff.1 hnamed).trans (ciEq_iff.1 hbnamed).symm)
            rw [if_pos (hrow.2 hbrow)]
            exact hfalse

theorem cookie_of_authenticated {q : Request} (h : Authenticated env q s) :
    ∃ session, q.cookie "session" = some session ∧ truthy (some session) = true := by
  rw [authenticated_iff, recognised] at h
  cases hsession : q.cookie "session" with
  | none => simp [hsession, truthy] at h
  | some session =>
      refine ⟨session, rfl, ?_⟩
      by_contra hfalse
      rw [Bool.not_eq_true] at hfalse
      simp only [hsession, hfalse, Bool.not_false, Bool.true_or, if_true] at h
      simp [truthy] at h

theorem truthy_of_md5 (h : env.IsMd5) (text : Str) : truthy (some (env.md5Hex text)) = true := by
  have hlength := (h text).1
  cases hhash : env.md5Hex text with
  | nil => simp [hhash] at hlength
  | cons c rest =>
      cases rest with
      | nil => simp [hhash] at hlength
      | cons c' rest => simp [truthy]

theorem fold_md5 (h : env.IsMd5) (text : Str) : fold (env.md5Hex text) = env.md5Hex text := by
  refine fold_eq_self fun c hc => ?_
  have hhex := (h text).2 c hc
  have hall : Vouchers.hexDigits.all (fun c => c.toLower == c && !(c == ' ')) = true := by decide
  simpa using List.all_eq_true.1 hall c hhex

/-- A correct login types the stored password. -/
theorem password_of_correct (hmd5 : env.IsMd5) (h : Tidy env s) (hlogin : CorrectLogin env r s) :
    ∃ username, r.param "username" = some username ∧
      IsPassword env s username (print (r.param "password")) := by
  obtain ⟨-, -, a, ha, hpassword⟩ := hlogin
  rw [hasPassword, Bool.and_eq_true] at hpassword
  obtain ⟨hnamed, hhash⟩ := hpassword
  cases husername : r.param "username" with
  | none => simp [husername, Admin.named] at hnamed
  | some username =>
      refine ⟨username, rfl, a, ha, husername ▸ hnamed, ?_⟩
      cases htyped : r.param "password" with
      | none => simp [htyped] at hhash
      | some typed =>
          obtain ⟨password, hstored⟩ := h.hashed a ha
          rw [htyped, Option.any_some, ciEq_iff, hstored, fold_md5 hmd5, fold_md5 hmd5] at hhash
          rw [hstored, hhash]
          rfl

/-- Cookies are handed out to an administrator who typed his password. -/
theorem issued_spec (hmd5 : env.IsMd5) (h : Tidy env s) {username session : Str}
    (hissued : issued env s r = some (username, session)) :
    session = r.newSession env ∧ IsPassword env s username (print (r.param "password")) := by
  obtain ⟨hlogin, hpair, -⟩ | ⟨hnone, -⟩ | ⟨hnone, -⟩ := step_cases env s r
  · obtain ⟨name, hname, hpassword⟩ := password_of_correct hmd5 h hlogin
    rw [hissued, hname] at hpair
    obtain ⟨rfl, rfl⟩ := Prod.mk.inj (Option.some.inj hpair)
    exact ⟨rfl, hpassword⟩
  · simp [hissued] at hnone
  · simp [hissued] at hnone

theorem mem_sessionTexts {h w : Str} (hh : h ∈ hashes env s rs)
    (hw : w ∈ storedSalts s ++ salts env s rs) : h ++ w ∈ sessionTexts env s rs :=
  List.mem_flatMap.2 ⟨h, hh, List.mem_map_of_mem hw⟩

theorem hashes_append (s : Site) (as bs : List Request) {h : Str} (hh : h ∈ hashes env s as) :
    h ∈ hashes env s (as ++ bs) := by
  rw [hashes, List.mem_append] at hh ⊢
  rw [List.filterMap_append, List.map_append]
  exact hh.imp id (List.mem_append_left _)

section Issued

variable {before after : List Request} {username session : Str}

/-- The salt of a login is nobody's before it and in no later login. -/
theorem FreshSalts.at_login (h : FreshSalts env s (before ++ r :: after))
    (hissued : issued env (run env s before) r = some (username, session)) :
    r.salt env ∈ salts env s (before ++ r :: after) ∧
      (∀ name, ¬HasSalt (run env s before) name (some (r.salt env))) ∧
      r.salt env ∉ salts env (step env (run env s before) r) after := by
  have hsplit : salts env s (before ++ r :: after) = salts env s before ++
      r.salt env :: salts env (step env (run env s before) r) after := by
    rw [salts_append, salts, hissued]
    rfl
  have hmem : r.salt env ∈ salts env s (before ++ r :: after) := by
    rw [hsplit]
    exact List.mem_append_right _ List.mem_cons_self
  have hnodup := h.nodup
  rw [hsplit, List.nodup_append] at hnodup
  obtain ⟨-, hlater, hbefore⟩ := hnodup
  refine ⟨hmem, ?_, (List.nodup_cons.1 hlater).1⟩
  intro name hhas
  rcases hasSalt_run hhas with hold | ⟨-, a, ha, -, hstored⟩
  · exact hbefore _ hold _ List.mem_cons_self rfl
  · exact h.unused _ (List.mem_filterMap.2 ⟨a, ha, hstored⟩) hmem

/-- After the run the salt of a login is that of the same administrator, unless he has
logged in again. -/
theorem hasSalt_after_login (name : Str) (h : FreshSalts env s (before ++ r :: after))
    (hissued : issued env (run env s before) r = some (username, session))
    (hrow : ∃ w, HasSalt (run env s before) username w) :
    HasSalt (run env s (before ++ r :: after)) name (some (r.salt env)) ↔
      ciEq name username = true ∧ NoLogin env username (step env (run env s before) r) after := by
  obtain ⟨-, hnobody, hlater⟩ := h.at_login hissued
  have hrun : run env s (before ++ r :: after) =
      run env (step env (run env s before) r) after := by
    simp [run]
  have hlogs : logsIn env name (run env s before) r = ciEq username name := by
    rw [logsIn, hissued]
    rfl
  rw [hrun]
  constructor
  · intro hhas
    obtain ⟨hnone, hstep⟩ := (hasSalt_run hhas).resolve_left hlater
    rw [hasSalt_step, hlogs] at hstep
    have hname : ciEq username name = true := by
      by_contra hne
      rw [if_neg hne] at hstep
      exact hnobody name hstep
    exact ⟨ciEq_iff.2 (ciEq_iff.1 hname).symm, (noLogin_congr (ciEq_iff.1 hname)).2 hnone⟩
  · rintro ⟨hname, hnone⟩
    have hfold := ciEq_iff.1 hname
    rw [hasSalt_run_of_noLogin ((noLogin_congr hfold).2 hnone), hasSalt_step, hlogs,
      if_pos (ciEq_iff.2 hfold.symm)]
    obtain ⟨w, a, ha, hnamed, hw⟩ := hrow
    exact ⟨rfl, w, a, ha, ciEq_iff.2 ((ciEq_iff.1 hnamed).trans hfold.symm), hw⟩

/-- A row whose session is the one of a login has the password typed then and its salt. -/
theorem row_of_hash (hmd5 : env.IsMd5) (htidy : Tidy env s)
    (hfresh : FreshSalts env s (before ++ r :: after))
    (hcollision : NoCollision env s (before ++ r :: after))
    (hissued : issued env (run env s before) r = some (username, session)) {b : Admin}
    (hb : b ∈ (run env s (before ++ r :: after)).admins.rows) {w : Str} (hw : b.session = some w)
    (hhash : env.md5Hex (b.password ++ w) = r.newSession env) :
    b.password = env.md5Hex (print (r.param "password")) ∧ w = r.salt env := by
  obtain ⟨-, a, ha, -, hpassword⟩ := issued_spec hmd5 (htidy.run before) hissued
  -- the text hashed in SQL is the one hashed in Perl
  have htext : b.password ++ w = env.md5Hex (print (r.param "password")) ++ r.salt env := by
    refine hcollision _ (mem_sessionTexts (password_run hb) (session_run hb hw)) _
      (mem_sessionTexts ?_ ?_) hhash
    · rw [← hpassword]
      exact hashes_append s before _ (password_run ha)
    · exact List.mem_append_right _ (hfresh.at_login hissued).1
  obtain ⟨password, hstored⟩ := (htidy.run _).hashed b hb
  have hlength : b.password.length = (env.md5Hex (print (r.param "password"))).length := by
    rw [hstored, (hmd5 _).1, (hmd5 _).1]
  exact List.append_inj htext hlength

end Issued

/-- An administrator who has never logged in has no session. -/
theorem not_authenticated_of_noLogin (htidy : Tidy env s)
    (hnull : ∀ a ∈ s.admins.rows, a.named (some name) = true → a.session = none)
    (hnone : NoLogin env name s rs) {q : Request} (hname : q.cookie "username" = some name) :
    ¬Authenticated env q (run env s rs) := by
  intro hauth
  obtain ⟨session, hsession, htruthy⟩ := cookie_of_authenticated hauth
  rw [authenticated_iff_row (htidy.run rs) hname hsession htruthy] at hauth
  obtain ⟨-, b, hb, hbnamed, w, hw, -⟩ := hauth
  obtain ⟨a, ha, hnamed, hsalt⟩ := (hasSalt_run_of_noLogin hnone).1 ⟨b, hb, hbnamed, hw⟩
  rw [hnull a ha hnamed] at hsalt
  exact absurd hsalt (by simp)

/-- **Sessions are fresh.** With unique names, passwords stored as MD5 texts, new salts and
no collision among the texts hashed for sessions. -/
theorem admin_sessions_fresh (hmd5 : env.IsMd5) (htidy : Tidy env s)
    (hfresh : FreshSalts env s rs) (hcollision : NoCollision env s rs) :
    SessionsFresh env s rs := by
  refine ⟨?_, fun name hnull hnone q hname => not_authenticated_of_noLogin htidy hnull hnone hname⟩
  rintro before r after rfl username session hissued q name hname hsession
  obtain ⟨rfl, a₀, ha₀, hnamed₀, -⟩ := issued_spec hmd5 (htidy.run before) hissued
  have hsalt := hasSalt_after_login name hfresh hissued ⟨_, a₀, ha₀, hnamed₀, rfl⟩
  have hend := htidy.run (before ++ r :: after)
  rw [authenticated_iff_row hend hname hsession (truthy_of_md5 hmd5 _)]
  refine and_congr_right fun _ => ?_
  constructor
  · rintro ⟨b, hb, hbnamed, w, hw, hhash⟩
    obtain ⟨hpassword, rfl⟩ := row_of_hash hmd5 htidy hfresh hcollision hissued hb hw hhash
    obtain ⟨hsame, hnone⟩ := hsalt.1 ⟨b, hb, hbnamed, hw⟩
    refine ⟨hsame, hnone, b, hb, ?_, hpassword⟩
    exact ciEq_iff.2 ((ciEq_iff.1 hbnamed).trans (ciEq_iff.1 hsame))
  · rintro ⟨hsame, hnone, b, hb, hbnamed, hpassword⟩
    obtain ⟨a, ha, hanamed, hw⟩ := hsalt.2 ⟨hsame, hnone⟩
    obtain rfl : a = b := eq_of_nodup_map hend.unique ha hb
      ((ciEq_iff.1 hanamed).trans ((ciEq_iff.1 hsame).trans (ciEq_iff.1 hbnamed).symm))
    refine ⟨a, ha, hanamed, r.salt env, hw, ?_⟩
    rw [hpassword]
    rfl

theorem isMd5Hex_hexText (n : Nat) : Vouchers.IsMd5Hex (hexText n) := by
  have hdigit : ∀ k < 16, Nat.digitChar k ∈ Vouchers.hexDigits := by decide
  refine ⟨by simp [hexText], fun c hc => ?_⟩
  obtain ⟨i, -, rfl⟩ := List.mem_map.1 hc
  exact hdigit _ (Nat.mod_lt _ (by decide))

/-- A login with the captcha solved. -/
def loginRequest (username password rand : String) : Request where
  params := [("op".toList, "login".toList), ("username".toList, username.toList),
    ("password".toList, password.toList)]
  cookies := []
  captchaValid := true
  rand := rand.toList

/-- The new password is `hidden`, with the cookies of the first login. -/
def hideRequest : Request where
  params := [("op".toList, "change_admin_password".toList),
    ("password_1".toList, "hidden".toList), ("password_2".toList, "hidden".toList)]
  cookies := [("username".toList, "root".toList),
    ("session".toList, hexText 0x562eafc8cbb24e41fe1f566242a605fa)]
  captchaValid := false
  rand := []

/-- Root logs in, changes his password and logs in again. -/
def visits : List Request :=
  [loginRequest "root" "secret" "13.8126594720417", hideRequest,
    loginRequest "root" "hidden" "4.20691107311243"]

theorem secretSite_tidy (username : String) (db : Db) :
    Tidy sampleEnv (secretSite username none db) where
  unique := by simp [secretSite, Table.single]
  hashed := by
    intro a ha
    obtain rfl := List.mem_singleton.1 ha
    exact ⟨"secret".toList, rfl⟩

/-- The hypotheses hold for the three visits of root. -/
theorem admin_sessions_fresh_visits :
    SessionsFresh sampleEnv (secretSite "root" none bobDb) visits :=
  admin_sessions_fresh (fun _ => isMd5Hex_hexText _) (secretSite_tidy "root" bobDb)
    ⟨by decide, by decide⟩ (by unfold NoCollision; decide)

/-- An administrator called 0 logs in. -/
def zeroLogin : Request := loginRequest "0" "secret" "13.8126594720417"

/-- A request with the cookies that he gets. -/
def zeroVisit : Request where
  params := []
  cookies := [("username".toList, "0".toList),
    ("session".toList, hexText 0x562eafc8cbb24e41fe1f566242a605fa)]
  captchaValid := false
  rand := []

/-- His cookies are refused right away: his name is a false value. -/
theorem zero_locked_out :
    Tidy sampleEnv (secretSite "0" none bobDb) ∧
      FreshSalts sampleEnv (secretSite "0" none bobDb) [zeroLogin] ∧
      NoCollision sampleEnv (secretSite "0" none bobDb) [zeroLogin] ∧
      issued sampleEnv (secretSite "0" none bobDb) zeroLogin =
        some ("0".toList, hexText 0x562eafc8cbb24e41fe1f566242a605fa) ∧
      ¬(Authenticated sampleEnv zeroVisit (run sampleEnv (secretSite "0" none bobDb) [zeroLogin]) ↔
        NoLogin sampleEnv "0".toList (step sampleEnv (secretSite "0" none bobDb) zeroLogin) [] ∧
          IsPassword sampleEnv (run sampleEnv (secretSite "0" none bobDb) [zeroLogin]) "0".toList
            "secret".toList) := by
  refine ⟨secretSite_tidy "0" bobDb, ⟨by decide, by decide⟩, by unfold NoCollision; decide,
    by decide, ?_⟩
  intro hiff
  have hrefused : ¬Authenticated sampleEnv zeroVisit
      (run sampleEnv (secretSite "0" none bobDb) [zeroLogin]) := by decide
  refine hrefused (hiff.2 ⟨trivial, ?_⟩)
  unfold IsPassword
  decide

end ParDiff.Console
