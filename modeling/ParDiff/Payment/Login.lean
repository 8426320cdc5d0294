import ParDiff.Lib.PhpNumber
import ParDiff.Schema

/-!
# Sessions of the payment site

`login.php` looks an account up by name and password and leaves the name and a digest
in the session; `require_login` of `db-config.php` computes the digest again from the
password in the table and compares the two.

Name and password are put together with `+`, which adds numbers in PHP.  What goes
into the digest is therefore no more of the password than the number at its front, and the
comparison is the loose one of PHP.
-/

namespace ParDiff.Payment

open Lib Lib.Text Lib.Php

structure Session where
  username : Str
  password : Str
  deriving DecidableEq, Repr

/-- The pages of `config.ini`. -/
structure Pages where
  viewPage : Str
  loginPage : Str

/-- `$username + $password + $username`, as the digest is taken of it. -/
def tokenText (username password : Str) : Str :=
  (((Number.ofString username).add (.ofString password)).add (.ofString username)).text

/-- `WHERE username = ? AND password = ?` finds a row. -/
def admits (username password : Option Str) (db : Db) : Bool :=
  db.login.rows.any fun u => u.named username && password.any (ciEq u.password)

/-- `get_user`: the password of the account. -/
def getUser (username : Str) (db : Db) : Option Str :=
  (db.login.rows.find? (Login.named (some username))).map (·.password)

section

variable (sha1 : Str → Str) (config : Pages)

/-- `login.php`: the session after the request, and the page it leads to. -/
def login (username password : Option Str) (session : Option Session) (db : Db) :
    Option Session × Str :=
  if admits username password db then
    (some ⟨username.getD [], sha1 (tokenText (username.getD []) (password.getD []))⟩,
      config.viewPage)
  else (session, config.loginPage)

/-- `require_login`: the current user, or the page that everybody else is sent to. -/
def requireLogin (session : Option Session) (db : Db) : Except Str Str :=
  match session with
  | none => .error config.loginPage
  | some given =>
      match getUser given.username db with
      | none => .error config.loginPage
      | some password =>
          if looseEq given.password (sha1 (tokenText given.username password)) then
            .ok given.username
          else .error config.loginPage

end

/-! ## What a session is bound to -/

section Bound

variable {sha1 : Str → Str} {config : Pages} {username p : Str} {old : Option Session}
  {db db' : Db} {u : Login}

/-- `db` is the database of the login and `db'` that of any later request. -/
theorem requireLogin_login_iff (hsha1 : Function.Injective sha1)
    (hlogin : admits (some username) (some p) db = true)
    (hu : db'.login.rows.find? (Login.named (some username)) = some u) :
    requireLogin sha1 config (login sha1 config (some username) (some p) old db).1 db' =
        .ok username ↔
      tokenText username p = tokenText username u.password ∨
        SameNumber (sha1 (tokenText username p)) (sha1 (tokenText username u.password)) := by
  have hsession : (login sha1 config (some username) (some p) old db).1 =
      some ⟨username, sha1 (tokenText username p)⟩ := by
    rw [login, if_pos hlogin]
    rfl
  rw [hsession, ← hsha1.eq_iff, ← looseEq_iff]
  simp [requireLogin, getUser, hu]

/-- The session is accepted exactly for the password of the login, unless another password
leads to the same sum or to a digest that counts as the same number. -/
theorem sessionBound_iff (hsha1 : Function.Injective sha1)
    (hlogin : admits (some username) (some p) db = true)
    (hu : db'.login.rows.find? (Login.named (some username)) = some u) :
    (requireLogin sha1 config (login sha1 config (some username) (some p) old db).1 db' =
        .ok username ↔ p = u.password) ↔
      p = u.password ∨ (tokenText username p ≠ tokenText username u.password ∧
        ¬SameNumber (sha1 (tokenText username p)) (sha1 (tokenText username u.password))) := by
  rw [requireLogin_login_iff hsha1 hlogin hu]
  by_cases hp : p = u.password
  · simp [hp]
  · simp [hp, not_or]

/-- A password that does not begin with a number is not part of the digest. -/
theorem tokenText_of_word {password : Str}
    (h : ∀ c ∈ (password.dropWhile isSpace).head?, beginsNumber c = false) :
    tokenText username password = tokenText username [] := by
  rw [tokenText, tokenText, ofString_eq_zero h, ofString_eq_zero (s := []) (by simp)]

/-- Among integers without overflow the session is bound to the number of the password. -/
theorem tokenText_eq_iff {q : Str} {a b c : Int} (hname : Number.ofString username = .int a)
    (hp : Number.ofString p = .int b) (hq : Number.ofString q = .int c) (hab : Fits (a + b))
    (haba : Fits (a + b + a)) (hac : Fits (a + c)) (haca : Fits (a + c + a)) :
    tokenText username p = tokenText username q ↔ b = c := by
  rw [tokenText, tokenText, hname, hp, hq, Number.add_int hab, Number.add_int haba,
    Number.add_int hac, Number.add_int haca]
  simp only [Number.text, decInt_injective.eq_iff]
  omega

/-- Any password with the same number at its front will do: nothing else of it is in the
digest. -/
theorem requireLogin_of_same_number (hsha1 : Function.Injective sha1)
    (hlogin : admits (some username) (some p) db = true)
    (hu : db'.login.rows.find? (Login.named (some username)) = some u)
    (hnumber : Number.ofString p = .ofString u.password) :
    requireLogin sha1 config (login sha1 config (some username) (some p) old db).1 db' =
      .ok username := by
  refine (requireLogin_login_iff hsha1 hlogin hu).2 (.inl ?_)
  rw [tokenText, tokenText, hnumber]

/-- Among integers without overflow no other password will do, but for digests that count
as the same number. -/
theorem requireLogin_iff_same_number (hsha1 : Function.Injective sha1)
    (hlogin : admits (some username) (some p) db = true)
    (hu : db'.login.rows.find? (Login.named (some username)) = some u) {a b c : Int}
    (hname : Number.ofString username = .int a) (hp : Number.ofString p = .int b)
    (hq : Number.ofString u.password = .int c) (hab : Fits (a + b)) (haba : Fits (a + b + a))
    (hac : Fits (a + c)) (haca : Fits (a + c + a))
    (hdigest : ¬SameNumber (sha1 (tokenText username p)) (sha1 (tokenText username u.password))) :
    requireLogin sha1 config (login sha1 config (some username) (some p) old db).1 db' =
        .ok username ↔ b = c := by
  rw [requireLogin_login_iff hsha1 hlogin hu, or_iff_left hdigest]
  exact tokenText_eq_iff hname hp hq hab haba hac haca

end Bound

/-! ## One account -/

/-- SHA-1 of some sums. -/
def sha1Samples : List (Str × String) :=
  [("0".toList, "b6589fc6ab0dc82cf12099d1c2d40ab994e8410c"),
    ("7".toList, "902ba3cda1883801594b6e1b452790cc53948fda"),
    ("8".toList, "fe5dbbcea5ce7e2988b8c69bcfdfde8904aabc1f")]

/-- SHA-1 on the samples, and nothing like a digest elsewhere. -/
def sampleSha1 (s : Str) : Str :=
  match sha1Samples.lookup s with
  | some digest => digest.toList
  | none => '#' :: s

def bobLogin (password : String) : Login :=
  { Login.holding "bob".toList 100 with password := password.toList }

def bobWith (password : String) : Db := { Db.empty 5 with login := .single (bobLogin password) }

/-- What a digest was taken of. -/
def sampleText (digest : Str) : Str :=
  if digest.head? = some '#' then digest.tail
  else ((sha1Samples.find? (·.2.toList == digest)).map (·.1)).getD []

theorem sampleSha1_injective : Function.Injective sampleSha1 := by
  have hinverse : Function.LeftInverse sampleText sampleSha1 := by
    intro s
    unfold sampleSha1
    cases h : sha1Samples.lookup s with
    | none => rfl
    | some digest =>
        obtain ⟨l, l', hl, -⟩ := List.lookup_eq_some_iff.1 h
        have hmem : (s, digest) ∈ sha1Samples := by simp [hl]
        simp only [sha1Samples, List.mem_cons, Prod.mk.injEq, List.not_mem_nil, or_false] at hmem
        obtain ⟨rfl, rfl⟩ | ⟨rfl, rfl⟩ | ⟨rfl, rfl⟩ := hmem <;> decide +kernel
  exact hinverse.injective

/-- The password changes from `7up` to `8up`, and the session is over. -/
theorem numbered_password_bound :
    requireLogin sampleSha1 ⟨[], []⟩
        (login sampleSha1 ⟨[], []⟩ (some "bob".toList) (some "7up".toList) none (bobWith "7up")).1
        (bobWith "8up") = .ok "bob".toList ↔ "7up".toList = "8up".toList := by
  have hlogin : admits (some "bob".toList) (some "7up".toList) (bobWith "7up") = true := by decide
  have hsum : tokenText "bob".toList "7up".toList ≠ tokenText "bob".toList "8up".toList := by
    decide +kernel
  have hnumeric : numeric (sampleSha1 (tokenText "bob".toList "7up".toList)) = none := by
    decide +kernel
  refine (sessionBound_iff (u := bobLogin "8up") sampleSha1_injective hlogin rfl).2
    (.inr ⟨hsum, ?_⟩)
  rintro ⟨a, b, ha, -, -⟩
  exact absurd (hnumeric.symm.trans ha) (by simp)

/-- The password changes from `secret` to `other`, and the session goes on. -/
theorem session_survives_change :
    requireLogin sampleSha1 ⟨[], []⟩
        (login sampleSha1 ⟨[], []⟩ (some "bob".toList) (some "secret".toList) none
          (bobWith "secret")).1 (bobWith "other") = .ok "bob".toList ∧
      "secret".toList ≠ "other".toList := by
  have hlogin : admits (some "bob".toList) (some "secret".toList) (bobWith "secret") = true := by
    decide
  have hsum : tokenText "bob".toList "secret".toList = tokenText "bob".toList "other".toList := by
    decide +kernel
  exact ⟨(requireLogin_login_iff sampleSha1_injective hlogin rfl).2 (.inl hsum), by decide⟩

end ParDiff.Payment
