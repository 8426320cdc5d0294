import ParDiff.Lib.Run
import ParDiff.OpenVpn.Plugin

/-!
# User names in the OpenVPN server

`key_method_2_read` of `openvpn-2.1.1/ssl.c` reads the name and the password of a peer.
The plugin is asked about the name with only its unprintable characters replaced.  The
server itself goes on with a name of a much smaller class of characters, and under
`--username-as-common-name` that one becomes the common name of the session: it stands in
the status, and the traffic is billed to it.

A peer may negotiate a key at any time, and a second session beside the first one.  What
holds the keys of one connection together is the name that the first accepted exchange
locks.  Texts are C strings; a character stands for a byte.
-/

namespace ParDiff.OpenVpn

open Lib Lib.Text

/-! ## Characters of a name -/

/-- `isprint`, in the `C` locale. -/
def isPrint (c : Char) : Bool := ' ' ≤ c && c ≤ '~'

/-- `COMMON_NAME_CHAR_CLASS`. -/
def isCommonNameChar (c : Char) : Bool :=
  ('a' ≤ c && c ≤ 'z') || ('A' ≤ c && c ≤ 'Z') || ('0' ≤ c && c ≤ '9') ||
    c == '_' || c == '-' || c == '.' || c == '@' || c == '/'

/-- `string_mod`, with `_` for a character outside of the class. -/
def stringMod (inClass : Char → Bool) (s : Str) : Str :=
  s.map fun c => if inClass c then c else '_'

/-- The options of the server that bear on names. -/
structure SslOptions where
  noNameRemapping : Bool
  usernameAsCommonName : Bool
  authUserPassOptional : Bool
  /-- `USER_PASS_LEN`, which depends on the build. -/
  userPassLen : Nat

/-- `string_mod_sslname` with `COMMON_NAME_CHAR_CLASS`. -/
def stringModSslname (opt : SslOptions) (s : Str) : Str :=
  if opt.noNameRemapping then stringMod isPrint s else stringMod isCommonNameChar s

/-- `TLS_CN_LEN`. -/
def tlsCnLen : Nat := 64

/-! ## The connection -/

/-- One `tls_session`: its newest key and the one that is about to retire. -/
structure TlsSession where
  commonName : Option Str
  /-- The newest key has not got as far as `key_method_2_read`. -/
  negotiating : Bool
  primary : Bool
  lameDuck : Bool

/-- `tls_session_init`. -/
def TlsSession.init : TlsSession := ⟨none, true, false, false⟩

/-- The sessions that negotiate keys; `TM_LAME_DUCK` only holds old ones. -/
inductive Slot
  | active
  | untrusted
  deriving DecidableEq

structure TlsMulti where
  session : Slot → TlsSession
  lameDuck : TlsSession
  lockedUsername : Option Str
  lockedCn : Option Str

def TlsMulti.init : TlsMulti := ⟨fun _ => .init, .init, none, none⟩

namespace TlsMulti

def setSession (multi : TlsMulti) (i : Slot) (s : TlsSession) : TlsMulti :=
  { multi with session := Function.update multi.session i s }

def deauthenticated (s : TlsSession) : TlsSession := { s with primary := false, lameDuck := false }

/-- `tls_deauthenticate`. -/
def deauthenticate (multi : TlsMulti) : TlsMulti :=
  { multi with
    session := fun i => deauthenticated (multi.session i)
    lameDuck := deauthenticated multi.lameDuck }

/-- `tls_lock_username`, and whether it agrees. -/
def lockUsername (multi : TlsMulti) (username : Str) : Bool × TlsMulti :=
  match multi.lockedUsername with
  | some locked => if username = locked then (true, multi) else (false, multi.deauthenticate)
  | none => (true, { multi with lockedUsername := some username })

/-- `tls_common_name`. -/
def tlsCommonName (multi : TlsMulti) : Str :=
  match (multi.session .active).commonName with
  | some (c :: cn) => c :: cn
  | _ => "UNDEF".toList

end TlsMulti

/-! ## One exchange -/

/-- What the checks after the password may still take back: the key, or all keys. -/
inductive Veto
  | none
  | key
  | all

/-- What a peer sends, and what else decides about it; a text that is missing in the
buffer is `none`. -/
structure Attempt where
  username : Option Str
  password : Option Str
  /-- The environment of the client, without name and password. -/
  es : List Str
  /-- The database as the plugin finds it. -/
  mysql : Option Db
  veto : Veto

/-- `read_string`. -/
def readString (capacity : Nat) (text : Option Str) : Option Str :=
  text.filter fun s => decide (s.length + 1 ≤ capacity)

/-- `env_set_del`: the first entry of this name goes. -/
def envSetDel (name : Str) (es : List Str) : List Str :=
  es.eraseP fun entry => entry.takeWhile (· != '=') == name

/-- `setenv_str`; the characters that are not printed are left out of the value. -/
def setenvStr (name : Str) (value : Option Str) (es : List Str) : List Str :=
  match value with
  | some value => (name ++ '=' :: value.filter isPrint) :: envSetDel name es
  | none => envSetDel name es

/-- The environment that `verify_user_pass_plugin` calls the plugin with. -/
def pluginEnv (es : List Str) (rawUsername password : Str) (commonName : Option Str) : List Str :=
  setenvStr "common_name".toList commonName
    (setenvStr "password".toList (some password)
      (setenvStr "username".toList (some rawUsername) es))

/-- `verify_user_pass_plugin`. -/
def verifyUserPassPlugin (opt : SslOptions) (a : Attempt)
    (username rawUsername password : Str) (commonName : Option Str) : Bool :=
  if opt.authUserPassOptional || !username.isEmpty then
    openvpnPluginFuncV1 a.mysql (pluginEnv a.es rawUsername password commonName) = .SUCCESS
  else false

/-- Name and password from the buffer; `none` is an error of the exchange. -/
def readUserPass (opt : SslOptions) (a : Attempt) : Option (Str × Str) :=
  match readString opt.userPassLen a.username, readString opt.userPassLen a.password with
  | some username, some password => some (username, password)
  | _, _ => if opt.authUserPassOptional then some ([], []) else none

/-- The password is right: `tls_lock_username`, and a name for the session. -/
def TlsMulti.accept (opt : SslOptions) (i : Slot) (username : Str) (multi : TlsMulti) : TlsMulti :=
  let (locked, multi) := multi.lockUsername username
  let s := multi.session i
  if locked then
    multi.setSession i
      { s with
        primary := true
        commonName := if opt.usernameAsCommonName then some username else s.commonName }
  else multi

/-- What is checked of the common name. -/
def TlsMulti.checkCommonName (i : Slot) (multi : TlsMulti) : TlsMulti :=
  let s := multi.session i
  -- While it shouldn't really happen, don't allow the common name to be NULL
  let cn := s.commonName.getD []
  -- Don't allow the CN to change once it's been locked
  match multi.lockedCn.filter fun locked => s.primary && cn != locked with
  | some locked => (multi.setSession i { s with commonName := some locked }).deauthenticate
  | none => multi.setSession i { s with commonName := some cn }

/-- The other checks. -/
def TlsMulti.applyVeto (i : Slot) (veto : Veto) (multi : TlsMulti) : TlsMulti :=
  match veto with
  | .none => multi
  | .key => multi.setSession i { multi.session i with primary := false }
  | .all => multi.deauthenticate

/-- `key_method_2_read`, from the user name on. -/
def keyMethod2Read (opt : SslOptions) (i : Slot) (a : Attempt) (multi : TlsMulti) : TlsMulti :=
  let s := multi.session i
  let multi := multi.setSession i { s with negotiating := false, primary := false }
  match readUserPass opt a with
  | none => multi
  | some (sentUsername, sentPassword) =>
      -- preserve raw username before string_mod remapping, for plugins
      let rawUsername := stringMod isPrint sentUsername
      let username := stringModSslname opt sentUsername
      let password := stringMod isPrint sentPassword
      let verified := verifyUserPassPlugin opt a username rawUsername password s.commonName
      -- check sizing of username if it will become our common name
      let tooLong := opt.usernameAsCommonName && decide (tlsCnLen ≤ username.length)
      let multi := if verified && !tooLong then multi.accept opt i username else multi
      (multi.checkCommonName i).applyVeto i a.veto

/-! ## Events of a connection -/

inductive TlsEvent
  /-- A certificate of the peer, in `verify_callback`. -/
  | certificate (i : Slot) (commonName : Str)
  | exchange (i : Slot) (a : Attempt)
  /-- `key_state_soft_reset`: a new key is negotiated. -/
  | softReset (i : Slot)
  /-- `reset_session`, after an error. -/
  | reset (i : Slot)
  /-- `move_session (multi, TM_LAME_DUCK, TM_ACTIVE, true)`, after an error. -/
  | demote
  /-- `move_session (multi, TM_ACTIVE, TM_UNTRUSTED, true)`. -/
  | promote
  /-- The old session is freed. -/
  | expire
  /-- `tls_lock_common_name`, when the connection is established. -/
  | established

/-- One event.  A certificate is only seen for a key that is negotiated, and one with a
longer name ends in an error. -/
def tlsStep (opt : SslOptions) (multi : TlsMulti) : TlsEvent → TlsMulti
  | .certificate i cn =>
      let s := multi.session i
      if s.negotiating ∧ cn.length < tlsCnLen then
        multi.setSession i { s with commonName := some (stringModSslname opt cn) }
      else multi
  | .exchange i a =>
      if (multi.session i).negotiating then keyMethod2Read opt i a multi else multi
  | .softReset i =>
      let s := multi.session i
      if s.negotiating then multi
      else multi.setSession i { s with negotiating := true, primary := false, lameDuck := s.primary }
  | .reset i => multi.setSession i .init
  | .demote => { multi.setSession .active .init with lameDuck := multi.session .active }
  | .promote =>
      let s := multi.session .untrusted
      if s.negotiating then multi
      else (multi.setSession .active s).setSession .untrusted .init
  | .expire => { multi with lameDuck := .init }
  | .established =>
      match multi.lockedCn with
      | none => { multi with lockedCn := (multi.session .active).commonName }
      | some _ => multi

/-- The connection after a run of events. -/
def tlsRun (opt : SslOptions) (multi : TlsMulti) (events : List TlsEvent) : TlsMulti :=
  events.foldl (tlsStep opt) multi

/-! ## What the plugin is asked -/

theorem isPrint_of_isCommonNameChar {c : Char} (h : isCommonNameChar c = true) :
    isPrint c = true := by
  simp only [isCommonNameChar, Bool.or_eq_true, Bool.and_eq_true, decide_eq_true_eq,
    beq_iff_eq] at h
  simp only [isPrint, Bool.and_eq_true, decide_eq_true_eq]
  rcases h with ((((((h | h) | h) | rfl) | rfl) | rfl) | rfl) | rfl
  · exact ⟨Char.le_trans (by decide) h.1, Char.le_trans h.2 (by decide)⟩
  · exact ⟨Char.le_trans (by decide) h.1, Char.le_trans h.2 (by decide)⟩
  · exact ⟨Char.le_trans (by decide) h.1, Char.le_trans h.2 (by decide)⟩
  all_goals decide

theorem stringMod_of_all {inClass : Char → Bool} {s : Str} (h : ∀ c ∈ s, inClass c = true) :
    stringMod inClass s = s := by
  unfold stringMod
  calc (s.map fun c => if inClass c then c else '_') = s.map id :=
        List.map_congr_left fun c hc => by simp [h c hc]
    _ = s := List.map_id s

theorem mem_stringMod {inClass : Char → Bool} (hunderscore : inClass '_' = true) {s : Str}
    {c : Char} (h : c ∈ stringMod inClass s) : inClass c = true := by
  obtain ⟨d, -, rfl⟩ := List.mem_map.1 h
  split
  · assumption
  · exact hunderscore

/-- A second pass over a smaller class undoes the first. -/
theorem stringMod_stringMod {large small : Char → Bool} (h : ∀ c, small c = true → large c = true)
    (s : Str) : stringMod small (stringMod large s) = stringMod small s := by
  simp only [stringMod, List.map_map]
  apply List.map_congr_left
  intro c _
  by_cases hlarge : large c = true
  · simp [hlarge]
  · have hsmall : small c = false := by
      cases hc : small c with
      | true => exact absurd (h c hc) hlarge
      | false => rfl
    simp [hlarge, hsmall]

theorem stringModSslname_stringMod (opt : SslOptions) (s : Str) :
    stringModSslname opt (stringMod isPrint s) = stringModSslname opt s := by
  unfold stringModSslname
  split
  · exact stringMod_stringMod (fun _ h => h) s
  · exact stringMod_stringMod (fun _ h => isPrint_of_isCommonNameChar h) s

theorem filter_stringMod (s : Str) : (stringMod isPrint s).filter isPrint = stringMod isPrint s :=
  List.filter_eq_self.2 fun _ hc => mem_stringMod (by decide) hc

/-- An entry that `getEnv` takes has the name in front of its `=`. -/
theorem takeWhile_of_entry {name entry : Str} (hname : '=' ∉ name)
    (h : name <+: entry ∧ (entry.drop name.length).head? = some '=') :
    entry.takeWhile (· != '=') = name := by
  obtain ⟨⟨rest, rfl⟩, hhead⟩ := h
  rw [List.drop_left] at hhead
  obtain ⟨rest', rfl⟩ : ∃ rest', rest = '=' :: rest' := List.head?_eq_some_iff.1 hhead
  have hall : ∀ c ∈ name, (c != '=') = true := by
    intro c hc
    simp only [bne_iff_ne, ne_eq]
    rintro rfl
    exact hname hc
  rw [List.takeWhile_append_of_pos hall]
  simp

theorem getEnv_envSetDel {name other : Str} (hname : '=' ∉ name) (hne : name ≠ other)
    (es : List Str) : getEnv name (envSetDel other es) = getEnv name es := by
  induction es with
  | nil => rfl
  | cons entry es ih =>
      unfold envSetDel at ih ⊢
      by_cases hother : entry.takeWhile (· != '=') = other
      · have hskip : ¬(name <+: entry ∧ (entry.drop name.length).head? = some '=') := by
          intro h
          exact hne ((takeWhile_of_entry hname h).symm.trans hother)
        rw [List.eraseP_cons_of_pos (by simpa using hother), getEnv, if_neg hskip]
      · rw [List.eraseP_cons_of_neg (by simpa using hother), getEnv, getEnv, ih]

theorem getEnv_setenvStr_self (name value : Str) (es : List Str) :
    getEnv name (setenvStr name (some value) es) = some (value.filter isPrint) := by
  simp [setenvStr, getEnv]

theorem getEnv_setenvStr_of_ne {name other : Str} (hname : '=' ∉ name) (hother : '=' ∉ other)
    (hne : name ≠ other) (value : Option Str) (es : List Str) :
    getEnv name (setenvStr other value es) = getEnv name es := by
  cases value with
  | none => exact getEnv_envSetDel hname hne es
  | some value =>
      have hskip : ¬(name <+: other ++ '=' :: value.filter isPrint ∧
          ((other ++ '=' :: value.filter isPrint).drop name.length).head? = some '=') := by
        intro h
        have hfront := takeWhile_of_entry hname h
        rw [takeWhile_of_entry hother ⟨List.prefix_append _ _, by simp⟩] at hfront
        exact hne hfront.symm
      rw [setenvStr, getEnv, if_neg hskip, getEnv_envSetDel hname hne]

theorem passes_pluginEnv (es : List Str) (username password : Str) (commonName : Option Str) :
    Passes (pluginEnv es (stringMod isPrint username) (stringMod isPrint password) commonName)
      (stringMod isPrint username) (stringMod isPrint password) := by
  constructor
  · rw [pluginEnv, getEnv_setenvStr_of_ne (by decide) (by decide) (by decide),
      getEnv_setenvStr_of_ne (by decide) (by decide) (by decide), getEnv_setenvStr_self,
      filter_stringMod]
  · rw [pluginEnv, getEnv_setenvStr_of_ne (by decide) (by decide) (by decide),
      getEnv_setenvStr_self, filter_stringMod]

/-- With what the peer sends, the plugin finds this account. -/
structure LogsIn (opt : SslOptions) (a : Attempt) (u : Login) : Prop where
  sent : ∃ username password, readUserPass opt a = some (username, password) ∧
    u.username = stringMod isPrint username ∧ fold u.password = fold (stringMod isPrint password)
  found : ∃ db, a.mysql = some db ∧ u ∈ db.login.rows
  valid : asMysqlValidate (some u.username) = true
  credit : hasCredit u = true
  active : u.accountState = .ACTIVE

theorem openvpnPluginFuncV1_none (envp : List Str) : openvpnPluginFuncV1 none envp = .ERROR := by
  unfold openvpnPluginFuncV1
  generalize getEnv "username".toList envp = username
  generalize getEnv "password".toList envp = password
  simp

theorem logsIn_of_verified {opt : SslOptions} {a : Attempt} {username password : Str}
    {commonName : Option Str} (hread : readUserPass opt a = some (username, password))
    (h : verifyUserPassPlugin opt a (stringModSslname opt username) (stringMod isPrint username)
      (stringMod isPrint password) commonName = true) :
    ∃ u, LogsIn opt a u ∧ stringModSslname opt u.username = stringModSslname opt username := by
  unfold verifyUserPassPlugin at h
  split at h
  · have hplugin := of_decide_eq_true h
    cases hdb : a.mysql with
    | none =>
        rw [hdb, openvpnPluginFuncV1_none] at hplugin
        exact absurd hplugin (by decide)
    | some db =>
        rw [hdb] at hplugin
        obtain ⟨hvalid, -, u, hu, hname, hpass, hcredit, hactive⟩ :=
          (success_iff (passes_pluginEnv a.es username password commonName)).1 hplugin
        refine ⟨u, ⟨⟨username, password, hread, hname, hpass⟩, ⟨db, hdb, hu⟩, hname ▸ hvalid,
          hcredit, hactive⟩, ?_⟩
        rw [hname, stringModSslname_stringMod]
  · exact absurd h (by decide)

/-! ## What holds the keys together -/

/-- The name of an account that logged in during the run, as the server goes on with it. -/
def Verified (opt : SslOptions) (events : List TlsEvent) (n : Str) : Prop :=
  n.length < tlsCnLen ∧ ∃ i a u, TlsEvent.exchange i a ∈ events ∧ LogsIn opt a u ∧
    n = stringModSslname opt u.username

/-- What may stand as the common name of a session. -/
def Standing (opt : SslOptions) (events : List TlsEvent) (locked : Option Str) (n : Str) : Prop :=
  n = [] ∨ locked = some n ∨
    ∃ i cn, TlsEvent.certificate i cn ∈ events ∧ cn.length < tlsCnLen ∧
      n = stringModSslname opt cn

structure TlsSession.Sound (opt : SslOptions) (events : List TlsEvent) (locked : Option Str)
    (s : TlsSession) : Prop where
  name : ∀ n, s.commonName = some n → Standing opt events locked n
  key : s.primary = true → s.negotiating = false ∧ ∃ n, locked = some n ∧ s.commonName = some n
  old : s.lameDuck = true → locked ≠ none

structure TlsMulti.Sound (opt : SslOptions) (events : List TlsEvent) (multi : TlsMulti) :
    Prop where
  locked : ∀ n, multi.lockedUsername = some n → Verified opt events n
  cn : ∀ n, multi.lockedCn = some n → Standing opt events multi.lockedUsername n
  session : ∀ i, (multi.session i).Sound opt events multi.lockedUsername
  lameDuck : multi.lameDuck.Sound opt events multi.lockedUsername

section Sessions

variable {opt : SslOptions} {events : List TlsEvent} {locked : Option Str} {s : TlsSession}

theorem Standing.lock {n username : Str} (h : Standing opt events none n) :
    Standing opt events (some username) n := by
  rcases h with h | h | h
  · exact .inl h
  · simp at h
  · exact .inr (.inr h)

namespace TlsSession.Sound

theorem init : TlsSession.init.Sound opt events locked where
  name := by simp [TlsSession.init]
  key := by simp [TlsSession.init]
  old := by simp [TlsSession.init]

/-- Before a name is locked no key is authenticated. -/
theorem lock {username : Str} (h : s.Sound opt events none) :
    s.Sound opt events (some username) where
  name n hn := (h.name n hn).lock
  key hkey := by
    obtain ⟨-, n, hn, -⟩ := h.key hkey
    simp at hn
  old _ := by simp

theorem deauthenticated (h : ∀ n, s.commonName = some n → Standing opt events locked n) :
    (TlsMulti.deauthenticated s).Sound opt events locked where
  name := h
  key := by simp [TlsMulti.deauthenticated]
  old := by simp [TlsMulti.deauthenticated]

end TlsSession.Sound

end Sessions

namespace TlsMulti

variable {opt : SslOptions} {events : List TlsEvent} {multi : TlsMulti}

@[simp] theorem setSession_session_self (multi : TlsMulti) (i : Slot) (s : TlsSession) :
    (multi.setSession i s).session i = s := by
  simp [setSession]

@[simp] theorem setSession_lockedUsername (multi : TlsMulti) (i : Slot) (s : TlsSession) :
    (multi.setSession i s).lockedUsername = multi.lockedUsername := rfl

@[simp] theorem setSession_lockedCn (multi : TlsMulti) (i : Slot) (s : TlsSession) :
    (multi.setSession i s).lockedCn = multi.lockedCn := rfl

@[simp] theorem setSession_lameDuck (multi : TlsMulti) (i : Slot) (s : TlsSession) :
    (multi.setSession i s).lameDuck = multi.lameDuck := rfl

@[simp] theorem deauthenticate_lockedUsername (multi : TlsMulti) :
    multi.deauthenticate.lockedUsername = multi.lockedUsername := rfl

namespace Sound

theorem init : TlsMulti.init.Sound opt events where
  locked := by simp [TlsMulti.init]
  cn := by simp [TlsMulti.init]
  session _ := .init
  lameDuck := .init

theorem setSession (h : multi.Sound opt events) {i : Slot} {s : TlsSession}
    (hs : s.Sound opt events multi.lockedUsername) : (multi.setSession i s).Sound opt events where
  locked := h.locked
  cn := h.cn
  session j := by
    by_cases hj : j = i
    · subst hj
      rw [setSession_session_self]
      exact hs
    · have hother : (multi.setSession i s).session j = multi.session j :=
        Function.update_of_ne hj _ _
      rw [hother]
      exact h.session j
  lameDuck := h.lameDuck

theorem deauthenticate (h : multi.Sound opt events) : multi.deauthenticate.Sound opt events where
  locked := h.locked
  cn := h.cn
  session i := .deauthenticated (h.session i).name
  lameDuck := .deauthenticated h.lameDuck.name

/-- The key of a session that is about to lose all its keys need not be sound. -/
theorem setSession_deauthenticate (h : multi.Sound opt events) {i : Slot} {s : TlsSession}
    (hs : ∀ n, s.commonName = some n → Standing opt events multi.lockedUsername n) :
    (multi.setSession i s).deauthenticate.Sound opt events := by
  have hsame : (multi.setSession i s).deauthenticate =
      (multi.setSession i (deauthenticated s)).deauthenticate := by
    simp only [TlsMulti.deauthenticate, TlsMulti.mk.injEq]
    refine ⟨?_, rfl, rfl, rfl⟩
    funext j
    by_cases hj : j = i
    · subst hj
      simp [deauthenticated]
    · simp [TlsMulti.setSession, Function.update_of_ne hj]
  rw [hsame]
  exact (h.setSession (.deauthenticated hs)).deauthenticate

theorem lockUsername (h : multi.Sound opt events) {username : Str}
    (hverified : Verified opt events username) :
    (multi.lockUsername username).2.Sound opt events := by
  unfold TlsMulti.lockUsername
  cases hlocked : multi.lockedUsername with
  | some locked =>
      dsimp only
      split
      · exact h
      · exact h.deauthenticate
  | none =>
      have hcn := h.cn
      have hsession := h.session
      have hlame := h.lameDuck
      rw [hlocked] at hcn hsession hlame
      refine ⟨?_, fun n hn => (hcn n hn).lock, fun i => (hsession i).lock, hlame.lock⟩
      rintro n hn
      rw [← Option.some.inj hn]
      exact hverified

end Sound

theorem lockUsername_locked {username : Str} (h : (multi.lockUsername username).1 = true) :
    (multi.lockUsername username).2.lockedUsername = some username := by
  unfold lockUsername at h ⊢
  cases hlocked : multi.lockedUsername with
  | some locked =>
      rw [hlocked] at h
      by_cases heq : username = locked
      · simp [heq, hlocked]
      · simp [heq] at h
  | none => rfl

theorem lockUsername_keep {n username : Str} (h : multi.lockedUsername = some n) :
    (multi.lockUsername username).2.lockedUsername = some n := by
  unfold lockUsername
  rw [h]
  dsimp only
  split
  · exact h
  · exact h

theorem lockUsername_negotiating (username : Str) (i : Slot) :
    ((multi.lockUsername username).2.session i).negotiating = (multi.session i).negotiating := by
  unfold lockUsername
  split
  · split
    · rfl
    · rfl
  · rfl

/-- The newest key is not authenticated here. -/
theorem lockUsername_primary {username : Str} {i : Slot} (h : (multi.session i).primary = false) :
    ((multi.lockUsername username).2.session i).primary = false := by
  unfold lockUsername
  split
  · split
    · exact h
    · rfl
  · exact h

/-- The other steps of an exchange change neither the locked name nor authenticate a
key. -/
structure Quiet (multi multi' : TlsMulti) : Prop where
  lockedUsername : multi'.lockedUsername = multi.lockedUsername
  primary : ∀ i, (multi'.session i).primary = true → (multi.session i).primary = true

theorem Quiet.refl (multi : TlsMulti) : Quiet multi multi := ⟨rfl, fun _ h => h⟩

theorem Quiet.trans {multi' multi'' : TlsMulti} (h : Quiet multi multi')
    (h' : Quiet multi' multi'') : Quiet multi multi'' where
  lockedUsername := h'.lockedUsername.trans h.lockedUsername
  primary i hi := h.primary i (h'.primary i hi)

theorem Quiet.setSession {i : Slot} {s : TlsSession}
    (h : s.primary = true → (multi.session i).primary = true) :
    Quiet multi (multi.setSession i s) where
  lockedUsername := rfl
  primary j hj := by
    by_cases hji : j = i
    · subst hji
      rw [setSession_session_self] at hj
      exact h hj
    · have hother : (multi.setSession i s).session j = multi.session j :=
        Function.update_of_ne hji _ _
      rwa [hother] at hj

theorem Quiet.deauthenticate : Quiet multi multi.deauthenticate where
  lockedUsername := rfl
  primary _ hi := by simp [TlsMulti.deauthenticate, deauthenticated] at hi

theorem quiet_checkCommonName (i : Slot) : Quiet multi (multi.checkCommonName i) := by
  unfold checkCommonName
  dsimp only
  split
  · apply Quiet.trans (Quiet.setSession _) .deauthenticate
    exact fun h => h
  · apply Quiet.setSession
    exact fun h => h

theorem quiet_applyVeto (i : Slot) (veto : Veto) : Quiet multi (multi.applyVeto i veto) := by
  cases veto with
  | none => exact .refl _
  | key => exact .setSession (by simp)
  | all => exact .deauthenticate

theorem accept_keep {i : Slot} {n username : Str} (h : multi.lockedUsername = some n) :
    (multi.accept opt i username).lockedUsername = some n := by
  unfold accept
  dsimp only
  split
  · exact lockUsername_keep h
  · exact lockUsername_keep h

theorem accept_locked {i : Slot} {username : Str} (hi : (multi.session i).primary = false)
    (h : ((multi.accept opt i username).session i).primary = true) :
    (multi.accept opt i username).lockedUsername = some username := by
  unfold accept at h ⊢
  dsimp only at h ⊢
  split at h
  · rename_i hlocked
    rw [if_pos hlocked]
    exact lockUsername_locked hlocked
  · rw [lockUsername_primary hi] at h
    exact absurd h (by decide)

namespace Sound

theorem accept (hopt : opt.usernameAsCommonName = true) (h : multi.Sound opt events) {i : Slot}
    (hi : (multi.session i).negotiating = false) {username : Str}
    (hverified : Verified opt events username) : (multi.accept opt i username).Sound opt events := by
  have hlock := h.lockUsername hverified
  unfold TlsMulti.accept
  simp only [hopt, if_true]
  split
  · rename_i hlocked
    have hname := lockUsername_locked hlocked
    apply hlock.setSession
    refine ⟨?_, ?_, (hlock.session i).old⟩
    · intro n hn
      exact .inr (.inl (hname.trans hn))
    · intro _
      exact ⟨(lockUsername_negotiating _ i).trans hi, username, hname, rfl⟩
  · exact hlock

theorem checkCommonName (h : multi.Sound opt events) (i : Slot) :
    (multi.checkCommonName i).Sound opt events := by
  have hs := h.session i
  unfold TlsMulti.checkCommonName
  dsimp only
  split
  · rename_i locked hlocked
    apply h.setSession_deauthenticate
    intro n hn
    exact h.cn n ((Option.filter_eq_some_iff.1 hlocked).1.trans hn)
  · apply h.setSession
    refine ⟨?_, ?_, hs.old⟩
    · intro n hn
      cases hcn : (multi.session i).commonName with
      | none => exact .inl (by simpa [hcn] using hn.symm)
      | some cn => exact hs.name n (by simpa [hcn] using hn)
    · intro hkey
      obtain ⟨hneg, n, hlocked, hcn⟩ := hs.key hkey
      exact ⟨hneg, n, hlocked, by simp [hcn]⟩

theorem applyVeto (h : multi.Sound opt events) (i : Slot) (veto : Veto) :
    (multi.applyVeto i veto).Sound opt events := by
  cases veto with
  | none => exact h
  | key => exact h.setSession ⟨(h.session i).name, by simp, (h.session i).old⟩
  | all => exact h.deauthenticate

end Sound

end TlsMulti

/-! ### One exchange -/

section Exchange

variable {opt : SslOptions} {events : List TlsEvent} {multi : TlsMulti} {i : Slot} {a : Attempt}

theorem quiet_checks (multi : TlsMulti) (i : Slot) (veto : Veto) :
    TlsMulti.Quiet multi ((multi.checkCommonName i).applyVeto i veto) :=
  (TlsMulti.quiet_checkCommonName i).trans (TlsMulti.quiet_applyVeto i veto)

theorem keyMethod2Read_keep {n : Str} (h : multi.lockedUsername = some n) :
    (keyMethod2Read opt i a multi).lockedUsername = some n := by
  unfold keyMethod2Read
  dsimp only
  cases readUserPass opt a with
  | none => exact h
  | some sent =>
      dsimp only
      rw [(quiet_checks _ i a.veto).lockedUsername]
      split
      · exact TlsMulti.accept_keep h
      · exact h

/-- An exchange that leaves its key authenticated is a login under the locked name. -/
theorem logsIn_of_primary (h : ((keyMethod2Read opt i a multi).session i).primary = true) :
    ∃ u, LogsIn opt a u ∧
      (keyMethod2Read opt i a multi).lockedUsername = some (stringModSslname opt u.username) := by
  unfold keyMethod2Read at h ⊢
  dsimp only at h ⊢
  cases hread : readUserPass opt a with
  | none => simp [hread] at h
  | some sent =>
      obtain ⟨username, password⟩ := sent
      simp only [hread] at h ⊢
      have hkey := (quiet_checks _ i a.veto).primary i h
      rw [(quiet_checks _ i a.veto).lockedUsername]
      split at hkey
      · rename_i hs1
        rw [if_pos hs1]
        obtain ⟨u, hu, hname⟩ := logsIn_of_verified hread (Bool.and_eq_true_iff.1 hs1).1
        refine ⟨u, hu, ?_⟩
        rw [hname]
        exact TlsMulti.accept_locked (by simp) hkey
      · simp at hkey

theorem TlsMulti.Sound.keyMethod2Read (hopt : opt.usernameAsCommonName = true)
    (h : multi.Sound opt events) (hmem : .exchange i a ∈ events) :
    (OpenVpn.keyMethod2Read opt i a multi).Sound opt events := by
  have hs := h.session i
  have hopened := h.setSession (i := i)
    (s := { multi.session i with negotiating := false, primary := false })
    ⟨hs.name, by simp, hs.old⟩
  unfold OpenVpn.keyMethod2Read
  dsimp only
  cases hread : readUserPass opt a with
  | none => exact hopened
  | some sent =>
      obtain ⟨username, password⟩ := sent
      dsimp only
      apply TlsMulti.Sound.applyVeto
      apply TlsMulti.Sound.checkCommonName
      split
      · rename_i hs1
        simp only [hopt, Bool.true_and, Bool.and_eq_true, Bool.not_eq_true', decide_eq_false_iff_not,
          not_le] at hs1
        obtain ⟨u, hu, hname⟩ := logsIn_of_verified hread hs1.1
        exact hopened.accept hopt (by simp) ⟨hs1.2, i, a, u, hmem, hu, hname.symm⟩
      · exact hopened

end Exchange

/-! ### A run -/

section Runs

variable {opt : SslOptions} {events : List TlsEvent} {multi : TlsMulti} {e : TlsEvent}

theorem tlsStep_keep {n : Str} (h : multi.lockedUsername = some n) :
    (tlsStep opt multi e).lockedUsername = some n := by
  cases e with
  | certificate i cn =>
      simp only [tlsStep]
      split
      · exact h
      · exact h
  | exchange i a =>
      simp only [tlsStep]
      split
      · exact keyMethod2Read_keep h
      · exact h
  | softReset i =>
      simp only [tlsStep]
      split
      · exact h
      · exact h
  | reset i => exact h
  | demote => exact h
  | promote =>
      simp only [tlsStep]
      split
      · exact h
      · exact h
  | expire => exact h
  | established =>
      simp only [tlsStep]
      split
      · exact h
      · exact h

theorem tlsRun_keep {n : Str} (h : multi.lockedUsername = some n) (events : List TlsEvent) :
    (tlsRun opt multi events).lockedUsername = some n :=
  foldl_invariant (I := fun multi : TlsMulti => multi.lockedUsername = some n) (fun _ _ h => tlsStep_keep h)
    h events

theorem TlsMulti.Sound.tlsStep (hopt : opt.usernameAsCommonName = true)
    (h : multi.Sound opt events) (hmem : e ∈ events) :
    (OpenVpn.tlsStep opt multi e).Sound opt events := by
  cases e with
  | certificate i cn =>
      have hs := h.session i
      simp only [OpenVpn.tlsStep]
      split
      · rename_i hneg
        apply h.setSession
        refine ⟨?_, ?_, hs.old⟩
        · intro n hn
          exact .inr (.inr ⟨i, cn, hmem, hneg.2, (Option.some.inj hn).symm⟩)
        · intro hkey
          exact absurd (hs.key hkey).1 (by simp [hneg.1])
      · exact h
  | exchange i a =>
      simp only [OpenVpn.tlsStep]
      split
      · exact h.keyMethod2Read hopt hmem
      · exact h
  | softReset i =>
      have hs := h.session i
      simp only [OpenVpn.tlsStep]
      split
      · exact h
      · apply h.setSession
        refine ⟨hs.name, by simp, ?_⟩
        intro hold
        obtain ⟨-, n, hn, -⟩ := hs.key hold
        simp [hn]
  | reset i => exact h.setSession .init
  | demote => exact { h.setSession .init with lameDuck := h.session .active }
  | promote =>
      simp only [OpenVpn.tlsStep]
      split
      · exact h
      · exact (h.setSession (h.session .untrusted)).setSession .init
  | expire => exact { h with lameDuck := .init }
  | established =>
      simp only [OpenVpn.tlsStep]
      split
      · exact { h with cn := (h.session .active).name }
      · exact h

theorem sound_tlsRun (hopt : opt.usernameAsCommonName = true) (events : List TlsEvent) :
    (tlsRun opt .init events).Sound opt events :=
  List.foldlRecOn events (tlsStep opt) .init fun _ h _ hmem => h.tlsStep hopt hmem

/-- What the status shows fits into a field of it. -/
theorem tlsCommonName_class (hopt : opt.usernameAsCommonName = true)
    (hremap : opt.noNameRemapping = false) (events : List TlsEvent) :
    (∀ c ∈ (tlsRun opt .init events).tlsCommonName, isCommonNameChar c = true) ∧
      (tlsRun opt .init events).tlsCommonName.length < tlsCnLen := by
  have hundef : (∀ c ∈ "UNDEF".toList, isCommonNameChar c = true) ∧
      "UNDEF".toList.length < tlsCnLen :=
    ⟨List.all_eq_true.1 (by decide), by decide⟩
  have hclass : ∀ s, ∀ c ∈ stringModSslname opt s, isCommonNameChar c = true := by
    intro s c hc
    rw [stringModSslname, hremap] at hc
    exact mem_stringMod (by decide) hc
  have hsound := sound_tlsRun hopt events
  unfold TlsMulti.tlsCommonName
  cases hcn : ((tlsRun opt .init events).session .active).commonName with
  | none => exact hundef
  | some n =>
      cases n with
      | nil => exact hundef
      | cons c cn =>
          dsimp only
          rcases (hsound.session .active).name _ hcn with hnil | hlocked | hcert
          · simp at hnil
          · obtain ⟨hlength, i, a, u, -, -, hn⟩ := hsound.locked _ hlocked
            exact ⟨hn ▸ hclass u.username, hlength⟩
          · obtain ⟨i, name, -, hlength, hn⟩ := hcert
            refine ⟨hn ▸ hclass name, ?_⟩
            rw [hn, stringModSslname, hremap]
            simpa [stringMod] using hlength

/-- **One name for all keys.**  When an exchange leaves its key authenticated, an account
has logged in with it.  From then on, whatever happens, every newest key that is
authenticated belongs to a session under the name of that account. -/
theorem one_name_for_all_keys (hopt : opt.usernameAsCommonName = true) {i : Slot} {a : Attempt}
    (hneg : ((tlsRun opt .init events).session i).negotiating = true)
    (hkey : ((tlsRun opt .init (events ++ [.exchange i a])).session i).primary = true) :
    ∃ u, LogsIn opt a u ∧ ∀ more j,
      ((tlsRun opt .init (events ++ .exchange i a :: more)).session j).primary = true →
        ((tlsRun opt .init (events ++ .exchange i a :: more)).session j).commonName =
          some (stringModSslname opt u.username) := by
  have hstep : tlsRun opt .init (events ++ [.exchange i a]) =
      keyMethod2Read opt i a (tlsRun opt .init events) := by
    simp [tlsRun, tlsStep] at hneg ⊢
    simp [hneg]
  rw [hstep] at hkey
  obtain ⟨u, hu, hlocked⟩ := logsIn_of_primary hkey
  refine ⟨u, hu, fun more j hj => ?_⟩
  have hsplit : tlsRun opt .init (events ++ .exchange i a :: more) =
      tlsRun opt (keyMethod2Read opt i a (tlsRun opt .init events)) more := by
    rw [← hstep]
    simp [tlsRun]
  have hkept : (tlsRun opt (keyMethod2Read opt i a (tlsRun opt .init events)) more).lockedUsername =
      some (stringModSslname opt u.username) := tlsRun_keep hlocked more
  obtain ⟨-, n, hn, hcn⟩ := ((sound_tlsRun hopt _).session j).key hj
  rw [hcn, ← hn, hsplit, hkept]

end Runs

/-! bob logs in. -/

def serverOptions : SslOptions := ⟨false, true, false, 128⟩

def Attempt.from (username password : Str) (db : Db) : Attempt :=
  ⟨some username, some password, [], some db, .none⟩

def bobsDb : Db :=
  { Db.empty 1 with
    login := .single { Login.holding "bob".toList 5 with password := "secret".toList } }

def bobsLogin : Attempt := .from "bob".toList "secret".toList bobsDb

theorem bob_keeps_his_name :
    ∃ u, LogsIn serverOptions bobsLogin u ∧ ∀ more j,
      ((tlsRun serverOptions .init ([] ++ .exchange .active bobsLogin :: more)).session j).primary =
          true →
        ((tlsRun serverOptions .init ([] ++ .exchange .active bobsLogin :: more)).session
          j).commonName = some (stringModSslname serverOptions u.username) :=
  one_name_for_all_keys (by decide) (by decide) (by decide)

end ParDiff.OpenVpn
