import ParDiff.PppSql.Exclusive

/-!
# Users who are online twice

What keeps a user from being online twice is necessary too.  When the condition of the
queries lets in who is logged in, two links can follow each other, and without the lock
both can read the row before one of them writes to it.
-/

namespace ParDiff.PppSql

open Lib Lib.Text Lib.Transaction Lib.Transaction.Server

section Links

variable {ι : Type} [DecidableEq ι] {i j : ι} {host : Host} {opt : Options} {row : Account}
  {name account : Str} {c : Handle ι} {l : PppLink}

/-! ## A login that nothing disturbs -/

theorem run_mysqlConnect (hretry : 0 < opt.retryConnect) {s : Mysql ι} (h : s.refuses = false) :
    (mysqlConnect opt i).run s =
      ⟨some (some (i, s.opened i)),
        { s with
          server := s.server.connect (i, s.opened i)
          opened := Function.update s.opened i (s.opened i + 1) }, []⟩ := by
  obtain ⟨count, hcount⟩ := Nat.exists_eq_succ_of_ne_zero hretry.ne'
  rw [mysqlConnect, hcount]
  simp [connectLoop, mysqlRealConnect, h, mysqlAutocommit, onServer, send, connect]

/-- What the `SELECT` of a login does to the server. -/
def selected (opt : Options) (c : Handle ι) (account : Str) (s : MysqlServer ι) : MysqlServer ι :=
  if opt.locks then (s.lock c account).2 else s

@[simp] theorem selected_data (s : MysqlServer ι) : (selected opt c account s).data = s.data := by
  unfold selected
  split <;> simp

@[simp] theorem selected_link (s : MysqlServer ι) : (selected opt c account s).link = s.link := by
  unfold selected
  split <;> simp

@[simp] theorem selected_writes (s : MysqlServer ι) :
    (selected opt c account s).writes = s.writes := by
  unfold selected
  split <;> simp

theorem selected_owner {s : MysqlServer ι} (hfree : s.owner account = none) :
    (selected opt c account s).owner account = none ∨
      (selected opt c account s).owner account = some c := by
  unfold selected
  split
  · exact .inr (by simp [lock, hfree])
  · exact .inl hfree

theorem selected_unlocked (hlocks : opt.locks = false) (s : MysqlServer ι) :
    selected opt c account s = s := if_neg (by simp [hlocks])

/-- A connection that has read the row. -/
theorem selected_connect {s s' : MysqlServer ι} (h : s' = selected opt c account (s.connect c))
    (hfree : s.owner account = none) :
    s'.data = s.data ∧ s'.link c = .up ∧ s'.writes c = [] ∧
      (s'.owner account = none ∨ s'.owner account = some c) := by
  subst h
  exact ⟨by simp [connect], by simp [connect], by simp [connect], selected_owner hfree⟩

theorem exec_select_free {sql : Sql} {text : Str} {condition : Option Str}
    (h : sql.parse text = some (.select name condition opt.locks)) {s : MysqlServer ι}
    (hfree : s.owner (fold name) = none) :
    sql.exec c text s =
      (some (sql.found name condition s.data), selected opt c (fold name) s) := by
  unfold Sql.exec selected
  rw [h]
  cases opt.locks with
  | false => rfl
  | true => simp [lock, hfree]

theorem run_mysqlPassword (hretry : 0 < opt.retryQuery) (hreads : Reads host.sql opt name)
    {s : Mysql ι} (hup : s.server.link c = .up) (hfree : s.server.owner (fold name) = none) :
    (mysqlPassword host opt (some c) name).run s =
      ⟨fetchPassword host opt (host.sql.found name opt.condition s.server.data),
        { s with server := selected opt c (fold name) s.server }, []⟩ := by
  obtain ⟨count, hcount⟩ := Nat.exists_eq_succ_of_ne_zero hretry.ne'
  rw [mysqlPassword, hcount]
  simp [queryLoop, mysqlQuery, onServer, send, hup, exec_select_free hreads.select hfree]

/-- What the rest of a login does to it. -/
def loggedIn (c : Handle ι) (account : Str) (s : MysqlServer ι) : MysqlServer ι :=
  ((s.write StatusWrite.account c ⟨account, "1".toList⟩).2.commit store c).close c

theorem write_free {w : StatusWrite} {s : MysqlServer ι}
    (hfree : s.owner w.account = none ∨ s.owner w.account = some c) :
    s.write StatusWrite.account c w =
      (true, { s with
        owner := Function.update s.owner w.account (some c)
        writes := Function.update s.writes c (s.writes c ++ [w]) }) := by
  simp [write, lock, hfree]

theorem run_logIn (hretry : 0 < opt.retryQuery) (hreads : Reads host.sql opt name) {s : Mysql ι}
    (hup : s.server.link c = .up) (hwrites : s.server.writes c = [])
    (hfree : s.server.owner (fold name) = none ∨ s.server.owner (fold name) = some c) :
    (logIn host opt (some c) name).run s =
      ⟨some (name.take maxNameLen), { s with server := loggedIn c (fold name) s.server },
        [.stored (fold name) "1".toList]⟩ := by
  obtain ⟨count, hcount⟩ := Nat.exists_eq_succ_of_ne_zero hretry.ne'
  have hwrite := write_free (w := ⟨fold name, "1".toList⟩) hfree
  have hexec : host.sql.exec c (opt.updateQuery name "1".toList) s.server =
      (some [], (s.server.write StatusWrite.account c ⟨fold name, "1".toList⟩).2) := by
    unfold Sql.exec
    rw [hreads.update _ (by simp)]
    simp only [hwrite, if_true]
  rw [logIn, mysqlStatus, hcount, loggedIn, hwrite]
  rw [hwrite] at hexec
  generalize "1".toList = status at *
  simp [statusLoop, mysqlQuery, mysqlCommit, mysqlDisconnect, onServer, send, hup, hexec, hwrites,
    commit, rollback]

theorem loggedIn_spec (account : Str) {s : MysqlServer ι} (hup : s.link c = .up)
    (hwrites : s.writes c = []) (hfree : s.owner account = none ∨ s.owner account = some c) :
    (loggedIn c account s).data = store s.data ⟨account, "1".toList⟩ ∧
      (loggedIn c account s).owner account = none ∧
      ∀ d, d ≠ c → (loggedIn c account s).link d = s.link d ∧
        (loggedIn c account s).writes d = s.writes d := by
  rw [loggedIn, write_free (w := ⟨account, "1".toList⟩) hfree]
  refine ⟨?_, ?_, fun d hd => ⟨?_, ?_⟩⟩ <;> simp_all [close, commit, rollback]

/-! ## The way there -/

/-- What is left of a link when it is authenticated. -/
def authenticated (host : Host) (opt : Options) (i : ι) (l : PppLink) :
    Option Str → Program ι Unit
  | some username =>
      (Script.modify id fun _ => [Event.established username]).bind fun _ =>
        ipcp host opt i username l.events
  | none => if !opt.authoritative && l.peer.localSecret then ipcp host opt i [] l.events else .done ()

/-- A link that is about to log in. -/
def loggingIn (host : Host) (opt : Options) (i : ι) (c : Handle ι) (l : PppLink) : Program ι Unit :=
  (logIn host opt (some c) l.peer.name).bind (authenticated host opt i l)

/-- A link gets as far as its login. -/
theorem reaches_loggingIn (hparameter : opt.parameter = true) (hconnect : 0 < opt.retryConnect)
    (hquery : 0 < opt.retryQuery) (hreads : Reads host.sql opt l.peer.name)
    (hopens : Opens host opt l.peer row) {g : Config ι (Mysql ι) Event Unit}
    (hproc : g.proc i = some (pppLink host opt i l)) (hrefuses : g.state.refuses = false)
    (hdata : g.state.server.data = [row])
    (hfree : g.state.server.owner (fold l.peer.name) = none) :
    ∃ g' n, g.Reaches Mysql.disturb g' ∧ g'.trace = g.trace ∧ g'.state.refuses = false ∧
      g'.state.server = selected opt (i, n) (fold l.peer.name) (g.state.server.connect (i, n)) ∧
      g'.proc = Function.update g.proc i (some (loggingIn host opt i (i, n) l)) := by
  obtain ⟨huser, hcondition, haccepts⟩ := hopens
  have hfound : host.sql.found l.peer.name opt.condition [row] = [row] := by
    simp [Sql.found, rowsOf, huser, hcondition]
  have hlink : pppLink host opt i l =
      (databaseAuth host opt i l.peer).bind (authenticated host opt i l) := by
    rw [pppLink]
    exact congrArg _ (funext fun r => by cases r <;> rfl)
  rw [hlink, databaseAuth, if_pos hparameter, Script.bind_assoc] at hproc
  have hconnected := Config.reaches_alone Mysql.disturb _ _ hproc
  rw [run_mysqlConnect hconnect hrefuses] at hconnected
  obtain ⟨schedule, hrun⟩ := hconnected
  have hnext : (g.run Mysql.disturb schedule).proc i =
      some ((mysqlPassword host opt (some (i, g.state.opened i)) l.peer.name).bind fun secret =>
        (if secret.any (l.peer.credentials.accepts host opt) then
          logIn host opt (some (i, g.state.opened i)) l.peer.name
        else (mysqlDisconnect (some (i, g.state.opened i))).bind fun _ => .done none).bind
          (authenticated host opt i l)) := by
    rw [hrun, ← Script.bind_assoc]
    simp
  have hread := Config.reaches_alone Mysql.disturb _ _ hnext
  rw [run_mysqlPassword hquery hreads (by simp [hrun, connect]) (by simpa [hrun, connect] using hfree)]
    at hread
  refine ⟨_, g.state.opened i, .trans ⟨schedule, rfl⟩ hread, ?_, ?_, ?_, ?_⟩
  · simp [hrun]
  · simp [hrun, hrefuses]
  · simp [hrun]
  · simp [hrun, connect, hdata, hfound, haccepts, loggingIn]

/-- A link that gets as far as its login is online. -/
theorem reaches_online (hquery : 0 < opt.retryQuery) (hl : l.Served host opt) (hevents : l.events = [])
    {g : Config ι (Mysql ι) Event Unit} (hproc : g.proc i = some (loggingIn host opt i c l))
    (hup : g.state.server.link c = .up) (hwrites : g.state.server.writes c = [])
    (hfree : g.state.server.owner (fold l.peer.name) = none ∨
      g.state.server.owner (fold l.peer.name) = some c) :
    ∃ g', g.Reaches Mysql.disturb g' ∧
      g'.trace = g.trace ++
        [(i, .stored (fold l.peer.name) "1".toList), (i, .established l.peer.name)] ∧
      g'.state.refuses = g.state.refuses ∧
      g'.state.server = loggedIn c (fold l.peer.name) g.state.server ∧
      g'.proc = Function.update g.proc i (some (.done ())) := by
  have hlogIn := Config.reaches_alone Mysql.disturb _ _ hproc
  rw [run_logIn hquery hl.reads hup hwrites hfree] at hlogIn
  obtain ⟨schedule, hrun⟩ := hlogIn
  have hnext : (g.run Mysql.disturb schedule).proc i =
      some ((Script.modify id fun _ => [Event.established l.peer.name]).bind fun _ => .done ()) := by
    rw [hrun]
    simp [authenticated, hevents, ipcp, List.take_of_length_le hl.length.le]
  have htell := Config.reaches_alone Mysql.disturb _ _ hnext
  refine ⟨_, .trans ⟨schedule, rfl⟩ htell, ?_, ?_, ?_, ?_⟩ <;> simp [hrun]

/-! ## Two links -/

/-- Two links that were let in. -/
theorem not_exclusive (name : Str) (hij : i ≠ j) {g : Shared ι (Mysql ι) Event}
    (htrace : g.trace = [(i, .stored (fold name) "1".toList), (i, .established name),
      (j, .stored (fold name) "1".toList), (j, .established name)]) : ¬Exclusive g := by
  have honline : ∀ k, k = i ∨ k = j → Online g k (fold name) := by
    rintro k (rfl | rfl) <;> refine ⟨⟨name, rfl, ?_⟩, ?_⟩ <;> simp [Shared.mem_own, htrace]
  exact fun h => hij (h i j (fold name) (honline i (.inl rfl)) (honline j (.inr rfl)))

theorem store_logged_in (huser : fold row.user = account) (hrow : row.update = "1".toList) :
    store [row] ⟨account, "1".toList⟩ = [row] := by
  simp only [store, List.map_cons, List.map_nil, huser, if_true, ← hrow]

/-- A link that nobody disturbs logs its user in. -/
theorem reaches_established (hparameter : opt.parameter = true) (hconnect : 0 < opt.retryConnect)
    (hquery : 0 < opt.retryQuery) (hl : l.Served host opt) (hevents : l.events = [])
    (hopens : Opens host opt l.peer row) {g : Config ι (Mysql ι) Event Unit}
    (hproc : g.proc i = some (pppLink host opt i l)) (hrefuses : g.state.refuses = false)
    (hdata : g.state.server.data = [row])
    (hfree : g.state.server.owner (fold l.peer.name) = none) :
    ∃ g', g.Reaches Mysql.disturb g' ∧
      g'.trace = g.trace ++
        [(i, .stored (fold l.peer.name) "1".toList), (i, .established l.peer.name)] ∧
      g'.state.refuses = false ∧
      g'.state.server.data = store [row] ⟨fold l.peer.name, "1".toList⟩ ∧
      g'.state.server.owner (fold l.peer.name) = none ∧ ∀ k, k ≠ i → g'.proc k = g.proc k := by
  obtain ⟨g₁, n, hreach₁, htrace₁, hrefuses₁, hserver₁, hproc₁⟩ :=
    reaches_loggingIn hparameter hconnect hquery hl.reads hopens hproc hrefuses hdata hfree
  obtain ⟨hdata₁, hup₁, hwrites₁, hfree₁⟩ := selected_connect hserver₁ hfree
  obtain ⟨g₂, hreach₂, htrace₂, hrefuses₂, hserver₂, hproc₂⟩ :=
    reaches_online (i := i) hquery hl hevents (by simp [hproc₁]) hup₁ hwrites₁ hfree₁
  obtain ⟨hdata₂, howner₂, -⟩ := loggedIn_spec _ hup₁ hwrites₁ hfree₁
  refine ⟨g₂, hreach₁.trans hreach₂, ?_, hrefuses₂.trans hrefuses₁, ?_, ?_, fun k hk => ?_⟩
  · rw [htrace₂, htrace₁]
  · rw [hserver₂, hdata₂, hdata₁, hdata]
  · rw [hserver₂, howner₂]
  · rw [hproc₂, hproc₁, Function.update_of_ne hk, Function.update_of_ne hk]

/-- The row says that the user is logged in, and lets the peer in all the same. -/
theorem one_after_the_other (hparameter : opt.parameter = true) (hconnect : 0 < opt.retryConnect)
    (hquery : 0 < opt.retryQuery) (hl : l.Served host opt) (hevents : l.events = [])
    (hopens : Opens host opt l.peer row) (hrow : row.update = "1".toList) (hij : i ≠ j) :
    ∃ g, (linksAt [row] host opt fun _ : ι => l).Reaches Mysql.disturb g ∧
      ¬Exclusive g.toShared := by
  obtain ⟨g₁, hreach₁, htrace₁, hrefuses₁, hdata₁, howner₁, hproc₁⟩ :=
    reaches_established hparameter hconnect hquery hl hevents hopens (i := i)
      (g := linksAt [row] host opt fun _ => l) rfl rfl rfl rfl
  rw [store_logged_in hopens.1 hrow] at hdata₁
  obtain ⟨g₂, hreach₂, htrace₂, -⟩ :=
    reaches_established hparameter hconnect hquery hl hevents hopens (hproc₁ j hij.symm) hrefuses₁
      hdata₁ howner₁
  refine ⟨g₂, hreach₁.trans hreach₂, not_exclusive l.peer.name hij ?_⟩
  simp [htrace₂, htrace₁, linksAt, Config.init]

/-- No lock keeps two links from reading the row before one of them writes to it. -/
theorem at_the_same_time (hparameter : opt.parameter = true) (hconnect : 0 < opt.retryConnect)
    (hquery : 0 < opt.retryQuery) (hl : l.Served host opt) (hevents : l.events = [])
    (hopens : Opens host opt l.peer row) (hlocks : opt.locks = false) (hij : i ≠ j) :
    ∃ g, (linksAt [row] host opt fun _ : ι => l).Reaches Mysql.disturb g ∧
      ¬Exclusive g.toShared := by
  obtain ⟨g₁, n₁, hreach₁, htrace₁, hrefuses₁, hserver₁, hproc₁⟩ := reaches_loggingIn hparameter
    hconnect hquery hl.reads hopens (i := i) (g := linksAt [row] host opt fun _ => l) rfl rfl rfl rfl
  obtain ⟨hdata₁, hup₁, hwrites₁, -⟩ := selected_connect hserver₁ rfl
  have howner₁ : g₁.state.server.owner (fold l.peer.name) = none := by
    rw [hserver₁, selected_unlocked hlocks]
    rfl
  have hlink : g₁.proc j = some (pppLink host opt j l) := by
    rw [hproc₁, Function.update_of_ne hij.symm]
    rfl
  obtain ⟨g₂, n₂, hreach₂, htrace₂, -, hserver₂, hproc₂⟩ := reaches_loggingIn hparameter
    hconnect hquery hl.reads hopens hlink hrefuses₁ hdata₁ howner₁
  rw [selected_unlocked hlocks] at hserver₂
  have hne : (i, n₁) ≠ (j, n₂) := fun h => hij (congrArg Prod.fst h)
  have hup₂ : g₂.state.server.link (i, n₁) = .up := by simp [hserver₂, connect, hne, hup₁]
  have hwrites₂ : g₂.state.server.writes (i, n₁) = [] := by
    simp [hserver₂, connect, hne, hwrites₁]
  have howner₂ : g₂.state.server.owner (fold l.peer.name) = none := by rw [hserver₂]; exact howner₁
  obtain ⟨g₃, hreach₃, htrace₃, -, hserver₃, hproc₃⟩ := reaches_online (i := i) hquery hl hevents
    (by simp [hproc₂, hproc₁, Function.update_of_ne hij]) hup₂ hwrites₂ (.inl howner₂)
  obtain ⟨-, howner₃, hothers⟩ := loggedIn_spec _ hup₂ hwrites₂ (.inl howner₂)
  obtain ⟨hlink₃, hwrites₃⟩ := hothers (j, n₂) hne.symm
  have hup₃ : g₃.state.server.link (j, n₂) = .up := by
    rw [hserver₃, hlink₃, hserver₂]
    simp [connect]
  have hnone₃ : g₃.state.server.writes (j, n₂) = [] := by
    rw [hserver₃, hwrites₃, hserver₂]
    simp [connect]
  obtain ⟨g₄, hreach₄, htrace₄, -⟩ := reaches_online (i := j) hquery hl hevents
    (by simp [hproc₃, hproc₂, Function.update_of_ne hij.symm]) hup₃ hnone₃
    (.inl (hserver₃ ▸ howner₃))
  refine ⟨g₄, ((hreach₁.trans hreach₂).trans hreach₃).trans hreach₄, not_exclusive l.peer.name hij ?_⟩
  simp [htrace₄, htrace₃, htrace₂, htrace₁, linksAt, Config.init]

/-- **Exclusive logins.**  No user is ever online twice, whatever the links and the faults,
exactly if the plugin is exclusive and no row lets a peer in that says the user is logged in. -/
theorem exclusive_iff [Nontrivial ι] (hparameter : opt.parameter = true)
    (hconnect : 0 < opt.retryConnect) (hquery : 0 < opt.retryQuery) :
    (∀ accounts (links : ι → PppLink), (∀ i, (links i).Served host opt) → ∀ schedule,
        Exclusive ((linksAt accounts host opt links).run Mysql.disturb schedule).toShared) ↔
      ∀ peer row, peer.name.length < maxNameLen → Reads host.sql opt peer.name →
        Opens host opt peer row → opt.exclusive = true ∧ row.update ≠ "1".toList := by
  constructor
  · intro hexclusive peer row hlength hreads hopens
    by_contra hnot
    have hserved : PppLink.Served host opt ⟨peer, []⟩ := ⟨hlength, hreads, trivial⟩
    obtain ⟨i, j, hij⟩ := exists_pair_ne ι
    have htwice : ∃ g, (linksAt [row] host opt fun _ : ι => ⟨peer, []⟩).Reaches Mysql.disturb g ∧
        ¬Exclusive g.toShared := by
      by_cases hrow : row.update = "1".toList
      · exact one_after_the_other hparameter hconnect hquery hserved rfl hopens hrow hij
      · have hlocks : opt.locks = false := by
          have hoff : opt.exclusive = false := by
            rw [← Bool.not_eq_true]
            exact fun hon => hnot ⟨hon, hrow⟩
          simp [Options.locks, hoff]
        exact at_the_same_time hparameter hconnect hquery hserved rfl hopens hlocks hij
    obtain ⟨g, ⟨schedule, rfl⟩, hg⟩ := htwice
    exact hg (hexclusive [row] (fun _ => ⟨peer, []⟩) (fun _ => hserved) schedule)
  · intro hopens accounts links hlinks schedule
    refine exclusive_of_opens accounts hlinks (fun i row hrow => ?_) schedule
    exact hopens (links i).peer row (hlinks i).length (hlinks i).reads hrow

end Links

/-! bob's row, in a table that is asked for users who are not online. -/

def bobsOptions : Options where
  host := some "localhost".toList
  port := some "3306".toList
  user := some "pppd".toList
  pass := some "secret".toList
  passEncryption := some "NONE".toList
  passKey := none
  database := some "radius".toList
  table := some "login".toList
  columnUser := some "username".toList
  columnPass := some "password".toList
  columnClientIp := some "clientip".toList
  columnServerIp := some "serverip".toList
  columnUpdate := some "status".toList
  condition := some "status='0'".toList
  exclusive := true
  authoritative := true
  ignoreMultiple := false
  ignoreNull := false
  retryConnect := 5
  retryQuery := 5
  ipUp := none
  ipUpFail := false
  ipDown := none
  ipDownFail := false

def bobsName : Str := "bob".toList

/-- A server on bob's queries. -/
def bobsSql : Sql where
  parse text :=
    if text = bobsOptions.selectQuery bobsName then
      some (.select bobsName bobsOptions.condition true)
    else if text = bobsOptions.updateQuery bobsName "0".toList then
      some (.update bobsName "0".toList)
    else if text = bobsOptions.updateQuery bobsName "1".toList then
      some (.update bobsName "1".toList)
    else none
  condition _ row := row.update = "0".toList

def bobsHost : Host where
  sql := bobsSql
  lib := twoBlockAes
  beyond := []
  inetAton s := s = "10.0.0.9".toList ∨ s = "10.0.0.1".toList

def bob : Account where
  user := bobsName
  pass := some "secret".toList
  clientIp := some "10.0.0.9".toList
  serverIp := some "10.0.0.1".toList
  update := "0".toList
  others := []

def bobsLink : PppLink := ⟨⟨bobsName, .pap "secret".toList, false⟩, [.up false, .down false]⟩

theorem bobsLink_served : bobsLink.Served bobsHost bobsOptions where
  length := by decide
  reads := by
    refine ⟨rfl, fun status hstatus => ?_⟩
    have hcases : status = "0".toList ∨ status = "1".toList := by simpa using hstatus
    rcases hcases with rfl | rfl
    · rfl
    · rfl
  once := rfl

theorem bob_is_online_once :
    Opens bobsHost bobsOptions bobsLink.peer bob ∧ ∀ schedule, Exclusive
      ((linksAt [bob] bobsHost bobsOptions fun _ : ℕ => bobsLink).run Mysql.disturb
        schedule).toShared := by
  refine ⟨⟨rfl, rfl, rfl⟩, fun schedule => ?_⟩
  refine (exclusive_iff (by decide) (by decide) (by decide)).2 ?_ [bob] (fun _ => bobsLink)
    (fun _ => bobsLink_served) schedule
  rintro peer row - - ⟨-, hcondition, -⟩
  have hrow : row.update = "0".toList := of_decide_eq_true hcondition
  exact ⟨rfl, by rw [hrow]; decide⟩

end ParDiff.PppSql
