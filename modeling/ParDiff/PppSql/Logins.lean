import ParDiff.PppSql.Plugin

/-!
# What a login stores

The assertions of a link about its connection and about the account it is online for, and
what each of its statements does to them.
-/

namespace ParDiff.PppSql

open Lib Lib.Text Lib.Transaction Lib.Transaction.Server

section Links

variable {ι : Type}

/-- Every row says that the user is logged in. -/
def LoggedIn (rows : List Account) : Prop := ∀ r ∈ rows, r.update = "1".toList

/-- The process that logged the account in, if nobody logged it out since. -/
def holder (account : Str) (trace : List (ι × Event)) : Option ι :=
  trace.foldl
    (fun h e =>
      match e.2 with
      | .stored a status =>
          if a = account then if status = "1".toList then some e.1 else none else h
      | _ => h) none

def Holds (i : ι) (account : Str) (g : Shared ι (Mysql ι) Event) : Prop :=
  LoggedIn (rowsOf g.state.server.data account) ∧ holder account g.trace = some i

variable [DecidableEq ι]

/-- The table has let the user in, and the link has not been given up. -/
def Online (g : Shared ι (Mysql ι) Event) (i : ι) (account : Str) : Prop :=
  (∃ name, fold name = account ∧ .established name ∈ g.own i) ∧ .released ∉ g.own i

def Offline (i : ι) (g : Shared ι (Mysql ι) Event) : Prop :=
  (∀ name, .established name ∉ g.own i) ∨ .released ∈ g.own i

/-- **Exclusive.**  No two links are online for one user. -/
def Exclusive (g : Shared ι (Mysql ι) Event) : Prop :=
  ∀ i j account, Online g i account → Online g j account → i = j

/-- Nothing follows when IPCP went down. -/
def Once : List IpcpEvent → Prop
  | [] => True
  | .up _ :: events => Once events
  | .down _ :: events => events = []

/-- The server reads the queries for a name as they are meant. -/
structure Reads (sql : Sql) (opt : Options) (name : Str) : Prop where
  select : sql.parse (opt.selectQuery name) = some (.select name opt.condition opt.locks)
  update : ∀ status ∈ ["0".toList, "1".toList],
    sql.parse (opt.updateQuery name status) = some (.update name status)

/-- The row lets the peer in. -/
def Opens (host : Host) (opt : Options) (peer : Peer) (row : Account) : Prop :=
  fold row.user = fold peer.name ∧ opt.condition.all (host.sql.condition · row) = true ∧
    (fetchPassword host opt [row]).any (peer.credentials.accepts host opt) = true

/-! ## What is stored -/

theorem rowsOf_store (accounts : List Account) (w : StatusWrite) (account : Str)
    (h : w.account ≠ account) : rowsOf (store accounts w) account = rowsOf accounts account := by
  unfold rowsOf store
  induction accounts with
  | nil => rfl
  | cons r accounts ih =>
      rw [List.map_cons, List.filter_cons, List.filter_cons, ih]
      by_cases hr : fold r.user = w.account
      · have hne : fold r.user ≠ account := hr ▸ h
        simp [hr, h]
      · simp [hr]

theorem update_of_mem_store {accounts : List Account} {w : StatusWrite} {r : Account}
    (h : r ∈ rowsOf (store accounts w) w.account) : r.update = w.status := by
  obtain ⟨hmem, hr⟩ := List.mem_filter.1 h
  obtain ⟨r', -, rfl⟩ := List.mem_map.1 hmem
  by_cases hr' : fold r'.user = w.account
  · rw [if_pos hr']
  · rw [if_neg hr'] at hr
    exact absurd (by simpa using hr) hr'

theorem update_of_mem_foldl {ws : List StatusWrite} {w : StatusWrite} (hws : ∀ v ∈ ws, v = w)
    (hne : ws ≠ []) {accounts : List Account} {r : Account}
    (h : r ∈ rowsOf (ws.foldl store accounts) w.account) : r.update = w.status := by
  rw [← List.dropLast_append_getLast hne, List.foldl_append] at h
  have hlast : ws.getLast hne = w := hws _ (List.getLast_mem hne)
  rw [hlast] at h
  exact update_of_mem_store h

omit [DecidableEq ι] in
theorem holder_append (account : Str) (trace : List (ι × Event)) (i : ι) {ws : List StatusWrite}
    {w : StatusWrite} (hws : ∀ v ∈ ws, v = w) :
    holder account (trace ++ ws.map fun v => (i, .stored v.account v.status)) =
      if w.account = account ∧ ws ≠ [] then if w.status = "1".toList then some i else none
      else holder account trace := by
  induction ws using List.reverseRecOn with
  | nil => simp
  | append_singleton ws v ih =>
      have hv : v = w := hws v (by simp)
      have hrest := ih fun v hv => hws v (by simp [hv])
      rw [List.map_append, ← List.append_assoc, holder, List.foldl_append]
      change (if v.account = account then if v.status = "1".toList then some i else none
        else holder account (trace ++ ws.map fun v => (i, .stored v.account v.status))) = _
      rw [hrest, hv]
      by_cases haccount : w.account = account
      · simp [haccount]
      · simp [haccount]

/-! ## The contract of a link -/

structure Sound (g : Shared ι (Mysql ι) Event) : Prop where
  covered : g.state.server.Covered StatusWrite.account
  online : ∀ i account, Online g i account → Holds i account g

/-- A link moves with its own connections, and takes nobody's login away. -/
structure Gentle (j : ι) (g g' : Shared ι (Mysql ι) Event) : Prop where
  moves : ∃ n, g.state.server.Moves rowsOf (j, n) g'.state.server
  holds : ∀ i account, i ≠ j → Holds i account g → Holds i account g'

def logins : Contract ι (Mysql ι) Event (Disturbance ι) where
  env := Mysql.disturb
  admits _ _ _ := True
  inv := Sound
  guar := Gentle
  halted _ _ := True

theorem disturb_data (d : Disturbance ι) (s : Mysql ι) :
    (s.disturb d).server.data = s.server.data := by
  cases d with
  | refuse _ => rfl
  | fault f => exact fault_data _ f

theorem logins_closed : (logins : Contract ι (Mysql ι) Event (Disturbance ι)).Closed where
  tick d g h := by
    refine ⟨?_, fun i account honline => ?_⟩
    · cases d with
      | refuse _ => exact h.covered
      | fault f => exact h.covered.fault f
    · obtain ⟨hrows, hholder⟩ := h.online i account honline
      refine ⟨?_, hholder⟩
      change LoggedIn (rowsOf (g.state.disturb d).server.data account)
      rwa [disturb_data]
  stop _ _ _ _ := trivial
  halted_stable _ := Contract.Stable.const True

theorem Offline.not_online {i : ι} {g : Shared ι (Mysql ι) Event} (h : Offline i g)
    (account : Str) : ¬Online g i account := by
  rintro ⟨⟨name, -, hname⟩, hreleased⟩
  rcases h with h | h
  · exact h name hname
  · exact hreleased h

theorem stable_holds (i : ι) (account : Str) : logins.Stable i (Holds i account) := by
  rintro g g' - hholds (⟨j, hj, hguar, -⟩ | ⟨d, rfl⟩) -
  · exact hguar.holds i account hj.symm hholds
  · refine ⟨?_, hholds.2⟩
    change LoggedIn (rowsOf (g.state.disturb d).server.data account)
    rw [disturb_data]
    exact hholds.1

/-- What others and faults leave alone, of the server as a connection sees it. -/
structure Local (c : Handle ι) (R : MysqlServer ι → Prop) : Prop where
  moves : ∀ {s s' : MysqlServer ι} {c'}, c ≠ c' → s.Moves rowsOf c' s' → R s → R s'
  fault : ∀ {s : MysqlServer ι} (f), R s → R (s.fault f)

theorem Local.stable {c : Handle ι} {R : MysqlServer ι → Prop} (h : Local c R) {i : ι}
    (hi : c.1 = i) : logins.Stable i fun g => R g.state.server := by
  rintro g g' - hR (⟨j, hj, hguar, -⟩ | ⟨d, rfl⟩) -
  · obtain ⟨n, hmoves⟩ := hguar.moves
    refine h.moves ?_ hmoves hR
    rintro rfl
    exact hj hi
  · cases d with
    | refuse _ => exact hR
    | fault f => exact h.fault f hR

theorem local_guarded (c : Handle ι) (k : Str) (P : List Account → Prop) :
    Local c (Guarded rowsOf c k P) :=
  ⟨fun hne hmoves h => h.moves hmoves hne, fun f h => h.fault f⟩

theorem local_true (c : Handle ι) : Local c fun _ => True :=
  ⟨fun _ _ _ => trivial, fun _ _ => trivial⟩

theorem local_lost (c : Handle ι) : Local c fun s => s.link c = .lost := by
  refine ⟨fun hne hmoves h => (hmoves.link c hne).trans h, fun {s} f h => ?_⟩
  by_contra hlink
  exact (fault_link hlink).1 h

/-- While the connection works, its writes meet `R`. -/
theorem local_writes (c : Handle ι) (R : List StatusWrite → Prop) :
    Local c fun s => s.link c ≠ .lost → R (s.writes c) := by
  refine ⟨fun hne hmoves h hlink => ?_, fun f h hlink => ?_⟩
  · rw [hmoves.writes c hne]
    rw [hmoves.link c hne] at hlink
    exact h hlink
  · obtain ⟨hup, hwrites, -⟩ := fault_link hlink
    rw [hwrites]
    exact h hup

/-! ## Statements that nobody else can see -/

variable {i : ι} {α : Type}

/-- The statement is one of the connection `c` and stores nothing. -/
structure Quiet (c : Handle ι) (s s' : MysqlServer ι) : Prop where
  moves : s.Moves rowsOf c s'
  covered : s.Covered StatusWrite.account → s'.Covered StatusWrite.account
  data : s'.data = s.data

theorem quiet_send {c : Handle ι} (exec : MysqlServer ι → α × MysqlServer ι) {s : MysqlServer ι}
    (h : Quiet c s (exec s).2) : Quiet c s (s.send c exec).2 := by
  refine ⟨send_moves exec h.moves, fun hcovered => hcovered.send exec (h.covered hcovered) c, ?_⟩
  unfold send
  split
  · exact h.data
  · exact h.data
  · rfl

omit [DecidableEq ι] in
theorem Quiet.refl (c : Handle ι) (s : MysqlServer ι) : Quiet c s s :=
  ⟨.refl _ _ _, id, rfl⟩

theorem quiet_connect (c : Handle ι) (s : MysqlServer ι) : Quiet c s (s.connect c) :=
  ⟨connect_moves _ _ _, fun h => h.connect c, rfl⟩

theorem quiet_rollback (c : Handle ι) (s : MysqlServer ι) : Quiet c s (s.rollback c) :=
  ⟨rollback_moves _ _ _, fun h => h.rollback c, rfl⟩

theorem quiet_close (c : Handle ι) (s : MysqlServer ι) : Quiet c s (s.close c) := by
  refine ⟨close_moves _ _ _, fun h => h.close c, ?_⟩
  unfold close
  split <;> rfl

theorem quiet_exec (sql : Sql) (c : Handle ι) (text : Str) (s : MysqlServer ι) :
    Quiet c s (sql.exec c text s).2 := by
  unfold Sql.exec
  split
  · exact .refl c s
  · exact .refl c s
  · exact ⟨lock_moves _ _ _ _, fun h => h.lock c _, lock_data _ _ _⟩
  · rename_i name status _
    refine ⟨write_moves _ _ _ _, fun h => h.write c _, ?_⟩
    rcases write_cases StatusWrite.account c ⟨fold name, status⟩ s with ⟨-, hsame⟩ | ⟨-, -, hw⟩
    · exact (congrArg Server.data hsame).trans (lock_data _ _ _)
    · exact (congrArg Server.data hw).trans (lock_data _ _ _)

/-- Only the state of the server changed, and that by a quiet statement. -/
theorem Sound.quiet {g g' : Shared ι (Mysql ι) Event} (h : Sound g) {n : Nat}
    (hquiet : Quiet (i, n) g.state.server g'.state.server) (htrace : g'.trace = g.trace) :
    Sound g' ∧ Gentle i g g' := by
  have hown : ∀ j, g'.own j = g.own j := fun j => by rw [Shared.own, Shared.own, htrace]
  have hholds : ∀ j account, Holds j account g → Holds j account g' := by
    intro j account hj
    rw [Holds, hquiet.data, htrace]
    exact hj
  refine ⟨⟨hquiet.covered h.covered, fun j account honline => ?_⟩,
    ⟨n, hquiet.moves⟩, fun j account _ => hholds j account⟩
  rw [Online, hown] at honline
  exact hholds j account (h.online j account honline)

/-- An assertion about the trace and the data that stands through quiet statements. -/
structure Steady (i : ι) (P : Shared ι (Mysql ι) Event → Prop) : Prop where
  stable : logins.Stable i P
  quiet : ∀ {g g' : Shared ι (Mysql ι) Event}, g'.trace = g.trace →
    g'.state.server.data = g.state.server.data → P g → P g'

theorem steady_own (i : ι) (A : List Event → Prop) : Steady i fun g => A (g.own i) where
  stable := Contract.Stable.own A
  quiet htrace _ h := by
    rw [Shared.own, htrace]
    exact h

theorem Steady.and {P P' : Shared ι (Mysql ι) Event → Prop} (h : Steady i P) (h' : Steady i P') :
    Steady i fun g => P g ∧ P' g :=
  ⟨h.stable.and h'.stable, fun htrace hdata hPg =>
    ⟨h.quiet htrace hdata hPg.1, h'.quiet htrace hdata hPg.2⟩⟩

theorem Steady.imp {P : Shared ι (Mysql ι) Event → Prop} (h : Steady i P) (p : Prop) :
    Steady i fun g => p → P g :=
  ⟨h.stable.imp p, fun htrace hdata hPg hp => h.quiet htrace hdata (hPg hp)⟩

theorem steady_holds (i : ι) (account : Str) : Steady i (Holds i account) where
  stable := stable_holds i account
  quiet htrace hdata h := by
    rw [Holds, hdata, htrace]
    exact h

variable {P : Shared ι (Mysql ι) Event → Prop} {c : Handle ι}

theorem valid_quiet {f : Mysql ι → α × Mysql ι × List Event}
    {Q : α → Shared ι (Mysql ι) Event → Prop}
    (hquiet : ∀ s, (∃ n, Quiet (i, n) s.server (f s).2.1.server) ∧ (f s).2.2 = [])
    (hstable : ∀ a, logins.Stable i (Q a))
    (hpost : ∀ g g' : Shared ι (Mysql ι) Event, P g → g'.trace = g.trace →
      g'.state = (f g.state).2.1 → Q (f g.state).1 g') :
    logins.Valid i Q (.exec f) P := by
  refine Contract.Valid.exec hstable ?_
  rintro g hsound hP -
  obtain ⟨⟨n, hserver⟩, hevents⟩ := hquiet g.state
  have htrace : (g.exec i fun s => (f s).2).trace = g.trace := by simp [hevents]
  have hinv : Sound (g.exec i fun s => (f s).2) ∧ Gentle i g (g.exec i fun s => (f s).2) :=
    hsound.quiet hserver htrace
  exact ⟨hinv.1, hinv.2, hpost g _ hP htrace rfl⟩

/-- A steady assertion, and one about the server. -/
theorem valid_steady {f : Mysql ι → α × Mysql ι × List Event} (R : α → MysqlServer ι → Prop)
    (R₀ : MysqlServer ι → Prop) (hP : Steady i P)
    (hquiet : ∀ s, (∃ n, Quiet (i, n) s.server (f s).2.1.server) ∧ (f s).2.2 = [])
    (hR : ∀ a, logins.Stable i fun g => R a g.state.server)
    (hpost : ∀ s, R₀ s.server → R (f s).1 (f s).2.1.server) :
    logins.Valid i (fun a g => P g ∧ R a g.state.server) (.exec f)
      fun g => P g ∧ R₀ g.state.server := by
  refine valid_quiet hquiet (fun a => hP.stable.and (hR a)) ?_
  rintro g g' ⟨hPg, hR₀⟩ htrace hstate
  obtain ⟨⟨n, hserver⟩, -⟩ := hquiet g.state
  rw [hstate]
  exact ⟨hP.quiet htrace (by rw [hstate]; exact hserver.data) hPg, hpost _ hR₀⟩

theorem valid_onServer {f : MysqlServer ι → α × MysqlServer ι} (R : α → MysqlServer ι → Prop)
    (R₀ : MysqlServer ι → Prop) (hP : Steady i P) (hc : c.1 = i) (hquiet : ∀ s, Quiet c s (f s).2)
    (hR : ∀ a, Local c (R a)) (hpost : ∀ s, R₀ s → R (f s).1 (f s).2) :
    logins.Valid i (fun a g => P g ∧ R a g.state.server) (onServer f)
      fun g => P g ∧ R₀ g.state.server := by
  obtain ⟨j, n⟩ := c
  obtain rfl : j = i := hc
  exact valid_steady R R₀ hP (fun s => ⟨⟨n, hquiet s.server⟩, rfl⟩) (fun a => (hR a).stable rfl)
    fun s => hpost s.server

/-! ## Connecting and closing -/

/-- The connection is one of the process, and has not written. -/
def Fresh (i : ι) (mysql : Option (Handle ι)) (s : MysqlServer ι) : Prop :=
  ∀ c, mysql = some c → c.1 = i ∧ (s.link c ≠ .lost → s.writes c = [])

theorem stable_fresh (i : ι) (mysql : Option (Handle ι)) :
    logins.Stable i fun g => Fresh i mysql g.state.server := by
  intro g g' hinv hfresh hrely hinv' c hc
  obtain ⟨hi, hwrites⟩ := hfresh c hc
  exact ⟨hi, (local_writes c (· = [])).stable hi g g' hinv hwrites hrely hinv'⟩

theorem valid_mysqlRealConnect (hP : Steady i P) :
    logins.Valid i (fun mysql g => P g ∧ Fresh i mysql g.state.server) (mysqlRealConnect i)
      fun g => P g ∧ True := by
  refine valid_steady (Fresh i) (fun _ => True) hP (fun s => ?_) (stable_fresh i) fun s _ c hc => ?_
  · cases s.refuses with
    | true => exact ⟨⟨0, Quiet.refl _ _⟩, rfl⟩
    | false => exact ⟨⟨s.opened i, quiet_connect _ _⟩, rfl⟩
  · cases hrefuses : s.refuses with
    | true => simp [hrefuses] at hc
    | false =>
        obtain rfl : (i, s.opened i) = c := by simpa [hrefuses] using hc
        exact ⟨rfl, fun _ => by simp [connect]⟩

/-- As long as the connection works, its statement was executed. -/
theorem send_of_link {exec : MysqlServer ι → α × MysqlServer ι} {s : MysqlServer ι}
    (h : (s.send c exec).2.link c ≠ .lost) :
    s.link c = .up ∧ s.send c exec = (some (exec s).1, (exec s).2) :=
  (send_cases c exec s).resolve_right fun ⟨_, hlost⟩ => h hlost

theorem valid_mysqlAutocommit (hc : c.1 = i) (hP : Steady i P) :
    logins.Valid i (fun _ g => P g ∧ Fresh i (some c) g.state.server) (mysqlAutocommit c)
      fun g => P g ∧ Fresh i (some c) g.state.server := by
  have hvalid := valid_onServer (f := fun s => ((s.send c fun s => ((), s)).1.isSome,
      (s.send c fun s => ((), s)).2)) (fun _ s => s.link c ≠ .lost → s.writes c = [])
    (fun s => s.link c ≠ .lost → s.writes c = []) hP hc (fun s => quiet_send (fun s => ((), s)) (Quiet.refl c s))
    (fun _ => local_writes c (· = [])) fun s h hlink => by
      obtain ⟨hup, hsend⟩ := send_of_link hlink
      rw [hsend]
      exact h (by simp [hup])
  refine (hvalid.strengthen fun g _ h => ⟨h.1, (h.2 c rfl).2⟩).weaken fun _ g _ h => ⟨h.1, ?_⟩
  intro d hd
  obtain rfl := Option.some.inj hd
  exact ⟨hc, h.2⟩

theorem valid_connectLoop (hP : Steady i P) (count : Nat) (mysql : Option (Handle ι)) :
    logins.Valid i (fun r g => P g ∧ ∀ c, r = some c → Fresh i c g.state.server)
      (connectLoop i count mysql) fun g => P g ∧ Fresh i mysql g.state.server := by
  induction count generalizing mysql with
  | zero =>
      apply Contract.Valid.done
      rintro g - ⟨hPg, hfresh⟩
      refine ⟨hPg, fun c hc => ?_⟩
      obtain rfl := Option.some.inj hc
      exact hfresh
  | succ count ih =>
      have hconnect := (valid_mysqlRealConnect hP).strengthen
        fun g _ (h : P g ∧ Fresh i mysql g.state.server) => ⟨h.1, trivial⟩
      refine hconnect.bind fun r => ?_
      cases r with
      | none =>
          by_cases hcount : count = 0
          · rw [if_pos hcount]
            exact Contract.Valid.done fun g _ h => ⟨h.1, by simp⟩
          · rw [if_neg hcount]
            exact ih none
      | some c =>
          by_cases hc : c.1 = i
          · refine (valid_mysqlAutocommit hc hP).bind fun ok => ?_
            cases ok with
            | true =>
                apply Contract.Valid.done
                rintro g - ⟨hPg, hfresh⟩
                refine ⟨hPg, fun d hd => ?_⟩
                obtain rfl := Option.some.inj hd
                exact hfresh
            | false => exact ih (some c)
          · exact (Contract.Valid.and_pre fun h => absurd h hc).strengthen
              fun g _ h => ⟨(h.2 c rfl).1, h⟩

theorem valid_mysqlConnect (opt : Options) (hP : Steady i P) :
    logins.Valid i (fun r g => P g ∧ ∀ c, r = some c → Fresh i c g.state.server)
      (mysqlConnect opt i) P :=
  (valid_connectLoop hP opt.retryConnect none).strengthen fun _ _ h => ⟨h, by simp [Fresh]⟩

theorem valid_keep (hP : Steady i P) (hc : c.1 = i) {f : MysqlServer ι → MysqlServer ι}
    (hquiet : ∀ s, Quiet c s (f s)) :
    logins.Valid i (fun _ => P) (onServer fun s => ((), f s)) P := by
  have hvalid := valid_onServer (f := fun s => ((), f s)) (fun _ _ => True) (fun _ => True) hP hc
    hquiet (fun _ => local_true c) fun _ _ => trivial
  exact (hvalid.strengthen fun _ _ h => ⟨h, trivial⟩).weaken fun _ _ _ h => h.1

theorem valid_mysqlDisconnect (hP : Steady i P) (hc : c.1 = i) :
    logins.Valid i (fun _ => P) (mysqlDisconnect (some c)) P :=
  valid_keep hP hc (quiet_close c)

theorem valid_mysqlRollback (hP : Steady i P) (hc : c.1 = i) :
    logins.Valid i (fun _ => P) (mysqlRollback (some c)) P :=
  valid_keep hP hc fun s => quiet_send (fun s => ((), s.rollback c)) (quiet_rollback c s)

/-! ## Reading the password -/

variable {host : Host} {opt : Options} {name : Str}

theorem mem_found {sql : Sql} {condition : Option Str} {accounts : List Account} {r : Account} :
    r ∈ sql.found name condition accounts ↔
      r ∈ rowsOf accounts (fold name) ∧ condition.all (sql.condition · r) = true :=
  List.mem_filter

/-- What a `SELECT` does, and what it finds. -/
theorem exec_select {sql : Sql} {text : Str} {condition : Option Str} {locks : Bool}
    (h : sql.parse text = some (.select name condition locks)) (c : Handle ι) (s : MysqlServer ι) :
    (sql.exec c text s).2.writes = s.writes ∧ (sql.exec c text s).2.link = s.link ∧
      (sql.exec c text s).2.data = s.data ∧
      ∀ rows, (sql.exec c text s).1 = some rows → rows = sql.found name condition s.data ∧
        (locks = true → (sql.exec c text s).2.owner (fold name) = some c) := by
  unfold Sql.exec
  rw [h]
  cases locks with
  | false =>
      refine ⟨rfl, rfl, rfl, fun rows hrows => ?_⟩
      exact ⟨(Option.some.inj hrows).symm, fun h => absurd h (by simp)⟩
  | true =>
      refine ⟨lock_writes _ _ _, lock_link _ _ _, lock_data _ _ _, fun rows hrows => ?_⟩
      dsimp only at hrows ⊢
      split at hrows
      · rename_i hlocked
        rw [lock_data] at hrows
        exact ⟨(Option.some.inj hrows).symm, fun _ => lock_owner hlocked⟩
      · exact absurd hrows (by simp)

/-- What the connection knows of the rows that it got. -/
structure Selected (host : Host) (opt : Options) (name : Str) (c : Handle ι) (rows : List Account)
    (s : MysqlServer ι) : Prop where
  found : ∀ r ∈ rows, fold r.user = fold name ∧
    opt.condition.all (host.sql.condition · r) = true
  locked : opt.locks = true → s.Guarded rowsOf c (fold name) fun rs => ∀ r ∈ rows, r ∈ rs

theorem local_selected (c : Handle ι) (rows : List Account) :
    Local c fun s => Selected host opt name c rows s where
  moves hne hmoves h := ⟨h.found, fun hlocks => (h.locked hlocks).moves hmoves hne⟩
  fault f h := ⟨h.found, fun hlocks => (h.locked hlocks).fault f⟩

theorem Local.and {R R' : MysqlServer ι → Prop} (h : Local c R) (h' : Local c R') :
    Local c fun s => R s ∧ R' s :=
  ⟨fun hne hmoves hR => ⟨h.moves hne hmoves hR.1, h'.moves hne hmoves hR.2⟩,
    fun f hR => ⟨h.fault f hR.1, h'.fault f hR.2⟩⟩

theorem Local.imp {R : MysqlServer ι → Prop} (h : Local c R) (p : Prop) :
    Local c fun s => p → R s :=
  ⟨fun hne hmoves hR hp => h.moves hne hmoves (hR hp), fun f hR hp => h.fault f (hR hp)⟩

theorem Local.forall {β : Type} {R : β → MysqlServer ι → Prop} (h : ∀ b, Local c (R b)) :
    Local c fun s => ∀ b, R b s :=
  ⟨fun hne hmoves hR b => (h b).moves hne hmoves (hR b), fun f hR b => (h b).fault f (hR b)⟩

/-- The connection works and has not written, and it has these rows. -/
def Read (host : Host) (opt : Options) (name : Str) (c : Handle ι) (r : Option (List Account))
    (s : MysqlServer ι) : Prop :=
  (s.link c ≠ .lost → s.writes c = []) ∧ ∀ rows, r = some rows → Selected host opt name c rows s

theorem local_read (c : Handle ι) (r : Option (List Account)) : Local c (Read host opt name c r) :=
  (local_writes c (· = [])).and (.forall fun rows => (local_selected c rows).imp _)

theorem valid_select (hreads : Reads host.sql opt name) (hc : c.1 = i) (hP : Steady i P) :
    logins.Valid i (fun r g => P g ∧ Read host opt name c r g.state.server)
      (mysqlQuery host.sql (some c) (opt.selectQuery name))
      fun g => P g ∧ Read host opt name c none g.state.server := by
  have hquiet : ∀ s, Quiet c s (s.send c (host.sql.exec c (opt.selectQuery name))).2 :=
    fun s => quiet_send _ (quiet_exec host.sql c _ s)
  refine valid_onServer (f := fun s => ((s.send c (host.sql.exec c (opt.selectQuery name))).1.join,
      (s.send c (host.sql.exec c (opt.selectQuery name))).2))
    (Read host opt name c) (Read host opt name c none) hP hc hquiet (local_read c) ?_
  rintro s ⟨hwrites, -⟩
  obtain ⟨hwrites', -, hdata, hrows⟩ := exec_select hreads.select c s
  rcases send_cases c (host.sql.exec c (opt.selectQuery name)) s with ⟨hup, hsend⟩ | ⟨hnone, hlost⟩
  · simp only [hsend, Option.join_some]
    refine ⟨fun _ => ?_, fun rows hsome => ?_⟩
    · rw [hwrites']
      exact hwrites (by simp [hup])
    · obtain ⟨rfl, howner⟩ := hrows rows hsome
      refine ⟨fun r hr => ?_, fun hlocks _ => ⟨howner hlocks, fun r hr => ?_⟩⟩
      · obtain ⟨hmem, hcondition⟩ := mem_found.1 hr
        exact ⟨by simpa using (List.mem_filter.1 hmem).2, hcondition⟩
      · rw [hdata]
        exact (mem_found.1 hr).1
  · exact ⟨fun h => absurd hlost h, by simp [hnone]⟩

theorem valid_selectLoop (hreads : Reads host.sql opt name) (hc : c.1 = i) (hP : Steady i P)
    (count : Nat) :
    logins.Valid i (fun r g => P g ∧ Read host opt name c r g.state.server)
      (queryLoop host.sql (some c) (opt.selectQuery name) count)
      fun g => P g ∧ Read host opt name c none g.state.server := by
  induction count with
  | zero => exact Contract.Valid.done fun _ _ h => h
  | succ count ih =>
      refine (valid_select hreads hc hP).bind fun r => ?_
      cases r with
      | none => exact ih
      | some rows => exact Contract.Valid.done fun _ _ h => h

omit [DecidableEq ι] in
/-- Only the first row counts. -/
theorem fetchPassword_first {rows : List Account} {secretName : Str}
    (h : fetchPassword host opt rows = some secretName) :
    ∃ row ∈ rows, fetchPassword host opt [row] = some secretName := by
  unfold fetchPassword at h
  split at h
  · exact absurd h (by simp)
  · cases rows with
    | nil => exact absurd h (by simp)
    | cons row rows => exact ⟨row, by simp, h⟩

/-- A password that was found is that of a row which may be let in, and stays there under
the lock. -/
def Found (host : Host) (opt : Options) (name : Str) (c : Handle ι) (secret : Option Str)
    (s : MysqlServer ι) : Prop :=
  (s.link c ≠ .lost → s.writes c = []) ∧ ∀ secretName, secret = some secretName →
    ∃ row, (fold row.user = fold name ∧ opt.condition.all (host.sql.condition · row) = true ∧
        fetchPassword host opt [row] = some secretName) ∧
      (opt.locks = true → s.Guarded rowsOf c (fold name) (row ∈ ·))

omit [DecidableEq ι] in
theorem Read.fetched {rows : List Account} {s : MysqlServer ι}
    (h : Read host opt name c (some rows) s) :
    Found host opt name c (fetchPassword host opt rows) s := by
  refine ⟨h.1, fun secretName hsecret => ?_⟩
  obtain ⟨row, hrow, hfirst⟩ := fetchPassword_first hsecret
  have hselected := h.2 rows rfl
  obtain ⟨huser, hcondition⟩ := hselected.found row hrow
  refine ⟨row, ⟨huser, hcondition, hfirst⟩, fun hlocks hlink => ?_⟩
  obtain ⟨howner, hrows⟩ := hselected.locked hlocks hlink
  exact ⟨howner, hrows row hrow⟩

theorem valid_mysqlPassword (hreads : Reads host.sql opt name) (hc : c.1 = i)
    (hP : Steady i P) :
    logins.Valid i (fun secret g => P g ∧ Found host opt name c secret g.state.server)
      (mysqlPassword host opt (some c) name)
      fun g => P g ∧ Read host opt name c none g.state.server := by
  refine (valid_selectLoop hreads hc hP opt.retryQuery).bind fun r => ?_
  cases r with
  | none => exact Contract.Valid.done fun g _ h => ⟨h.1, h.2.1, by simp⟩
  | some rows => exact Contract.Valid.done fun g _ h => ⟨h.1, h.2.fetched⟩

theorem queryLoop_none (sql : Sql) (text : Str) (count : Nat) :
    (queryLoop sql none text count : Program ι (Option (List Account))) = .done none := by
  induction count with
  | zero => rfl
  | succ count ih => exact ih

/-! ## The login status -/

/-- The events of the process say that no user is online with it. -/
structure Away (A : List Event → Prop) : Prop where
  offline : ∀ {own}, A own → (∀ name, .established name ∉ own) ∨ .released ∈ own
  stored : ∀ {own es}, A own → (∀ e ∈ es, ∃ account status, e = .stored account status) →
    A (own ++ es)

/-- What allows the connection to store the status of an account: nobody else holds it. -/
structure Permits (i : ι) (c : Handle ι) (account : Str)
    (J : Shared ι (Mysql ι) Event → Prop) : Prop where
  stable : logins.Stable i J
  lost : ∀ {g : Shared ι (Mysql ι) Event}, g.state.server.link c = .lost → J g
  alone : ∀ {g : Shared ι (Mysql ι) Event}, J g → g.state.server.link c ≠ .lost →
    ∀ j, j ≠ i → ¬Holds j account g
  quiet : ∀ {g g' : Shared ι (Mysql ι) Event}, J g → g'.trace = g.trace →
    g'.state.server.data = g.state.server.data →
    (g'.state.server.link c ≠ .lost → g.state.server.link c ≠ .lost ∧
      (g.state.server.owner account = some c → g'.state.server.owner account = some c)) → J g'

/-- Who read under the lock that the user is not logged in. -/
theorem permits_guarded (hc : c.1 = i) (account : Str) :
    Permits i c account fun g =>
      g.state.server.Guarded rowsOf c account fun rows => ¬LoggedIn rows where
  stable := (local_guarded c account _).stable hc
  lost hlost hlink := absurd hlost hlink
  alone hguarded hlink j _ hholds := (hguarded hlink).2 hholds.1
  quiet hguarded _ hdata hkeeps hlink := by
    obtain ⟨hup, howner⟩ := hkeeps hlink
    obtain ⟨hheld, hrows⟩ := hguarded hup
    rw [hdata]
    exact ⟨howner hheld, hrows⟩

/-- Who holds the account. -/
theorem permits_holds (hc : c.1 = i) (account : Str) :
    Permits i c account fun g => g.state.server.link c ≠ .lost → Holds i account g where
  stable g g' hinv hholds hrely hinv' hlink := by
    have hup : g.state.server.link c ≠ .lost := fun hlost =>
      hlink ((local_lost c).stable hc g g' hinv hlost hrely hinv')
    exact stable_holds i account g g' hinv (hholds hup) hrely hinv'
  lost hlost hlink := absurd hlost hlink
  alone hholds hlink j hj hother := by
    have heq := (hholds hlink).2.symm.trans hother.2
    exact hj (Option.some.inj heq).symm
  quiet hholds htrace hdata hkeeps hlink := by
    rw [Holds, hdata, htrace]
    exact hholds (hkeeps hlink).1

/-- What an `UPDATE` does. -/
theorem exec_update {sql : Sql} {text status : Str}
    (h : sql.parse text = some (.update name status)) (c : Handle ι) (s : MysqlServer ι) :
    (sql.exec c text s).2.link = s.link ∧ (sql.exec c text s).2.data = s.data ∧
      (∀ k, s.owner k = some c → (sql.exec c text s).2.owner k = some c) ∧
      (((sql.exec c text s).1 = none ∧ (sql.exec c text s).2.writes = s.writes) ∨
        (sql.exec c text s).1 = some [] ∧
          (sql.exec c text s).2.writes c = s.writes c ++ [⟨fold name, status⟩]) := by
  unfold Sql.exec
  rw [h]
  dsimp only
  rcases write_cases StatusWrite.account c ⟨fold name, status⟩ s with
    ⟨hfalse, hsame⟩ | ⟨-, htrue, hwritten⟩
  · rw [hfalse, hsame]
    exact ⟨lock_link _ _ _, lock_data _ _ _, fun k hk => lock_owner_of_owner hk _,
      .inl ⟨rfl, lock_writes _ _ _⟩⟩
  · rw [htrue, hwritten]
    exact ⟨lock_link _ _ _, lock_data _ _ _, fun k hk => lock_owner_of_owner hk _,
      .inr ⟨rfl, by simp⟩⟩

/-- Nothing but the status of the account is going to be stored. -/
def Only (c : Handle ι) (w : StatusWrite) (s : MysqlServer ι) : Prop :=
  s.link c ≠ .lost → ∀ v ∈ s.writes c, v = w

variable {A : List Event → Prop} {J : Shared ι (Mysql ι) Event → Prop} {w : StatusWrite}

theorem valid_update {text : Str} (hparse : host.sql.parse text = some (.update name w.status))
    (hw : w.account = fold name) (hc : c.1 = i) (hJ : Permits i c w.account J) :
    logins.Valid i
      (fun r g => (A (g.own i) ∧ J g ∧ Only c w g.state.server) ∧
        (r.isSome = true → g.state.server.link c ≠ .lost → g.state.server.writes c ≠ []))
      (mysqlQuery host.sql (some c) text)
      fun g => A (g.own i) ∧ J g ∧ Only c w g.state.server := by
  have hlocal : ∀ r : Option (List Account), Local c fun s =>
      r.isSome = true → s.link c ≠ .lost → s.writes c ≠ [] :=
    fun r => (local_writes c (· ≠ [])).imp _
  have hquiet : ∀ s, Quiet c s (s.send c (host.sql.exec c text)).2 :=
    fun s => quiet_send _ (quiet_exec host.sql c _ s)
  refine valid_quiet (f := fun s : Mysql ι => ((s.server.send c (host.sql.exec c text)).1.join,
      { s with server := (s.server.send c (host.sql.exec c text)).2 }, []))
    (fun s => ⟨⟨c.2, hc ▸ hquiet s.server⟩, rfl⟩)
    (fun r => ((Contract.Stable.own A).and
      (hJ.stable.and ((local_writes c fun ws => ∀ v ∈ ws, v = w).stable hc))).and
        ((hlocal r).stable hc)) ?_
  rintro g g' ⟨hA, hJg, honly⟩ htrace hstate
  obtain ⟨-, -, howner, hwrites⟩ := exec_update hparse c g.state.server
  have hown : g'.own i = g.own i := by rw [Shared.own, Shared.own, htrace]
  have hserver : g'.state.server = (g.state.server.send c (host.sql.exec c text)).2 :=
    congrArg Mysql.server hstate
  have hsent : g'.state.server.link c ≠ .lost → g.state.server.link c = .up ∧
      g.state.server.send c (host.sql.exec c text) =
        (some (host.sql.exec c text g.state.server).1, (host.sql.exec c text g.state.server).2) := by
    intro hlink
    rw [hserver] at hlink
    exact send_of_link hlink
  refine ⟨⟨hown ▸ hA, hJ.quiet hJg htrace ?_ ?_, ?_⟩, ?_⟩
  · rw [hserver]
    exact (hquiet g.state.server).data
  · intro hlink
    obtain ⟨hup, hsend⟩ := hsent hlink
    refine ⟨by simp [hup], fun hk => ?_⟩
    rw [hserver, hsend]
    exact howner _ hk
  · intro hlink v hv
    obtain ⟨hup, hsend⟩ := hsent hlink
    have hold := honly (by simp [hup])
    rw [hserver, hsend] at hv
    rcases hwrites with ⟨-, hsame⟩ | ⟨-, hmore⟩
    · exact hold v (by simpa [hsame] using hv)
    · have hcases : v ∈ g.state.server.writes c ∨ v = ⟨fold name, w.status⟩ := by
        simpa [hmore] using hv
      rcases hcases with hv | rfl
      · exact hold v hv
      · rw [← hw]
  · intro hsome hlink
    obtain ⟨-, hsend⟩ := hsent hlink
    rcases hwrites with ⟨hnone, -⟩ | ⟨-, hmore⟩
    · exact absurd hsome (by simp [hsend, hnone])
    · rw [hserver, hsend]
      simp [hmore]

/-- The server executes a `COMMIT` of the connection. -/
theorem Sound.commit {g g' : Shared ι (Mysql ι) Event} (h : Sound g) (hc : c.1 = i)
    (hA : Away A) (hAg : A (g.own i)) (hw : ∀ v ∈ g.state.server.writes c, v = w)
    (halone : ∀ j, j ≠ i → ¬Holds j w.account g)
    (hmoves : g.state.server.Moves rowsOf c g'.state.server)
    (hcovered : g'.state.server.Covered StatusWrite.account)
    (hdata : g'.state.server.data = (g.state.server.writes c).foldl store g.state.server.data)
    (htrace : g'.trace = g.trace ++
      (g.state.server.writes c).map fun v => (i, .stored v.account v.status)) :
    Sound g' ∧ Gentle i g g' ∧ A (g'.own i) := by
  have hholds : ∀ j account, j ≠ i → Holds j account g → Holds j account g' := by
    intro j account hj hjg
    have haccount : w.account ≠ account := by
      rintro rfl
      exact halone j hj hjg
    have hrows : rowsOf g'.state.server.data account = rowsOf g.state.server.data account := by
      rw [hdata]
      exact foldl_view rowsOf_store (fun v hv => by rw [hw v hv]; exact haccount) _
    rw [Holds, hrows, htrace, holder_append account g.trace i hw, if_neg fun h => haccount h.1]
    exact hjg
  have hown : ∀ j, j ≠ i → g'.own j = g.own j := by
    intro j hj
    simp [Shared.own, htrace, List.filterMap_map, Ne.symm hj]
  have hself : g'.own i =
      g.own i ++ (g.state.server.writes c).map fun v => .stored v.account v.status := by
    simp [Shared.own, htrace, List.filterMap_map]
  have hA' : A (g'.own i) := by
    rw [hself]
    refine hA.stored hAg fun e he => ?_
    obtain ⟨v, -, rfl⟩ := List.mem_map.1 he
    exact ⟨_, _, rfl⟩
  refine ⟨⟨hcovered, fun j account honline => ?_⟩, ⟨⟨c.2, ?_⟩, hholds⟩, hA'⟩
  · by_cases hj : j = i
    · subst hj
      exact absurd honline (Offline.not_online (hA.offline hA') account)
    · rw [Online, hown j hj] at honline
      exact hholds j account hj (h.online j account honline)
  · subst hc
    exact hmoves

/-- A status is stored, and the user is logged in with it if it is that. -/
theorem valid_commit (hc : c.1 = i) (hA : Away A) (hJ : Permits i c w.account J) :
    logins.Valid i
      (fun ok g => (A (g.own i) ∧ (ok = true → w.status = "1".toList → Holds i w.account g)) ∧
        (ok = false → J g ∧ Only c w g.state.server))
      (mysqlCommit (some c))
      fun g => (A (g.own i) ∧ J g ∧ Only c w g.state.server) ∧
        (g.state.server.link c ≠ .lost → g.state.server.writes c ≠ []) := by
  refine Contract.Valid.exec (fun ok => ?_) ?_
  · have hone := (Contract.Stable.own A).and (((stable_holds i w.account).imp
      (w.status = "1".toList)).imp (ok = true))
    exact hone.and ((hJ.stable.and
      ((local_writes c fun ws => ∀ v ∈ ws, v = w).stable hc)).imp _)
  · rintro g hsound ⟨⟨hAg, hJg, honly⟩, hne⟩ -
    by_cases hlink : g.state.server.link c = .lost
    · have hsend : g.state.server.send c (fun s => ((), s.commit store c)) =
          (none, g.state.server) := by
        simp [send, hlink]
      have hinv : Sound g ∧ Gentle i g g := hsound.quiet (Quiet.refl (i, 0) _) rfl
      simp only [Shared.exec, hsend, hlink, if_true, List.map_nil, List.append_nil]
      exact ⟨hinv.1, hinv.2, ⟨hAg, by simp⟩, fun _ => ⟨hJg, honly⟩⟩
    · have hmoves := send_moves (fun s => ((), s.commit store c))
        (commit_moves rowsOf_store hsound.covered c)
      have hcovered := hsound.covered.send (fun s => ((), s.commit store c))
        (hsound.covered.commit store c) c
      have hdata : (g.state.server.send c fun s => ((), s.commit store c)).2.data =
          (g.state.server.writes c).foldl store g.state.server.data := by
        unfold send
        split
        · rfl
        · rfl
        · rename_i hlost
          exact absurd hlost hlink
      have htrace : (if g.state.server.link c = .lost then [] else
            (g.state.server.writes c).map fun v => Event.stored v.account v.status).map
              (Prod.mk i) =
          (g.state.server.writes c).map fun v => (i, .stored v.account v.status) := by
        rw [if_neg hlink, List.map_map]
        rfl
      have hall : Sound ⟨{ g.state with
            server := (g.state.server.send c fun s => ((), s.commit store c)).2 }, _⟩ ∧
          Gentle i g _ ∧ A (Shared.own _ i) :=
        hsound.commit hc hA hAg (honly hlink) (hJ.alone hJg hlink) hmoves hcovered hdata
          (congrArg (g.trace ++ ·) htrace)
      refine ⟨hall.1, hall.2.1, ⟨hall.2.2, fun hok hstatus => ⟨fun r hr => ?_, ?_⟩⟩, fun hok => ?_⟩
      · change r ∈ rowsOf (g.state.server.send c fun s => ((), s.commit store c)).2.data _ at hr
        rw [hdata] at hr
        exact (update_of_mem_foldl (honly hlink) (hne hlink) hr).trans hstatus
      · refine (congrArg (holder w.account) (congrArg (g.trace ++ ·) htrace)).trans ?_
        rw [holder_append w.account g.trace i (honly hlink), if_pos ⟨rfl, hne hlink⟩,
          if_pos hstatus]
      · have hlost : (g.state.server.send c fun s => ((), s.commit store c)).2.link c = .lost := by
          rcases send_cases c (fun s => ((), s.commit store c)) g.state.server with
            ⟨-, hsend⟩ | ⟨-, hlost⟩
          · simp [hsend] at hok
          · exact hlost
        exact ⟨hJ.lost hlost, fun h => absurd hlost h⟩

theorem valid_statusLoop {text : Str} (hparse : host.sql.parse text = some (.update name w.status))
    (hw : w.account = fold name) (hc : c.1 = i) (hA : Away A) (hJ : Permits i c w.account J)
    (count : Nat) :
    logins.Valid i
      (fun ok g => A (g.own i) ∧ (ok = true → w.status = "1".toList → Holds i w.account g))
      (statusLoop host.sql (some c) text count)
      fun g => A (g.own i) ∧ J g ∧ Only c w g.state.server := by
  induction count with
  | zero => exact Contract.Valid.done fun _ _ h => ⟨h.1, by simp⟩
  | succ count ih =>
      refine (valid_update hparse hw hc hJ).bind fun r => ?_
      cases r with
      | none => exact ih.strengthen fun _ _ h => h.1
      | some rows =>
          have hcommit := (valid_commit hc hA hJ).strengthen
            fun g _ (h : (A (g.own i) ∧ J g ∧ Only c w g.state.server) ∧
              ((some rows).isSome = true → _)) => ⟨h.1, h.2 rfl⟩
          refine hcommit.bind fun ok => ?_
          cases ok with
          | true => exact Contract.Valid.done fun _ _ h => h.1
          | false => exact ih.strengthen fun _ _ h => ⟨h.1.1, h.2 rfl⟩

theorem valid_mysqlStatus (hreads : Reads host.sql opt name)
    (hstatus : w.status ∈ ["0".toList, "1".toList]) (hw : w.account = fold name) (hc : c.1 = i)
    (hA : Away A) (hJ : Permits i c w.account J) :
    logins.Valid i
      (fun ok g => A (g.own i) ∧ (ok = true → w.status = "1".toList → Holds i w.account g))
      (mysqlStatus host opt (some c) name w.status)
      fun g => A (g.own i) ∧ J g ∧ Only c w g.state.server := by
  refine (valid_statusLoop (hreads.update _ hstatus) hw hc hA hJ opt.retryQuery).bind fun ok => ?_
  cases ok with
  | true => exact Contract.Valid.done fun _ _ h => h
  | false =>
      refine ((valid_mysqlRollback (steady_own i A) hc).strengthen fun _ _ h => h.1).bind fun _ => ?_
      exact Contract.Valid.done fun _ _ h => ⟨h, by simp⟩

end Links

end ParDiff.PppSql
