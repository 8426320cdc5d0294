import ParDiff.Lib.Interleave
import ParDiff.Lib.Run
import ParDiff.OpenVpn.Refresh
import ParDiff.Ppp.Scripts

/-!
# The life of a row of `connections`

A row is open while its end lies before its start.  Four scripts write the table:
`mysql-ip-up` closes what is open on its interface and inserts an open row,
`mysql-ip-down` closes the row of its session, `update_traffic.pl` writes samples
into open rows and closes rows by id, and `openvpn-refresh.pl` inserts rows of its
own.  `Change` says once what a statement other than the insert of `mysql-ip-up`
can do, and the three laws of the table follow from it for every interleaving.
-/

namespace ParDiff.Ppp

open Lib Lib.Text

/-! ## Interfaces -/

/-- `slprintf(ifname, …, "ppp%d", ifunit)`. -/
def pppName (unit : Nat) : Str := "ppp".toList ++ dec unit

/-- The row is about a ppp interface. -/
def onPpp (r : Connection) : Prop := ∃ unit, onInterface (pppName unit) r = true

theorem fold_pppName (unit : Nat) : fold (pppName unit) = pppName unit := by
  refine fold_eq_self fun c hc => ?_
  rcases List.mem_append.1 hc with hc | hc
  · have hppp : "ppp".toList = List.replicate 3 'p' := rfl
    rw [hppp] at hc
    obtain rfl := List.eq_of_mem_replicate hc
    exact ⟨by decide, by decide⟩
  · have hdigit := isDigit_of_mem_dec hc
    refine ⟨toLower_of_isDigit hdigit, ?_⟩
    rintro rfl
    exact absurd hdigit (by decide)

theorem length_pppName_le {unit : Nat} (h : unit < 2 ^ 31) : (pppName unit).length ≤ 20 := by
  have hdigits : (dec unit).length ≤ 10 := length_dec_le (by decide) (by omega)
  have hprefix : "ppp".toList.length = 3 := rfl
  rw [pppName, List.length_append]
  omega

theorem pppName_ne_openvpn (unit : Nat) : ciEq "OPENVPN".toList (pppName unit) = false := by
  have hfold : fold "OPENVPN".toList = "openvpn".toList := by decide
  rw [ciEq, hfold, fold_pppName]
  simp [pppName]

theorem ciEq_pppName {a b : Nat} (h : ciEq (pppName a) (pppName b) = true) : a = b := by
  rw [ciEq_iff, fold_pppName, fold_pppName] at h
  exact dec_injective (List.append_cancel_left h)

/-! ## What a statement can do -/

/-- What an update at time `now` can make of a row. -/
structure Follows (now : Time) (r r' : Connection) : Prop where
  id : r'.id = r.id
  interface : r'.interface = r.interface
  startTime : r'.startTime = r.startTime
  endTime : r'.endTime = r.endTime ∨ r'.endTime = now
  traffic : isOpen r = false → r'.connectionTraffic = r.connectionTraffic

/-- The rows are updated, or a row is added that is not about a ppp interface. -/
inductive Change (db db' : Db) : Prop
  | update (hnow : db'.now = db.now) (g : Connection → Connection)
      (hg : ∀ r, Follows db.now r (g r))
      (hrows : db'.connections.rows = db.connections.rows.map g)
  | insert (hnow : db'.now = db.now) (row : Connection) (hend : row.endTime = db.now)
      (hrow : ¬onPpp row) (hrows : db'.connections.rows = db.connections.rows ++ [row])

theorem Follows.refl (now : Time) (r : Connection) : Follows now r r :=
  ⟨rfl, rfl, rfl, .inl rfl, fun _ => rfl⟩

theorem change_of_connections_eq {db db' : Db} (hnow : db'.now = db.now)
    (h : db'.connections = db.connections) : Change db db' :=
  .update hnow (fun r => r) (fun r => .refl _ r) (by simp [h])

theorem change_update {db db' : Db} {p : Connection → Bool} {f : Connection → Connection}
    (hnow : db'.now = db.now) (hrows : db'.connections.rows = updateAll p f db.connections.rows)
    (hf : ∀ r, p r = true → Follows db.now r (f r)) : Change db db' := by
  refine .update hnow (fun r => if p r then f r else r) (fun r => ?_) hrows
  by_cases hp : p r
  · rw [if_pos hp]
    exact hf r hp
  · rw [if_neg hp]
    exact .refl _ r

theorem change_closeWhere (p : Connection → Bool) (db : Db) : Change db (closeWhere p db) :=
  change_update rfl rfl fun _ _ => ⟨rfl, rfl, rfl, .inr rfl, fun _ => rfl⟩

theorem change_finishConnection (traffic : Int) (username interface : Str) (db : Db) :
    Change db (finishConnection traffic username interface db) := by
  refine change_update rfl rfl fun r hr => ⟨rfl, rfl, rfl, .inr rfl, fun hclosed => ?_⟩
  simp [ofSession, hclosed] at hr

theorem change_storeSample (s : Sample) (db : Db) : Change db (storeSample s db) := by
  refine change_update rfl rfl fun r hr => ⟨rfl, rfl, rfl, .inl rfl, fun hclosed => ?_⟩
  simp [hclosed] at hr

theorem change_insertHistory (r : OpenvpnConnection) (db : Db) :
    Change db (OpenVpn.insertHistory r db) := by
  refine .insert rfl (OpenVpn.historyRow db.now r db.connections.auto) rfl ?_ rfl
  rintro ⟨unit, hunit⟩
  have hno := pppName_ne_openvpn unit
  simp only [onInterface, OpenVpn.historyRow] at hunit
  rw [hno] at hunit
  cases hunit

/-! ## The table and the clock -/

/-- Nothing has ended in the future, and no ppp session has started there. -/
structure Sane (db : Db) : Prop where
  ended : ∀ r ∈ db.connections.rows, r.endTime ≤ db.now
  started : ∀ r ∈ db.connections.rows, onPpp r → r.startTime ≤ db.now

/-- Every ppp interface has at most one open row. -/
def AtMostOneOpen (db : Db) : Prop :=
  ∀ unit, ∀ r ∈ db.connections.rows, ∀ s ∈ db.connections.rows, isOpen r = true →
    isOpen s = true → onInterface (pppName unit) r = true →
    onInterface (pppName unit) s = true → r = s

/-- The interface has no open row. -/
def NoneOpen (unit : Nat) (db : Db) : Prop :=
  ∀ r ∈ db.connections.rows, onInterface (pppName unit) r = true → isOpen r = false

/-- Closed rows stay, closed and with their traffic. -/
def ClosedStay (db db' : Db) : Prop :=
  ∀ r ∈ db.connections.rows, isOpen r = false → ∃ r' ∈ db'.connections.rows,
    r'.id = r.id ∧ isOpen r' = false ∧ r'.connectionTraffic = r.connectionTraffic

theorem onInterface_congr {r r' : Connection} (h : r'.interface = r.interface) (name : Str) :
    onInterface name r' = onInterface name r := by
  rw [onInterface, onInterface, h]

theorem isOpen_eq_false {r : Connection} : isOpen r = false ↔ r.startTime ≤ r.endTime := by
  simp [isOpen]

/-- The end of a row only moves on, so an update closes rows and opens none. -/
theorem Follows.closed {now : Time} {r r' : Connection} (h : Follows now r r')
    (hend : r.endTime ≤ now) (hclosed : isOpen r = false) : isOpen r' = false := by
  rw [isOpen_eq_false] at hclosed ⊢
  rw [h.startTime]
  rcases h.endTime with heq | heq
  · rwa [heq]
  · rw [heq]
    exact hclosed.trans hend

theorem Follows.open_of_open {now : Time} {r r' : Connection} (h : Follows now r r')
    (hend : r.endTime ≤ now) (hopen : isOpen r' = true) : isOpen r = true := by
  by_contra hne
  rw [Bool.not_eq_true] at hne
  rw [h.closed hend hne] at hopen
  cases hopen

theorem ClosedStay.refl (db : Db) : ClosedStay db db := fun r hr hclosed => ⟨r, hr, rfl, hclosed, rfl⟩

theorem ClosedStay.trans {db db' db'' : Db} (h : ClosedStay db db') (h' : ClosedStay db' db'') :
    ClosedStay db db'' := by
  intro r hr hclosed
  obtain ⟨r', hr', hid, hclosed', htraffic⟩ := h r hr hclosed
  obtain ⟨r'', hr'', hid', hclosed'', htraffic'⟩ := h' r' hr' hclosed'
  exact ⟨r'', hr'', hid'.trans hid, hclosed'', htraffic'.trans htraffic⟩

namespace Change

variable {db db' : Db}

theorem sane (h : Change db db') (hsane : Sane db) : Sane db' := by
  cases h with
  | update hnow g hg hrows =>
      constructor <;> rw [hrows, hnow] <;> intro r' hr' <;> obtain ⟨r, hr, rfl⟩ := List.mem_map.1 hr'
      · rcases (hg r).endTime with heq | heq
        · rw [heq]
          exact hsane.ended r hr
        · rw [heq]
      · rintro ⟨unit, hunit⟩
        rw [onInterface_congr (hg r).interface] at hunit
        rw [(hg r).startTime]
        exact hsane.started r hr ⟨unit, hunit⟩
  | insert hnow row hend hrow hrows =>
      constructor <;> rw [hrows, hnow] <;> intro r' hr' <;> rcases List.mem_append.1 hr' with hr | hr
      · exact hsane.ended r' hr
      · rw [List.mem_singleton.1 hr, hend]
      · exact hsane.started r' hr
      · rw [List.mem_singleton.1 hr]
        exact fun hppp => absurd hppp hrow

/-- An open row of a ppp interface was open before. -/
theorem origin (h : Change db db') (hsane : Sane db) {unit : Nat} {r' : Connection}
    (hr' : r' ∈ db'.connections.rows) (hopen : isOpen r' = true)
    (hunit : onInterface (pppName unit) r' = true) :
    ∃ r ∈ db.connections.rows, r.id = r'.id ∧ isOpen r = true ∧
      onInterface (pppName unit) r = true := by
  cases h with
  | update hnow g hg hrows =>
      rw [hrows] at hr'
      obtain ⟨r, hr, rfl⟩ := List.mem_map.1 hr'
      refine ⟨r, hr, (hg r).id.symm, (hg r).open_of_open (hsane.ended r hr) hopen, ?_⟩
      rwa [onInterface_congr (hg r).interface] at hunit
  | insert hnow row hend hrow hrows =>
      rw [hrows] at hr'
      rcases List.mem_append.1 hr' with hr | hr
      · exact ⟨r', hr, rfl, hopen, hunit⟩
      · rw [List.mem_singleton.1 hr] at hunit
        exact absurd ⟨unit, hunit⟩ hrow

theorem atMostOneOpen (h : Change db db') (hsane : Sane db) (hone : AtMostOneOpen db) :
    AtMostOneOpen db' := by
  intro unit r' hr' s' hs' hopenR hopenS hunitR hunitS
  obtain ⟨r, hr, hrid, hropen, hrunit⟩ := h.origin hsane hr' hopenR hunitR
  obtain ⟨s, hs, hsid, hsopen, hsunit⟩ := h.origin hsane hs' hopenS hunitS
  have hrs : r = s := hone unit r hr s hs hropen hsopen hrunit hsunit
  exact db'.connections.eq_of_key_eq hr' hs' (hrid.symm.trans (hrs ▸ hsid))

theorem noneOpen (h : Change db db') (hsane : Sane db) {unit : Nat} (hnone : NoneOpen unit db) :
    NoneOpen unit db' := by
  intro r' hr' hunit
  by_contra hopen
  rw [Bool.not_eq_false] at hopen
  obtain ⟨r, hr, -, hropen, hrunit⟩ := h.origin hsane hr' hopen hunit
  rw [hnone r hr hrunit] at hropen
  cases hropen

theorem closedStay (h : Change db db') (hsane : Sane db) : ClosedStay db db' := by
  intro r hr hclosed
  cases h with
  | update hnow g hg hrows =>
      refine ⟨g r, ?_, (hg r).id, (hg r).closed (hsane.ended r hr) hclosed, (hg r).traffic hclosed⟩
      rw [hrows]
      exact List.mem_map_of_mem hr
  | insert hnow row hend hrow hrows =>
      refine ⟨r, ?_, rfl, hclosed, rfl⟩
      rw [hrows]
      exact List.mem_append_left _ hr

end Change

/-! ## The scripts -/

/-- An execution of `mysql-ip-up` by `pppd`, on a ppp interface. -/
structure Up where
  ppid : Int
  unit : Nat
  link : Link
  username : Str
  unit_lt : unit < 2 ^ 31
  ifname : link.ifname = pppName unit

inductive Job
  | ipUp (u : Up)
  | ipDown (argv : List Str)
  | updateTraffic (samples : List Sample)
  | openvpnRefresh (status : Option (List OpenVpn.Client))

def Up.script (u : Up) : Sql Unit := mysqlIpUp u.ppid (ipUpArgv u.link u.username)

def Job.script : Job → Sql Unit
  | .ipUp u => u.script
  | .ipDown argv => mysqlIpDown argv
  | .updateTraffic samples => Ppp.updateTraffic samples
  | .openvpnRefresh status => OpenVpn.openvpnRefresh status

/-- The last statement of `mysql-ip-up`. -/
def Up.logging (u : Up) : Sql Unit :=
  insertLog ("[login] User: ".toList ++ u.username ++ ", IP: ".toList ++ u.link.ipparam)

/-- What is left of `mysql-ip-up` between its two statements on `connections`. -/
def Up.opening (u : Up) : Sql Unit :=
  (Script.modify (insertConnection u.username u.link.ipparam u.link.ifname u.ppid)
    fun _ => []).bind fun _ => u.logging

/-- Every statement is a change. -/
def Harmless (act : Db → Db × List Event) : Prop := ∀ db, Change db (act db).1

theorem harmless_insertLog (event : Str) : (insertLog event).Every Harmless :=
  Script.every_exec fun _ => change_of_connections_eq rfl rfl

theorem harmless_query {α : Type} (f : Db → α) : (Script.query f : Sql α).Every Harmless :=
  Script.every_exec fun _ => change_of_connections_eq rfl rfl

theorem harmless_mysqlIpDown (argv : List Str) : (mysqlIpDown argv).Every Harmless := by
  unfold mysqlIpDown
  split
  · refine Script.Every.bind (Script.every_exec fun db => change_finishConnection _ _ _ db)
      fun _ => ?_
    refine Script.Every.bind (Script.every_exec fun _ => change_of_connections_eq rfl rfl)
      fun _ => ?_
    exact harmless_insertLog _
  · trivial

theorem harmless_killSession (e : Ended) : (killSession e).Every Harmless :=
  Script.every_exec fun _ => change_of_connections_eq rfl rfl

theorem harmless_updateTraffic (samples : List Sample) :
    (updateTraffic samples).Every Harmless := by
  refine Script.Every.bind (Script.every_forEach fun s _ =>
    Script.every_exec fun db => change_storeSample s db) fun _ => ?_
  refine (harmless_query _).bind fun heavyEnded => ?_
  refine Script.Every.bind (Script.every_forEach fun e _ => harmless_killSession e) fun _ => ?_
  refine (harmless_query _).bind fun exceededEnded => ?_
  refine Script.Every.bind (Script.every_forEach fun e _ => harmless_killSession e) fun _ => ?_
  refine Script.Every.bind (Script.every_forEach fun id _ =>
    Script.every_exec fun db => change_closeWhere _ db) fun _ => ?_
  exact harmless_insertLog _

theorem harmless_refreshClient (c : OpenVpn.Client) :
    (OpenVpn.refreshClient c).Every Harmless := by
  refine (harmless_query _).bind fun known => ?_
  split
  · exact Script.every_exec fun _ => change_of_connections_eq rfl rfl
  · refine (harmless_insertLog _).bind fun _ => ?_
    unfold OpenVpn.insertClient
    split <;> exact Script.every_exec fun _ => change_of_connections_eq rfl rfl

theorem harmless_settle (finished : List OpenvpnConnection) :
    (OpenVpn.settle finished).Every Harmless := by
  refine (harmless_query _).bind fun exceeds => ?_
  refine Script.Every.bind (Script.every_forEach fun name _ => ?_) fun _ => ?_
  · exact (harmless_insertLog _).bind fun _ =>
      Script.every_exec fun _ => change_of_connections_eq rfl rfl
  · refine Script.every_forEach fun r _ => ?_
    refine Script.Every.bind (Script.every_exec fun db => change_insertHistory r db) fun _ => ?_
    refine Script.Every.bind (Script.every_exec fun _ => change_of_connections_eq rfl rfl)
      fun _ => ?_
    exact Script.every_exec fun _ => change_of_connections_eq rfl rfl

theorem harmless_openvpnRefresh (status : Option (List OpenVpn.Client)) :
    (OpenVpn.openvpnRefresh status).Every Harmless := by
  cases status with
  | none => exact harmless_insertLog _
  | some clients =>
      refine Script.Every.bind (Script.every_exec fun _ => change_of_connections_eq rfl rfl)
        fun _ => ?_
      refine (harmless_insertLog _).bind fun _ => ?_
      refine Script.Every.bind (Script.every_forEach fun c _ => harmless_refreshClient c)
        fun _ => ?_
      refine Script.Every.bind ?_ harmless_settle
      refine Script.Every.bind (Script.every_exec fun _ => change_of_connections_eq rfl rfl)
        fun finished => ?_
      exact Script.Every.bind (Script.every_forEach fun r _ => harmless_insertLog _)
        fun _ => trivial

/-! ## The two statements of `mysql-ip-up` -/

/-- Closing what is open on the interface leaves nothing open there. -/
theorem noneOpen_closeWhere {db : Db} (hsane : Sane db) (unit : Nat) :
    NoneOpen unit (closeWhere (fun r => onInterface (pppName unit) r && isOpen r) db) := by
  intro r' hr' hunit
  obtain ⟨r, hr, rfl⟩ := mem_updateAll.1 hr'
  by_cases hp : (onInterface (pppName unit) r && isOpen r) = true
  · rw [if_pos hp]
    rw [Bool.and_eq_true] at hp
    rw [isOpen_eq_false]
    exact hsane.started r hr ⟨unit, hp.1⟩
  · rw [if_neg hp] at hunit ⊢
    simpa [hunit] using hp

/-- The row that `mysql-ip-up` inserts. -/
def Up.row (u : Up) (now : Time) (id : Nat) : Connection :=
  ⟨id, u.link.ipparam.take 20, none, now, 0, some (u.username.take 200), some (pppName u.unit),
    u.ppid⟩

/-- The state after the insert. -/
def Up.opened (u : Up) (db : Db) : Db :=
  insertConnection u.username u.link.ipparam u.link.ifname u.ppid db

theorem Up.opened_rows (u : Up) (db : Db) :
    (u.opened db).connections.rows =
      db.connections.rows ++ [u.row db.now db.connections.auto] := by
  have hcut : u.link.ifname.take 20 = pppName u.unit := by
    rw [u.ifname, List.take_of_length_le (length_pppName_le u.unit_lt)]
  simp only [Up.opened, insertConnection, Up.row, Table.insert_rows, hcut]

theorem Up.row_unit {u : Up} {now : Time} {id unit : Nat}
    (h : onInterface (pppName unit) (u.row now id) = true) : u.unit = unit :=
  ciEq_pppName h

theorem Up.opened_sane (u : Up) {db : Db} (hsane : Sane db) : Sane (u.opened db) := by
  constructor <;> rw [u.opened_rows] <;> intro r hr <;> rcases List.mem_append.1 hr with hr | hr
  · exact hsane.ended r hr
  · rw [List.mem_singleton.1 hr]
    exact Nat.zero_le _
  · exact hsane.started r hr
  · rw [List.mem_singleton.1 hr]
    exact fun _ => Nat.le_refl _

theorem Up.opened_atMostOne (u : Up) {db : Db} (hone : AtMostOneOpen db)
    (hnone : NoneOpen u.unit db) : AtMostOneOpen (u.opened db) := by
  have hold : ∀ {unit : Nat} {id : Nat} {r : Connection}, r ∈ db.connections.rows →
      isOpen r = true → onInterface (pppName unit) r = true →
      onInterface (pppName unit) (u.row db.now id) = true → False := by
    intro unit id r hr hopen hunit hnew
    obtain rfl := Up.row_unit hnew
    rw [hnone r hr hunit] at hopen
    cases hopen
  intro unit r hr s hs hopenR hopenS hunitR hunitS
  rw [u.opened_rows] at hr hs
  rcases List.mem_append.1 hr with hr | hr <;> rcases List.mem_append.1 hs with hs | hs
  · exact hone unit r hr s hs hopenR hopenS hunitR hunitS
  · rw [List.mem_singleton.1 hs] at hunitS
    exact (hold hr hopenR hunitR hunitS).elim
  · rw [List.mem_singleton.1 hr] at hunitR
    exact (hold hs hopenS hunitS hunitR).elim
  · rw [List.mem_singleton.1 hr, List.mem_singleton.1 hs]

theorem Up.opened_noneOpen (u : Up) {db : Db} {unit : Nat} (hne : u.unit ≠ unit)
    (hnone : NoneOpen unit db) : NoneOpen unit (u.opened db) := by
  intro r hr hunit
  rw [u.opened_rows] at hr
  rcases List.mem_append.1 hr with hr | hr
  · exact hnone r hr hunit
  · rw [List.mem_singleton.1 hr] at hunit
    exact absurd (Up.row_unit hunit) hne

theorem Up.opened_closedStay (u : Up) (db : Db) : ClosedStay db (u.opened db) := by
  intro r hr hclosed
  refine ⟨r, ?_, rfl, hclosed, rfl⟩
  rw [u.opened_rows]
  exact List.mem_append_left _ hr

/-! ## Every interleaving -/

section

variable {ι : Type} [DecidableEq ι] (job : ι → Job)

/-- The executions, all at their start. -/
def executions (db : Db) : Config ι Db Event Unit := Config.init db fun i => (job i).script

/-- No two executions of `mysql-ip-up` on one interface are between their two
statements on `connections` at the same time. -/
def Serial (c : Config ι Db Event Unit) : Prop :=
  ∀ i j u v, i ≠ j → job i = .ipUp u → job j = .ipUp v → u.unit = v.unit →
    c.proc i = some u.opening → c.proc j ≠ some v.opening

/-- What is left of an execution: nothing but changes, or `mysql-ip-up` at its start
or between its two statements, and then its interface has no open row. -/
def Stands (db : Db) (job : Job) (p : Option (Sql Unit)) : Prop :=
  (∀ script, p = some script → script.Every Harmless) ∨
    ∃ u, job = .ipUp u ∧ (p = some u.script ∨ p = some u.opening ∧ NoneOpen u.unit db)

structure Lively (c : Config ι Db Event Unit) : Prop where
  sane : Sane c.state
  one : AtMostOneOpen c.state
  stands : ∀ i, Stands c.state (job i) (c.proc i)

variable {job} {c : Config ι Db Event Unit}

omit [DecidableEq ι] in
theorem Stands.change {db db' : Db} {j : Job} {p : Option (Sql Unit)} (h : Stands db j p)
    (hsane : Sane db) (hchange : Change db db') : Stands db' j p := by
  rcases h with h | ⟨u, hj, hp | ⟨hp, hnone⟩⟩
  · exact .inl h
  · exact .inr ⟨u, hj, .inl hp⟩
  · exact .inr ⟨u, hj, .inr ⟨hp, hchange.noneOpen hsane hnone⟩⟩

/-- A process executes a statement that is a change, and stands where it may. -/
theorem Lively.change (h : Lively job c) {i : ι} {act : Db → Db × List Event} {p : Sql Unit}
    (hchange : Change c.state (act c.state).1)
    (hp : Stands (act c.state).1 (job i) (some p)) :
    Lively job ⟨c.toShared.exec i act, Function.update c.proc i (some p)⟩ ∧
      ClosedStay c.state (act c.state).1 := by
  refine ⟨⟨hchange.sane h.sane, hchange.atMostOneOpen h.sane h.one, fun j => ?_⟩,
    hchange.closedStay h.sane⟩
  by_cases hj : j = i
  · subst hj
    simpa using hp
  · dsimp only
    rw [Function.update_of_ne hj]
    exact (h.stands j).change h.sane hchange

/-- `mysql-ip-up` inserts its row. -/
theorem Lively.opened (h : Lively job c) (hserial : Serial job c) {i : ι} {u : Up}
    (hi : job i = .ipUp u) (hp : c.proc i = some u.opening) (hnone : NoneOpen u.unit c.state) :
    Lively job ⟨c.toShared.exec i fun db => (u.opened db, []),
        Function.update c.proc i (some u.logging)⟩ ∧
      ClosedStay c.state (u.opened c.state) := by
  refine ⟨⟨u.opened_sane h.sane, u.opened_atMostOne h.one hnone, fun j => ?_⟩,
    u.opened_closedStay c.state⟩
  by_cases hj : j = i
  · subst hj
    refine .inl fun script hscript => ?_
    obtain rfl : u.logging = script := by simpa using hscript
    exact harmless_insertLog _
  · dsimp only
    rw [Function.update_of_ne hj]
    rcases h.stands j with hharmless | ⟨v, hv, hstart | ⟨hopening, hnoneV⟩⟩
    · exact .inl hharmless
    · exact .inr ⟨v, hv, .inl hstart⟩
    · have hne : u.unit ≠ v.unit := by
        intro hunit
        exact hserial i j u v (Ne.symm hj) hi hv hunit hp hopening
      exact .inr ⟨v, hv, .inr ⟨hopening, u.opened_noneOpen hne hnoneV⟩⟩

theorem Lively.act_step (h : Lively job c) (hserial : Serial job c) (i : ι) :
    Lively job (c.act Db.tick (.step i)) ∧
      ClosedStay c.state (c.act Db.tick (.step i)).state := by
  rcases h.stands i with hharmless | ⟨u, hi, hp | ⟨hp, hnone⟩⟩
  · rcases c.act_step_cases Db.tick i with ⟨hidle, -⟩ | ⟨act, next, hp, hact, -⟩
    · rw [hidle]
      exact ⟨h, .refl _⟩
    · rw [hact]
      have hevery := hharmless _ hp
      refine h.change (hevery.1 c.state) (.inl fun script hscript => ?_)
      obtain rfl := Option.some.inj hscript
      exact hevery.2 c.state
  · have hact : c.act Db.tick (.step i) =
        ⟨c.toShared.exec i fun db =>
            (closeWhere (fun r => onInterface u.link.ifname r && isOpen r) db, []),
          Function.update c.proc i (some u.opening)⟩ := by
      simp only [Config.act, hp]
      rfl
    rw [hact, u.ifname]
    refine h.change (change_closeWhere _ c.state) (.inr ⟨u, hi, .inr ⟨rfl, ?_⟩⟩)
    exact noneOpen_closeWhere h.sane u.unit
  · have hact : c.act Db.tick (.step i) =
        ⟨c.toShared.exec i fun db => (u.opened db, []),
          Function.update c.proc i (some u.logging)⟩ := by
      simp only [Config.act, hp]
      rfl
    rw [hact]
    exact h.opened hserial hi hp hnone

theorem Lively.act (h : Lively job c) (hserial : Serial job c) (a : Turn ι Nat) :
    Lively job (c.act Db.tick a) ∧ ClosedStay c.state (c.act Db.tick a).state := by
  cases a with
  | step i => exact h.act_step hserial i
  | stop i =>
      refine ⟨⟨h.sane, h.one, fun j => ?_⟩, .refl _⟩
      by_cases hj : j = i
      · exact .inl fun script hscript => by simp [Config.act, hj] at hscript
      · have hproc : (c.act Db.tick (.stop i : Turn ι Nat)).proc j = c.proc j := by
          simp [Config.act, hj]
        rw [hproc]
        exact h.stands j
  | tick t =>
      have hlater : c.state.now ≤ c.state.now + t := Nat.le_add_right _ t
      refine ⟨⟨⟨fun r hr => ?_, fun r hr hppp => ?_⟩, h.one, h.stands⟩, .refl _⟩
      · exact (h.sane.ended r hr).trans hlater
      · exact (h.sane.started r hr hppp).trans hlater

omit [DecidableEq ι] in
theorem lively_executions {db : Db} (hempty : db.connections.rows = []) :
    Lively job (executions job db) := by
  refine ⟨⟨?_, ?_⟩, ?_, fun i => ?_⟩
  · simp [executions, Config.init, hempty]
  · simp [executions, Config.init, hempty]
  · simp [AtMostOneOpen, executions, Config.init, hempty]
  · cases hi : job i with
    | ipUp u => exact .inr ⟨u, rfl, .inl (by simp [executions, Config.init, hi, Job.script])⟩
    | ipDown argv =>
        refine .inl fun script hscript => ?_
        obtain rfl : mysqlIpDown argv = script := by
          simpa [executions, Config.init, hi, Job.script] using hscript
        exact harmless_mysqlIpDown argv
    | updateTraffic samples =>
        refine .inl fun script hscript => ?_
        obtain rfl : updateTraffic samples = script := by
          simpa [executions, Config.init, hi, Job.script] using hscript
        exact harmless_updateTraffic samples
    | openvpnRefresh status =>
        refine .inl fun script hscript => ?_
        obtain rfl : OpenVpn.openvpnRefresh status = script := by
          simpa [executions, Config.init, hi, Job.script] using hscript
        exact harmless_openvpnRefresh status

/-- From a lively configuration on, the table keeps its laws. -/
theorem Lively.run {schedule : List (Turn ι Nat)} (h : Lively job c)
    (hserial : Along (Config.act Db.tick) (fun c _ => Serial job c) c schedule) :
    Lively job (c.run Db.tick schedule) ∧
      ClosedStay c.state (c.run Db.tick schedule).state := by
  induction schedule generalizing c with
  | nil => exact ⟨h, .refl _⟩
  | cons a schedule ih =>
      obtain ⟨hnext, hstay⟩ := h.act hserial.1 a
      obtain ⟨hend, hstay'⟩ := ih hnext hserial.2
      exact ⟨hend, hstay.trans hstay'⟩

/-- **The life of a connection.**  From an empty table, in every interleaving of the
four scripts in which the executions of `mysql-ip-up` on one interface take turns:
every ppp interface has at most one open row, and a row that was closed once stays
closed and keeps its traffic. -/
theorem connections_lifecycle (job : ι → Job) (db : Db) (hempty : db.connections.rows = [])
    (schedule : List (Turn ι Nat))
    (hserial : Along (Config.act Db.tick) (fun c _ => Serial job c) (executions job db) schedule) :
    AtMostOneOpen ((executions job db).run Db.tick schedule).state ∧
      ∀ earlier later, schedule = earlier ++ later →
        ClosedStay ((executions job db).run Db.tick earlier).state
          ((executions job db).run Db.tick schedule).state := by
  refine ⟨((lively_executions hempty).run hserial).1.one, ?_⟩
  rintro earlier later rfl
  obtain ⟨hearlier, hlater⟩ := Along.append_iff.1 hserial
  have hlively := ((lively_executions hempty).run hearlier).1
  have hsplit : (executions job db).run Db.tick (earlier ++ later) =
      ((executions job db).run Db.tick earlier).run Db.tick later := List.foldl_append
  rw [hsplit]
  exact (hlively.run hlater).2

end

/-! ## Two sessions in turn -/

theorem Up.script_ne_opening (u : Up) : u.script ≠ u.opening := by
  intro h
  have hact := (Script.stmt.inj h).1
  have hrows : 0 = 1 :=
    congrArg (fun act => (act (Db.empty 0)).1.connections.rows.length) hact
  cases hrows

theorem Up.opening_ne_done (u : Up) : u.opening ≠ .done () := by
  intro h
  cases h

def ppp0 : Link := ⟨pppName 0, "/dev/pts/1".toList, 115200, 0, 0, "10.0.0.9".toList, 0, 0, 0⟩

theorem zero_lt_units : 0 < 2 ^ 31 := by decide

/-- Two sessions on `ppp0`. -/
def turns (second : Bool) : Job :=
  .ipUp ⟨if second then 201 else 200, 0, ppp0, "bob".toList, zero_lt_units, rfl⟩

/-- The second session waits, or the first one is done. -/
theorem serial_turns {c : Config Bool Db Event Unit}
    (h : (∀ u, turns true = .ipUp u → c.proc true = some u.script) ∨
      c.proc false = some (.done ())) : Serial turns c := by
  have hwaits : ∀ u, turns true = .ipUp u → c.proc true = some u.opening → ∀ v : Up,
      c.proc false ≠ some v.opening := by
    rcases h with h | h
    · intro u hu hp
      exact absurd (Option.some.inj ((h u hu).symm.trans hp)) u.script_ne_opening
    · intro u hu hp v hq
      exact v.opening_ne_done (Option.some.inj (hq.symm.trans h))
  rintro (_ | _) (_ | _) u v hij hu hv - hp hq
  · exact hij rfl
  · exact hwaits v hv hq u hp
  · exact hwaits u hu hp v hq
  · exact hij rfl

def turnsSchedule : List (Turn Bool Nat) :=
  List.replicate 3 (.step false) ++ .tick 60 :: List.replicate 3 (.step true)

theorem connections_lifecycle_turns :
    AtMostOneOpen ((executions turns (Db.empty 5)).run Db.tick turnsSchedule).state :=
  (connections_lifecycle turns (Db.empty 5) rfl turnsSchedule
    ⟨serial_turns (.inl fun _ hu => by cases hu; rfl),
      serial_turns (.inl fun _ hu => by cases hu; rfl),
      serial_turns (.inl fun _ hu => by cases hu; rfl), serial_turns (.inr rfl),
      serial_turns (.inr rfl), serial_turns (.inr rfl), serial_turns (.inr rfl), trivial⟩).1

end ParDiff.Ppp
