import Mathlib.Data.Fintype.Option
import ParDiff.OpenVpn.Apart

/-!
# Overlapping and interrupted executions

Nothing keeps two executions of `openvpn-refresh.pl` apart: both may read a row
as finished before either deletes it, and an execution that stops after the
deduction leaves the row for the next one.  Both times the session is billed
twice.

What does hold in every schedule is that an execution bills only rows it has read
as finished, each of them once, and that none of these is in its snapshot.  If the
executions keep apart, from the `SELECT` of the finished rows to the last `DELETE`,
and none stops in the loop in between, every row is billed at most once.
-/

namespace ParDiff.OpenVpn

open Lib Lib.Text

section

variable {ι : Type} [DecidableEq ι] {db : Db}
  {status : ι → Option (List Client)} {g : Shared ι Db Event}

/-! ## The script meets the contract -/

/-- An assertion about the events of one execution that quiet events keep. -/
def KeptByQuiet (p : List Event → Prop) : Prop :=
  ∀ es es', p es → (∀ e ∈ es', quiet e = true) → p (es ++ es')

section Valid

variable {i : ι} {p : List Event → Prop}

theorem valid_quiet {α : Type} (hp : KeptByQuiet p) {f : Db → α × Db × List Event}
    (hf : ∀ s, Quiet s (f s).2.1 (f s).2.2) :
    (contract db status).Valid i (fun _ g => p (g.own i)) (.exec f)
      (fun g => p (g.own i)) := by
  refine Contract.Valid.exec (fun _ => Contract.Stable.own p) ?_
  intro g hinv hown _
  refine ⟨hinv.quiet i (hf g.state), trivial, ?_⟩
  rw [Shared.own_exec_self]
  exact hp _ _ hown (hf g.state).events

theorem quiet_refl {s : Db} {es : List Event} (hes : ∀ e ∈ es, OpenVpn.quiet e = true) :
    Quiet s s es :=
  ⟨rfl, rfl, Nat.le_refl _, fun r hr => .inl ⟨r, hr, rfl⟩, hes⟩

theorem valid_query {α : Type} (hp : KeptByQuiet p) (f : Db → α) :
    (contract db status).Valid i (fun _ g => p (g.own i)) (.query f)
      (fun g => p (g.own i)) :=
  valid_quiet hp fun _ => quiet_refl (by simp)

theorem valid_log (hp : KeptByQuiet p) (message : Str) :
    (contract db status).Valid i (fun _ g => p (g.own i)) (log message)
      (fun g => p (g.own i)) :=
  valid_quiet hp fun _ => ⟨rfl, rfl, Nat.le_refl _, fun r hr => .inl ⟨r, hr, rfl⟩, by simp⟩

theorem valid_insertClient (hp : KeptByQuiet p) (c : Client) :
    (contract db status).Valid i (fun _ g => p (g.own i)) (insertClient c)
      (fun g => p (g.own i)) := by
  unfold insertClient
  split
  · refine valid_quiet hp fun s => ⟨rfl, rfl, Nat.le_succ _, fun r' hr' => ?_, by simp [quiet]⟩
    rcases List.mem_append.1 hr' with hr' | hr'
    · exact .inl ⟨r', hr', rfl⟩
    · rw [List.mem_singleton.1 hr']
      exact .inr (Nat.le_refl _)
  · exact valid_quiet hp fun s => quiet_refl (by simp)

theorem valid_refreshClient (hp : KeptByQuiet p) (c : Client) :
    (contract db status).Valid i (fun _ g => p (g.own i)) (refreshClient c)
      (fun g => p (g.own i)) := by
  refine (valid_query hp _).bind fun known => ?_
  split
  · refine valid_quiet hp fun s => ⟨rfl, rfl, Nat.le_refl _, fun r' hr' => ?_, by simp⟩
    obtain ⟨r, hr, rfl⟩ := mem_updateAll.1 hr'
    refine .inl ⟨r, hr, ?_⟩
    split <;> rfl
  · exact (valid_log hp _).bind fun _ => valid_insertClient hp c

theorem valid_forEach {β : Type} {body : β → Sql Unit}
    (hbody : ∀ b, (contract db status).Valid i (fun _ g => p (g.own i)) (body b)
      (fun g => p (g.own i))) (bs : List β) :
    (contract db status).Valid i (fun _ g => p (g.own i)) (.forEach bs body)
      (fun g => p (g.own i)) :=
  Contract.Valid.forEach (fun _ g => p (g.own i)) (fun b _ => hbody b) bs

/-- Polled, and nothing read as finished. -/
def Fresh (es : List Event) : Prop := es.filterMap listedRow = [] ∧ Event.polled ∈ es

theorem fresh_kept : KeptByQuiet Fresh := fun es es' h hes' =>
  ⟨by rw [List.filterMap_append, h.1, filterMap_listedRow_quiet hes']; rfl,
    List.mem_append_left _ h.2⟩

theorem holding_kept (rows : List OpenvpnConnection) :
    KeptByQuiet (Holding rows rows rows) := fun es es' h hes' => by
  simpa [Holding, List.filterMap_append, filterMap_listedRow_quiet hes',
    filterMap_movedRow_quiet hes', filterMap_deductedRow_quiet hes',
    filterMap_removedId_quiet hes'] using h

theorem valid_findFinished :
    (contract db status).Valid i (fun finished g => Holding finished finished finished (g.own i))
      (findFinished (hashes (status i))) (fun g => Fresh (g.own i)) := by
  refine Contract.Valid.bind (Q := fun finished g => Holding finished finished finished (g.own i))
    (Contract.Valid.exec
      (fun finished => Contract.Stable.own (Holding finished finished finished)) ?_)
    fun finished => (valid_forEach (fun _ => valid_log (holding_kept finished) _)
      finished).bind fun _ => Contract.Valid.done fun _ _ h => h
  intro g hinv hfresh _
  refine ⟨hinv.list i hfresh.1 hfresh.2, trivial, ?_⟩
  obtain ⟨hmoved, hdeducted, hremoved⟩ := (hinv.told i).nothing_moved hfresh.1
  rw [Holding, Shared.own_exec_self]
  simp only [List.filterMap_append, hfresh.1, hmoved, hdeducted, hremoved,
    filterMap_listedRow_map, filterMap_map_listed_eq_nil (p := movedRow) (fun _ => rfl),
    filterMap_map_listed_eq_nil (p := deductedRow) (fun _ => rfl),
    filterMap_map_listed_eq_nil (p := removedId) (fun _ => rfl), List.nil_append, and_self]

theorem valid_killUser (hp : KeptByQuiet p) (commonname : Str) :
    (contract db status).Valid i (fun _ g => p (g.own i)) (killUser commonname)
      (fun g => p (g.own i)) :=
  (valid_log hp _).bind fun _ => valid_quiet hp fun _ => quiet_refl (by simp [quiet])

theorem valid_moveConnection (r : OpenvpnConnection) (rest : List OpenvpnConnection) :
    (contract db status).Valid i (fun _ g => Holding rest rest rest (g.own i))
      (moveConnection r) (fun g => Holding (r :: rest) (r :: rest) (r :: rest) (g.own i)) := by
  refine Contract.Valid.bind (Q := fun _ g => Holding rest (r :: rest) (r :: rest) (g.own i))
    (Contract.Valid.exec (fun _ => Contract.Stable.own (Holding rest (r :: rest) (r :: rest))) ?_)
    fun _ => Contract.Valid.bind
      (Q := fun _ g => Holding rest rest (r :: rest) (g.own i) ∧ Event.listed r ∈ g.own i)
      (Contract.Valid.exec (fun _ => Contract.Stable.own fun es =>
        Holding rest rest (r :: rest) es ∧ Event.listed r ∈ es) ?_) fun _ =>
      Contract.Valid.exec (fun _ => Contract.Stable.own (Holding rest rest rest)) ?_
  · intro g hinv hholds _
    refine ⟨hinv.move hholds, trivial, ?_⟩
    rw [Shared.own_exec_self]
    exact hholds.move
  · intro g hinv hholds _
    refine ⟨hinv.deduct hholds, trivial, ?_⟩
    rw [Shared.own_exec_self]
    exact ⟨hholds.deduct _, List.mem_append_left _ hholds.mem_listed⟩
  · intro g hinv hholds _
    refine ⟨hinv.remove hholds.1 hholds.2, trivial, ?_⟩
    rw [Shared.own_exec_self]
    exact hholds.1.remove

theorem valid_settle (finished : List OpenvpnConnection) :
    (contract db status).Valid i (fun _ _ => True) (settle finished)
      (fun g => Holding finished finished finished (g.own i)) := by
  refine (valid_query (holding_kept finished) _).bind fun exceeds =>
    (valid_forEach (valid_killUser (holding_kept finished)) exceeds).bind fun _ => ?_
  refine Contract.Valid.weaken (Contract.Valid.forEach
    (fun left g => Holding left left left (g.own i)) valid_moveConnection finished) ?_
  exact fun _ _ _ _ => trivial

theorem valid_refreshConnected {clients : List Client} (hstatus : status i = some clients) :
    (contract db status).Valid i (fun _ _ => True) (refreshConnected clients)
      (fun g => g.own i = []) := by
  have hhashes : clients.map (·.hashStr) = hashes (status i) := by rw [hstatus]; rfl
  refine Contract.Valid.bind (Q := fun _ g => Fresh (g.own i))
    (Contract.Valid.exec (fun _ => Contract.Stable.own Fresh) ?_) fun _ =>
    (valid_log fresh_kept _).bind fun _ =>
    (valid_forEach (valid_refreshClient fresh_kept) clients).bind fun _ => ?_
  · intro g hinv hown _
    refine ⟨hinv.quiet i (quiet_refl (by simp [quiet])), trivial, ?_⟩
    rw [Shared.own_exec_self, hown]
    exact ⟨rfl, by simp⟩
  · rw [hhashes]
    exact valid_findFinished.bind valid_settle

theorem valid_openvpnRefresh :
    (contract db status).Valid i (fun _ _ => True) (openvpnRefresh (status i))
      (fun g => g.own i = []) := by
  cases hstatus : status i with
  | none =>
      exact (valid_log (p := fun _ => True) (fun _ _ _ _ => trivial) _).strengthen
        fun _ _ _ => trivial
  | some clients => exact valid_refreshConnected hstatus

end Valid

theorem contract_closed : (contract db status).Closed where
  tick _ _ h := ⟨h.told, h.removed, h.listed, h.login, h.history⟩
  stop _ _ _ _ := trivial
  halted_stable _ := Contract.Stable.const True

theorem inv_init : Inv db status ⟨db, []⟩ where
  told _ := ⟨List.prefix_rfl, List.prefix_rfl, List.prefix_rfl, List.nodup_nil,
    by simp [Shared.own], fun h => absurd rfl h⟩
  removed _ h := by simp [Shared.log] at h
  listed _ h := by simp [Shared.log] at h
  login := by simp [Shared.log]
  history := by simp [Shared.log]

end

/-! ## Every schedule -/

/-- Any number of executions, each with the snapshot it takes. -/
def executions {ι : Type} (db : Db) (status : ι → Option (List Client)) :
    Config ι Db Event Unit :=
  .init db fun i => openvpnRefresh (status i)

section

variable {ι : Type} [DecidableEq ι]

theorem inv_run (db : Db) (status : ι → Option (List Client)) (schedule : List (Turn ι Nat)) :
    Inv db status ((executions db status).run Db.tick schedule).toShared :=
  (Contract.init_run_sound (P := fun i g => g.own i = []) (Q := fun _ _ _ => True)
    contract_closed inv_init (fun _ => rfl) (fun _ => Contract.Stable.own (· = []))
    (fun _ => valid_openvpnRefresh) schedule
    (Config.admits_of_forall (fun _ _ _ => trivial) _ _)).1

/-- What the events say is what the tables show. -/
def Accounted (db : Db) (g : Shared ι Db Event) : Prop :=
  g.state.login.rows = db.login.rows.map (fun u =>
      u.addCredit (creditChange g.log u.username)) ∧
    g.state.connections.rows.map historyColumns =
      db.connections.rows.map historyColumns ++ (g.log.filterMap movedRow).map historyOf

/-- The session is in every snapshot taken so far. -/
def InEverySnapshot (status : ι → Option (List Client)) (g : Shared ι Db Event)
    (session : Str) : Prop :=
  ∀ i, Event.polled ∈ g.own i → session ∈ hashes (status i)

/-- Some execution has moved the row or deducted it. -/
def Billed (g : Shared ι Db Event) (r : OpenvpnConnection) : Prop :=
  r ∈ g.log.filterMap movedRow ∨ r ∈ g.log.filterMap deductedRow

/-- At most one deduction and at most one row of `connections` for every row of
`openvpn_connections`. -/
def BilledOnce (g : Shared ι Db Event) : Prop :=
  ∀ id, (g.log.filterMap deductedRow).countP (·.id == id) ≤ 1 ∧
    (g.log.filterMap movedRow).countP (·.id == id) ≤ 1

theorem Told.listed_of_billed {status : Option (List Client)} {es : List Event}
    (h : Told status es) {r : OpenvpnConnection}
    (hr : r ∈ es.filterMap movedRow ∨ r ∈ es.filterMap deductedRow) :
    r ∈ es.filterMap listedRow := by
  rcases hr with hr | hr
  · exact h.moved.subset hr
  · exact h.moved.subset (h.deducted.subset hr)

theorem Inv.not_billed {db : Db} {status : ι → Option (List Client)} {g : Shared ι Db Event}
    (h : Inv db status g) {r : OpenvpnConnection}
    (hpresent : InEverySnapshot status g (hashStr r)) : ¬Billed g r := by
  intro hbilled
  obtain ⟨i, hi⟩ : ∃ i, r ∈ (g.own i).filterMap movedRow ∨ r ∈ (g.own i).filterMap deductedRow := by
    rcases hbilled with hr | hr
    · obtain ⟨i, hi⟩ := mem_filterMap_log hr
      exact ⟨i, .inl hi⟩
    · obtain ⟨i, hi⟩ := mem_filterMap_log hr
      exact ⟨i, .inr hi⟩
  have hlisted := (h.told i).listed_of_billed hi
  exact (h.told i).absent r hlisted
    (hpresent i ((h.told i).polled (List.ne_nil_of_mem hlisted)))

theorem hashStr_of_rowKey {c : Client} (hc : c.WellFormed) {r : OpenvpnConnection}
    (hr : rowKey r = c.key) : hashStr r = c.hashStr := by
  obtain ⟨ip, port, since, hip, -, -, hclientIp, hclientPort, hclientSince⟩ := hc.fields
  refine (hashStr_eq_iff hc ?_).2 hr
  rw [rowKey, Client.key, hclientIp, hclientPort, hclientSince, SessionKey.mk.injEq] at hr
  simp only [Option.getD_some, intPrefix_dec] at hr
  obtain ⟨-, hipEq, hportEq, hsinceEq⟩ := hr
  exact ⟨hipEq ▸ hip, by omega, by omega⟩

/-! ## Executions that keep apart -/

theorem readsTable_of_quiet {act : Db → Db × List Event}
    (h : ∀ s, ∀ e ∈ (act s).2, quiet e = true) : ReadsTable act := by
  intro s r hr
  rw [filterMap_listedRow_quiet (h s)] at hr
  exact absurd hr List.not_mem_nil

theorem every_log (message : Str) : (log message).Every ReadsTable :=
  Script.every_exec (readsTable_of_quiet (by simp))

theorem every_refreshClient (c : Client) : (refreshClient c).Every ReadsTable := by
  refine Script.Every.bind (Script.every_exec (readsTable_of_quiet (by simp))) fun known => ?_
  split
  · exact Script.every_exec (readsTable_of_quiet (by simp))
  · refine (every_log _).bind fun _ => ?_
    unfold insertClient
    split <;> exact Script.every_exec (readsTable_of_quiet (by simp [quiet]))

theorem every_settle (finished : List OpenvpnConnection) :
    (settle finished).Every ReadsTable := by
  refine Script.Every.bind (Script.every_exec (readsTable_of_quiet (by simp))) fun exceeds =>
    (Script.every_forEach fun commonname _ => ?_).bind fun _ =>
    Script.every_forEach fun r _ => ?_
  · exact (every_log _).bind fun _ => Script.every_exec (readsTable_of_quiet (by simp [quiet]))
  · refine Script.Every.bind (Script.every_exec fun s r' hr' => ?_) fun _ =>
      Script.Every.bind (Script.every_exec fun s r' hr' => ?_) fun _ =>
      Script.every_exec fun s r' hr' => ?_
    all_goals simp [listedRow] at hr'

/-- The script lists only rows that it reads. -/
theorem every_openvpnRefresh (status : Option (List Client)) :
    (openvpnRefresh status).Every ReadsTable := by
  cases status with
  | none => exact every_log _
  | some clients =>
      refine Script.Every.bind (Script.every_exec (readsTable_of_quiet (by simp [quiet])))
        fun _ => (every_log _).bind fun _ =>
        (Script.every_forEach fun c _ => every_refreshClient c).bind fun _ =>
        Script.Every.bind ?_ every_settle
      refine Script.Every.bind (Script.every_exec fun s r hr => ?_) fun finished =>
        (Script.every_forEach fun r _ => every_log _).bind fun _ => trivial
      dsimp only at hr
      rw [filterMap_listedRow_map] at hr
      exact (List.mem_filter.1 hr).1

theorem sections_run (db : Db) (status : ι → Option (List Client)) {schedule : List (Turn ι Nat)}
    (h : Along (Config.act Db.tick) Apart (executions db status) schedule) :
    Sections ((executions db status).run Db.tick schedule) := by
  have hall : (executions db status).Reaches Db.tick
        ((executions db status).run Db.tick schedule) ∧
      ((executions db status).run Db.tick schedule).Each (fun _ => ReadsTable) ∧
      Sections ((executions db status).run Db.tick schedule) := by
    refine h.invariant (I := fun c => (executions db status).Reaches Db.tick c ∧
      c.Each (fun _ => ReadsTable) ∧ Sections c) ?_ ⟨⟨[], rfl⟩,
        Config.each_init (fun i => every_openvpnRefresh (status i)) db, sections_init db _⟩
    rintro c a ⟨⟨pre, rfl⟩, htable, hc⟩ ha
    have hact : (executions db status).run Db.tick (pre ++ [a]) =
        ((executions db status).run Db.tick pre).act Db.tick a := Config.run_append ..
    refine ⟨⟨pre ++ [a], hact⟩, htable.act Db.tick a, hc.act htable ha (inv_run db status pre) ?_⟩
    exact hact ▸ inv_run db status (pre ++ [a])
  exact hall.2.2

theorem billedOnce_of_sections {db : Db} {status : ι → Option (List Client)}
    {c : Config ι Db Event Unit} (hc : Sections c) (hinv : Inv db status c.toShared) :
    BilledOnce c.toShared := by
  intro id
  refine ⟨?_, hc.once id⟩
  have hle : (c.log.filterMap deductedRow).countP (·.id == id) ≤
      (c.log.filterMap movedRow).countP (·.id == id) := by
    rw [List.countP_filterMap, List.countP_filterMap]
    refine Shared.countP_log_le c.toShared _ _ fun i => ?_
    rw [← List.countP_filterMap, ← List.countP_filterMap]
    exact (hinv.told i).deducted.sublist.countP_le
  exact Nat.le_trans hle (hc.once id)

/-- **Overlap and interruption.**  Whatever the schedule, accounts and history are
what the executions reported, no execution bills a row twice, and no session that
is in every snapshot taken so far is billed.  If moreover the executions keep apart
while they settle, no row is billed twice. -/
theorem billed_once_if_apart (db : Db) (status : ι → Option (List Client))
    (schedule : List (Turn ι Nat)) :
    let g := ((executions db status).run Db.tick schedule).toShared
    Accounted db g ∧
      (∀ i, (((g.own i).filterMap movedRow).map (·.id)).Nodup ∧
        (((g.own i).filterMap deductedRow).map (·.id)).Nodup) ∧
      (∀ r, InEverySnapshot status g (hashStr r) → ¬Billed g r) ∧
      (∀ c : Client, c.WellFormed → InEverySnapshot status g c.hashStr →
        ∀ r, rowKey r = c.key → ¬Billed g r) ∧
      (Along (Config.act Db.tick) Apart (executions db status) schedule → BilledOnce g) := by
  intro g
  have hinv : Inv db status g := inv_run db status schedule
  refine ⟨⟨hinv.login, hinv.history⟩, fun i => (hinv.told i).nodup, fun r => hinv.not_billed,
    ?_, fun hapart => ?_⟩
  · intro c hc hpresent r hr
    exact hinv.not_billed (hashStr_of_rowKey hc hr ▸ hpresent)
  · exact billedOnce_of_sections (sections_run db status hapart) hinv

end

/-! ## Billed twice -/

/-- One account, and one row whose session is over. -/
def finishedDb : Db :=
  { Db.empty 50 with
    login := .single (.holding "ann".toList 100)
    openvpnConnections :=
      .single ⟨1, "ann".toList, "1.2.3.4".toList, 80, "10.0.0.6".toList, 17, 40⟩ }

/-- Nobody is connected. -/
def idle : Bool → Option (List Client) := fun _ => some []

/-- The second execution runs while the first is about to move the row. -/
def overlapping : List (Turn Bool Nat) :=
  List.replicate 5 (.step false) ++ List.replicate 8 (.step true) ++
    List.replicate 3 (.step false)

/-- The first execution stops after the deduction. -/
def interrupted : List (Turn Bool Nat) :=
  List.replicate 7 (.step false) ++ .stop false :: List.replicate 8 (.step true)

/-- The credit of the first account, the number of deductions and the number of
rows of `connections`. -/
def bill (schedule : List (Turn Bool Nat)) : Option (Option Int) × Nat × Nat :=
  let g := (executions finishedDb idle).run Db.tick schedule
  (g.state.login.rows.head?.map (·.credit), (g.log.filterMap deductedRow).length,
    g.state.connections.rows.length)

theorem billed_twice :
    bill overlapping = (some (some 66), 2, 2) ∧ bill interrupted = (some (some 66), 2, 2) ∧
      ¬BilledOnce ((executions finishedDb idle).run Db.tick overlapping).toShared ∧
      ¬BilledOnce ((executions finishedDb idle).run Db.tick interrupted).toShared := by
  refine ⟨by decide, by decide, fun h => ?_, fun h => ?_⟩
  · exact absurd (h 1).1 (by decide)
  · exact absurd (h 1).1 (by decide)

/-- One execution stops before it moves anything, one moves the row, and one that has
begun before goes on when the row is gone. -/
def keptApart : List (Turn (Option Bool) Nat) :=
  List.replicate 2 (.step none) ++ List.replicate 5 (.step (some false)) ++
    .stop (some false) :: List.replicate 4 (.step (some true)) ++
    .tick 60 :: List.replicate 4 (.step (some true)) ++ List.replicate 3 (.step none)

theorem billed_once_kept_apart :
    let c := (executions finishedDb fun _ => some []).run Db.tick keptApart
    BilledOnce c.toShared ∧ c.state.login.rows.map (·.credit) = [some 83] ∧
      c.state.connections.rows.length = 1 :=
  ⟨(billed_once_if_apart finishedDb (fun _ => some []) keptApart).2.2.2.2 (by decide), by decide,
    by decide⟩

end ParDiff.OpenVpn
