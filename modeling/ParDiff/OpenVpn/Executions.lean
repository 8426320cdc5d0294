import ParDiff.Lib.Interleave
import ParDiff.OpenVpn.Session

/-!
# What overlapping executions do to the books

An execution of `openvpn-refresh.pl` reads rows as finished, and then moves, deducts
and deletes them one after the other.  `Told` is what it may have reported so far,
whatever the others do; `Inv` adds what the tables have to do with all reports.
One lemma for each kind of statement says that it keeps `Inv`.
-/

namespace ParDiff.OpenVpn

open Lib Lib.Text

/-! ## What the events are about -/

def listedRow : Event → Option OpenvpnConnection
  | .listed r => some r
  | _ => none

def movedRow : Event → Option OpenvpnConnection
  | .moved r => some r
  | _ => none

def deductedRow : Event → Option OpenvpnConnection
  | .deducted (.openvpn r) _ _ _ => some r
  | _ => none

def removedId : Event → Option Nat
  | .removed id => some id
  | _ => none

/-- An event that bills nothing. -/
def quiet : Event → Bool
  | .polled => true
  | .opened _ => true
  | .killCommonName _ => true
  | _ => false

/-- The columns of `connections` that come from a finished row. -/
def historyOf (r : OpenvpnConnection) : Str × Option Int × Option Str :=
  (r.ip.take 20, some r.traffic, some (r.username.take 200))

def historyColumns (c : Connection) : Str × Option Int × Option Str :=
  (c.ip, c.connectionTraffic, c.username)

theorem quiet_eq_none {e : Event} (h : quiet e = true) :
    listedRow e = none ∧ movedRow e = none ∧ deductedRow e = none ∧ removedId e = none ∧
      ∀ username, e.change username = 0 := by
  cases e <;> simp_all [quiet, listedRow, movedRow, deductedRow, removedId, Event.change]

section Quiet

variable {es : List Event} (h : ∀ e ∈ es, quiet e = true)

include h

theorem filterMap_listedRow_quiet : es.filterMap listedRow = [] :=
  List.filterMap_eq_nil_iff.2 fun e he => (quiet_eq_none (h e he)).1

theorem filterMap_movedRow_quiet : es.filterMap movedRow = [] :=
  List.filterMap_eq_nil_iff.2 fun e he => (quiet_eq_none (h e he)).2.1

theorem filterMap_deductedRow_quiet : es.filterMap deductedRow = [] :=
  List.filterMap_eq_nil_iff.2 fun e he => (quiet_eq_none (h e he)).2.2.1

theorem filterMap_removedId_quiet : es.filterMap removedId = [] :=
  List.filterMap_eq_nil_iff.2 fun e he => (quiet_eq_none (h e he)).2.2.2.1

theorem creditChange_quiet (username : Str) : creditChange es username = 0 := by
  refine List.sum_eq_zero fun n hn => ?_
  obtain ⟨e, he, rfl⟩ := List.mem_map.1 hn
  exact (quiet_eq_none (h e he)).2.2.2.2 username

end Quiet

theorem mem_filterMap_removedId {es : List Event} {id : Nat} :
    id ∈ es.filterMap removedId ↔ Event.removed id ∈ es := by
  rw [List.mem_filterMap]
  constructor
  · rintro ⟨e, he, hid⟩
    cases e <;> simp only [removedId, reduceCtorEq, Option.some.injEq] at hid
    exact hid ▸ he
  · exact fun h => ⟨_, h, rfl⟩

/-! ## The invariant -/

/-- The texts of a snapshot. -/
def hashes (status : Option (List Client)) : List Str := (status.getD []).map (·.hashStr)

/-- What an execution with this snapshot may have reported. -/
structure Told (status : Option (List Client)) (es : List Event) : Prop where
  moved : es.filterMap movedRow <+: es.filterMap listedRow
  deducted : es.filterMap deductedRow <+: es.filterMap movedRow
  removed : es.filterMap removedId <+: (es.filterMap movedRow).map (·.id)
  once : ((es.filterMap listedRow).map (·.id)).Nodup
  absent : ∀ r ∈ es.filterMap listedRow, hashStr r ∉ hashes status
  polled : es.filterMap listedRow ≠ [] → Event.polled ∈ es

section

variable {ι : Type} [DecidableEq ι]

structure Inv (db : Db) (status : ι → Option (List Client))
    (g : Shared ι Db Event) : Prop where
  told : ∀ i, Told (status i) (g.own i)
  /-- A key that was handed out once is never handed out again. -/
  removed : ∀ id, Event.removed id ∈ g.log → id < g.state.openvpnConnections.auto ∧
    ∀ r ∈ g.state.openvpnConnections.rows, r.id ≠ id
  listed : ∀ r, Event.listed r ∈ g.log → r.id < g.state.openvpnConnections.auto
  login : g.state.login.rows =
    db.login.rows.map fun u => u.addCredit (creditChange g.log u.username)
  history : g.state.connections.rows.map historyColumns =
    db.connections.rows.map historyColumns ++ (g.log.filterMap movedRow).map historyOf

def contract (db : Db) (status : ι → Option (List Client)) : Contract ι Db Event Nat where
  env := Db.tick
  admits _ _ _ := True
  inv := Inv db status
  guar _ _ _ := True
  halted _ _ := True

/-! ## What one statement does to the invariant -/

/-- The part of a statement's effect that billing does not notice. -/
structure Quiet (s s' : Db) (es : List Event) : Prop where
  login : s'.login = s.login
  connections : s'.connections = s.connections
  auto : s.openvpnConnections.auto ≤ s'.openvpnConnections.auto
  rows : ∀ r' ∈ s'.openvpnConnections.rows,
    (∃ r ∈ s.openvpnConnections.rows, r.id = r'.id) ∨ s.openvpnConnections.auto ≤ r'.id
  events : ∀ e ∈ es, quiet e = true

variable {db : Db} {status : ι → Option (List Client)} {g : Shared ι Db Event}

theorem Told.append {status : Option (List Client)} {es es' : List Event} (h : Told status es)
    (hlisted : es'.filterMap listedRow = [])
    (hmoved : (es ++ es').filterMap movedRow <+: es.filterMap listedRow)
    (hdeducted : (es ++ es').filterMap deductedRow <+: (es ++ es').filterMap movedRow)
    (hremoved : (es ++ es').filterMap removedId <+:
      ((es ++ es').filterMap movedRow).map (·.id)) :
    Told status (es ++ es') := by
  have hsame : (es ++ es').filterMap listedRow = es.filterMap listedRow := by
    rw [List.filterMap_append, hlisted, List.append_nil]
  refine ⟨hsame ▸ hmoved, hdeducted, hremoved, ?_, ?_, fun hne => ?_⟩
  · rw [hsame]
    exact h.once
  · rw [hsame]
    exact h.absent
  · rw [hsame] at hne
    exact List.mem_append_left _ (h.polled hne)

theorem Told.nothing_moved {status : Option (List Client)} {es : List Event}
    (h : Told status es) (hlisted : es.filterMap listedRow = []) :
    es.filterMap movedRow = [] ∧ es.filterMap deductedRow = [] ∧
      es.filterMap removedId = [] := by
  have hmoved := h.moved
  rw [hlisted, List.prefix_nil] at hmoved
  have hdeducted := h.deducted
  rw [hmoved, List.prefix_nil] at hdeducted
  have hremoved := h.removed
  rw [hmoved, List.map_nil, List.prefix_nil] at hremoved
  exact ⟨hmoved, hdeducted, hremoved⟩

/-- A statement that reads no row as finished. -/
theorem Inv.append (h : Inv db status g) (i : ι) {act : Db → Db × List Event}
    (hlisted : (act g.state).2.filterMap listedRow = [])
    (hmoved : (g.own i ++ (act g.state).2).filterMap movedRow <+: (g.own i).filterMap listedRow)
    (hdeducted : (g.own i ++ (act g.state).2).filterMap deductedRow <+:
      (g.own i ++ (act g.state).2).filterMap movedRow)
    (hown : (g.own i ++ (act g.state).2).filterMap removedId <+:
      ((g.own i ++ (act g.state).2).filterMap movedRow).map (·.id))
    (hauto : g.state.openvpnConnections.auto ≤ (act g.state).1.openvpnConnections.auto)
    (hremoved : ∀ id, Event.removed id ∈ g.log ++ (act g.state).2 →
      id < (act g.state).1.openvpnConnections.auto ∧
        ∀ r ∈ (act g.state).1.openvpnConnections.rows, r.id ≠ id)
    (hlogin : (act g.state).1.login.rows = db.login.rows.map fun u =>
      u.addCredit (creditChange (g.log ++ (act g.state).2) u.username))
    (hhistory : (act g.state).1.connections.rows.map historyColumns =
      db.connections.rows.map historyColumns ++
        ((g.log ++ (act g.state).2).filterMap movedRow).map historyOf) :
    Inv db status (g.exec i act) := by
  have htold :=
    Shared.forall_own_exec h.told i ((h.told i).append hlisted hmoved hdeducted hown)
  refine ⟨htold, ?_, fun r hr => ?_, ?_, ?_⟩
  · rwa [Shared.log_exec]
  · rw [Shared.log_exec] at hr
    rcases List.mem_append.1 hr with hr | hr
    · exact lt_of_lt_of_le (h.listed r hr) hauto
    · have hmem : r ∈ (act g.state).2.filterMap listedRow := List.mem_filterMap.2 ⟨_, hr, rfl⟩
      rw [hlisted] at hmem
      exact absurd hmem List.not_mem_nil
  · rwa [Shared.log_exec]
  · rwa [Shared.log_exec]

theorem Inv.quiet (h : Inv db status g) (i : ι) {act : Db → Db × List Event}
    (hact : Quiet g.state (act g.state).1 (act g.state).2) :
    Inv db status (g.exec i act) := by
  have hmoved := filterMap_movedRow_quiet hact.events
  have hdeducted := filterMap_deductedRow_quiet hact.events
  have hremoved := filterMap_removedId_quiet hact.events
  refine h.append i (filterMap_listedRow_quiet hact.events) ?_ ?_ ?_ hact.auto ?_ ?_ ?_
  · rw [List.filterMap_append, hmoved, List.append_nil]
    exact (h.told i).moved
  · rw [List.filterMap_append, List.filterMap_append, hmoved, hdeducted, List.append_nil,
      List.append_nil]
    exact (h.told i).deducted
  · rw [List.filterMap_append, List.filterMap_append, hmoved, hremoved, List.append_nil,
      List.append_nil]
    exact (h.told i).removed
  · intro id hid
    rcases List.mem_append.1 hid with hid | hid
    · obtain ⟨hlt, hne⟩ := h.removed id hid
      refine ⟨lt_of_lt_of_le hlt hact.auto, fun r' hr' => ?_⟩
      rcases hact.rows r' hr' with ⟨r, hr, hrid⟩ | hauto
      · exact hrid ▸ hne r hr
      · omega
    · exact absurd (quiet_eq_none (hact.events _ hid)).2.2.2.1 (Option.some_ne_none id)
  · simpa only [hact.login, creditChange_append, creditChange_quiet hact.events,
      Int.add_zero] using h.login
  · rw [List.filterMap_append, hmoved, List.append_nil, hact.connections]
    exact h.history

theorem filterMap_listedRow_map (rs : List OpenvpnConnection) :
    (rs.map Event.listed).filterMap listedRow = rs := by
  rw [List.filterMap_map]
  exact List.filterMap_some

theorem filterMap_map_listed_eq_nil {γ : Type} {p : Event → Option γ}
    (hp : ∀ r, p (.listed r) = none) (rs : List OpenvpnConnection) :
    (rs.map Event.listed).filterMap p = [] := by
  rw [List.filterMap_map, List.filterMap_eq_nil_iff]
  exact fun r _ => hp r

theorem finishedRows_nodup (connections : List Str) (db : Db) :
    ((finishedRows connections db).map (·.id)).Nodup :=
  db.openvpnConnections.nodup.sublist (List.filter_sublist.map _)

/-- `SELECT * FROM openvpn_connections`, by an execution that read nothing yet. -/
theorem Inv.list (h : Inv db status g) (i : ι)
    (hfresh : (g.own i).filterMap listedRow = []) (hpolled : Event.polled ∈ g.own i) :
    Inv db status (g.exec i fun s =>
      (s, (finishedRows (hashes (status i)) s).map .listed)) := by
  obtain ⟨hmoved, hdeducted, hremoved⟩ := (h.told i).nothing_moved hfresh
  refine ⟨Shared.forall_own_exec h.told i ⟨?_, ?_, ?_, ?_, ?_, ?_⟩, ?_, ?_, ?_, ?_⟩
  · rw [List.filterMap_append, hmoved, filterMap_map_listed_eq_nil fun _ => rfl]
    exact List.nil_prefix
  · rw [List.filterMap_append, hdeducted, filterMap_map_listed_eq_nil fun _ => rfl]
    exact List.nil_prefix
  · rw [List.filterMap_append, hremoved, filterMap_map_listed_eq_nil fun _ => rfl]
    exact List.nil_prefix
  · rw [List.filterMap_append, hfresh, filterMap_listedRow_map, List.nil_append]
    exact finishedRows_nodup _ _
  · rw [List.filterMap_append, hfresh, filterMap_listedRow_map, List.nil_append]
    intro r hr
    simpa using (List.mem_filter.1 hr).2
  · exact fun _ => List.mem_append_left _ hpolled
  · intro id hid
    rw [Shared.log_exec] at hid
    rcases List.mem_append.1 hid with hid | hid
    · exact h.removed id hid
    · simp at hid
  · intro r hr
    rw [Shared.log_exec] at hr
    rcases List.mem_append.1 hr with hr | hr
    · exact h.listed r hr
    · obtain ⟨r', hr', heq⟩ := List.mem_map.1 hr
      rw [← Event.listed.inj heq]
      exact g.state.openvpnConnections.lt_auto r' (List.mem_filter.1 hr').1
  · have hnone : ∀ username, creditChange
        ((finishedRows (hashes (status i)) g.state).map Event.listed) username = 0 := by
      intro username
      refine List.sum_eq_zero fun n hn => ?_
      obtain ⟨e, he, rfl⟩ := List.mem_map.1 hn
      obtain ⟨r, -, rfl⟩ := List.mem_map.1 he
      rfl
    simpa only [Shared.exec_state, Shared.log_exec, creditChange_append, hnone,
      Int.add_zero] using h.login
  · simpa only [Shared.exec_state, Shared.log_exec, List.filterMap_append,
      filterMap_map_listed_eq_nil (p := movedRow) (fun _ => rfl), List.append_nil] using h.history

/-- What an execution with these events still has to move, to deduct and to delete. -/
def Holding (toMove toDeduct toRemove : List OpenvpnConnection) (es : List Event) : Prop :=
  es.filterMap movedRow ++ toMove = es.filterMap listedRow ∧
    es.filterMap deductedRow ++ toDeduct = es.filterMap listedRow ∧
      es.filterMap removedId ++ toRemove.map (·.id) = (es.filterMap listedRow).map (·.id)

section Holding

variable {r : OpenvpnConnection} {toMove toDeduct toRemove rest : List OpenvpnConnection}
  {es : List Event}

theorem Holding.mem_listed (h : Holding toMove (r :: rest) toRemove es) :
    Event.listed r ∈ es := by
  have hr : r ∈ es.filterMap listedRow := by
    rw [← h.2.1]
    simp
  obtain ⟨e, he, hlisted⟩ := List.mem_filterMap.1 hr
  cases e <;> simp only [listedRow, reduceCtorEq, Option.some.injEq] at hlisted
  exact hlisted ▸ he

theorem Holding.move (h : Holding (r :: rest) toDeduct toRemove es) :
    Holding rest toDeduct toRemove (es ++ [.moved r]) := by
  simpa [Holding, List.filterMap_cons, movedRow, deductedRow, listedRow, removedId] using h

theorem Holding.deduct (h : Holding toMove (r :: rest) toRemove es) (rows : Nat) :
    Holding toMove rest toRemove
      (es ++ [.deducted (.openvpn r) r.username r.traffic rows]) := by
  simpa [Holding, List.filterMap_cons, movedRow, deductedRow, listedRow, removedId] using h

theorem Holding.remove (h : Holding toMove toDeduct (r :: rest) es) :
    Holding toMove toDeduct rest (es ++ [.removed r.id]) := by
  simpa [Holding, List.filterMap_cons, movedRow, deductedRow, listedRow, removedId] using h

end Holding

theorem insertHistory_rows (r : OpenvpnConnection) (db : Db) :
    (insertHistory r db).connections.rows =
      db.connections.rows ++ [historyRow db.now r db.connections.auto] := rfl

theorem filterMap_append_none {γ : Type} {p : Event → Option γ} {e : Event} (hp : p e = none)
    (es : List Event) : (es ++ [e]).filterMap p = es.filterMap p := by
  simp [hp]

theorem Inv.move (h : Inv db status g) {i : ι} {r : OpenvpnConnection}
    {rest toDeduct toRemove : List OpenvpnConnection}
    (hholds : Holding (r :: rest) toDeduct toRemove (g.own i)) :
    Inv db status (g.exec i fun s => (insertHistory r s, [.moved r])) := by
  refine h.append i rfl ?_ ?_ ?_ (Nat.le_refl _) ?_ ?_ ?_
  · rw [List.filterMap_append, ← hholds.1]
    exact ⟨rest, by simp [movedRow]⟩
  · rw [filterMap_append_none rfl, List.filterMap_append]
    exact (h.told i).deducted.trans (List.prefix_append _ _)
  · rw [filterMap_append_none rfl, List.filterMap_append, List.map_append]
    exact (h.told i).removed.trans (List.prefix_append _ _)
  · intro id hid
    exact h.removed id (by simpa using hid)
  · have hnone : ∀ username, creditChange [Event.moved r] username = 0 := fun _ => rfl
    simpa only [creditChange_append, hnone, Int.add_zero, insertHistory] using h.login
  · rw [List.filterMap_append, List.map_append, ← List.append_assoc, ← h.history,
      insertHistory_rows, List.map_append]
    rfl

theorem Inv.deduct (h : Inv db status g) {i : ι} {r : OpenvpnConnection}
    {rest toRemove : List OpenvpnConnection}
    (hholds : Holding rest (r :: rest) toRemove (g.own i)) :
    Inv db status (g.exec i fun s => (s.addCredit r.username (-r.traffic),
      [.deducted (.openvpn r) r.username r.traffic (s.countLogin (some r.username))])) := by
  have hlast : (g.own i).filterMap deductedRow ++ [r] = (g.own i).filterMap movedRow := by
    have hrest : ((g.own i).filterMap deductedRow ++ [r]) ++ rest =
        (g.own i).filterMap movedRow ++ rest := by
      rw [hholds.1, ← hholds.2.1, List.append_assoc]
      rfl
    exact List.append_cancel_right hrest
  refine h.append i rfl ?_ ?_ ?_ (Nat.le_refl _) ?_ ?_ ?_
  · rw [filterMap_append_none rfl]
    exact (h.told i).moved
  · rw [filterMap_append_none (p := movedRow) rfl, List.filterMap_append, ← hlast]
    exact List.prefix_rfl
  · rw [filterMap_append_none rfl, filterMap_append_none rfl]
    exact (h.told i).removed
  · intro id hid
    exact h.removed id (by simpa using hid)
  · exact Db.addCredit_replay h.login fun _ => rfl
  · rw [filterMap_append_none rfl]
    exact h.history

theorem Inv.remove (h : Inv db status g) {i : ι} {r : OpenvpnConnection}
    {rest : List OpenvpnConnection} (hholds : Holding rest rest (r :: rest) (g.own i))
    (hlisted : Event.listed r ∈ g.own i) :
    Inv db status (g.exec i fun s => (removeRow r.id s, [.removed r.id])) := by
  have hlast : (g.own i).filterMap removedId ++ [r.id] =
      ((g.own i).filterMap movedRow).map (·.id) := by
    have hrest : ((g.own i).filterMap removedId ++ [r.id]) ++ rest.map (·.id) =
        ((g.own i).filterMap movedRow).map (·.id) ++ rest.map (·.id) := by
      rw [← List.map_append, hholds.1, ← hholds.2.2, List.append_assoc]
      rfl
    exact List.append_cancel_right hrest
  have hid : r.id < g.state.openvpnConnections.auto :=
    h.listed r (Shared.mem_log_of_mem_own hlisted)
  refine h.append i rfl ?_ ?_ ?_ (Nat.le_refl _) ?_ ?_ ?_
  · rw [filterMap_append_none rfl]
    exact (h.told i).moved
  · rw [filterMap_append_none rfl, filterMap_append_none rfl]
    exact (h.told i).deducted
  · rw [filterMap_append_none (p := movedRow) rfl, List.filterMap_append, ← hlast]
    exact List.prefix_rfl
  · intro id' hid'
    rcases List.mem_append.1 hid' with hid' | hid'
    · obtain ⟨hlt, hne⟩ := h.removed id' hid'
      exact ⟨hlt, fun r hr => hne r (List.mem_filter.1 hr).1⟩
    · rw [Event.removed.inj (List.mem_singleton.1 hid')]
      refine ⟨hid, fun r' hr' hrid => ?_⟩
      have hkept := (List.mem_filter.1 hr').2
      simp [hrid] at hkept
  · have hzero : ∀ username, creditChange [Event.removed r.id] username = 0 := fun _ => rfl
    simpa only [creditChange_append, hzero, Int.add_zero, removeRow] using h.login
  · rw [filterMap_append_none rfl]
    exact h.history

end

end ParDiff.OpenVpn
