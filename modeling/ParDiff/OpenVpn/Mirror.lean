import ParDiff.Lib.Run
import ParDiff.OpenVpn.Run

/-!
# `openvpn_connections` mirrors the server

After a complete execution the sessions in the table are exactly those of the
snapshot, one row each, and every session that left the table was moved to
`connections` and deducted once.  `Faithful` is the invariant of the table over
any sequence of executions.
-/

namespace ParDiff.OpenVpn

open Lib Lib.Text

/-- The sessions of a snapshot. -/
def keys (clients : List Client) : List SessionKey := clients.map (·.key)

/-- Every row is one a well-formed client left, for one of the sessions `ks`, and
no session has two rows. -/
structure Faithful (ks : List SessionKey) (t : ConnectionTable) : Prop where
  rows : ∀ r ∈ t.rows, WellFormedRow r ∧ rowKey r ∈ ks
  once : (t.rows.map rowKey).Nodup

/-- The clients of a snapshot are well formed and have sessions among `ks`. -/
def Reported (ks : List SessionKey) (clients : List Client) : Prop :=
  ∀ c ∈ clients, c.WellFormed ∧ c.key ∈ ks

section Upsert

variable {ks : List SessionKey} (hks : Distinct ks) {t : ConnectionTable} {c : Client}

include hks

theorem Faithful.sameSession_iff (h : Faithful ks t) (hc : c.WellFormed)
    (hck : c.key ∈ ks) {r : OpenvpnConnection} (hr : r ∈ t.rows) :
    sameSession c r = true ↔ rowKey r = c.key :=
  OpenVpn.sameSession_iff hks hc hck (h.rows r hr).1 (h.rows r hr).2

theorem Faithful.known_iff (h : Faithful ks t) (hc : c.WellFormed) (hck : c.key ∈ ks) :
    0 < t.rows.countP (sameSession c) ↔ c.key ∈ t.rows.map rowKey := by
  rw [List.countP_pos_iff, List.mem_map]
  constructor
  · rintro ⟨r, hr, hsame⟩
    exact ⟨r, hr, (h.sameSession_iff hks hc hck hr).1 hsame⟩
  · rintro ⟨r, hr, hkey⟩
    exact ⟨r, hr, (h.sameSession_iff hks hc hck hr).2 hkey⟩

theorem Faithful.upsert_of_mem (h : Faithful ks t) (hc : c.WellFormed)
    (hck : c.key ∈ ks) (hmem : c.key ∈ t.rows.map rowKey) :
    (upsert t c).rows =
      updateAll (sameSession c) (fun r => { r with traffic := clampInt c.traffic }) t.rows := by
  rw [upsert, if_pos ((h.known_iff hks hc hck).2 hmem)]
  rfl

theorem Faithful.upsert_of_notMem (h : Faithful ks t) (hc : c.WellFormed)
    (hck : c.key ∈ ks) (hmem : c.key ∉ t.rows.map rowKey) :
    ∃ r, (upsert t c).rows = t.rows ++ [r] ∧ WellFormedRow r ∧ rowKey r = c.key ∧
      r.traffic = 0 := by
  obtain ⟨ip, port, hip, hport, hnew⟩ := newRow_wellFormed hc
  rw [upsert, if_neg (mt (h.known_iff hks hc hck).1 hmem), hip, hport]
  exact ⟨newRow c ip port t.auto, rfl, (hnew _).1, (hnew _).2, rfl⟩

theorem Faithful.upsert_keys (h : Faithful ks t) (hc : c.WellFormed)
    (hck : c.key ∈ ks) :
    (upsert t c).rows.map rowKey =
      if c.key ∈ t.rows.map rowKey then t.rows.map rowKey else t.rows.map rowKey ++ [c.key] := by
  by_cases hmem : c.key ∈ t.rows.map rowKey
  · rw [if_pos hmem, h.upsert_of_mem hks hc hck hmem]
    refine map_updateAll (fun r _ => ?_) _
    rfl
  · obtain ⟨r, hrows, -, hkey, -⟩ := h.upsert_of_notMem hks hc hck hmem
    rw [if_neg hmem, hrows, List.map_append, List.map_singleton, hkey]

theorem Faithful.upsert (h : Faithful ks t) (hc : c.WellFormed) (hck : c.key ∈ ks) :
    Faithful ks (upsert t c) := by
  by_cases hmem : c.key ∈ t.rows.map rowKey
  · constructor
    · rw [h.upsert_of_mem hks hc hck hmem]
      intro r' hr'
      obtain ⟨r, hr, rfl⟩ := mem_updateAll.1 hr'
      split
      · exact h.rows r hr
      · exact h.rows r hr
    · rw [h.upsert_keys hks hc hck, if_pos hmem]
      exact h.once
  · constructor
    · obtain ⟨r, hrows, hwell, hkey, -⟩ := h.upsert_of_notMem hks hc hck hmem
      rw [hrows]
      intro r' hr'
      rcases List.mem_append.1 hr' with hr' | hr'
      · exact h.rows r' hr'
      · rw [List.mem_singleton.1 hr', hkey]
        exact ⟨hwell, hck⟩
    · rw [h.upsert_keys hks hc hck, if_neg hmem, List.nodup_append]
      refine ⟨h.once, List.nodup_singleton _, ?_⟩
      intro a ha b hb heq
      exact hmem (List.mem_singleton.1 hb ▸ heq ▸ ha)

theorem Faithful.upsert_filter (h : Faithful ks t) (hc : c.WellFormed)
    (hck : c.key ∈ ks) {S : List SessionKey} (hS : c.key ∈ S) :
    (OpenVpn.upsert t c).rows.filter (fun r => !S.contains (rowKey r)) =
      t.rows.filter fun r => !S.contains (rowKey r) := by
  by_cases hmem : c.key ∈ t.rows.map rowKey
  · rw [h.upsert_of_mem hks hc hck hmem]
    refine filter_updateAll fun r hr hsame => ?_
    have hkey : rowKey r ∈ S := by
      rw [(h.sameSession_iff hks hc hck hr).1 hsame]
      exact hS
    have hkey' : rowKey { r with traffic := clampInt c.traffic } ∈ S := hkey
    simp [hkey, hkey']
  · obtain ⟨r, hrows, -, hkey, -⟩ := h.upsert_of_notMem hks hc hck hmem
    rw [hrows, List.filter_append]
    simp [hkey, hS]

end Upsert

/-! ## A whole snapshot -/

section Snapshot

variable {ks : List SessionKey} (hks : Distinct ks) {t : ConnectionTable}
  {clients : List Client}

include hks

theorem Faithful.upserted (h : Faithful ks t) (hclients : Reported ks clients) :
    Faithful ks (upserted clients t) := by
  unfold OpenVpn.upserted
  induction clients generalizing t with
  | nil => exact h
  | cons c clients ih =>
      have hc := hclients c (by simp)
      exact ih (h.upsert hks hc.1 hc.2) fun c' hc' => hclients c' (by simp [hc'])

theorem Faithful.mem_upserted_keys (h : Faithful ks t) (hclients : Reported ks clients)
    (k : SessionKey) :
    k ∈ (OpenVpn.upserted clients t).rows.map rowKey ↔
      k ∈ t.rows.map rowKey ∨ k ∈ keys clients := by
  unfold OpenVpn.upserted
  induction clients generalizing t with
  | nil => simp [keys]
  | cons c clients ih =>
      have hc := hclients c (by simp)
      have hrest := ih (h.upsert hks hc.1 hc.2) fun c' hc' => hclients c' (by simp [hc'])
      rw [List.foldl_cons, hrest, h.upsert_keys hks hc.1 hc.2]
      by_cases hmem : c.key ∈ t.rows.map rowKey
      · rw [if_pos hmem]
        constructor
        · rintro (hk | hk)
          · exact .inl hk
          · exact .inr (List.mem_cons_of_mem _ hk)
        · rintro (hk | hk)
          · exact .inl hk
          · rcases List.mem_cons.1 hk with rfl | hk
            · exact .inl hmem
            · exact .inr hk
      · rw [if_neg hmem]
        simp [keys, or_assoc]

theorem Faithful.upserted_filter (h : Faithful ks t) (hclients : Reported ks clients)
    {S : List SessionKey} (hS : ∀ k ∈ keys clients, k ∈ S) :
    (OpenVpn.upserted clients t).rows.filter (fun r => !S.contains (rowKey r)) =
      t.rows.filter fun r => !S.contains (rowKey r) := by
  unfold OpenVpn.upserted
  induction clients generalizing t with
  | nil => rfl
  | cons c clients ih =>
      have hc := hclients c (by simp)
      rw [List.foldl_cons, ih (h.upsert hks hc.1 hc.2) (fun c' hc' => hclients c' (by simp [hc']))
        (fun k hk => hS k (List.mem_cons_of_mem _ hk))]
      exact h.upsert_filter hks hc.1 hc.2 (hS _ (by simp [keys]))

omit hks in
theorem Faithful.contains_hashStr (h : Faithful ks t) (hclients : Reported ks clients)
    {r : OpenvpnConnection} (hr : r ∈ t.rows) :
    (clients.map (·.hashStr)).contains (hashStr r) = (keys clients).contains (rowKey r) := by
  rw [Bool.eq_iff_iff]
  simp only [List.contains_iff_mem, keys, List.mem_map]
  constructor
  · rintro ⟨c, hc, hhash⟩
    exact ⟨c, hc, ((hashStr_eq_iff (hclients c hc).1 (h.rows r hr).1).1 hhash.symm).symm⟩
  · rintro ⟨c, hc, hkey⟩
    exact ⟨c, hc, ((hashStr_eq_iff (hclients c hc).1 (h.rows r hr).1).2 hkey.symm).symm⟩

end Snapshot

/-! ## One execution -/

/-- The rows of the sessions that the snapshot no longer has. -/
def gone (clients : List Client) (db : Db) : List OpenvpnConnection :=
  db.openvpnConnections.rows.filter fun r => !(keys clients).contains (rowKey r)

theorem finished_eq_gone {ks : List SessionKey} (hks : Distinct ks) {clients : List Client}
    (hclients : Reported ks clients) {db : Db} (h : Faithful ks db.openvpnConnections) :
    finished clients db = gone clients db := by
  have hup := h.upserted hks hclients
  rw [gone, ← h.upserted_filter hks hclients fun k hk => hk, finished, finishedRows]
  refine List.filter_congr fun r hr => ?_
  rw [hup.contains_hashStr hclients hr]

theorem foldl_deduct_rows (rs : List OpenvpnConnection) (l : LoginTable) :
    (rs.foldl deduct l).rows = l.rows.map fun u => u.addCredit (-sumTraffic u.username rs) := by
  induction rs generalizing l with
  | nil => simp [sumTraffic]
  | cons r rs ih =>
      rw [List.foldl_cons, ih, deduct_rows, updateAll, List.map_map]
      refine List.map_congr_left fun u _ => ?_
      by_cases hname : fold u.username = fold r.username
      · have hsum : sumTraffic u.username (r :: rs) = r.traffic + sumTraffic u.username rs := by
          simp [sumTraffic, ciEq, hname]
        simp [Login.named, hname, Login.addCredit_addCredit, hsum, Int.add_comm]
      · have hsum : sumTraffic u.username (r :: rs) = sumTraffic u.username rs := by
          simp [sumTraffic, ciEq, Ne.symm hname]
        simp [Login.named, hname, hsum]

theorem sumTraffic_filter (username : Str) (p : OpenvpnConnection → Bool)
    (rows : List OpenvpnConnection) :
    sumTraffic username rows =
      sumTraffic username (rows.filter p) + sumTraffic username (rows.filter fun r => !p r) := by
  induction rows with
  | nil => rfl
  | cons r rows ih =>
      unfold sumTraffic at ih ⊢
      cases hp : p r <;> by_cases hname : ciEq r.username username = true <;>
        simp [hp, hname, ih] <;> omega

/-- What a complete execution makes of the tables, and the deductions it reports. -/
structure Mirrors (clients : List Client) (db db' : Db) (events : List Event) : Prop where
  /-- The sessions in the table are those of the snapshot. -/
  keys : ∀ k, k ∈ db'.openvpnConnections.rows.map rowKey ↔ k ∈ OpenVpn.keys clients
  /-- One row for a session. -/
  once : (db'.openvpnConnections.rows.map rowKey).Nodup
  /-- One history row for every row that is gone, and no other. -/
  history : db'.connections.rows = db.connections.rows ++
    (gone clients db).mapIdx fun i r => historyRow db.now r (db.connections.auto + i)
  /-- One deduction for every row that is gone, of its traffic, and no other. -/
  deductions : events.filterMap deduction =
    (gone clients db).map fun r => (.openvpn r, r.username, r.traffic)
  /-- The accounts lost what the deductions say and nothing else. -/
  login : db'.login.rows =
    db.login.rows.map fun u => u.addCredit (-sumTraffic u.username (gone clients db))
  /-- The history shows the traffic of every row that is gone. -/
  traffic : db'.connections.rows.map (fun r => (r.username, r.connectionTraffic)) =
    db.connections.rows.map (fun r => (r.username, r.connectionTraffic)) ++
      (gone clients db).map fun r => (some (r.username.take 200), some r.traffic)
  /-- Every account has as much less credit as its sessions that are gone cost. -/
  credit : ∀ u ∈ db.login.rows, ∃ u' ∈ db'.login.rows, u'.id = u.id ∧
    u'.credit = u.credit.map (· - sumTraffic u.username (gone clients db))

section Execution

variable {ks : List SessionKey} (hks : Distinct ks) {clients : List Client}
  (hclients : Reported ks clients) {db : Db} (h : Faithful ks db.openvpnConnections)

include hks hclients h

theorem refreshConnected_rows :
    ((refreshConnected clients).final db).openvpnConnections.rows =
      (upserted clients db.openvpnConnections).rows.filter
        fun r => (keys clients).contains (rowKey r) := by
  have htables := refreshConnected_tables clients db
  simp only [tables, Prod.mk.injEq] at htables
  rw [htables.1, Table.foldl_delete_rows, finished_eq_gone hks hclients h, gone,
    ← h.upserted_filter hks hclients fun k hk => hk]
  refine List.filter_congr fun r hr => ?_
  rw [Bool.eq_iff_iff]
  simp only [Bool.not_eq_true', List.any_eq_false, List.mem_filter, beq_iff_eq,
    List.contains_iff_mem, Bool.not_eq_true', and_imp]
  constructor
  · intro hnone
    by_contra hgone
    exact hnone r hr (by simpa using hgone) rfl
  · intro hkey r' hr' hgone hid
    rw [Table.eq_of_key_eq _ hr' hr hid.symm] at hgone
    simp [hkey] at hgone

theorem Faithful.refreshConnected :
    Faithful ks ((refreshConnected clients).final db).openvpnConnections := by
  have hup := h.upserted hks hclients
  constructor
  · rw [refreshConnected_rows hks hclients h]
    exact fun r hr => hup.rows r (List.mem_filter.1 hr).1
  · rw [refreshConnected_rows hks hclients h]
    exact hup.once.sublist (List.filter_sublist.map rowKey)

theorem refreshConnected_mirrors :
    Mirrors clients db ((refreshConnected clients).final db)
      ((refreshConnected clients).emitted db) := by
  have htables := refreshConnected_tables clients db
  simp only [tables, Prod.mk.injEq, finished_eq_gone hks hclients h] at htables
  have hhistory : ((OpenVpn.refreshConnected clients).final db).connections.rows =
      db.connections.rows ++
        (gone clients db).mapIdx fun i r => historyRow db.now r (db.connections.auto + i) := by
    rw [htables.2.2.1]
    exact Table.foldl_insert_rows (f := historyRow db.now) (fun _ _ => rfl) _ _
  have hlogin : ((OpenVpn.refreshConnected clients).final db).login.rows =
      db.login.rows.map fun u => u.addCredit (-sumTraffic u.username (gone clients db)) := by
    rw [htables.2.1, foldl_deduct_rows]
  refine ⟨fun k => ?_, (h.refreshConnected hks hclients).once, hhistory, ?_, hlogin, ?_,
    fun u hu => ?_⟩
  · have hmem := h.mem_upserted_keys hks hclients k
    rw [refreshConnected_rows hks hclients h]
    simp only [List.mem_map, List.mem_filter, List.contains_iff_mem] at hmem ⊢
    constructor
    · rintro ⟨r, ⟨-, hkey⟩, rfl⟩
      exact hkey
    · intro hk
      obtain ⟨r, hr, hkey⟩ := hmem.2 (.inr hk)
      exact ⟨r, ⟨hr, hkey ▸ hk⟩, hkey⟩
  · rw [refreshConnected_deductions, finished_eq_gone hks hclients h]
  · rw [hhistory, List.map_append]
    congr 1
    exact List.ext_getElem (by simp) (by simp [historyRow])
  · refine ⟨u.addCredit (-sumTraffic u.username (gone clients db)), ?_, rfl, rfl⟩
    rw [hlogin]
    exact List.mem_map_of_mem hu

end Execution

/-! ## Every sequence of executions -/

/-- One execution: the seconds since the one before, and what the server said. -/
structure Poll where
  elapsed : Nat
  status : Option (List Client)

/-- A complete execution. -/
def poll (db : Db) (p : Poll) : Db := (openvpnRefresh p.status).final (db.tick p.elapsed)

/-- All clients of a sequence of executions. -/
def clientsOf (polls : List Poll) : List Client := polls.flatMap fun p => p.status.getD []

theorem Faithful.poll {ks : List SessionKey} (hks : Distinct ks) {db : Db}
    (h : Faithful ks db.openvpnConnections) {p : Poll}
    (hclients : Reported ks (p.status.getD [])) :
    Faithful ks (poll db p).openvpnConnections := by
  have htick : Faithful ks (db.tick p.elapsed).openvpnConnections := h
  obtain ⟨elapsed, status⟩ := p
  cases status with
  | none => exact h
  | some clients => exact htick.refreshConnected hks hclients

theorem Faithful.polls {ks : List SessionKey} (hks : Distinct ks) {db : Db}
    (h : Faithful ks db.openvpnConnections) {polls : List Poll}
    (hclients : Reported ks (clientsOf polls)) :
    Faithful ks (polls.foldl OpenVpn.poll db).openvpnConnections := by
  induction polls generalizing db with
  | nil => exact h
  | cons p polls ih =>
      refine ih (h.poll hks fun c hc => hclients c ?_) fun c hc => hclients c ?_
      · exact List.mem_flatMap.2 ⟨p, by simp, hc⟩
      · obtain ⟨p', hp', hc⟩ := List.mem_flatMap.1 hc
        exact List.mem_flatMap.2 ⟨p', List.mem_cons_of_mem _ hp', hc⟩

/-- **The table mirrors the server.**  From an empty table, after any executions
and one more with the snapshot `clients`, provided the clients are well formed
and no two of their sessions differ only in letter case or trailing blanks of the
name. -/
theorem table_mirrors_server {db₀ : Db} (hempty : db₀.openvpnConnections.rows = [])
    (polls : List Poll) (clients : List Client)
    (hwell : ∀ c ∈ clientsOf polls ++ clients, c.WellFormed)
    (hks : Distinct (keys (clientsOf polls ++ clients))) :
    Mirrors clients (polls.foldl poll db₀)
      ((refreshConnected clients).final (polls.foldl poll db₀))
      ((refreshConnected clients).emitted (polls.foldl poll db₀)) := by
  have hreported : Reported (keys (clientsOf polls ++ clients))
      (clientsOf polls ++ clients) := fun c hc => ⟨hwell c hc, List.mem_map_of_mem hc⟩
  have hstart : Faithful (keys (clientsOf polls ++ clients)) db₀.openvpnConnections :=
    ⟨by simp [hempty], by simp [hempty]⟩
  exact refreshConnected_mirrors hks (fun c hc => hreported c (List.mem_append_right _ hc))
    (hstart.polls hks fun c hc => hreported c (List.mem_append_left _ hc))

/-! ## Two snapshots -/

def exampleClient (name : Str) (port since : Nat) (sent : Str) : Client :=
  ⟨name, "10.0.0.7".toList ++ ':' :: dec port, "10.8.0.6".toList, "10".toList, sent,
    "Mon May 24 12:00:00 2010".toList, dec since ++ ['\n']⟩

theorem exampleClient_wellFormed {name : Str} (hname : name.length ≤ 100) {port : Nat}
    (hport : port < 2 ^ 31) {since : Nat} (hsince : since < 2 ^ 31) (sent : Str) :
    (exampleClient name port since sent).WellFormed :=
  ⟨hname, "10.0.0.7".toList, ⟨10, by decide, 0, by decide, 0, by decide, 7, by decide, by decide⟩,
    port, hport, since, hsince, rfl, .inr rfl⟩

/-- Two sessions of users with colons in their names, of which one is gone in the
second snapshot. -/
def exampleClients : List Client :=
  [exampleClient "bob:1".toList 2000 1274702400 "5".toList,
    exampleClient "ann".toList 2001 1274702460 "7".toList]

theorem table_mirrors_server_example :
    Mirrors (exampleClients.take 1) (poll (Db.empty 1) ⟨60, some exampleClients⟩)
      ((refreshConnected (exampleClients.take 1)).final
        (poll (Db.empty 1) ⟨60, some exampleClients⟩))
      ((refreshConnected (exampleClients.take 1)).emitted
        (poll (Db.empty 1) ⟨60, some exampleClients⟩)) := by
  refine table_mirrors_server rfl [⟨60, some exampleClients⟩] (exampleClients.take 1)
    (fun c hc => ?_) (by unfold Distinct; decide)
  have hc' : c = exampleClient "bob:1".toList 2000 1274702400 "5".toList ∨
      c = exampleClient "ann".toList 2001 1274702460 "7".toList ∨
      c = exampleClient "bob:1".toList 2000 1274702400 "5".toList := by
    simpa [clientsOf, exampleClients] using hc
  rcases hc' with rfl | rfl | rfl <;>
    exact exampleClient_wellFormed (by decide) (by decide) (by decide) _

end ParDiff.OpenVpn
