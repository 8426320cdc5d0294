import ParDiff.OpenVpn.Session

/-!
# One complete execution of `openvpn-refresh.pl`

The script writes log lines between its other statements.  They change nothing
that it reads, so an execution is described by what it does to the tables:
`refreshConnected_run` cuts it into the insert-or-update loop, the search for
finished rows, and the moving loop.
-/

namespace ParDiff.OpenVpn

open Lib Lib.Text

/-- Everything the script depends on; the logs are left out. -/
def tables (db : Db) :=
  (db.openvpnConnections, db.login, db.connections, db.transactionsRecords, db.now)

/-- What a deduction says. -/
def deduction : Event → Option (Source × Str × Int)
  | .deducted source username amount _ => some (source, username, amount)
  | _ => none

/-- Whom a management command disconnects. -/
def killed : Event → Option Str
  | .killCommonName name => some name
  | _ => none

section Logs

@[simp] theorem log_tables (message : Str) (db : Db) :
    tables ((log message).run db).state = tables db := rfl

@[simp] theorem log_events (message : Str) (db : Db) : ((log message).run db).events = [] := by
  simp [log, insertLog]

theorem forEach_tables {β : Type} {body : β → Sql Unit}
    (hbody : ∀ b db, tables ((body b).run db).state = tables db) (bs : List β) (db : Db) :
    tables ((Script.forEach bs body).run db).state = tables db :=
  (Script.run_forEach_part (p := tables) (f := fun t _ => t) hbody bs db).trans
    (List.foldl_fixed bs)

theorem forEach_silent {β γ : Type} {p : Event → Option γ} {body : β → Sql Unit}
    (hbody : ∀ b db, ((body b).run db).events.filterMap p = []) (bs : List β) (db : Db) :
    ((Script.forEach bs body).run db).events.filterMap p = [] := by
  rw [Script.run_forEach_filterMap hbody]
  simp

theorem killUser_tables (name : Str) (db : Db) :
    tables ((killUser name).run db).state = tables db := by
  simp [killUser]

theorem findFinished_value (connections : List Str) (db : Db) :
    ((findFinished connections).run db).value = finishedRows connections db := by
  simp [findFinished]

theorem findFinished_tables (connections : List Str) (db : Db) :
    tables ((findFinished connections).run db).state = tables db := by
  simp only [findFinished, Script.bind_eq, Script.run_bind, Script.pure_eq_done, Script.run_done,
    Script.run_exec]
  exact forEach_tables (fun _ _ => rfl) _ _

theorem findFinished_silent {γ : Type} {p : Event → Option γ} (hp : ∀ r, p (.listed r) = none)
    (connections : List Str) (db : Db) :
    ((findFinished connections).run db).events.filterMap p = [] := by
  simp only [findFinished, Script.bind_eq, Script.run_bind, Script.pure_eq_done, Script.run_done,
    Script.run_exec, List.filterMap_append, List.append_nil]
  rw [forEach_silent (fun _ _ => by simp)]
  simp [List.filterMap_map, hp]

theorem exceeding_congr {db db' : Db} (h : tables db = tables db') :
    exceeding db = exceeding db' := by
  simp only [tables, Prod.mk.injEq] at h
  have hover : overLimit db = overLimit db' := by
    funext username l
    simp [overLimit, h.1]
  simp [exceeding, hover, h.1, h.2.1]

end Logs

/-! ## The insert-or-update loop -/

abbrev ConnectionTable := Table OpenvpnConnection OpenvpnConnection.id

/-- What one client does to the table. -/
def upsert (t : ConnectionTable) (c : Client) : ConnectionTable :=
  if 0 < t.rows.countP (sameSession c) then
    t.update (sameSession c) (fun r => { r with traffic := clampInt c.traffic }) (traffic_id c)
  else
    match c.clientIp, c.clientPort with
    | some ip, some port => t.insert (newRow c ip port) (newRow_id c ip port)
    | _, _ => t

theorem refreshClient_tables (c : Client) (db : Db) :
    tables ((refreshClient c).run db).state =
      (upsert db.openvpnConnections c, db.login, db.connections, db.transactionsRecords,
        db.now) := by
  by_cases hknown : 0 < db.openvpnConnections.rows.countP (sameSession c)
  · simp [refreshClient, hknown, upsert, updateTraffic, tables]
  · cases hip : c.clientIp <;> cases hport : c.clientPort <;>
      simp [refreshClient, hknown, upsert, insertClient, log, insertLog, tables, hip, hport]

theorem refreshClient_silent {γ : Type} {p : Event → Option γ} (hp : ∀ r, p (.opened r) = none)
    (c : Client) (db : Db) : ((refreshClient c).run db).events.filterMap p = [] := by
  by_cases hknown : 0 < db.openvpnConnections.rows.countP (sameSession c)
  · simp [refreshClient, hknown]
  · cases hip : c.clientIp <;> cases hport : c.clientPort <;>
      simp [refreshClient, hknown, insertClient, hip, hport, hp]

/-- The table after the loop. -/
def upserted (clients : List Client) (t : ConnectionTable) : ConnectionTable :=
  clients.foldl upsert t

theorem refreshClients_tables (clients : List Client) (db : Db) :
    tables ((Script.forEach clients refreshClient).run db).state =
      (upserted clients db.openvpnConnections, db.login, db.connections,
        db.transactionsRecords, db.now) := by
  rw [Script.run_forEach_part (p := tables) (f := fun t c => (upsert t.1 c, t.2))
    refreshClient_tables]
  have hfold : ∀ t : ConnectionTable, ∀ rest : LoginTable × Table Connection Connection.id ×
      List TransactionsRecord × Time,
      clients.foldl (fun t c => (upsert t.1 c, t.2)) (t, rest) = (upserted clients t, rest) := by
    unfold upserted
    induction clients with
    | nil => exact fun _ _ => rfl
    | cons c clients ih => exact fun t rest => ih (upsert t c) rest
  exact hfold _ _

/-! ## The moving loop -/

def deduct (l : LoginTable) (r : OpenvpnConnection) : LoginTable :=
  l.update (Login.named (some r.username)) (Login.addCredit (-r.traffic)) (fun _ => rfl)
    fun _ => rfl

theorem deduct_rows (l : LoginTable) (r : OpenvpnConnection) :
    (deduct l r).rows =
      updateAll (Login.named (some r.username)) (Login.addCredit (-r.traffic)) l.rows := rfl

theorem moveConnections_tables (finished : List OpenvpnConnection) (db : Db) :
    tables ((Script.forEach finished moveConnection).run db).state =
      (finished.foldl (fun t r => t.delete fun r' => r'.id == r.id) db.openvpnConnections,
        finished.foldl deduct db.login,
        finished.foldl (fun t r => t.insert (historyRow db.now r) fun _ => rfl) db.connections,
        db.transactionsRecords, db.now) := by
  induction finished generalizing db with
  | nil => rfl
  | cons r finished ih =>
      simp only [Script.forEach, Script.run_bind, ih, List.foldl_cons]
      simp [moveConnection, removeRow, insertHistory, Db.addCredit, deduct]

theorem moveConnections_deductions (finished : List OpenvpnConnection) (db : Db) :
    ((Script.forEach finished moveConnection).run db).events.filterMap deduction =
      finished.map fun r => (.openvpn r, r.username, r.traffic) := by
  rw [Script.run_forEach_filterMap (g := fun r => [(.openvpn r, r.username, r.traffic)])]
  · induction finished with
    | nil => rfl
    | cons r finished ih => simp [ih]
  · intro r db
    simp [moveConnection]
    rfl

theorem moveConnections_killed (finished : List OpenvpnConnection) (db : Db) :
    ((Script.forEach finished moveConnection).run db).events.filterMap killed = [] := by
  refine forEach_silent (fun r db => ?_) finished db
  simp [moveConnection, killed]

theorem settle_tables (finished : List OpenvpnConnection) (db : Db) :
    tables ((settle finished).run db).state =
      (finished.foldl (fun t r => t.delete fun r' => r'.id == r.id) db.openvpnConnections,
        finished.foldl deduct db.login,
        finished.foldl (fun t r => t.insert (historyRow db.now r) fun _ => rfl) db.connections,
        db.transactionsRecords, db.now) := by
  have hkill := forEach_tables killUser_tables (exceeding db) db
  simp only [tables, Prod.mk.injEq] at hkill
  simp only [settle, Script.bind_eq, Script.run_bind, Script.run_query, moveConnections_tables,
    hkill]

theorem settle_deductions (finished : List OpenvpnConnection) (db : Db) :
    ((settle finished).run db).events.filterMap deduction =
      finished.map fun r => (.openvpn r, r.username, r.traffic) := by
  have hkill : ((Script.forEach (exceeding db) killUser).run db).events.filterMap deduction = [] :=
    forEach_silent (fun name db => by simp [killUser, deduction]) _ _
  simp only [settle, Script.bind_eq, Script.run_bind, Script.run_query, List.filterMap_append,
    hkill, moveConnections_deductions, List.nil_append]

theorem settle_killed (finished : List OpenvpnConnection) (db : Db) :
    ((settle finished).run db).events.filterMap killed = exceeding db := by
  have hkill : ((Script.forEach (exceeding db) killUser).run db).events.filterMap killed =
      exceeding db := by
    rw [Script.run_forEach_filterMap (g := fun name => [name])]
    · simp
    · intro name db
      simp [killUser, killed]
  simp only [settle, Script.bind_eq, Script.run_bind, Script.run_query, List.filterMap_append,
    hkill, moveConnections_killed, List.nil_append, List.append_nil]

/-! ## The execution -/

/-- The database when the script looks for finished rows and for users over their
limit. -/
def queried (clients : List Client) (db : Db) : Db :=
  { db with openvpnConnections := upserted clients db.openvpnConnections }

/-- The rows that one execution moves. -/
def finished (clients : List Client) (db : Db) : List OpenvpnConnection :=
  finishedRows (clients.map (·.hashStr)) (queried clients db)

/-- The script from the search for finished rows on starts in `queried`, but for
the logs. -/
theorem refreshConnected_run (clients : List Client) (db : Db) :
    ∃ db', tables db' = tables (queried clients db) ∧
      (refreshConnected clients).final db = ((settle (finished clients db)).run db').state ∧
      ∀ {γ : Type} {p : Event → Option γ}, p .polled = none → (∀ r, p (.opened r) = none) →
        (∀ r, p (.listed r) = none) →
        ((refreshConnected clients).emitted db).filterMap p =
          ((settle (finished clients db)).run db').events.filterMap p := by
  obtain ⟨db₁, hdb₁⟩ : ∃ db₁,
      db₁ = ((log ("connected clients: ".toList ++ dec clients.length)).run db).state := ⟨_, rfl⟩
  obtain ⟨db₂, hdb₂⟩ : ∃ db₂, db₂ = ((Script.forEach clients refreshClient).run db₁).state :=
    ⟨_, rfl⟩
  have hlogged : tables db₁ = tables db := by rw [hdb₁, log_tables]
  have htables : tables db₂ = tables (queried clients db) := by
    simp only [tables, Prod.mk.injEq] at hlogged
    rw [hdb₂, refreshClients_tables]
    simp [tables, queried, hlogged]
  have hfinished : finishedRows (clients.map (·.hashStr)) db₂ = finished clients db := by
    simp only [tables, Prod.mk.injEq] at htables
    rw [finished, finishedRows, finishedRows, htables.1]
  refine ⟨((findFinished (clients.map (·.hashStr))).run db₂).state, ?_, ?_, ?_⟩
  · rw [findFinished_tables, htables]
  · simp only [refreshConnected, Script.final, Script.bind_eq, Script.run_bind,
      Script.run_modify, id, ← hdb₁, ← hdb₂, findFinished_value, hfinished]
  · intro γ p hpolled hopened hlisted
    simp only [refreshConnected, Script.emitted, Script.bind_eq, Script.run_bind,
      Script.run_modify, id, ← hdb₁, ← hdb₂, findFinished_value, hfinished,
      List.filterMap_append, log_events, List.nil_append,
      forEach_silent (refreshClient_silent hopened), findFinished_silent hlisted]
    simp [hpolled]

theorem refreshConnected_tables (clients : List Client) (db : Db) :
    tables ((refreshConnected clients).final db) =
      ((finished clients db).foldl (fun t r => t.delete fun r' => r'.id == r.id)
          (upserted clients db.openvpnConnections),
        (finished clients db).foldl deduct db.login,
        (finished clients db).foldl (fun t r => t.insert (historyRow db.now r) fun _ => rfl)
          db.connections,
        db.transactionsRecords, db.now) := by
  obtain ⟨db', htables, hfinal, -⟩ := refreshConnected_run clients db
  simp only [tables, Prod.mk.injEq] at htables
  rw [hfinal, settle_tables]
  simp [htables, queried]

theorem refreshConnected_deductions (clients : List Client) (db : Db) :
    ((refreshConnected clients).emitted db).filterMap deduction =
      (finished clients db).map fun r => (.openvpn r, r.username, r.traffic) := by
  obtain ⟨db', -, -, hevents⟩ := refreshConnected_run clients db
  rw [hevents rfl (fun _ => rfl) (fun _ => rfl), settle_deductions]

theorem refreshConnected_killed (clients : List Client) (db : Db) :
    ((refreshConnected clients).emitted db).filterMap killed =
      exceeding (queried clients db) := by
  obtain ⟨db', htables, -, hevents⟩ := refreshConnected_run clients db
  rw [hevents rfl (fun _ => rfl) (fun _ => rfl), settle_killed, exceeding_congr htables]

end ParDiff.OpenVpn
