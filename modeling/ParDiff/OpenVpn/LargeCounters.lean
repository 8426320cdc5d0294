import ParDiff.OpenVpn.LastTraffic

/-!
# Large counters

`openvpn_connections.traffic` is an `int(11)`, while the counters of a session, the
credit of an account and `connections.connection_traffic` go further.  A report of
`2^31` bytes or more is stored as the largest value of the column, and this is what
the query for users over their limit adds up and what the account is charged.
-/

namespace ParDiff.OpenVpn

open Lib Lib.Text

/-! ## The property -/

/-- The traffic `n` of a known session is stored by the execution with the snapshot
`clients`, added up in its query for users over their limit, and deducted by the
next execution, with the snapshot `next`, that no longer sees the session. -/
structure RecordedInFull (k : SessionKey) (n : Int) (clients next : List Client) (db : Db) :
    Prop where
  stored : Stores k ((refreshConnected clients).final db).openvpnConnections (some n)
  summed : sumTraffic k.username (queried clients db).openvpnConnections.rows =
    n + sumTraffic k.username
      ((queried clients db).openvpnConnections.rows.filter fun r => !decide (rowKey r = k))
  billed : BilledFor k n next ((refreshConnected clients).final db)

theorem clampInt_eq_iff {z : Int} (h : 0 ≤ z) : clampInt z = z ↔ z < 2 ^ 31 := by
  unfold clampInt
  omega

/-! ## What the table has -/

section

variable {ks : List SessionKey} (hks : Distinct ks) {t : ConnectionTable}

include hks

/-- The last report of a known session is stored as far as the column goes. -/
theorem Faithful.stores_last (h : Faithful ks t) {before after : List Client} {c : Client}
    (hclients : Reported ks (before ++ c :: after)) (hknown : c.key ∈ t.rows.map rowKey)
    (hlast : c.key ∉ keys after) :
    Stores c.key (OpenVpn.upserted (before ++ c :: after) t) (some (clampInt c.traffic)) := by
  have hbefore : Reported ks before := fun c' hc' => hclients c' (by simp [hc'])
  have hafter : Reported ks after := fun c' hc' => hclients c' (by simp [hc'])
  obtain ⟨hc, hck⟩ := hclients c (by simp)
  have hsplit : OpenVpn.upserted (before ++ c :: after) t =
      OpenVpn.upserted after (OpenVpn.upsert (OpenVpn.upserted before t) c) := by
    unfold OpenVpn.upserted
    rw [List.foldl_append, List.foldl_cons]
  have hmiddle := h.upserted hks hbefore
  have hmem : c.key ∈ (OpenVpn.upserted before t).rows.map rowKey :=
    (h.mem_upserted_keys hks hbefore c.key).2 (.inl hknown)
  have hstep : Stores c.key (OpenVpn.upsert (OpenVpn.upserted before t) c)
      (some (clampInt c.traffic)) := by
    obtain ⟨r, hr, hkey⟩ := List.mem_map.1 hmem
    refine ⟨{ r with traffic := clampInt c.traffic }, ?_, hkey, rfl⟩
    rw [hmiddle.upsert_of_mem hks hc hck hmem]
    have hsame := (hmiddle.sameSession_iff hks hc hck hr).2 hkey
    exact mem_updateAll.2 ⟨r, hr, by rw [if_pos hsame]⟩
  have hothers : ∀ c' ∈ after, c'.key ≠ c.key := by
    intro c' hc' hkey
    exact hlast (hkey ▸ List.mem_map_of_mem hc')
  have hquiet : observed c.key after = [] := by
    rw [observed, List.map_eq_nil_iff, List.filter_eq_nil_iff]
    intro c' hc'
    simpa using hothers c' hc'
  have hend := (hmiddle.upsert hks hc hck).stores_upserted hks hafter
    (fun c' hc' hkey => absurd hkey (hothers c' hc')) hstep
  rw [hquiet] at hend
  rw [hsplit]
  exact hend

omit hks in
/-- The one row of a session contributes its traffic. -/
theorem Faithful.sumTraffic_session (h : Faithful ks t) {k : SessionKey} {m : Int}
    (hstores : Stores k t (some m)) :
    sumTraffic k.username (t.rows.filter fun r => decide (rowKey r = k)) = m := by
  obtain ⟨r, hr, hkey, htraffic⟩ := hstores
  have hone : t.rows.filter (fun r => decide (rowKey r = k)) = [r] :=
    filter_eq_singleton h.once hr fun a _ => by rw [decide_eq_true_eq, hkey]
  have hname : r.username = k.username := congrArg SessionKey.username hkey
  rw [hone]
  simp [sumTraffic, hname, htraffic]

/-- All three numbers are what the column makes of the report. -/
theorem Faithful.recordedInFull_iff {db : Db} (h : Faithful ks db.openvpnConnections)
    {before after next : List Client} {c : Client}
    (hclients : Reported ks (before ++ c :: after)) (hnext : Reported ks next)
    (hknown : c.key ∈ db.openvpnConnections.rows.map rowKey) (hlast : c.key ∉ keys after)
    (hgone : c.key ∉ keys next) (n : Int) :
    RecordedInFull c.key n (before ++ c :: after) next db ↔ n = clampInt c.traffic := by
  have hup := h.upserted hks hclients
  have hqueried := h.stores_last hks hclients hknown hlast
  have hfaithful := h.refreshConnected hks hclients
  have hstores : Stores c.key
      ((OpenVpn.refreshConnected (before ++ c :: after)).final db).openvpnConnections
      (some (clampInt c.traffic)) := by
    obtain ⟨r, hr, hkey, htraffic⟩ := hqueried
    refine ⟨r, ?_, hkey, htraffic⟩
    rw [refreshConnected_rows hks hclients h]
    exact List.mem_filter.2 ⟨hr, by simp [hkey, keys]⟩
  have hbill := hfaithful.billedFor_iff hks hnext hgone hstores n
  constructor
  · intro hrecorded
    exact hbill.1 hrecorded.billed
  · rintro rfl
    refine ⟨hstores, ?_, hbill.2 rfl⟩
    rw [sumTraffic_filter c.key.username (fun r => decide (rowKey r = c.key))]
    congr 1
    exact hup.sumTraffic_session hqueried

end

/-! ## Every report -/

/-- **Large counters.**  After any executions, the report of a known session is
recorded in full exactly if both counters together stay below `2^31`. -/
theorem recorded_in_full_iff {db₀ : Db} (hempty : db₀.openvpnConnections.rows = [])
    (polls : List Poll) (before after next : List Client) (c : Client) (recv sent : Nat)
    (hrecv : c.recv = dec recv) (hsent : c.sent = dec sent)
    (hwell : ∀ c' ∈ clientsOf polls ++ (before ++ c :: after) ++ next, c'.WellFormed)
    (hks : Distinct (keys (clientsOf polls ++ (before ++ c :: after) ++ next)))
    (hknown : c.key ∈ (polls.foldl poll db₀).openvpnConnections.rows.map rowKey)
    (hlast : c.key ∉ keys after) (hgone : c.key ∉ keys next) :
    RecordedInFull c.key (recv + sent) (before ++ c :: after) next (polls.foldl poll db₀) ↔
      recv + sent < 2 ^ 31 := by
  have hreported : Reported (keys (clientsOf polls ++ (before ++ c :: after) ++ next))
      (clientsOf polls ++ (before ++ c :: after) ++ next) :=
    fun c' hc' => ⟨hwell c' hc', List.mem_map_of_mem hc'⟩
  have hpolls : Reported _ (clientsOf polls) := fun c' hc' =>
    hreported c' (List.mem_append_left _ (List.mem_append_left _ hc'))
  have hclients : Reported _ (before ++ c :: after) := fun c' hc' =>
    hreported c' (List.mem_append_left _ (List.mem_append_right _ hc'))
  have hnext : Reported _ next := fun c' hc' => hreported c' (List.mem_append_right _ hc')
  have hstart : Faithful (keys (clientsOf polls ++ (before ++ c :: after) ++ next))
      db₀.openvpnConnections := ⟨by simp [hempty], by simp [hempty]⟩
  have hfaithful := hstart.polls hks hpolls
  have htraffic : c.traffic = recv + sent := by
    rw [Client.traffic, hrecv, hsent, intPrefix_dec, intPrefix_dec]
  rw [hfaithful.recordedInFull_iff hks hclients hnext hknown hlast hgone, htraffic, eq_comm,
    clampInt_eq_iff (by omega)]
  omega

/-! ## A long session -/

def longClient (recv : Nat) : Client := { annClient with recv := dec recv, sent := dec 0 }

theorem longClient_wellFormed (recv : Nat) : (longClient recv).WellFormed := annClient_wellFormed

/-- A session of `2^31` bytes, seen three times, is charged one byte less. -/
theorem long_session_clamped :
    (longClient (2 ^ 31)).WellFormed ∧
      (longClient (2 ^ 31)).key ∈
        (poll annDb ⟨60, some [longClient 0]⟩).openvpnConnections.rows.map rowKey ∧
      ¬RecordedInFull annKey (2 ^ 31) [longClient (2 ^ 31)] []
        (poll annDb ⟨60, some [longClient 0]⟩) ∧
      ((refreshConnected []).final ((refreshConnected [longClient (2 ^ 31)]).final
        (poll annDb ⟨60, some [longClient 0]⟩))).login.rows.map (·.credit) =
          [some (100 - 2147483647)] := by
  refine ⟨longClient_wellFormed _, by decide, fun h => ?_, by decide⟩
  obtain ⟨r, hr, -, htraffic⟩ := h.stored
  have hrows : ∀ r ∈ ((refreshConnected [longClient (2 ^ 31)]).final
      (poll annDb ⟨60, some [longClient 0]⟩)).openvpnConnections.rows,
      r.traffic ≠ 2 ^ 31 := by decide
  exact hrows r hr htraffic

theorem recorded_in_full_below :
    RecordedInFull annKey ((2 ^ 31 - 1 : Nat) + (0 : Nat)) ([] ++ longClient (2 ^ 31 - 1) :: []) []
      (([⟨60, some [longClient 0]⟩] : List Poll).foldl poll annDb) := by
  refine (recorded_in_full_iff rfl [⟨60, some [longClient 0]⟩] [] [] []
    (longClient (2 ^ 31 - 1)) (2 ^ 31 - 1) 0 rfl rfl (fun c hc => ?_) (by unfold Distinct; decide)
    (by decide) (by decide) (by decide)).2 (by decide)
  have hc' : c = longClient 0 ∨ c = longClient (2 ^ 31 - 1) := by
    simpa [clientsOf] using hc
  rcases hc' with rfl | rfl
  · exact longClient_wellFormed _
  · exact longClient_wellFormed _

end ParDiff.OpenVpn
