import ParDiff.OpenVpn.Mirror

/-!
# The traffic a session is billed

A session is inserted with traffic `0`, and only a later report of the same
session stores what it has transferred.  So a session is billed the last traffic
that was observed for it exactly if it was reported at least twice, or if that
last traffic is zero.
-/

namespace ParDiff.OpenVpn

open Lib Lib.Text

/-- What was reported for a session, in order. -/
def observed (k : SessionKey) (clients : List Client) : List Int :=
  (clients.filter fun c => c.key = k).map (·.traffic)

@[simp] theorem observed_append (k : SessionKey) (cs cs' : List Client) :
    observed k (cs ++ cs') = observed k cs ++ observed k cs' := by
  simp [observed]

/-- The traffic after the reports `ns`: the first one opens a row at zero. -/
def stored : Option Int → List Int → Option Int
  | current, [] => current
  | none, _ :: ns => stored (some 0) ns
  | some _, n :: ns => stored (some n) ns

theorem stored_append (ns ns' : List Int) (current : Option Int) :
    stored current (ns ++ ns') = stored (stored current ns) ns' := by
  induction ns generalizing current with
  | nil => rfl
  | cons n ns ih => cases current <;> exact ih _

theorem stored_some (ns : List Int) (n : Int) : stored (some n) ns = some (ns.getLastD n) := by
  induction ns generalizing n with
  | nil => rfl
  | cons m ns ih =>
      rw [stored, ih, List.getLastD_cons]

/-- The table knows this traffic for the session. -/
def Stores (k : SessionKey) (t : ConnectionTable) : Option Int → Prop
  | none => k ∉ t.rows.map rowKey
  | some n => ∃ r ∈ t.rows, rowKey r = k ∧ r.traffic = n

section

variable {ks : List SessionKey} (hks : Distinct ks) {t : ConnectionTable} {k : SessionKey}

include hks

theorem Faithful.stores_upsert (h : Faithful ks t) {c : Client} (hc : c.WellFormed)
    (hck : c.key ∈ ks) (hrange : c.key = k → clampInt c.traffic = c.traffic)
    {current : Option Int} (hstores : Stores k t current) :
    Stores k (OpenVpn.upsert t c) (stored current (observed k [c])) := by
  by_cases hkey : c.key = k
  · have hobserved : observed k [c] = [c.traffic] := by simp [observed, hkey]
    rw [hobserved]
    cases current with
    | none =>
        have hnew : c.key ∉ t.rows.map rowKey := hkey ▸ hstores
        obtain ⟨r, hrows, -, hrkey, htraffic⟩ := h.upsert_of_notMem hks hc hck hnew
        exact ⟨r, by rw [hrows]; simp, hrkey.trans hkey, htraffic⟩
    | some n =>
        obtain ⟨r, hr, hrkey, -⟩ := hstores
        have hmem : c.key ∈ t.rows.map rowKey := by
          rw [hkey, ← hrkey]
          exact List.mem_map_of_mem hr
        refine ⟨{ r with traffic := clampInt c.traffic }, ?_, hrkey, hrange hkey⟩
        rw [h.upsert_of_mem hks hc hck hmem]
        have hsame := (h.sameSession_iff hks hc hck hr).2 (hrkey.trans hkey.symm)
        exact mem_updateAll.2 ⟨r, hr, by rw [if_pos hsame]⟩
  · have hobserved : observed k [c] = [] := by simp [observed, hkey]
    rw [hobserved]
    cases current with
    | none =>
        have hnew : k ∉ t.rows.map rowKey := hstores
        show k ∉ (OpenVpn.upsert t c).rows.map rowKey
        rw [h.upsert_keys hks hc hck]
        split
        · exact hnew
        · intro hmem
          rcases List.mem_append.1 hmem with hmem | hmem
          · exact hnew hmem
          · exact hkey (List.mem_singleton.1 hmem).symm
    | some n =>
        obtain ⟨r, hr, hrkey, htraffic⟩ := hstores
        by_cases hmem : c.key ∈ t.rows.map rowKey
        · refine ⟨r, ?_, hrkey, htraffic⟩
          rw [h.upsert_of_mem hks hc hck hmem]
          have hother : ¬sameSession c r = true := fun hsame =>
            hkey (((h.sameSession_iff hks hc hck hr).1 hsame).symm.trans hrkey)
          exact mem_updateAll.2 ⟨r, hr, by rw [if_neg hother]⟩
        · obtain ⟨r', hrows, -⟩ := h.upsert_of_notMem hks hc hck hmem
          exact ⟨r, by rw [hrows]; simp [hr], hrkey, htraffic⟩

theorem Faithful.stores_upserted (h : Faithful ks t) {clients : List Client}
    (hclients : Reported ks clients)
    (hrange : ∀ c ∈ clients, c.key = k → clampInt c.traffic = c.traffic)
    {current : Option Int} (hstores : Stores k t current) :
    Stores k (OpenVpn.upserted clients t) (stored current (observed k clients)) := by
  unfold OpenVpn.upserted
  induction clients generalizing t current with
  | nil => exact hstores
  | cons c clients ih =>
      have hc := hclients c (by simp)
      have hstep := h.stores_upsert hks hc.1 hc.2 (hrange c (by simp)) hstores
      have hrest := ih (h.upsert hks hc.1 hc.2) (fun c' hc' => hclients c' (by simp [hc']))
        (fun c' hc' => hrange c' (by simp [hc'])) hstep
      rwa [← stored_append, ← observed_append] at hrest

theorem Faithful.stores_poll {db : Db} (h : Faithful ks db.openvpnConnections) {p : Poll}
    (hclients : Reported ks (p.status.getD []))
    (hrange : ∀ c ∈ p.status.getD [], c.key = k → clampInt c.traffic = c.traffic)
    (hmem : ∀ clients, p.status = some clients → k ∈ keys clients)
    {current : Option Int} (hstores : Stores k db.openvpnConnections current) :
    Stores k (OpenVpn.poll db p).openvpnConnections
      (stored current (observed k (p.status.getD []))) := by
  obtain ⟨elapsed, status⟩ := p
  cases status with
  | none => exact hstores
  | some clients =>
      have hclients' : Reported ks clients := hclients
      have hup := h.stores_upserted hks hclients' hrange hstores
      have hkeys : k ∈ keys clients := hmem clients rfl
      have hrows := refreshConnected_rows hks hclients'
        (show Faithful ks (db.tick elapsed).openvpnConnections from h)
      show Stores k ((OpenVpn.refreshConnected clients).final (db.tick elapsed)).openvpnConnections
        (stored current (observed k clients))
      cases hcurrent : stored current (observed k clients) with
      | none =>
          rw [hcurrent] at hup
          have hin := (h.mem_upserted_keys hks hclients' k).2 (.inr hkeys)
          exact absurd hin hup
      | some n =>
          rw [hcurrent] at hup
          obtain ⟨r, hr, hrkey, htraffic⟩ := hup
          refine ⟨r, ?_, hrkey, htraffic⟩
          rw [hrows]
          exact List.mem_filter.2 ⟨hr, by rw [hrkey]; simpa using hkeys⟩

theorem Faithful.stores_polls {db : Db} (h : Faithful ks db.openvpnConnections)
    {polls : List Poll} (hclients : Reported ks (clientsOf polls))
    (hrange : ∀ c ∈ clientsOf polls, c.key = k → clampInt c.traffic = c.traffic)
    (hmem : ∀ p ∈ polls, ∀ clients, p.status = some clients → k ∈ keys clients)
    {current : Option Int} (hstores : Stores k db.openvpnConnections current) :
    Stores k (polls.foldl OpenVpn.poll db).openvpnConnections
      (stored current (observed k (clientsOf polls))) := by
  induction polls generalizing db current with
  | nil => exact hstores
  | cons p polls ih =>
      have hhead : ∀ c ∈ p.status.getD [], c ∈ clientsOf (p :: polls) := fun c hc =>
        List.mem_flatMap.2 ⟨p, by simp, hc⟩
      have htail : ∀ c ∈ clientsOf polls, c ∈ clientsOf (p :: polls) := fun c hc =>
        List.mem_append_right _ hc
      have hstep := h.stores_poll hks (fun c hc => hclients c (hhead c hc))
        (fun c hc => hrange c (hhead c hc)) (hmem p (by simp)) hstores
      have hrest := ih (h.poll hks fun c hc => hclients c (hhead c hc))
        (fun c hc => hclients c (htail c hc)) (fun c hc => hrange c (htail c hc))
        (fun p' hp' => hmem p' (by simp [hp'])) hstep
      rwa [← stored_append, ← observed_append] at hrest

theorem Faithful.notMem_polls {db : Db} (h : Faithful ks db.openvpnConnections)
    {polls : List Poll} (hclients : Reported ks (clientsOf polls))
    (hnone : k ∉ keys (clientsOf polls)) (hk : k ∉ db.openvpnConnections.rows.map rowKey) :
    k ∉ (polls.foldl OpenVpn.poll db).openvpnConnections.rows.map rowKey := by
  induction polls generalizing db with
  | nil => exact hk
  | cons p polls ih =>
      have hhead : Reported ks (p.status.getD []) := fun c hc =>
        hclients c (List.mem_flatMap.2 ⟨p, by simp, hc⟩)
      simp only [clientsOf, List.flatMap_cons, keys, List.map_append, List.mem_append,
        not_or] at hnone
      refine ih (h.poll hks hhead) (fun c hc => hclients c (List.mem_append_right _ hc))
        hnone.2 ?_
      obtain ⟨elapsed, status⟩ := p
      cases status with
      | none => exact hk
      | some clients =>
          have hmirrors := refreshConnected_mirrors hks hhead
            (show Faithful ks (db.tick elapsed).openvpnConnections from h)
          exact fun hmem => hnone.1 ((hmirrors.keys k).1 hmem)

end

/-! ## The bill -/

/-- The deduction is for the session. -/
def isOf (k : SessionKey) : Source → Bool
  | .openvpn r => rowKey r = k
  | _ => false

/-- The next execution, with the snapshot `clients`, bills the session `n` bytes:
it makes one deduction for it, of `n` from the account of its user, and inserts
one history row for it, with `n` as its traffic. -/
structure BilledFor (k : SessionKey) (n : Int) (clients : List Client) (db : Db) : Prop where
  row : ∃ r, rowKey r = k ∧ r.traffic = n ∧
    (((refreshConnected clients).emitted db).filterMap deduction).filter (fun d => isOf k d.1) =
      [(.openvpn r, k.username, n)] ∧
    ∃ id, historyRow db.now r id ∈
      ((refreshConnected clients).final db).connections.rows.drop db.connections.rows.length
  /-- The user has `n` bytes less, and what the other sessions cost. -/
  credit : ∀ u ∈ db.login.rows, ciEq u.username k.username →
    ∃ u' ∈ ((refreshConnected clients).final db).login.rows, u'.id = u.id ∧
      u'.credit = u.credit.map (· - (n + sumTraffic u.username
        ((gone clients db).filter fun r => !decide (rowKey r = k))))
  traffic : (some (k.username.take 200), some n) ∈
    (((refreshConnected clients).final db).connections.rows.drop db.connections.rows.length).map
      fun r => (r.username, r.connectionTraffic)
  mirrors : Mirrors clients db ((refreshConnected clients).final db)
    ((refreshConnected clients).emitted db)

/-- A session that is gone is billed what the table has for it, once. -/
theorem Faithful.billedFor_iff {ks : List SessionKey} (hks : Distinct ks) {db : Db}
    (h : Faithful ks db.openvpnConnections) {clients : List Client}
    (hclients : Reported ks clients) {k : SessionKey} (hgone : k ∉ keys clients) {m : Int}
    (hstores : Stores k db.openvpnConnections (some m)) (n : Int) :
    BilledFor k n clients db ↔ n = m := by
  obtain ⟨r, hr, hkey, htraffic⟩ := hstores
  have hmirrors := refreshConnected_mirrors hks hclients h
  have hname : r.username = k.username := congrArg SessionKey.username hkey
  have hmem : r ∈ gone clients db :=
    List.mem_filter.2 ⟨hr, by rw [hkey]; simpa using hgone⟩
  have honce : ((gone clients db).map rowKey).Nodup := h.once.sublist (List.filter_sublist.map _)
  have hfilter : (gone clients db).filter (fun r => decide (rowKey r = k)) = [r] :=
    filter_eq_singleton honce hmem fun a _ => by rw [decide_eq_true_eq, hkey]
  have hbill : (((OpenVpn.refreshConnected clients).emitted db).filterMap deduction).filter
      (fun d => isOf k d.1) = [(.openvpn r, k.username, m)] := by
    rw [hmirrors.deductions, List.filter_map]
    have hcomp : ((fun d : Source × Str × Int => isOf k d.1) ∘
        fun r : OpenvpnConnection => (Source.openvpn r, r.username, r.traffic)) =
        fun r => decide (rowKey r = k) := rfl
    rw [hcomp, hfilter, List.map_singleton, hname, htraffic]
  have hrow : ∃ id, historyRow db.now r id ∈
      ((OpenVpn.refreshConnected clients).final db).connections.rows.drop
        db.connections.rows.length := by
    obtain ⟨i, hi, hget⟩ := List.getElem_of_mem hmem
    refine ⟨db.connections.auto + i, ?_⟩
    rw [hmirrors.history, List.drop_left, List.mem_mapIdx]
    exact ⟨i, hi, by rw [hget]⟩
  constructor
  · rintro ⟨⟨r', -, -, hbill', -⟩, -⟩
    rw [hbill] at hbill'
    simp only [List.cons.injEq, Prod.mk.injEq, and_true] at hbill'
    exact hbill'.2.2.symm
  · rintro rfl
    refine ⟨⟨r, hkey, htraffic, hbill, hrow⟩, fun u hu hnamed => ?_, ?_, hmirrors⟩
    · obtain ⟨u', hu', hid, hcredit⟩ := hmirrors.credit u hu
      have hown : sumTraffic u.username [r] = n := by
        simp [sumTraffic, hname, ciEq_iff.2 (ciEq_iff.1 hnamed).symm, htraffic]
      rw [sumTraffic_filter u.username (fun r => decide (rowKey r = k)), hfilter, hown] at hcredit
      exact ⟨u', hu', hid, hcredit⟩
    · obtain ⟨id, hid⟩ := hrow
      refine List.mem_map.2 ⟨_, hid, ?_⟩
      simp [historyRow, hname, htraffic]

/-- **Billed the last observed traffic.**  A session that executions start to
see, see for some time and then miss for the first time is billed the traffic
`last` of its last report exactly if it was reported twice or more, or `last` is
zero. -/
theorem billed_last_observed_iff {db₀ : Db} (hempty : db₀.openvpnConnections.rows = [])
    (before during : List Poll) (clients : List Client) {k : SessionKey}
    (hwell : ∀ c ∈ clientsOf (before ++ during) ++ clients, c.WellFormed)
    (hks : Distinct (keys (clientsOf (before ++ during) ++ clients)))
    (hrange : ∀ c ∈ clientsOf during, c.key = k → 0 ≤ c.traffic ∧ c.traffic < 2 ^ 31)
    (hbefore : k ∉ keys (clientsOf before))
    (hduring : ∀ p ∈ during, ∀ clients, p.status = some clients → k ∈ keys clients)
    (hgone : k ∉ keys clients) {last : Int}
    (hlast : (observed k (clientsOf during)).getLast? = some last) :
    BilledFor k last clients ((before ++ during).foldl poll db₀) ↔
      2 ≤ (observed k (clientsOf during)).length ∨ last = 0 := by
  have hreported : Reported (keys (clientsOf (before ++ during) ++ clients))
      (clientsOf (before ++ during) ++ clients) := fun c hc => ⟨hwell c hc, List.mem_map_of_mem hc⟩
  have hclients : Reported _ clients := fun c hc => hreported c (List.mem_append_right _ hc)
  have hpolls : Reported _ (clientsOf (before ++ during)) := fun c hc =>
    hreported c (List.mem_append_left _ hc)
  have hsplit : clientsOf (before ++ during) = clientsOf before ++ clientsOf during :=
    List.flatMap_append
  have hbefore' : Reported _ (clientsOf before) := fun c hc =>
    hpolls c (hsplit ▸ List.mem_append_left _ hc)
  have hduring' : Reported _ (clientsOf during) := fun c hc =>
    hpolls c (hsplit ▸ List.mem_append_right _ hc)
  have hstart : Faithful (keys (clientsOf (before ++ during) ++ clients))
      db₀.openvpnConnections := ⟨by simp [hempty], by simp [hempty]⟩
  have hfresh := hstart.notMem_polls hks hbefore' hbefore (by simp [hempty])
  have hmiddle := hstart.polls hks hbefore'
  have hstores := hmiddle.stores_polls hks hduring'
    (fun c hc hk => clampInt_of_range (by have := (hrange c hc hk).1; omega) (hrange c hc hk).2)
    hduring (show Stores k _ none from hfresh)
  have hfaithful := hmiddle.polls hks hduring'
  rw [← List.foldl_append] at hstores hfaithful
  cases hobs : observed k (clientsOf during) with
  | nil => simp [hobs] at hlast
  | cons first rest =>
      rw [hobs, stored, stored_some] at hstores
      rw [hobs, List.getLast?_cons, Option.some.injEq] at hlast
      rw [hfaithful.billedFor_iff hks hclients hgone hstores]
      cases rest with
      | nil =>
          simp only [List.getLastD_nil, List.length_singleton]
          omega
      | cons second rest =>
          simp only [List.getLastD_cons, List.getLast?_cons, Option.getD_some,
            List.length_cons] at hlast ⊢
          simp [← hlast]

/-! ## A session that one snapshot sees, and one that two see -/

def annClient : Client := exampleClient "ann".toList 2001 1274702460 "7".toList

def annKey : SessionKey := ⟨"ann".toList, "10.0.0.7".toList, 2001, 1274702460⟩

/-- One account, nobody connected. -/
def annDb : Db :=
  { Db.empty 1 with
    login := .single (.holding "ann".toList 100) }

theorem annClient_wellFormed : annClient.WellFormed :=
  exampleClient_wellFormed (by decide) (by decide) (by decide) _

/-- The session of 17 bytes that only one snapshot has is billed nothing. -/
theorem short_session_unbilled :
    annClient.WellFormed ∧ observed annKey [annClient] = [17] ∧
      ¬BilledFor annKey 17 [] (poll annDb ⟨60, some [annClient]⟩) ∧
      ((refreshConnected []).final (poll annDb ⟨60, some [annClient]⟩)).login.rows.map (·.credit) =
        [some 100] := by
  refine ⟨annClient_wellFormed, by decide, fun h => ?_, by decide⟩
  obtain ⟨r, -, -, hbill, -⟩ := h.row
  have hamounts : ((((refreshConnected []).emitted
      (poll annDb ⟨60, some [annClient]⟩)).filterMap deduction).filter
        fun d => isOf annKey d.1).map (·.2.2) = [0] := by decide
  rw [hbill] at hamounts
  exact absurd hamounts (by simp)

theorem billed_last_observed_two_snapshots :
    BilledFor annKey 17 []
      (([] ++ [⟨60, some [annClient]⟩, ⟨60, some [annClient]⟩] : List Poll).foldl poll annDb) := by
  refine (billed_last_observed_iff rfl [] [⟨60, some [annClient]⟩, ⟨60, some [annClient]⟩] []
    (fun c hc => ?_) (by unfold Distinct; decide) (by decide) (by decide) (fun p hp cs hcs => ?_)
    (by decide) (by decide)).2 (.inl (by decide))
  · have hc' : c = annClient := by simpa [clientsOf] using hc
    rw [hc']
    exact annClient_wellFormed
  · have hp' : p = ⟨60, some [annClient]⟩ := by simpa using hp
    rw [hp'] at hcs
    rw [← Option.some.inj hcs]
    decide

end ParDiff.OpenVpn
