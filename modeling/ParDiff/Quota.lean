import ParDiff.OpenVpn.Mirror
import ParDiff.Ppp.History

/-!
# Quota enforcement

`update_traffic.pl` compares every open PPP connection with the credit of its
user, one by one; `openvpn-refresh.pl` compares the sum over the user's OpenVPN
connections.  Neither adds up the two kinds, nor the PPP connections of a user.
What the two scripts do enforce, in either order, is `Enforced`.
-/

namespace ParDiff.Quota

open Lib Lib.Text OpenVpn

/-! ## `update_traffic.pl` -/

/-- Which process is killed. -/
def killedPid : Event → Option Int
  | .killPid pid => some pid
  | _ => none

theorem updateTraffic_killed (samples : List Ppp.Sample) (db : Db) :
    ((Ppp.updateTraffic samples).emitted db).filterMap killedPid =
      (Ppp.heavy (Ppp.sampled samples db) ++ Ppp.exceeded (Ppp.sampled samples db)).map
        (·.ppid) := by
  have hsilent : ((Script.forEach samples fun s =>
      (Script.modify (Ppp.storeSample s) fun _ => [] : Sql Unit)).run db).events.filterMap
        killedPid = [] := forEach_silent (by simp) samples db
  have hkill : ∀ (es : List Ppp.Ended) (db : Db),
      ((Script.forEach es Ppp.killSession).run db).events.filterMap killedPid =
        es.map (·.ppid) := by
    intro es db
    rw [Script.run_forEach_filterMap (g := fun e => [e.ppid])]
    · exact List.map_eq_flatMap.symm
    · intro e db
      simp [Ppp.killSession, killedPid]
  have hend : ∀ (ids : List Nat) (db : Db),
      ((Script.forEach ids Ppp.endConnection).run db).events.filterMap killedPid = [] :=
    forEach_silent (by simp [Ppp.endConnection])
  simp only [Ppp.updateTraffic, Script.emitted, Script.bind_eq, Script.run_bind,
    Script.run_query, Ppp.storeSamples_state, Ppp.killSessions_state, List.filterMap_append,
    hsilent, hkill, hend,
    List.nil_append, List.map_append]
  simp [insertLog]

theorem killPid_mem {events : List Event} {pid : Int}
    (h : pid ∈ events.filterMap killedPid) : Event.killPid pid ∈ events := by
  obtain ⟨e, he, hpid⟩ := List.mem_filterMap.1 h
  cases e <;> simp only [killedPid, reduceCtorEq, Option.some.injEq] at hpid
  exact hpid ▸ he

theorem killPid_of_heavy {samples : List Ppp.Sample} {db : Db} {r : Connection}
    (hr : r ∈ (Ppp.sampled samples db).connections.rows) (hheavy : Ppp.isHeavy r = true) :
    Event.killPid r.ppid ∈ (Ppp.updateTraffic samples).emitted db := by
  refine killPid_mem ?_
  rw [updateTraffic_killed, List.map_append]
  refine List.mem_append_left _ (List.mem_map.2 ⟨⟨r.id, r.ppid⟩, ?_, rfl⟩)
  exact List.mem_map.2 ⟨r, List.mem_filter.2 ⟨hr, hheavy⟩, rfl⟩

theorem killPid_of_exceeds {samples : List Ppp.Sample} {db : Db} {r : Connection}
    (hr : r ∈ (Ppp.sampled samples db).connections.rows) {u : Login}
    (hu : u ∈ (Ppp.sampled samples db).login.rows) (hexceeds : Ppp.exceedsCredit u r = true) :
    Event.killPid r.ppid ∈ (Ppp.updateTraffic samples).emitted db := by
  refine killPid_mem ?_
  rw [updateTraffic_killed, List.map_append]
  refine List.mem_append_right _ (List.mem_map.2 ⟨⟨r.id, r.ppid⟩, ?_, rfl⟩)
  refine List.mem_flatMap.2 ⟨u, hu, List.mem_map.2 ⟨r, List.mem_filter.2 ⟨hr, hexceeds⟩, rfl⟩⟩

theorem sampled_frame (samples : List Ppp.Sample) (db : Db) :
    (Ppp.sampled samples db).login = db.login ∧
      (Ppp.sampled samples db).openvpnConnections = db.openvpnConnections :=
  foldl_invariant (f := fun db s => Ppp.storeSample s db)
    (I := fun db' => db'.login = db.login ∧ db'.openvpnConnections = db.openvpnConnections)
    (fun _ _ h => h) ⟨rfl, rfl⟩ samples

theorem updateTraffic_frame (samples : List Ppp.Sample) (db : Db) :
    ((Ppp.updateTraffic samples).final db).login = db.login ∧
      ((Ppp.updateTraffic samples).final db).openvpnConnections = db.openvpnConnections := by
  rw [Ppp.updateTraffic_final]
  exact foldl_invariant (f := fun db id => Ppp.closeWhere (fun r => r.id == id) db)
    (I := fun db' => db'.login = db.login ∧ db'.openvpnConnections = db.openvpnConnections)
    (fun _ _ h => h) (sampled_frame samples db) _

/-! ## `openvpn-refresh.pl` -/

theorem mem_groups {names : List Str} {name : Str} (h : name ∈ names) :
    ∃ m ∈ groups names, fold m = fold name := by
  induction names with
  | nil => simp at h
  | cons n names ih =>
      rcases List.mem_cons.1 h with rfl | h
      · exact ⟨name, by simp [groups], rfl⟩
      · obtain ⟨m, hm, hfold⟩ := ih h
        by_cases hn : fold n = fold m
        · exact ⟨n, by simp [groups], hn.trans hfold⟩
        · refine ⟨m, List.mem_cons_of_mem _ (List.mem_filter.2 ⟨hm, ?_⟩), hfold⟩
          simpa [ciEq] using hn

theorem sumTraffic_congr {a b : Str} (h : fold a = fold b) (rows : List OpenvpnConnection) :
    sumTraffic a rows = sumTraffic b rows := by
  simp [sumTraffic, ciEq, h]

/-- A user over the limit is killed under the name that his group shows. -/
theorem killCommonName_of_over {clients : List Client} {db : Db} {u : Login}
    (hu : u ∈ db.login.rows) {credit : Int} (hcredit : u.credit = some credit)
    (hover : credit < sumTraffic u.username (upserted clients db.openvpnConnections).rows)
    {r : OpenvpnConnection} (hr : r ∈ (upserted clients db.openvpnConnections).rows)
    (hname : ciEq r.username u.username = true) :
    ∃ name, ciEq name r.username = true ∧
      Event.killCommonName name ∈ (refreshConnected clients).emitted db := by
  obtain ⟨m, hm, hfold⟩ := mem_groups (List.mem_map_of_mem (f := (·.username)) hr)
  refine ⟨m, ciEq_iff.2 hfold, ?_⟩
  have hfold' : fold u.username = fold m := (hfold.trans (ciEq_iff.1 hname)).symm
  have hkilled : m ∈ ((refreshConnected clients).emitted db).filterMap killed := by
    rw [refreshConnected_killed]
    refine List.mem_flatMap.2 ⟨m, hm, List.mem_map.2 ⟨u, List.mem_filter.2 ⟨hu, ?_⟩, rfl⟩⟩
    rw [sumTraffic_congr hfold'] at hover
    simp [overLimit, Login.named, hfold', hcredit, queried, hover]
  obtain ⟨e, he, hpid⟩ := List.mem_filterMap.1 hkilled
  cases e <;> simp only [killed, reduceCtorEq, Option.some.injEq] at hpid
  exact hpid ▸ he

theorem username_upserted (clients : List Client) {t : ConnectionTable} {r : OpenvpnConnection}
    (hr : r ∈ t.rows) : ∃ r' ∈ (upserted clients t).rows, r'.username = r.username := by
  unfold upserted
  induction clients generalizing t r with
  | nil => exact ⟨r, hr, rfl⟩
  | cons c clients ih =>
      have hstep : ∃ r' ∈ (upsert t c).rows, r'.username = r.username := by
        unfold upsert
        split
        · refine ⟨_, mem_updateAll.2 ⟨r, hr, rfl⟩, ?_⟩
          split <;> rfl
        · split
          · exact ⟨r, List.mem_append_left _ hr, rfl⟩
          · exact ⟨r, hr, rfl⟩
      obtain ⟨r₁, hr₁, hname₁⟩ := hstep
      obtain ⟨r₂, hr₂, hname₂⟩ := ih hr₁
      exact ⟨r₂, hr₂, hname₂.trans hname₁⟩

/-! ## Both scripts -/

/-- Every open PPP connection that alone exceeds 3 GB or the credit of its user is
killed, and so is every OpenVPN user whose connections together exceed it. -/
structure Enforced (db : Db) (events : List Event) : Prop where
  heavy : ∀ r ∈ db.connections.rows, Ppp.isHeavy r = true → Event.killPid r.ppid ∈ events
  ppp : ∀ u ∈ db.login.rows, ∀ r ∈ db.connections.rows, Ppp.exceedsCredit u r = true →
    Event.killPid r.ppid ∈ events
  openvpn : ∀ u ∈ db.login.rows, ∀ credit, u.credit = some credit →
    credit < sumTraffic u.username db.openvpnConnections.rows →
    ∀ r ∈ db.openvpnConnections.rows, ciEq r.username u.username = true →
      ∃ name, ciEq name r.username = true ∧ Event.killCommonName name ∈ events

/-- Events of the two scripts, `update_traffic.pl` first. -/
def pppFirst (samples : List Ppp.Sample) (clients : List Client) (db : Db) : List Event :=
  (Ppp.updateTraffic samples).emitted db ++
    (refreshConnected clients).emitted ((Ppp.updateTraffic samples).final db)

/-- Events of the two scripts, `openvpn-refresh.pl` first. -/
def openvpnFirst (samples : List Ppp.Sample) (clients : List Client) (db : Db) : List Event :=
  (refreshConnected clients).emitted db ++
    (Ppp.updateTraffic samples).emitted ((refreshConnected clients).final db)

/-- The upserts of `openvpn-refresh.pl` add no traffic to what the table holds. -/
def NoOpenvpnTrafficAdded (clients : List Client) (db : Db) : Prop :=
  ∀ username, sumTraffic username (upserted clients db.openvpnConnections).rows =
    sumTraffic username db.openvpnConnections.rows

/-- Sampled after `openvpn-refresh.pl`, the open PPP connections have the traffic
that they had before it. -/
def NoPppTrafficAdded (samples : List Ppp.Sample) (clients : List Client) (db : Db) : Prop :=
  ∀ r ∈ db.connections.rows, Ppp.isOpen r = true →
    r ∈ (Ppp.sampled samples ((refreshConnected clients).final db)).connections.rows

instance (samples : List Ppp.Sample) (clients : List Client) (db : Db) :
    Decidable (NoPppTrafficAdded samples clients db) :=
  inferInstanceAs (Decidable (∀ r ∈ db.connections.rows, _))

theorem enforced_pppFirst {samples : List Ppp.Sample} {clients : List Client} {db : Db}
    (hquiet : NoOpenvpnTrafficAdded clients db) :
    Enforced (Ppp.sampled samples db) (pppFirst samples clients db) where
  heavy r hr hheavy := List.mem_append_left _ (killPid_of_heavy hr hheavy)
  ppp u hu r hr hexceeds := List.mem_append_left _ (killPid_of_exceeds hr hu hexceeds)
  openvpn u hu credit hcredit hover r hr hname := by
    obtain ⟨hlogin, htable⟩ := sampled_frame samples db
    obtain ⟨hlogin', htable'⟩ := updateTraffic_frame samples db
    rw [htable] at hover hr
    rw [hlogin, ← hlogin'] at hu
    rw [← hquiet, ← htable'] at hover
    obtain ⟨r', hr', hsame⟩ := username_upserted clients hr
    rw [← htable'] at hr'
    obtain ⟨name, hci, hkill⟩ := killCommonName_of_over hu hcredit hover hr'
      (by rw [hsame]; exact hname)
    exact ⟨name, hsame ▸ hci, List.mem_append_right _ hkill⟩

theorem sumTraffic_nonneg {rows : List OpenvpnConnection} (h : ∀ r ∈ rows, 0 ≤ r.traffic)
    (username : Str) : 0 ≤ sumTraffic username rows := by
  refine List.sum_nonneg ?_
  intro n hn
  obtain ⟨r, hr, rfl⟩ := List.mem_map.1 hn
  exact h r (List.mem_filter.1 hr).1

/-- Billing lowers the credit, so what exceeded it before still does. -/
theorem exceedsCredit_addCredit {u : Login} {r : Connection} {amount : Int} (hamount : 0 ≤ amount)
    (h : Ppp.exceedsCredit u r = true) : Ppp.exceedsCredit (u.addCredit (-amount)) r = true := by
  revert h
  unfold Ppp.exceedsCredit Login.addCredit Ppp.trafficExceeds
  cases u.credit <;> cases r.connectionTraffic <;> simp
  intro hopen huser hover
  exact ⟨⟨hopen, huser⟩, by omega⟩

theorem enforced_openvpnFirst {samples : List Ppp.Sample} {clients : List Client} {db : Db}
    (hquiet : NoPppTrafficAdded samples clients db)
    (hpos : ∀ r ∈ (upserted clients db.openvpnConnections).rows, 0 ≤ r.traffic) :
    Enforced (queried clients db) (openvpnFirst samples clients db) where
  heavy r hr hheavy := by
    have hopen : Ppp.isOpen r = true := by
      rw [Ppp.isHeavy, Bool.and_eq_true] at hheavy
      exact hheavy.1
    exact List.mem_append_right _ (killPid_of_heavy (hquiet r hr hopen) hheavy)
  ppp u hu r hr hexceeds := by
    have hopen : Ppp.isOpen r = true := by
      rw [Ppp.exceedsCredit, Bool.and_eq_true, Bool.and_eq_true] at hexceeds
      exact hexceeds.1.1
    have htables := refreshConnected_tables clients db
    simp only [tables, Prod.mk.injEq] at htables
    have hfinished : ∀ r ∈ finished clients db, 0 ≤ r.traffic := fun r hr =>
      hpos r (List.mem_filter.1 hr).1
    have hu' : u.addCredit (-sumTraffic u.username (finished clients db)) ∈
        (Ppp.sampled samples ((refreshConnected clients).final db)).login.rows := by
      rw [(sampled_frame samples _).1, htables.2.1, foldl_deduct_rows]
      exact List.mem_map_of_mem (f := fun u : Login =>
        u.addCredit (-sumTraffic u.username (finished clients db))) hu
    exact List.mem_append_right _ (killPid_of_exceeds (hquiet r hr hopen) hu'
      (exceedsCredit_addCredit (sumTraffic_nonneg hfinished u.username) hexceeds))
  openvpn u hu credit hcredit hover r hr hname := by
    have hu' : u ∈ db.login.rows := hu
    obtain ⟨name, hci, hkill⟩ := killCommonName_of_over hu' hcredit hover hr hname
    exact ⟨name, hci, List.mem_append_left _ hkill⟩

/-- **What the two scripts enforce**, in either order, about the tables at the
first over-quota query: only what the second script stores must not add traffic. -/
theorem enforced_in_either_order (samples : List Ppp.Sample) (clients : List Client) (db : Db) :
    (NoOpenvpnTrafficAdded clients db →
      Enforced (Ppp.sampled samples db) (pppFirst samples clients db)) ∧
    (NoPppTrafficAdded samples clients db →
      (∀ r ∈ (upserted clients db.openvpnConnections).rows, 0 ≤ r.traffic) →
      Enforced (queried clients db) (openvpnFirst samples clients db)) :=
  ⟨enforced_pppFirst, enforced_openvpnFirst⟩

/-! ## Two sessions that exceed the credit together -/

/-- Traffic of the user's open PPP connections. -/
def pppTraffic (username : Str) (rows : List Connection) : Int :=
  ((rows.filter fun r => Ppp.ofUser username r && Ppp.isOpen r).map
    fun r => r.connectionTraffic.getD 0).sum

/-- Every user whose sessions together exceed his credit is disconnected on all of
them. -/
def EnforcedInTotal (db : Db) (events : List Event) : Prop :=
  ∀ u ∈ db.login.rows, ∀ credit ∈ u.credit,
    credit < pppTraffic u.username db.connections.rows +
      sumTraffic u.username db.openvpnConnections.rows →
    (∀ r ∈ db.connections.rows, Ppp.ofUser u.username r = true → Ppp.isOpen r = true →
      Event.killPid r.ppid ∈ events) ∧
    ∀ r ∈ db.openvpnConnections.rows, ciEq r.username u.username = true →
      Event.killCommonName r.username ∈ events

instance (db : Db) (events : List Event) : Decidable (EnforcedInTotal db events) :=
  inferInstanceAs (Decidable (∀ u ∈ db.login.rows, _))

/-- A credit of 100 bytes, and two PPP sessions of 60 bytes each. -/
def twoSessionsDb : Db :=
  { Db.empty 60 with
    login := .single (.holding "bob".toList 100)
    connections := ⟨[⟨1, "10.1.1.10".toList, some 60, 1, 0, some "bob".toList,
        some "ppp0".toList, 4711⟩,
      ⟨2, "10.1.1.11".toList, some 60, 2, 0, some "bob".toList, some "ppp1".toList, 4712⟩], 3,
      by decide, by decide⟩ }

def twoSamples : List Ppp.Sample := [⟨"0".toList, 40, 20⟩, ⟨"1".toList, 30, 30⟩]

/-- One PPP session and one OpenVPN session, with a traffic each. -/
def mixedDb (ppp openvpn : Int) : Db :=
  { twoSessionsDb with
    connections := .single ⟨1, "10.1.1.10".toList, some ppp, 1, 0, some "bob".toList,
      some "ppp0".toList, 4711⟩
    openvpnConnections := .single ⟨1, "bob".toList, "10.0.0.7".toList, 2000,
      "10.8.0.6".toList, openvpn, 1274702400⟩ }

def mixedClients (sent : Str) : List Client :=
  [exampleClient "bob".toList 2000 1274702400 sent]

/-- Neither two PPP sessions of 60 bytes nor one of each kind are ended for a
credit of 100. -/
theorem two_sessions_not_enforced :
    (NoOpenvpnTrafficAdded [] twoSessionsDb ∧ NoPppTrafficAdded twoSamples [] twoSessionsDb ∧
      ¬EnforcedInTotal (Ppp.sampled twoSamples twoSessionsDb)
        (pppFirst twoSamples [] twoSessionsDb) ∧
      ¬EnforcedInTotal (queried [] twoSessionsDb) (openvpnFirst twoSamples [] twoSessionsDb)) ∧
    NoOpenvpnTrafficAdded (mixedClients "50".toList) (mixedDb 60 60) ∧
      NoPppTrafficAdded (twoSamples.take 1) (mixedClients "50".toList) (mixedDb 60 60) ∧
      ¬EnforcedInTotal (Ppp.sampled (twoSamples.take 1) (mixedDb 60 60))
        (pppFirst (twoSamples.take 1) (mixedClients "50".toList) (mixedDb 60 60)) ∧
      ¬EnforcedInTotal (queried (mixedClients "50".toList) (mixedDb 60 60))
        (openvpnFirst (twoSamples.take 1) (mixedClients "50".toList) (mixedDb 60 60)) := by
  have hrows : (upserted (mixedClients "50".toList) (mixedDb 60 60).openvpnConnections).rows =
      (mixedDb 60 60).openvpnConnections.rows := by decide
  exact ⟨⟨fun _ => rfl, by decide, by decide, by decide⟩, fun _ => by rw [hrows], by decide,
    by decide, by decide⟩

/-- A PPP session that is over the credit only by the new sample, and an OpenVPN
session that is over it only by the new upsert. -/
theorem enforced_over_quota :
    Enforced (Ppp.sampled [⟨"0".toList, 100, 50⟩] (mixedDb 90 120))
        (pppFirst [⟨"0".toList, 100, 50⟩] (mixedClients "110".toList) (mixedDb 90 120)) ∧
      Enforced (queried (mixedClients "110".toList) (mixedDb 150 60))
        (openvpnFirst [⟨"0".toList, 100, 50⟩] (mixedClients "110".toList) (mixedDb 150 60)) := by
  have hrows : (upserted (mixedClients "110".toList) (mixedDb 90 120).openvpnConnections).rows =
      (mixedDb 90 120).openvpnConnections.rows := by decide
  exact ⟨(enforced_in_either_order _ _ _).1 fun _ => by rw [hrows],
    (enforced_in_either_order _ _ _).2 (by decide) (by decide)⟩

end ParDiff.Quota
