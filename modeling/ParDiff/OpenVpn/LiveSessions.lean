import ParDiff.OpenVpn.StatusRead

/-!
# `openvpn_connections` and the live sessions

From the state of the server over its status to the table.  The script reads the sessions
that are live, and no others, as long as no name of them looks like the end of the status;
where one does, that session and all after it are taken for finished.
-/

namespace ParDiff.OpenVpn

open Lib Lib.Text

/-! ## The round trip of the status -/

section Trip

variable {opt : SslOptions} (hopt : opt.usernameAsCommonName = true)
  (hremap : opt.noNameRemapping = false)

include hopt hremap

theorem MultiInstance.Sane.quiet_iff {mi : MultiInstance} (h : mi.Sane opt) :
    mi.Quiet ↔ ¬"END".toList <:+: mi.tlsMulti.tlsCommonName := by
  have hcolon := (h.field hopt hremap).2
  constructor
  · intro hquiet
    exact hquiet _ (by decide)
  · intro hend k hk
    have hkind : k ∈ colonPrompts ∨ k = "END".toList := by
      simpa [prompts, colonPrompts, or_assoc] using hk
    rcases hkind with hk | rfl
    · exact hcolon k hk
    · exact hend

theorem statusClients_of_quiet {t : Texts} (ht : t.Documented) {cmd : TelnetCmd}
    (hcmd : cmd.Documented) {m : MultiContext} (hm : m.Sane opt)
    (hquiet : ∀ mi ∈ m.live, mi.Quiet) :
    statusClients cmd t m = some (m.live.map (·.client t)) := by
  rw [statusClients_eq hopt hremap ht hcmd hm, MultiContext.delivered,
    List.takeWhile_eq_self_iff.2 fun mi hmi => decide_eq_true (hquiet mi hmi),
    List.find?_eq_none.2 (by simpa using hquiet)]
  simp

/-- **Round trip of the status.**  The script gets every live client as it is exactly if
no common name holds the keyword `END`. -/
theorem status_round_trip {t : Texts} (ht : t.Documented) {cmd : TelnetCmd}
    (hcmd : cmd.Documented) {m : MultiContext} (hm : m.Sane opt) :
    statusClients cmd t m = some (m.live.map (·.client t)) ↔
      ∀ mi ∈ m.live, ¬"END".toList <:+: mi.tlsMulti.tlsCommonName := by
  have hsane : ∀ mi ∈ m.live, mi.Sane opt := fun mi hmi => hm.hash mi (List.mem_filter.1 hmi).1
  have hquiet : (∀ mi ∈ m.live, ¬"END".toList <:+: mi.tlsMulti.tlsCommonName) ↔
      ∀ mi ∈ m.live, mi.Quiet :=
    forall₂_congr fun mi hmi => ((hsane mi hmi).quiet_iff hopt hremap).symm
  rw [hquiet]
  constructor
  · intro h
    rw [statusClients_eq hopt hremap ht hcmd hm, Option.some.injEq, MultiContext.delivered] at h
    by_contra hloud
    cases hfind : m.live.find? fun mi => !decide mi.Quiet with
    | none => exact hloud (by simpa using hfind)
    | some mi =>
        obtain ⟨hmi, good, rest, hlive, hgood⟩ := List.find?_eq_some_iff_append.1 hfind
        have htake : m.live.takeWhile (fun mi => decide mi.Quiet) = good := by
          rw [hlive, List.takeWhile_append_of_pos fun mi' hmi' => by simpa using hgood mi' hmi']
          simp [show ¬mi.Quiet by simpa using hmi]
        rw [hfind, htake, hlive, List.map_append, List.append_cancel_left_eq] at h
        have hcut : mi.cutClient = mi.client t := (List.cons.inj h).1
        have haddr : [] = mi.real := congrArg Client.clientAddr hcut
        have hport : ':' ∈ mi.real := List.mem_append_right _ (by simp)
        rw [← haddr] at hport
        exact List.not_mem_nil hport
  · exact statusClients_of_quiet hopt hremap ht hcmd hm

end Trip

/-! A server with one client. -/

def plainTexts : Texts := ⟨"OpenVPN 2.1.1".toList, fun _ => "Mon May 24 12:00:00 2010".toList⟩

theorem plainTexts_documented : plainTexts.Documented where
  title := ⟨plain_of_bland (List.all_eq_true.1 (by decide)), by decide⟩
  timeString _ := by
    have htext : Plain "Mon May 24 12:00:00 2010".toList :=
      plain_of_bland (List.all_eq_true.1 (by decide))
    exact ⟨htext, by change "Mon May 24 12:00:00 2010".toList.length < 64; decide⟩

def plainTelnet : TelnetCmd := fun answer =>
  (matchLine prompts answer).map fun (before, found) =>
    (if records before = [] then [[]] else records before, found)

theorem plainTelnet_documented : plainTelnet.Documented := by
  intro answer before found h
  rw [plainTelnet, h]
  rfl

def bobsSession : MultiInstance where
  halt := false
  tlsMulti := tlsRun serverOptions .init [.exchange .active bobsLogin, .established]
  realAddr := .ofBytes 10 0 0 7
  realPort := UInt16.toFin 2000
  reportingAddr := .ofBytes 10 8 0 6
  linkReadBytes := 10
  linkWriteBytes := 5
  created := 1274702400

theorem bobsSession_sane : bobsSession.Sane serverOptions where
  reached := ⟨_, rfl⟩
  addr := by decide
  created := by decide

def bobsServer : MultiContext := ⟨[bobsSession], [], none, 0, 0, 1274702460⟩

theorem bobsServer_sane : bobsServer.Sane serverOptions where
  hash mi hmi := by
    rw [List.mem_singleton.1 hmi]
    exact bobsSession_sane
  vhash _ hr := absurd hr List.not_mem_nil

theorem bob_is_reported :
    statusClients plainTelnet plainTexts bobsServer =
        some (bobsServer.live.map (·.client plainTexts)) ↔
      ∀ mi ∈ bobsServer.live, ¬"END".toList <:+: mi.tlsMulti.tlsCommonName :=
  status_round_trip rfl rfl plainTexts_documented plainTelnet_documented bobsServer_sane

/-! ## The table -/

/-- The identity of a session, on the server. -/
def MultiInstance.sessionKey (mi : MultiInstance) : SessionKey :=
  ⟨mi.tlsMulti.tlsCommonName, mi.realAddr.ntoa, (mi.realPort : Nat), mi.created⟩

/-- The sessions that the script hears of. -/
def MultiContext.heard (m : MultiContext) : List MultiInstance :=
  m.live.takeWhile fun mi => decide mi.Quiet

/-- One execution of the script, so many seconds after the one before. -/
def pollServer (cmd : TelnetCmd) (t : Texts) (db : Db) (s : Nat × MultiContext) : Db :=
  poll db ⟨s.1, statusClients cmd t s.2⟩

theorem unsigned_eq {n : Nat} (h : n < 2 ^ 31) : unsigned n = dec n := by
  rw [unsigned, Nat.mod_eq_of_lt (by omega)]

/-- Clients of which there is only a name. -/
def NamesOnly (cut : List Client) : Prop :=
  ∀ c ∈ cut, c.clientAddr = [] ∧ c.connectSinceNumber = []

theorem delivered_split (t : Texts) (m : MultiContext) :
    ∃ cut, NamesOnly cut ∧ m.delivered t = m.heard.map (·.client t) ++ cut := by
  refine ⟨_, ?_, rfl⟩
  intro c hc
  obtain ⟨mi, -, rfl⟩ := Option.map_eq_some_iff.1 (Option.mem_toList.1 hc)
  exact ⟨rfl, rfl⟩

section Cut

variable {cut : List Client} (hcut : NamesOnly cut)

include hcut

/-- They leave no row. -/
theorem upserted_append (clients : List Client) (t : ConnectionTable) :
    upserted (clients ++ cut) t = upserted clients t := by
  unfold upserted
  rw [List.foldl_append]
  generalize clients.foldl upsert t = t'
  induction cut with
  | nil => rfl
  | cons c cut ih =>
      have haddr := (hcut c (by simp)).1
      have hsame : ∀ r, sameSession c r = false := by
        intro r
        simp [sameSession, Client.clientIp, haddr, splitAddr]
      have hskip : upsert t' c = t' := by
        simp [upsert, hsame, Client.clientIp, haddr, splitAddr]
      rw [List.foldl_cons, hskip]
      exact ih fun c' hc' => hcut c' (List.mem_cons_of_mem _ hc')

/-- And they hold no row back, as the text of none ends in a colon. -/
theorem finished_append (clients : List Client) {db : Db}
    (hrows : ∀ r ∈ (upserted clients db.openvpnConnections).rows, WellFormedRow r) :
    finished (clients ++ cut) db = finished clients db := by
  unfold finished finishedRows queried
  rw [upserted_append hcut]
  apply List.filter_congr
  intro r hr
  have hnot : hashStr r ∉ cut.map (·.hashStr) := by
    intro hmem
    obtain ⟨c, hc, heq⟩ := List.mem_map.1 hmem
    obtain ⟨haddr, hsince⟩ := hcut c hc
    have htext : c.hashStr = (c.name ++ [':', ':']) ++ ':' :: [] := by
      simp [Client.hashStr, Client.clientIp, Client.clientPort, Client.since, haddr, hsince,
        splitAddr, chomp]
    have hrow : hashStr r =
        (r.username ++ ':' :: (r.ip ++ ':' :: decInt r.port)) ++ ':' :: dec r.since.toNat := by
      simp [hashStr, decInt_of_nonneg (hrows r hr).2.2]
    rw [htext, hrow] at heq
    have hlast := ((append_cons_inj_right (by simp) (colon_notMem_dec _)).1 heq).2
    exact dec_ne_nil _ hlast.symm
  rw [List.map_append]
  simp only [List.contains_eq_mem, List.mem_append, hnot, or_false]

/-- An execution does with them what it does without them. -/
theorem refreshConnected_append (clients : List Client) {db : Db}
    (hrows : ∀ r ∈ (upserted clients db.openvpnConnections).rows, WellFormedRow r) :
    tables ((refreshConnected (clients ++ cut)).final db) =
        tables ((refreshConnected clients).final db) ∧
      ((refreshConnected (clients ++ cut)).emitted db).filterMap deduction =
        ((refreshConnected clients).emitted db).filterMap deduction := by
  have hfinished := finished_append hcut clients hrows
  constructor
  · rw [refreshConnected_tables, refreshConnected_tables, hfinished, upserted_append hcut]
  · rw [refreshConnected_deductions, refreshConnected_deductions, hfinished]

end Cut

/-! ## Every sequence of states -/

/-- All sessions that were ever live. -/
def sessionKeys (states : List (Nat × MultiContext)) : List SessionKey :=
  states.flatMap fun s => s.2.live.map (·.sessionKey)

theorem mem_sessionKeys {states : List (Nat × MultiContext)} :
    ∀ s ∈ states, ∀ mi ∈ s.2.live, mi.sessionKey ∈ sessionKeys states :=
  fun s hs _ hmi => List.mem_flatMap.2 ⟨s, hs, List.mem_map_of_mem hmi⟩

theorem faithful_empty (ks : List SessionKey) {db₀ : Db}
    (hempty : db₀.openvpnConnections.rows = []) : Faithful ks db₀.openvpnConnections :=
  ⟨by simp [hempty], by simp [hempty]⟩

section Live

variable {opt : SslOptions} (hopt : opt.usernameAsCommonName = true)
  (hremap : opt.noNameRemapping = false) {t : Texts} (ht : t.Documented) {cmd : TelnetCmd}
  (hcmd : cmd.Documented)

theorem MultiInstance.Sane.wellFormed {mi : MultiInstance} (h : mi.Sane opt)
    (hlength : mi.tlsMulti.tlsCommonName.length < tlsCnLen) :
    (mi.client t).WellFormed ∧ (mi.client t).key = mi.sessionKey := by
  have haddr : mi.real = mi.realAddr.ntoa ++ ':' :: dec mi.realPort := by
    have hreal : mi.real = printInAddrT mi.realAddr ++ [] ++ ':' :: dec mi.realPort := rfl
    rw [hreal, printInAddrT, if_neg h.addr, List.append_nil]
  have hsince : (mi.client t).connectSinceNumber = dec mi.created ++ ['\n'] := by
    rw [MultiInstance.client, unsigned_eq h.created]
  constructor
  · refine ⟨?_, mi.realAddr.ntoa, mi.realAddr.isIPv4, mi.realPort, by omega, mi.created,
      h.created, haddr, .inr hsince⟩
    have hlength : (mi.client t).name.length < 64 := hlength
    omega
  · have hsplit : splitAddr (mi.client t).clientAddr =
        (some mi.realAddr.ntoa, some (dec mi.realPort)) := by
      rw [MultiInstance.client, haddr]
      exact splitAddr_eq mi.realAddr.isIPv4 _
    rw [Client.key, Client.clientIp, Client.clientPort, Client.since, hsplit, hsince,
      chomp_newline]
    simp [MultiInstance.sessionKey, MultiInstance.client]

theorem Mirrors.congr {clients : List Client} {db db' db'' : Db} {events events' : List Event}
    (h : Mirrors clients db db' events) (htables : tables db'' = tables db')
    (hevents : events'.filterMap deduction = events.filterMap deduction) :
    Mirrors clients db db'' events' := by
  simp only [tables, Prod.mk.injEq] at htables
  obtain ⟨hrows, hlogin, hconnections, -⟩ := htables
  exact ⟨hrows ▸ h.keys, hrows ▸ h.once, hconnections ▸ h.history, hevents.trans h.deductions,
    hlogin ▸ h.login, hconnections ▸ h.traffic, hlogin ▸ h.credit⟩

include hopt hremap

theorem heard_reported {m : MultiContext} (hm : m.Sane opt) {ks : List SessionKey}
    (hkeys : ∀ mi ∈ m.live, mi.sessionKey ∈ ks) : Reported ks (m.heard.map (·.client t)) := by
  intro c hc
  obtain ⟨mi, hmi, rfl⟩ := List.mem_map.1 hc
  have hlive := (List.takeWhile_prefix _).subset hmi
  have hsane := hm.hash mi (List.mem_filter.1 hlive).1
  obtain ⟨hwell, hkey⟩ := hsane.wellFormed (t := t) (hsane.commonName hopt hremap).2
  exact ⟨hwell, hkey ▸ hkeys mi hlive⟩

include ht hcmd

/-- One execution, whatever the state of the server. -/
theorem Faithful.pollServer {ks : List SessionKey} (hks : Distinct ks) {db : Db}
    (h : Faithful ks db.openvpnConnections) {s : Nat × MultiContext} (hs : s.2.Sane opt)
    (hkeys : ∀ mi ∈ s.2.live, mi.sessionKey ∈ ks) :
    Faithful ks (OpenVpn.pollServer cmd t db s).openvpnConnections ∧
      Mirrors (s.2.heard.map (·.client t)) (db.tick s.1) (OpenVpn.pollServer cmd t db s)
        ((openvpnRefresh (statusClients cmd t s.2)).emitted (db.tick s.1)) := by
  have htick : Faithful ks (db.tick s.1).openvpnConnections := h
  have hreported := heard_reported hopt hremap (t := t) hs hkeys
  obtain ⟨cut, hcut, hsplit⟩ := delivered_split t s.2
  have hrows : ∀ r ∈ (OpenVpn.upserted (s.2.heard.map (·.client t))
      (db.tick s.1).openvpnConnections).rows, WellFormedRow r :=
    fun r hr => ((htick.upserted hks hreported).rows r hr).1
  obtain ⟨htables, hevents⟩ := refreshConnected_append hcut (s.2.heard.map (·.client t)) hrows
  have hstatus : statusClients cmd t s.2 = some (s.2.heard.map (·.client t) ++ cut) := by
    rw [statusClients_eq hopt hremap ht hcmd hs, hsplit]
  have hfinal : OpenVpn.pollServer cmd t db s =
      (OpenVpn.refreshConnected (s.2.heard.map (·.client t) ++ cut)).final (db.tick s.1) := by
    rw [OpenVpn.pollServer, hstatus]
    rfl
  rw [hfinal, hstatus]
  refine ⟨?_, (refreshConnected_mirrors hks hreported htick).congr htables hevents⟩
  have hrows : ((OpenVpn.refreshConnected (s.2.heard.map (·.client t) ++ cut)).final
      (db.tick s.1)).openvpnConnections =
        ((OpenVpn.refreshConnected (s.2.heard.map (·.client t))).final
          (db.tick s.1)).openvpnConnections := congrArg Prod.fst htables
  rw [hrows]
  exact htick.refreshConnected hks hreported

theorem Faithful.pollServers {ks : List SessionKey} (hks : Distinct ks) {db : Db}
    (h : Faithful ks db.openvpnConnections) {states : List (Nat × MultiContext)}
    (hsane : ∀ s ∈ states, s.2.Sane opt)
    (hkeys : ∀ s ∈ states, ∀ mi ∈ s.2.live, mi.sessionKey ∈ ks) :
    Faithful ks (states.foldl (OpenVpn.pollServer cmd t) db).openvpnConnections :=
  List.foldlRecOn (motive := fun db : Db => Faithful ks db.openvpnConnections) states _ h
    fun _ h s hs => (h.pollServer hopt hremap ht hcmd hks (hsane s hs) (hkeys s hs)).1

/-- **The table and the live sessions.**  The script polls a server again and again, in
any states, from an empty table on.  The last execution treats the sessions that it hears
of as the live ones, and the table then has the live sessions of the server exactly if no
common name of them holds `END`. -/
theorem table_mirrors_live {db₀ : Db} (hempty : db₀.openvpnConnections.rows = [])
    (states : List (Nat × MultiContext)) (elapsed : Nat) (m : MultiContext)
    (hsane : ∀ s ∈ states ++ [(elapsed, m)], s.2.Sane opt)
    (hdistinct : Distinct (sessionKeys (states ++ [(elapsed, m)]))) :
    Mirrors (m.heard.map (·.client t)) ((states.foldl (pollServer cmd t) db₀).tick elapsed)
        (pollServer cmd t (states.foldl (pollServer cmd t) db₀) (elapsed, m))
        ((openvpnRefresh (statusClients cmd t m)).emitted
          ((states.foldl (pollServer cmd t) db₀).tick elapsed)) ∧
      ((∀ k, k ∈ (pollServer cmd t (states.foldl (pollServer cmd t) db₀)
            (elapsed, m)).openvpnConnections.rows.map rowKey ↔
          k ∈ m.live.map (·.sessionKey)) ↔
        ∀ mi ∈ m.live, ¬"END".toList <:+: mi.tlsMulti.tlsCommonName) := by
  have hbefore := (faithful_empty _ hempty).pollServers hopt hremap ht hcmd hdistinct
    (fun s hs => hsane s (List.mem_append_left _ hs))
    fun s hs => mem_sessionKeys s (List.mem_append_left _ hs)
  have hlast : (elapsed, m) ∈ states ++ [(elapsed, m)] := by simp
  have hm := hsane _ hlast
  have hmirrors := (hbefore.pollServer hopt hremap ht hcmd hdistinct hm
    (mem_sessionKeys _ hlast)).2
  refine ⟨hmirrors, ?_⟩
  have hlive : ∀ mi ∈ m.live, mi.Sane opt := fun mi hmi => hm.hash mi (List.mem_filter.1 hmi).1
  have hkey : ∀ mi ∈ m.live, (mi.client t).key = mi.sessionKey := fun mi hmi =>
    ((hlive mi hmi).wellFormed ((hlive mi hmi).commonName hopt hremap).2).2
  have hheard : ∀ k, k ∈ keys (m.heard.map (·.client t)) ↔ k ∈ m.heard.map (·.sessionKey) := by
    intro k
    rw [keys, List.map_map, List.map_congr_left]
    intro mi hmi
    exact hkey mi ((List.takeWhile_prefix _).subset hmi)
  constructor
  · intro h mi hmi
    obtain ⟨mi', hmi', hsame⟩ := List.mem_map.1 ((hheard _).1 ((hmirrors.keys _).1
      ((h mi.sessionKey).2 (List.mem_map_of_mem hmi))))
    have hquiet : mi'.Quiet := by simpa using List.mem_takeWhile_imp hmi'
    have hname : mi'.tlsMulti.tlsCommonName = mi.tlsMulti.tlsCommonName :=
      congrArg SessionKey.username hsame
    apply ((hlive mi hmi).quiet_iff hopt hremap).1
    rw [MultiInstance.Quiet, ← hname]
    exact hquiet
  · intro h k
    have hall : m.heard = m.live := List.takeWhile_eq_self_iff.2 fun mi hmi =>
      decide_eq_true (((hlive mi hmi).quiet_iff hopt hremap).2 (h mi hmi))
    rw [hmirrors.keys, hheard, hall]

end Live

/-! carol was there, and bob still is. -/

def twoUsers : LoginTable :=
  ⟨⟨[{ Login.holding "bob".toList 5 with password := "secret".toList },
    { Login.holding "carol".toList 1000 with id := 2, password := "carols".toList }], 3,
    by decide, by decide⟩, by decide⟩

def twoUsersDb : Db := { Db.empty (unixEpoch + 1274702460) with login := twoUsers }

def carolsSession : MultiInstance :=
  { bobsSession with
    tlsMulti := tlsRun serverOptions .init
      [.exchange .active (.from "carol".toList "carols".toList twoUsersDb), .established]
    realPort := UInt16.toFin 2001
    linkReadBytes := 30 }

theorem carolsSession_sane : carolsSession.Sane serverOptions where
  reached := ⟨_, rfl⟩
  addr := by decide
  created := by decide

def bothServer : MultiContext := { bobsServer with hash := [bobsSession, carolsSession] }

theorem bothServer_sane : bothServer.Sane serverOptions where
  hash mi hmi := by
    rcases List.mem_pair.1 hmi with rfl | rfl
    · exact bobsSession_sane
    · exact carolsSession_sane
  vhash _ hr := absurd hr List.not_mem_nil

/-- After two executions with both. -/
def bothTables : Db :=
  [(0, bothServer), (60, bothServer)].foldl (pollServer plainTelnet plainTexts) twoUsersDb

/-- carol's 35 bytes are in the history and taken from her credit. -/
theorem bob_is_mirrored :
    (Mirrors (bobsServer.heard.map (·.client plainTexts)) (bothTables.tick 60)
        (pollServer plainTelnet plainTexts bothTables (60, bobsServer))
        ((openvpnRefresh (statusClients plainTelnet plainTexts bobsServer)).emitted
          (bothTables.tick 60)) ∧
      ((∀ k, k ∈ (pollServer plainTelnet plainTexts bothTables
            (60, bobsServer)).openvpnConnections.rows.map rowKey ↔
          k ∈ bobsServer.live.map (·.sessionKey)) ↔
        ∀ mi ∈ bobsServer.live, ¬"END".toList <:+: mi.tlsMulti.tlsCommonName)) ∧
    (pollServer plainTelnet plainTexts bothTables (60, bobsServer)).connections.rows.map
        (fun r => (r.username, r.connectionTraffic)) = [(some "carol".toList, some 35)] ∧
      (pollServer plainTelnet plainTexts bothTables (60, bobsServer)).login.rows.map
        (fun u => (u.username, u.credit)) =
          [("bob".toList, some 5), ("carol".toList, some 965)] := by
  refine ⟨?_, by decide +kernel, by decide +kernel⟩
  unfold bothTables
  refine table_mirrors_live (show serverOptions.usernameAsCommonName = true from rfl) rfl
    plainTexts_documented plainTelnet_documented rfl
    [(0, bothServer), (60, bothServer)] 60 bobsServer ?_ ?_
  · intro s hs
    simp only [List.cons_append, List.nil_append, List.mem_cons, List.not_mem_nil,
      or_false] at hs
    rcases hs with rfl | rfl | rfl
    · exact bothServer_sane
    · exact bothServer_sane
    · exact bobsServer_sane
  · unfold Distinct
    decide +kernel

end ParDiff.OpenVpn
