import ParDiff.OpenVpn.LiveSessions

/-!
# Users over their limit, on the server

`openvpn-refresh.pl` sends `kill` and a common name for every user over the limit.
`parse_line` cuts the command into parameters, and `man_kill` looks for a colon, which
would make an address of the parameter.
-/

namespace ParDiff.OpenVpn

open Lib Lib.Text

/-! ## `parse_line` -/

/-- The states between the characters; `STATE_DONE` is left at once. -/
inductive ParmState
  | initial
  | readingQuoted
  | readingUnquoted
  | readingSquoted
  deriving DecidableEq

structure LineParser where
  state : ParmState
  backslash : Bool
  parm : Str
  p : List Str

inductive ParseStep
  | next (q : LineParser)
  /-- `break`. -/
  | stop (q : LineParser)
  /-- `return 0`. -/
  | error

def optionParmSize : Nat := 256

/-- `MAX_PARMS`. -/
def maxParms : Nat := 16

/-- `space`, to which the end of the text belongs. -/
def space (c : Char) : Bool := c == '\x00' || isSpace c

/-- What a character does: the state after it, whether a parameter is done, and whether it
is stored; `none` is the start of a comment. -/
def transition (state : ParmState) (backslash : Bool) (c : Char) :
    Option (ParmState × Bool × Bool) :=
  match state with
  | .initial =>
      if space c then some (.initial, false, false)
      else if c == ';' || c == '#' then none
      else if !backslash && c == '"' then some (.readingQuoted, false, false)
      else if !backslash && c == '\'' then some (.readingSquoted, false, false)
      else some (.readingUnquoted, false, true)
  | .readingUnquoted =>
      if !backslash && space c then some (.initial, true, false)
      else some (.readingUnquoted, false, true)
  | .readingQuoted =>
      if !backslash && c == '"' then some (.initial, true, false)
      else some (.readingQuoted, false, true)
  | .readingSquoted =>
      if c == '\'' then some (.initial, true, false) else some (.readingSquoted, false, true)

/-- One character; the end of the text is the character zero, which is never stored. -/
def parseChar (q : LineParser) (c : Char) : ParseStep :=
  if !q.backslash && c == '\\' && q.state != .readingSquoted then
    .next { q with backslash := true }
  else
    match transition q.state q.backslash c with
    | none => .stop q
    | some (state, done, out) =>
        let out := out && c != '\x00'
        if q.backslash && out && !(c == '\\' || c == '"' || space c) then .error
        else
          let q' := if done then ⟨state, false, [], q.p ++ [q.parm]⟩ else ⟨state, false, q.parm, q.p⟩
          if out && decide (optionParmSize ≤ q'.parm.length) then .error
          else
            let q'' := if out then { q' with parm := q'.parm ++ [c] } else q'
            -- avoid overflow if too many parms in one config file line
            if maxParms ≤ q''.p.length then .stop q'' else .next q''

/-- The parameters; in any other state than the initial one something is not closed. -/
def LineParser.result (q : LineParser) : List Str := if q.state = .initial then q.p else []

def parseFrom (q : LineParser) : Str → List Str
  | [] => q.result
  | c :: s =>
      match parseChar q c with
      | .next q => parseFrom q s
      | .stop q => q.result
      | .error => []

/-- `parse_line`. -/
def parseLine (line : Str) : List Str := parseFrom ⟨.initial, false, [], []⟩ (line ++ ['\x00'])

/-! ## `kill` -/

/-- `buf_parse`: the text up to the delimiter, and what is left to read. -/
def bufParse (delim : Char) (size : Nat) (s : Str) : Str × Str :=
  let field := s.takeWhile (· ≠ delim)
  (field.take (size - 1), s.drop (min field.length size + 1))

/-- `multi_close_instance`, of those that are not closed yet. -/
def MultiContext.close (m : MultiContext) (p : MultiInstance → Bool) : MultiContext :=
  { m with
    hash := m.hash.filter fun mi => mi.halt || !p mi
    vhash := m.vhash.map fun r =>
      if p r.instance' then { r with instance' := { r.instance' with halt := true } } else r }

/-- `management_callback_kill_by_cn`. -/
def MultiContext.killByCn (m : MultiContext) (delCn : Str) : MultiContext × Nat :=
  (m.close fun mi => decide (mi.tlsMulti.tlsCommonName = delCn),
    m.live.countP fun mi => decide (mi.tlsMulti.tlsCommonName = delCn))

/-- `management_callback_kill_by_addr`. -/
def MultiContext.killByAddr (m : MultiContext) (addr : InAddr) (port : Nat) :
    MultiContext × Nat :=
  (m.close fun mi => decide (mi.realAddr = addr ∧ (mi.realPort : Nat) = port),
    m.live.countP fun mi => decide (mi.realAddr = addr ∧ (mi.realPort : Nat) = port))

/-- `man_kill`, with `getaddr` as a parameter: the clients after it, and the answer. -/
def manKill (getaddr : Str → Option InAddr) (m : MultiContext) (victim : Str) :
    MultiContext × Str :=
  let (p1, rest) := bufParse ':' 128 victim
  let (p2, _) := bufParse ':' 128 rest
  if p1 ≠ [] ∧ p2 ≠ [] then
    -- IP:port specified
    match getaddr p1 with
    | some addr =>
        let port := intPrefix p2
        if 0 < port ∧ port < 65536 then
          let (m', nKilled) := m.killByAddr addr port.toNat
          if 0 < nKilled then
            (m', "SUCCESS: ".toList ++ dec nKilled ++ " client(s) at address ".toList ++
              addr.ntoa ++ ':' :: decInt port ++ " killed".toList)
          else
            (m', "ERROR: client at address ".toList ++ addr.ntoa ++ ':' :: decInt port ++
              " not found".toList)
        else (m, "ERROR: port number is out of range: ".toList ++ p2)
    | none => (m, "ERROR: error parsing IP address: ".toList ++ p1)
  else if p1 ≠ [] then
    -- common name specified
    let (m', nKilled) := m.killByCn p1
    if 0 < nKilled then
      (m', "SUCCESS: common name '".toList ++ p1 ++ "' found, ".toList ++ dec nKilled ++
        " client(s) killed".toList)
    else (m', "ERROR: common name '".toList ++ p1 ++ "' not found".toList)
  else (m, "ERROR: kill parse".toList)

/-- `man_process_command`, of a `kill`; other commands are not modelled. -/
def manProcessCommand (getaddr : Str → Option InAddr) (m : MultiContext) (line : Str) :
    Option (MultiContext × Str) :=
  match parseLine line with
  | command :: parms =>
      if command = "kill".toList then
        match parms with
        | victim :: _ => some (manKill getaddr m victim)
        | [] => some (m, "ERROR: the 'kill' command requires 1 parameter".toList)
      else none
  | [] => some (m, [])

/-- `$vpn->kill($commonname)`, for every user over the limit. -/
def enforce (getaddr : Str → Option InAddr) (m : MultiContext) (events : List Event) :
    MultiContext :=
  (events.filterMap killed).foldl
    (fun m name => ((manProcessCommand getaddr m ("kill ".toList ++ name)).map (·.1)).getD m) m

/-! ## The command for a common name -/

/-- A character that stands for itself in every state. -/
def isPlainChar (c : Char) : Bool :=
  !space c && c != '\\' && c != '"' && c != '\'' && c != ';' && c != '#' && c != ':'

theorem parseChar_plain {q : LineParser} {c : Char} (hc : isPlainChar c = true)
    (hstate : q.state = .initial ∨ q.state = .readingUnquoted) (hback : q.backslash = false)
    (hlength : q.parm.length < optionParmSize) (hp : q.p.length < maxParms) :
    parseChar q c = .next ⟨.readingUnquoted, false, q.parm ++ [c], q.p⟩ := by
  simp only [isPlainChar, Bool.and_eq_true, Bool.not_eq_true', bne_iff_ne, ne_eq] at hc
  obtain ⟨⟨⟨⟨⟨⟨hspace, hslash⟩, hquote⟩, hsquote⟩, hsemicolon⟩, hhash⟩, -⟩ := hc
  have hzero : c ≠ '\x00' := by
    rintro rfl
    exact absurd hspace (by decide)
  have htransition : transition q.state false c = some (.readingUnquoted, false, true) := by
    rcases hstate with hstate | hstate
    · simp [hstate, transition, hspace, hsemicolon, hhash, hquote, hsquote]
    · simp [hstate, transition, hspace]
  simp [parseChar, hback, hslash, htransition, hzero, Nat.not_le.2 hlength, Nat.not_le.2 hp]

theorem parseFrom_plain {s : Str} (hs : ∀ c ∈ s, isPlainChar c = true) {parm : Str}
    {p : List Str} (hp : p.length < maxParms) (hlength : parm.length + s.length ≤ optionParmSize)
    (rest : Str) :
    parseFrom ⟨.readingUnquoted, false, parm, p⟩ (s ++ rest) =
      parseFrom ⟨.readingUnquoted, false, parm ++ s, p⟩ rest := by
  induction s generalizing parm with
  | nil => simp
  | cons c s ih =>
      rw [List.length_cons] at hlength
      have hstep := parseChar_plain (q := ⟨.readingUnquoted, false, parm, p⟩) (hs c (by simp))
        (.inr rfl) rfl (show parm.length < optionParmSize by omega) hp
      rw [List.cons_append, parseFrom, hstep]
      dsimp only
      rw [ih (fun d hd => hs d (List.mem_cons_of_mem _ hd)) (by simp; omega)]
      simp

/-- A word of such characters is a parameter. -/
theorem parseFrom_word {w : Str} (hw : ∀ c ∈ w, isPlainChar c = true) (hne : w ≠ [])
    (hlength : w.length ≤ optionParmSize) {p : List Str} (hp : p.length + 1 < maxParms)
    {c : Char} (hc : c = ' ' ∨ c = '\x00') (rest : Str) :
    parseFrom ⟨.initial, false, [], p⟩ (w ++ c :: rest) =
      parseFrom ⟨.initial, false, [], p ++ [w]⟩ rest := by
  obtain ⟨d, w, rfl⟩ := List.exists_cons_of_ne_nil hne
  have hfirst := parseChar_plain (q := ⟨.initial, false, [], p⟩) (hw d (by simp)) (.inl rfl) rfl
    (show ([] : Str).length < optionParmSize by decide) (show p.length < maxParms by omega)
  have hspace : space c = true := by
    rcases hc with rfl | rfl
    · decide
    · decide
  have hend : parseChar ⟨.readingUnquoted, false, d :: w, p⟩ c =
      .next ⟨.initial, false, [], p ++ [d :: w]⟩ := by
    have hslash : c ≠ '\\' := by
      rintro rfl
      exact absurd hspace (by decide)
    simp [parseChar, hslash, transition, hspace, hp]
  rw [List.length_cons] at hlength
  rw [List.cons_append, parseFrom, hfirst]
  dsimp only
  rw [parseFrom_plain (fun e he => hw e (List.mem_cons_of_mem _ he)) (by omega) (by simp; omega),
    parseFrom]
  simp only [List.nil_append, List.singleton_append, hend]

theorem parseLine_kill {name : Str} (hname : ∀ c ∈ name, isPlainChar c = true) (hne : name ≠ [])
    (hlength : name.length ≤ optionParmSize) :
    parseLine ("kill ".toList ++ name) = ["kill".toList, name] := by
  have hsplit : "kill ".toList ++ name ++ ['\x00'] =
      "kill".toList ++ ' ' :: (name ++ '\x00' :: []) := by
    simp
  rw [parseLine, hsplit, parseFrom_word (List.all_eq_true.1 (by decide)) (by decide) (by decide)
    (by decide) (.inl rfl), parseFrom_word hname hne hlength (by decide) (.inr rfl)]
  rfl

theorem isPlainChar_of_isCommonNameChar {c : Char} (h : isCommonNameChar c = true) :
    isPlainChar c = true := by
  simp only [isPlainChar, space, isSpace, Bool.and_eq_true, Bool.not_eq_true', Bool.or_eq_false_iff,
    beq_eq_false_iff_ne, bne_iff_ne, ne_eq]
  refine ⟨⟨⟨⟨⟨⟨⟨?_, ⟨⟨⟨⟨?_, ?_⟩, ?_⟩, ?_⟩, ?_⟩, ?_⟩, ?_⟩, ?_⟩, ?_⟩, ?_⟩, ?_⟩, ?_⟩ <;> rintro rfl <;>
    exact absurd h (by decide)

/-- The name of a session is a common name. -/
structure IsCommonName (name : Str) : Prop where
  chars : ∀ c ∈ name, isCommonNameChar c = true
  length : name.length < tlsCnLen
  ne_nil : name ≠ []

/-- `kill` closes exactly the sessions of the name. -/
theorem manProcessCommand_kill (getaddr : Str → Option InAddr) (m : MultiContext) {name : Str}
    (hname : IsCommonName name) :
    ∃ answer, manProcessCommand getaddr m ("kill ".toList ++ name) =
      some (m.close fun mi => decide (mi.tlsMulti.tlsCommonName = name), answer) := by
  have hplain : ∀ c ∈ name, isPlainChar c = true := fun c hc =>
    isPlainChar_of_isCommonNameChar (hname.chars c hc)
  have hlength := hname.length
  unfold tlsCnLen at hlength
  have hcolon : name.takeWhile (fun c => decide (c ≠ ':')) = name := by
    rw [List.takeWhile_eq_self_iff]
    intro c hc
    simp only [decide_eq_true_eq]
    rintro rfl
    exact absurd (hplain _ hc) (by decide)
  have hp1 : bufParse ':' 128 name = (name, []) := by
    rw [bufParse, hcolon, List.take_of_length_le (by omega), List.drop_eq_nil_of_le (by omega)]
  have hp2 : bufParse ':' 128 ([] : Str) = ([], []) := rfl
  rw [manProcessCommand, parseLine_kill hplain hname.ne_nil (by unfold optionParmSize; omega)]
  simp only [if_true, manKill, hp1, hp2, hname.ne_nil, ne_eq, not_false_eq_true, not_true_eq_false,
    and_false, if_false, MultiContext.killByCn]
  split
  · exact ⟨_, rfl⟩
  · exact ⟨_, rfl⟩

/-! ## All commands of an execution -/

theorem live_close (m : MultiContext) (p : MultiInstance → Bool) :
    (m.close p).live = m.live.filter fun mi => !p mi := by
  unfold MultiContext.live MultiContext.close
  rw [List.filter_filter, List.filter_filter]
  apply List.filter_congr
  intro mi _
  cases mi.halt <;> cases p mi <;> rfl

theorem live_kills (getaddr : Str → Option InAddr) (m : MultiContext) {names : List Str}
    (hnames : ∀ name ∈ names, IsCommonName name) :
    (names.foldl (fun m name =>
      ((manProcessCommand getaddr m ("kill ".toList ++ name)).map (·.1)).getD m) m).live =
        m.live.filter fun mi => decide (mi.tlsMulti.tlsCommonName ∉ names) := by
  induction names generalizing m with
  | nil => simp
  | cons name names ih =>
      obtain ⟨answer, hkill⟩ := manProcessCommand_kill getaddr m (hnames name (by simp))
      rw [List.foldl_cons, hkill, Option.map_some, Option.getD_some,
        ih _ fun name' hname' => hnames name' (List.mem_cons_of_mem _ hname'), live_close,
        List.filter_filter]
      apply List.filter_congr
      intro mi _
      by_cases hname : mi.tlsMulti.tlsCommonName = name <;> simp [hname]

/-- The account of this name has less credit than its sessions have used. -/
def overdrawn (db : Db) (name : Str) : Bool := db.login.rows.any (overLimit db name)

theorem groups_subset (names : List Str) : groups names ⊆ names := by
  induction names with
  | nil => simp [groups]
  | cons name names ih =>
      intro n hn
      rcases List.mem_cons.1 hn with rfl | hn
      · simp
      · exact List.mem_cons_of_mem _ (ih (List.mem_filter.1 hn).1)

/-- Names that differ only in what the collation ignores are equal. -/
def CaseCoherent (names : List Str) : Prop := ∀ a ∈ names, ∀ b ∈ names, fold a = fold b → a = b

theorem mem_groups {names : List Str} (h : CaseCoherent names) {n : Str} :
    n ∈ groups names ↔ n ∈ names := by
  refine ⟨fun hn => groups_subset names hn, ?_⟩
  induction names with
  | nil => simp
  | cons name names ih =>
      intro hn
      by_cases heq : n = name
      · simp [groups, heq]
      · have htail := ih (fun a ha b hb => h a (List.mem_cons_of_mem _ ha) b
          (List.mem_cons_of_mem _ hb)) ((List.mem_cons.1 hn).resolve_left heq)
        have hne : fold name ≠ fold n := fun hfold => heq (h n hn name (by simp) hfold.symm)
        exact List.mem_cons_of_mem _ (List.mem_filter.2 ⟨htail, by simpa [ciEq] using hne⟩)

theorem mem_exceeding {db : Db} (h : CaseCoherent (db.openvpnConnections.rows.map (·.username)))
    {n : Str} :
    n ∈ exceeding db ↔ n ∈ db.openvpnConnections.rows.map (·.username) ∧ overdrawn db n = true := by
  simp only [exceeding, List.mem_flatMap, mem_groups h, List.mem_map, List.mem_filter, overdrawn,
    List.any_eq_true]
  constructor
  · rintro ⟨name, hname, l, hl, rfl⟩
    exact ⟨hname, l, hl⟩
  · rintro ⟨hname, l, hl⟩
    exact ⟨n, hname, l, hl, rfl⟩

/-- All names that ever were live. -/
def liveNames (states : List (Nat × MultiContext)) : List Str :=
  states.flatMap fun s => s.2.live.map (·.tlsMulti.tlsCommonName)

theorem username_mem_liveNames {states : List (Nat × MultiContext)} {k : SessionKey}
    (hk : k ∈ sessionKeys states) : k.username ∈ liveNames states := by
  obtain ⟨s, hs, hmem⟩ := List.mem_flatMap.1 hk
  obtain ⟨mi, hmi, rfl⟩ := List.mem_map.1 hmem
  exact List.mem_flatMap.2 ⟨s, hs, List.mem_map.2 ⟨mi, hmi, rfl⟩⟩

theorem distinct_of_caseCoherent {states : List (Nat × MultiContext)}
    (h : CaseCoherent (liveNames states)) : Distinct (sessionKeys states) := by
  intro a ha b hb hname hip hport hsince
  have husername := h _ (username_mem_liveNames ha) _ (username_mem_liveNames hb) hname
  cases a
  cases b
  simp_all

section Quota

variable {opt : SslOptions} (hopt : opt.usernameAsCommonName = true)
  (hremap : opt.noNameRemapping = false) {t : Texts} (ht : t.Documented) {cmd : TelnetCmd}
  (hcmd : cmd.Documented)

include hopt hremap

theorem MultiInstance.Sane.isCommonName {mi : MultiInstance} (h : mi.Sane opt) :
    IsCommonName mi.tlsMulti.tlsCommonName where
  chars := (h.commonName hopt hremap).1
  length := (h.commonName hopt hremap).2
  ne_nil := by
    unfold TlsMulti.tlsCommonName
    split
    · simp
    · decide

include ht hcmd

/-- **Quota enforcement.**  Polled in any states before, the server loses with the next
execution exactly the live sessions whose account has less credit than its sessions in the
table have used: if no name of them holds `END`, and no two names that ever were live
differ only in letter case. -/
theorem quota_enforced (getaddr : Str → Option InAddr) {db₀ : Db}
    (hempty : db₀.openvpnConnections.rows = []) (states : List (Nat × MultiContext))
    (elapsed : Nat) (m : MultiContext) (hsane : ∀ s ∈ states ++ [(elapsed, m)], s.2.Sane opt)
    (hcase : CaseCoherent (liveNames (states ++ [(elapsed, m)])))
    (hend : ∀ mi ∈ m.live, ¬"END".toList <:+: mi.tlsMulti.tlsCommonName) :
    (enforce getaddr m ((openvpnRefresh (statusClients cmd t m)).emitted
        ((states.foldl (pollServer cmd t) db₀).tick elapsed))).live =
      m.live.filter fun mi =>
        !overdrawn (queried (m.live.map (·.client t))
          ((states.foldl (pollServer cmd t) db₀).tick elapsed)) mi.tlsMulti.tlsCommonName := by
  have hks := distinct_of_caseCoherent hcase
  have hlast : (elapsed, m) ∈ states ++ [(elapsed, m)] := by simp
  have hm := hsane _ hlast
  have hlive : ∀ mi ∈ m.live, mi.Sane opt := fun mi hmi => hm.hash mi (List.mem_filter.1 hmi).1
  have hbefore := (faithful_empty _ hempty).pollServers hopt hremap ht hcmd hks
    (fun s hs => hsane s (List.mem_append_left _ hs))
    fun s hs => mem_sessionKeys s (List.mem_append_left _ hs)
  generalize states.foldl (pollServer cmd t) db₀ = db at hbefore ⊢
  have htick : Faithful _ (db.tick elapsed).openvpnConnections := hbefore
  have hquiet : ∀ mi ∈ m.live, mi.Quiet := fun mi hmi =>
    ((hlive mi hmi).quiet_iff hopt hremap).2 (hend mi hmi)
  have hstatus := statusClients_of_quiet hopt hremap ht hcmd hm hquiet
  have hall : m.heard = m.live := List.takeWhile_eq_self_iff.2 fun mi hmi =>
    decide_eq_true (hquiet mi hmi)
  have hreported := heard_reported hopt hremap (t := t) hm (mem_sessionKeys _ hlast)
  rw [hall] at hreported
  have hup := htick.upserted hks hreported
  have hnames : ∀ n ∈ (queried (m.live.map (·.client t))
      (db.tick elapsed)).openvpnConnections.rows.map (·.username),
      n ∈ liveNames (states ++ [(elapsed, m)]) := by
    intro n hn
    obtain ⟨r, hr, rfl⟩ := List.mem_map.1 hn
    exact username_mem_liveNames (hup.rows r hr).2
  have hcoherent : CaseCoherent ((queried (m.live.map (·.client t))
      (db.tick elapsed)).openvpnConnections.rows.map (·.username)) :=
    fun a ha b hb hfold => hcase a (hnames a ha) b (hnames b hb) hfold
  have hcommon : ∀ n ∈ exceeding (queried (m.live.map (·.client t)) (db.tick elapsed)),
      IsCommonName n := by
    intro n hn
    obtain ⟨s, hs, hmem⟩ := List.mem_flatMap.1 (hnames n ((mem_exceeding hcoherent).1 hn).1)
    obtain ⟨mi, hmi, rfl⟩ := List.mem_map.1 hmem
    exact ((hsane s hs).hash mi (List.mem_filter.1 hmi).1).isCommonName hopt hremap
  have hkilled : ((openvpnRefresh (statusClients cmd t m)).emitted
      (db.tick elapsed)).filterMap killed =
        exceeding (queried (m.live.map (·.client t)) (db.tick elapsed)) := by
    rw [hstatus]
    exact refreshConnected_killed _ _
  rw [enforce, hkilled, live_kills getaddr m hcommon]
  apply List.filter_congr
  intro mi hmi
  have hkey := ((hlive mi hmi).wellFormed (t := t) ((hlive mi hmi).commonName hopt hremap).2).2
  have hrow : mi.tlsMulti.tlsCommonName ∈ (queried (m.live.map (·.client t))
      (db.tick elapsed)).openvpnConnections.rows.map (·.username) := by
    have hmem := (htick.mem_upserted_keys hks hreported (mi.client t).key).2
      (.inr (List.mem_map_of_mem (List.mem_map_of_mem hmi)))
    obtain ⟨r, hr, heq⟩ := List.mem_map.1 hmem
    exact List.mem_map.2 ⟨r, hr, congrArg SessionKey.username heq⟩
  rw [Bool.eq_iff_iff]
  simp [mem_exceeding hcoherent, hrow]

end Quota

/-! One more execution: bob has a credit of 5 and used 15, and carol has enough. -/

theorem bob_is_closed :
    (enforce (fun _ => none) bothServer
        ((openvpnRefresh (statusClients plainTelnet plainTexts bothServer)).emitted
          (([(0, bothServer)].foldl (pollServer plainTelnet plainTexts) twoUsersDb).tick
            60))).live =
      (bothServer.live.filter fun mi =>
        !overdrawn (queried (bothServer.live.map (·.client plainTexts))
          (([(0, bothServer)].foldl (pollServer plainTelnet plainTexts) twoUsersDb).tick 60))
          mi.tlsMulti.tlsCommonName) ∧
    (bothServer.live.filter fun mi =>
        !overdrawn (queried (bothServer.live.map (·.client plainTexts))
          (([(0, bothServer)].foldl (pollServer plainTelnet plainTexts) twoUsersDb).tick 60))
          mi.tlsMulti.tlsCommonName).map (·.tlsMulti.tlsCommonName) = ["carol".toList] := by
  refine ⟨quota_enforced (show serverOptions.usernameAsCommonName = true from rfl) rfl
    plainTexts_documented plainTelnet_documented _ rfl _ _ _ ?_ ?_ ?_, by decide +kernel⟩
  · intro s hs
    obtain rfl | rfl : s = (0, bothServer) ∨ s = (60, bothServer) := by simpa using hs
    · exact bothServer_sane
    · exact bothServer_sane
  · unfold CaseCoherent
    decide +kernel
  · decide +kernel

end ParDiff.OpenVpn
