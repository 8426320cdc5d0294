import ParDiff.Lib.Run
import ParDiff.Ppp.Charge

/-!
# The PPP bill and the connection history

A world is the database with the sessions that `pppd` still has to take down.
Three scripts close rows of `connections`, but only `mysql-ip-down` deducts
credit, so the history agrees with the bill only as long as the other two close
rows for which nothing else is due:

* a session that `update_traffic.pl` closed must report, when it finally goes
  down, what its row already says;
* a session that died without going down must leave no traffic in its row.

`Agrees` states this of one operation, and `Balanced` follows for every run.
-/

namespace ParDiff.Ppp

open Lib Lib.Text

/-! ## Worlds -/

/-- A session whose `ip-down` is still to come, with its row of `connections`. -/
structure Session where
  interface : Str
  username : Str
  row : Nat
  deriving DecidableEq

structure World where
  db : Db
  live : List Session

inductive Op
  /-- `pppd` brings a session up. -/
  | up (link : Link) (username : Str) (ppid : Int)
  /-- `pppd` takes the session down. -/
  | down (session : Session) (link : Link)
  /-- `pppd` dies and the session never goes down. -/
  | lost (session : Session)
  | updateTraffic (samples : List Sample)
  | tick (t : Nat)

/-- `mysql-ip-up`, called by the plugin. -/
def ipUp (link : Link) (username : Str) (ppid : Int) : Sql Unit :=
  mysqlIpUp ppid (ipUpArgv link username)

def World.step (w : World) : Op → World
  | .up link username ppid =>
      ⟨(ipUp link username ppid).final w.db,
        w.live ++ [⟨link.ifname, username, w.db.connections.auto⟩]⟩
  | .down session link =>
      ⟨(ipDown link session.username).final w.db, w.live.filter (· ≠ session)⟩
  | .lost session => ⟨w.db, w.live.filter (· ≠ session)⟩
  | .updateTraffic samples => ⟨(updateTraffic samples).final w.db, w.live⟩
  | .tick t => ⟨w.db.tick t, w.live⟩

/-- The row belongs to a session that still goes down. -/
def pending (live : List Session) (r : Connection) : Bool := live.any (·.row = r.id)

/-- The order of operations that `pppd` allows: an interface has one live
session, its user was authenticated against `login`, counters are below
`2 ^ 31`, and a session whose row was closed under it still goes down. -/
def Possible (w : World) : Op → Prop
  | .up link username _ =>
      link.ifname.length ≤ 15 ∧ w.db.countLogin (some username) ≠ 0 ∧
        ∀ s ∈ w.live, ciEq s.interface link.ifname = false
  | .down session link =>
      session ∈ w.live ∧ link.ifname = session.interface ∧
        link.bytesIn.toNat < 2 ^ 31 ∧ link.bytesOut.toNat < 2 ^ 31
  | .lost session =>
      session ∈ w.live ∧ ∀ r ∈ w.db.connections.rows, r.id = session.row → isOpen r = true
  | .updateTraffic _ => True
  | .tick _ => True

/-! ## The bill -/

/-- Traffic of a closed row that no `ip-down` is pending for. -/
def billed (live : List Session) (username : Str) (r : Connection) : Int :=
  if ofUser username r && !isOpen r && !pending live r then r.connectionTraffic.getD 0 else 0

/-- What the history says the user has used. -/
def World.history (w : World) (username : Str) : Int :=
  (w.db.connections.rows.map (billed w.live username)).sum

/-- Every account is its balance at the start less what the history says. -/
def Balanced (db : Db) (w : World) : Prop :=
  w.db.login.rows = db.login.rows.map fun u => u.addCredit (-w.history u.username)

/-- The database of `updateTraffic` when it decides which sessions to end. -/
def sampled (samples : List Sample) (db : Db) : Db :=
  samples.foldl (fun db s => storeSample s db) db

def ended (db : Db) : List Nat := (heavy db ++ exceeded db).map (·.id)

/-- No traffic in the row. -/
def Idle (r : Connection) : Prop := r.connectionTraffic.getD 0 = 0

instance (r : Connection) : Decidable (Idle r) := inferInstanceAs (Decidable (_ = _))

/-- Closing a row without a deduction, and deducting without writing the row, do
no harm here. -/
def Agrees (w : World) : Op → Prop
  | .up link _ _ => ∀ r ∈ w.db.connections.rows, isOpen r = true →
      onInterface link.ifname r = true → Idle r
  | .down session link => ∀ r ∈ w.db.connections.rows, r.id = session.row →
      isOpen r = false →
      r.connectionTraffic.getD 0 = (link.bytesIn.toNat + link.bytesOut.toNat : Nat)
  | .updateTraffic samples => ∀ r ∈ (sampled samples w.db).connections.rows,
      r.id ∈ ended (sampled samples w.db) → pending w.live r = true ∨ Idle r
  | _ => True

/-! ## The invariant -/

structure Inv (db : Db) (w : World) : Prop where
  clock : 0 < w.db.now
  started : ∀ r ∈ w.db.connections.rows, r.startTime ≤ w.db.now
  /-- Every live session has its row, and no other row of its interface is open. -/
  session : ∀ s ∈ w.live, ∃ r ∈ w.db.connections.rows, r.id = s.row ∧
    ofUser s.username r = true ∧ onInterface s.interface r = true
  only : ∀ s ∈ w.live, ∀ r ∈ w.db.connections.rows, isOpen r = true →
    onInterface s.interface r = true → r.id = s.row
  distinct : (w.live.map fun s => fold s.interface).Nodup
  balanced : Balanced db w

/-- A change of rows that keeps their identity and opens none of them again. -/
structure Keeps (f : Connection → Connection) : Prop where
  id : ∀ r, (f r).id = r.id
  username : ∀ r, (f r).username = r.username
  interface : ∀ r, (f r).interface = r.interface
  startTime : ∀ r, (f r).startTime = r.startTime

theorem Keeps.ite {f : Connection → Connection} (h : Keeps f) (p : Connection → Bool) :
    Keeps fun r => if p r then f r else r := by
  refine ⟨fun r => ?_, fun r => ?_, fun r => ?_, fun r => ?_⟩ <;> split
  · exact h.id r
  · rfl
  · exact h.username r
  · rfl
  · exact h.interface r
  · rfl
  · exact h.startTime r
  · rfl

theorem Keeps.ofUser {f : Connection → Connection} (h : Keeps f) (username : Str)
    (r : Connection) : ofUser username (f r) = ofUser username r := by
  simp [Ppp.ofUser, h.username]

theorem Keeps.onInterface {f : Connection → Connection} (h : Keeps f) (interface : Str)
    (r : Connection) : onInterface interface (f r) = onInterface interface r := by
  simp [Ppp.onInterface, h.interface]

/-- Rows may change as long as none is opened again and the bill is kept. -/
theorem Inv.map_rows {db : Db} {w w' : World} (h : Inv db w) {f : Connection → Connection}
    (hf : Keeps f) (hrows : w'.db.connections.rows = w.db.connections.rows.map f)
    (hopen : ∀ r ∈ w.db.connections.rows, isOpen (f r) = true → isOpen r = true)
    (hnow : w'.db.now = w.db.now) (hlive : w'.live.Sublist w.live)
    (hbalanced : Balanced db w') : Inv db w' where
  clock := hnow ▸ h.clock
  started r' hr' := by
    rw [hrows] at hr'
    obtain ⟨r, hr, rfl⟩ := List.mem_map.1 hr'
    rw [hf.startTime, hnow]
    exact h.started r hr
  session s hs := by
    obtain ⟨r, hr, hid, huser, hiface⟩ := h.session s (hlive.subset hs)
    refine ⟨f r, hrows ▸ List.mem_map_of_mem hr, (hf.id r).trans hid, ?_, ?_⟩
    · rw [hf.ofUser, huser]
    · rw [hf.onInterface, hiface]
  only s hs r' hr' hopen' hiface := by
    rw [hrows] at hr'
    obtain ⟨r, hr, rfl⟩ := List.mem_map.1 hr'
    rw [hf.onInterface] at hiface
    rw [hf.id]
    exact h.only s (hlive.subset hs) r hr (hopen r hr hopen') hiface
  distinct := h.distinct.sublist (hlive.map _)
  balanced := hbalanced

theorem Balanced.congr {db : Db} {w w' : World} (h : Balanced db w)
    (hlogin : w'.db.login.rows = w.db.login.rows)
    (hhistory : ∀ username, w'.history username = w.history username) : Balanced db w' := by
  rw [Balanced, hlogin, h]
  apply List.map_congr_left
  intro u _
  rw [hhistory]

theorem Inv.of_eq {db : Db} {w w' : World} (h : Inv db w)
    (hrows : w'.db.connections.rows = w.db.connections.rows)
    (hlogin : w'.db.login.rows = w.db.login.rows) (hnow : w.db.now ≤ w'.db.now)
    (hlive : w'.live = w.live) : Inv db w' where
  clock := lt_of_lt_of_le h.clock hnow
  started := hrows ▸ fun r hr => le_trans (h.started r hr) hnow
  session := hrows ▸ hlive ▸ h.session
  only := hrows ▸ hlive ▸ h.only
  distinct := hlive ▸ h.distinct
  balanced := h.balanced.congr hlogin fun username => by
    simp only [World.history, hrows, hlive]

/-! ## The statements -/

theorem billed_of_open {live : List Session} {username : Str} {r : Connection}
    (h : isOpen r = true) : billed live username r = 0 := by
  simp [billed, h]

theorem billed_of_pending {live : List Session} {username : Str} {r : Connection}
    (h : pending live r = true) : billed live username r = 0 := by
  simp [billed, h]

theorem billed_of_idle {live : List Session} {username : Str} {r : Connection}
    (h : Idle r) : billed live username r = 0 := by
  unfold Idle at h
  simp [billed, h]

theorem Inv.closeWhere {db : Db} {w : World} (h : Inv db w) {p : Connection → Bool}
    (hp : ∀ r ∈ w.db.connections.rows, p r = true → isOpen r = true →
      pending w.live r = true ∨ Idle r) :
    Inv db ⟨closeWhere p w.db, w.live⟩ := by
  have hclosed : ∀ r ∈ w.db.connections.rows, isOpen { r with endTime := w.db.now } = false := by
    intro r hr
    simpa [isOpen] using h.started r hr
  have hkeeps : Keeps fun r => { r with endTime := w.db.now } :=
    ⟨fun _ => rfl, fun _ => rfl, fun _ => rfl, fun _ => rfl⟩
  refine h.map_rows (hkeeps.ite p) rfl (fun r hr hopen => ?_) rfl (List.Sublist.refl _)
    (h.balanced.congr rfl fun username => ?_)
  · by_cases hpr : p r = true
    · rw [if_pos hpr, hclosed r hr] at hopen
      exact absurd hopen (by decide)
    · rwa [if_neg hpr] at hopen
  · simp only [World.history, Ppp.closeWhere, Table.update_rows, updateAll, List.map_map]
    refine congrArg List.sum (List.map_congr_left fun r hr => ?_)
    by_cases hpr : p r = true
    · simp only [Function.comp_apply, if_pos hpr]
      cases hopen : isOpen r with
      | false => simp [billed, ofUser, pending, hopen, hclosed r hr]
      | true =>
          rw [billed_of_open hopen]
          rcases hp r hr hpr hopen with hpending | hidle
          · exact billed_of_pending hpending
          · exact billed_of_idle hidle
    · simp only [Function.comp_apply, if_neg hpr]

theorem Inv.storeSample {db : Db} {w : World} (h : Inv db w) (s : Sample) :
    Inv db ⟨storeSample s w.db, w.live⟩ := by
  have hkeeps : Keeps fun r => { r with connectionTraffic := some s.traffic } :=
    ⟨fun _ => rfl, fun _ => rfl, fun _ => rfl, fun _ => rfl⟩
  refine h.map_rows (hkeeps.ite fun r => onInterface s.interface r && isOpen r) rfl
    (fun r hr hopen => ?_) rfl (List.Sublist.refl _) (h.balanced.congr rfl fun username => ?_)
  · split at hopen <;> exact hopen
  · simp only [World.history, Ppp.storeSample, Table.update_rows, updateAll, List.map_map]
    refine congrArg List.sum (List.map_congr_left fun r hr => ?_)
    by_cases hp : (onInterface s.interface r && isOpen r) = true
    · have hopen : isOpen r = true := by simp_all
      simp only [Function.comp_apply, if_pos hp]
      rw [billed_of_open hopen]
      exact billed_of_open hopen
    · simp only [Function.comp_apply, if_neg hp]

/-- A new row is open, so nothing is billed for it. -/
theorem history_insertConnection {w : World} (hclock : 0 < w.db.now) (username interface ip : Str)
    (ppid : Int) (name : Str) :
    (World.mk (insertConnection username ip interface ppid w.db)
      (w.live ++ [⟨interface, username, w.db.connections.auto⟩])).history name =
      w.history name := by
  have hfresh : ∀ r ∈ w.db.connections.rows, w.db.connections.auto ≠ r.id := fun r hr =>
    (Nat.ne_of_lt (w.db.connections.lt_auto r hr)).symm
  have hopen : isOpen ⟨w.db.connections.auto, ip.take 20, none, w.db.now, 0,
      some (username.take 200), some (interface.take 20), ppid⟩ = true := by
    simpa [isOpen] using hclock
  simp only [World.history, Ppp.insertConnection, Table.insert_rows, List.map_append,
    List.map_singleton, List.sum_append, List.sum_singleton, billed_of_open hopen, Int.add_zero]
  refine congrArg List.sum (List.map_congr_left fun r hr => ?_)
  simp [billed, pending, hfresh r hr]

/-- A new row, open, on an interface that has no open row and no live session. -/
theorem Inv.insertConnection {db : Db} {w : World} (h : Inv db w) {username interface : Str}
    (ip : Str) (ppid : Int) (hinterface : interface.length ≤ 15)
    (husername : (fold username).length ≤ 200)
    (hfree : ∀ s ∈ w.live, ciEq s.interface interface = false)
    (hnone : ∀ r ∈ w.db.connections.rows, isOpen r = true →
      onInterface interface r = false) :
    Inv db ⟨insertConnection username ip interface ppid w.db,
      w.live ++ [⟨interface, username, w.db.connections.auto⟩]⟩ := by
  have htake : interface.take 20 = interface := List.take_of_length_le (by omega)
  refine ⟨h.clock, ?_, ?_, ?_, ?_, ?_⟩
  · intro r hr
    rcases List.mem_append.1 hr with hr | hr
    · exact h.started r hr
    · rw [List.mem_singleton.1 hr]
      exact Nat.le_refl _
  · intro s hs
    rcases List.mem_append.1 hs with hs | hs
    · obtain ⟨r, hr, hrest⟩ := h.session s hs
      exact ⟨r, List.mem_append_left _ hr, hrest⟩
    · rw [List.mem_singleton.1 hs]
      refine ⟨_, List.mem_append_right _ (List.mem_singleton.2 rfl), rfl, ?_, ?_⟩
      · simp [ofUser, fold_take husername]
      · simp [onInterface, htake]
  · intro s hs r hr hopen hiface
    rcases List.mem_append.1 hs with hs | hs <;> rcases List.mem_append.1 hr with hr | hr
    · exact h.only s hs r hr hopen hiface
    · rw [List.mem_singleton.1 hr] at hiface
      simp only [onInterface, htake, ciEq_iff] at hiface
      have := hfree s hs
      simp [ciEq, hiface] at this
    · rw [List.mem_singleton.1 hs] at hiface
      rw [hnone r hr hopen] at hiface
      exact absurd hiface (by decide)
    · rw [List.mem_singleton.1 hs, List.mem_singleton.1 hr]
  · rw [List.map_append, List.map_singleton, List.nodup_append]
    refine ⟨h.distinct, List.nodup_singleton _, ?_⟩
    intro a ha b hb heq
    obtain ⟨s, hs, rfl⟩ := List.mem_map.1 ha
    have hfold : fold s.interface = fold interface := heq.trans (List.mem_singleton.1 hb)
    simpa [ciEq, hfold] using hfree s hs
  · exact h.balanced.congr rfl fun name => history_insertConnection h.clock _ _ _ _ name

theorem fold_length_le_of_countLogin {db : Db} {username : Str}
    (h : db.countLogin (some username) ≠ 0) : (fold username).length ≤ 16 := by
  obtain ⟨u, hu, hnamed⟩ := List.countP_pos_iff.1 (Nat.pos_of_ne_zero h)
  have hfold : fold u.username = fold username := ciEq_iff.1 hnamed
  rw [← hfold]
  exact le_trans (length_fold_le _) u.username_le

theorem Inv.up {db : Db} {w : World} (h : Inv db w) {link : Link} {username : Str} {ppid : Int}
    (hpossible : Possible w (.up link username ppid)) (hagrees : Agrees w (.up link username ppid)) :
    Inv db (w.step (.up link username ppid)) := by
  obtain ⟨hifname, hauth, hfree⟩ := hpossible
  have hclose := h.closeWhere (p := fun r => onInterface link.ifname r && isOpen r) (by
    intro r hr hp hopen
    rw [Bool.and_eq_true] at hp
    exact .inr (hagrees r hr hopen hp.1))
  have hinsert := hclose.insertConnection
    link.ipparam ppid hifname (le_trans (fold_length_le_of_countLogin hauth) (by decide)) hfree (by
      intro r' hr' hopen
      obtain ⟨r, hr, rfl⟩ := mem_updateAll.1 hr'
      by_contra hiface
      rw [Bool.not_eq_false] at hiface
      by_cases hp : (onInterface link.ifname r && isOpen r) = true
      · rw [if_pos hp, isOpen, decide_eq_true_eq] at hopen
        exact absurd hopen (Nat.not_lt.2 (h.started r hr))
      · rw [if_neg hp] at hopen hiface
        exact hp (by rw [hiface, hopen]; rfl))
  refine hinsert.of_eq ?_ ?_ ?_ rfl <;>
    simp [World.step, ipUp, ipUpArgv, mysqlIpUp, Script.final, insertLog]

/-! ## Going down -/

theorem Inv.eq_of_row {db : Db} {w : World} (h : Inv db w) {s s' : Session} (hs : s ∈ w.live)
    (hs' : s' ∈ w.live) (hrow : s.row = s'.row) : s = s' := by
  obtain ⟨r, hr, hid, -, hiface⟩ := h.session s hs
  obtain ⟨r', hr', hid', -, hiface'⟩ := h.session s' hs'
  have hsame : r = r' := w.db.connections.eq_of_key_eq hr hr' (by rw [hid, hid', hrow])
  subst hsame
  refine eq_of_nodup_map h.distinct hs hs' ?_
  revert hiface hiface'
  unfold onInterface
  cases r.interface with
  | none => simp
  | some name =>
      simp only [ciEq_iff]
      exact fun h₁ h₂ => h₁.symm.trans h₂

theorem Inv.not_pending_filter {db : Db} {w : World} (h : Inv db w) {s : Session}
    (hs : s ∈ w.live) {r : Connection} (hrow : r.id = s.row) :
    pending (w.live.filter (· ≠ s)) r = false := by
  rw [pending, List.any_eq_false]
  intro s' hs' hrow'
  obtain ⟨hmem, hne⟩ := List.mem_filter.1 hs'
  rw [decide_eq_true_eq] at hne hrow'
  exact hne (h.eq_of_row hmem hs (hrow'.trans hrow))

theorem pending_filter_of_ne (live : List Session) {s : Session} {r : Connection}
    (hrow : r.id ≠ s.row) : pending (live.filter (· ≠ s)) r = pending live r := by
  rw [pending, pending, List.any_filter]
  refine congrArg live.any (funext fun s' => ?_)
  by_cases heq : s' = s
  · simp [heq, hrow.symm]
  · simp [heq]

theorem ofSession_iff {db : Db} {w : World} (h : Inv db w) {s : Session} (hs : s ∈ w.live)
    {r : Connection} (hr : r ∈ w.db.connections.rows) :
    ofSession s.username s.interface r = true ↔ r.id = s.row ∧ isOpen r = true := by
  obtain ⟨r₀, hr₀, hid, huser, hiface⟩ := h.session s hs
  constructor
  · intro hsession
    simp only [ofSession, Bool.and_eq_true] at hsession
    exact ⟨h.only s hs r hr hsession.1.2 hsession.2, hsession.1.2⟩
  · rintro ⟨hrow, hopen⟩
    rw [w.db.connections.eq_of_key_eq hr hr₀ (hrow.trans hid.symm)] at hopen ⊢
    simp [ofSession, huser, hiface, hopen]

def finished (link : Link) (now : Time) (r : Connection) : Connection :=
  { r with connectionTraffic := some (reported link), endTime := now }

/-- What `mysql-ip-down` does to one row. -/
def finishRow (link : Link) (username : Str) (now : Time) (r : Connection) : Connection :=
  if ofSession username link.ifname r then finished link now r else r

theorem Inv.history_down {db : Db} {w : World} (h : Inv db w) {s : Session} (hs : s ∈ w.live)
    {link : Link} (hifname : link.ifname = s.interface)
    (hagrees : ∀ r ∈ w.db.connections.rows, r.id = s.row → isOpen r = false →
      r.connectionTraffic.getD 0 = reported link) (username : Str) :
    (w.db.connections.rows.map fun r => billed (w.live.filter (· ≠ s)) username
        (finishRow link s.username w.db.now r)).sum =
      w.history username + if ciEq username s.username then reported link else 0 := by
  obtain ⟨r₀, hr₀, hid, huser, -⟩ := h.session s hs
  have huser' : ofUser username r₀ = ciEq username s.username := by
    revert huser
    unfold ofUser
    cases r₀.username with
    | none => simp
    | some name => intro hname; simp [ciEq, ciEq_iff.1 hname, eq_comm]
  have hlive : pending w.live r₀ = true := List.any_eq_true.2 ⟨s, hs, by simpa using hid.symm⟩
  -- only the row of the session changes what it is billed
  rw [sum_map_eq_add (w := billed w.live username) w.db.connections.nodup hr₀]
  · rw [billed_of_pending hlive, World.history, Int.sub_zero]
    congr 1
    cases hopen : isOpen r₀ with
    | true =>
        have hsession : ofSession s.username link.ifname r₀ = true := by
          rw [hifname]
          exact (ofSession_iff h hs hr₀).2 ⟨hid, hopen⟩
        have hclosed : isOpen (finished link w.db.now r₀) = false :=
          decide_eq_false (Nat.not_lt.2 (h.started r₀ hr₀))
        have hgone := h.not_pending_filter hs (r := finished link w.db.now r₀) hid
        have huser₁ : ofUser username (finished link w.db.now r₀) = ofUser username r₀ := rfl
        rw [finishRow, if_pos hsession, billed, hgone, hclosed, huser₁, huser']
        simp [finished]
    | false =>
        have hsession : ¬ofSession s.username link.ifname r₀ = true := by
          rw [hifname, ofSession_iff h hs hr₀, hopen]
          simp
        rw [finishRow, if_neg hsession, billed, h.not_pending_filter hs hid, huser', hopen,
          hagrees r₀ hr₀ hid hopen]
        simp
  · intro r hr hne
    have hrow : r.id ≠ s.row := fun heq => hne (heq.trans hid.symm)
    have hsession : ¬ofSession s.username link.ifname r = true := by
      rw [hifname, ofSession_iff h hs hr]
      exact fun hboth => hrow hboth.1
    rw [finishRow, if_neg hsession, billed, pending_filter_of_ne _ hrow]
    rfl

theorem Inv.down {db : Db} {w : World} (h : Inv db w) {s : Session} {link : Link}
    (hpossible : Possible w (.down s link)) (hagrees : Agrees w (.down s link)) :
    Inv db (w.step (.down s link)) := by
  obtain ⟨hs, hifname, hin, hout⟩ := hpossible
  have hreported : reported link = (link.bytesIn.toNat + link.bytesOut.toNat : Nat) :=
    (reported_eq_iff link).2 ⟨hin, hout⟩
  have hclosed : ∀ r ∈ w.db.connections.rows,
      isOpen (finishRow link s.username w.db.now r) = true → isOpen r = true := by
    intro r hr hopen
    unfold finishRow at hopen
    split at hopen
    · next hsession =>
        simp only [ofSession, Bool.and_eq_true] at hsession
        exact hsession.1.2
    · exact hopen
  have hkeeps : Keeps (finished link w.db.now) :=
    ⟨fun _ => rfl, fun _ => rfl, fun _ => rfl, fun _ => rfl⟩
  refine h.map_rows (hkeeps.ite (ofSession s.username link.ifname))
    (ipDown_connections link s.username w.db) hclosed ?_ List.filter_sublist ?_
  · simp [World.step, ipDown, ipDownArgv, mysqlIpDown, Script.final, insertLog, deductLimitOne,
      finishConnection]
  · have hhistory : ∀ username, (w.step (.down s link)).history username =
        w.history username + if ciEq username s.username then reported link else 0 := by
      intro username
      rw [← h.history_down hs hifname (hreported ▸ hagrees) username, World.history, World.step,
        ipDown_connections, updateAll, List.map_map]
      rfl
    rw [Balanced, World.step, ipDown_login, h.balanced, updateAll, List.map_map]
    refine List.map_congr_left fun u _ => ?_
    have hstep := hhistory u.username
    rw [World.step] at hstep
    rw [hstep]
    by_cases hname : fold u.username = fold s.username
    · simp [Login.named, hname, Login.addCredit_addCredit, Int.add_comm]
    · simp [Login.named, hname]

theorem Inv.lost {db : Db} {w : World} (h : Inv db w) {s : Session}
    (hpossible : Possible w (.lost s)) : Inv db (w.step (.lost s)) := by
  obtain ⟨hs, hopen⟩ := hpossible
  refine h.map_rows (f := id) ⟨fun _ => rfl, fun _ => rfl, fun _ => rfl, fun _ => rfl⟩
    (List.map_id _).symm (fun _ _ h => h) rfl List.filter_sublist
    (h.balanced.congr rfl fun username => ?_)
  refine congrArg List.sum (List.map_congr_left fun r hr => ?_)
  by_cases hrow : r.id = s.row
  · rw [billed_of_open (hopen r hr hrow), billed_of_open (hopen r hr hrow)]
  · have hpending := pending_filter_of_ne w.live hrow
    simp only [World.step, billed, hpending]

/-! ## `update_traffic.pl` -/

/-- `UPDATE connections SET end_time = now() WHERE id = ?`, for every id. -/
def closeAll (ids : List Nat) (db : Db) : Db :=
  ids.foldl (fun db id => closeWhere (fun r => r.id == id) db) db

theorem storeSamples_state (samples : List Sample) (db : Db) :
    ((Script.forEach samples fun s =>
      (Script.modify (storeSample s) fun _ => [] : Sql Unit)).run db).state = sampled samples db :=
  Script.run_forEach_part (p := id) (f := fun db s => storeSample s db) (by simp) samples db

theorem killSessions_state (es : List Ended) (db : Db) :
    ((Script.forEach es killSession).run db).state = db :=
  (Script.run_forEach_part (p := id) (f := fun db _ => db) (by simp [killSession]) es
    db).trans (List.foldl_fixed _)

theorem updateTraffic_final (samples : List Sample) (db : Db) :
    (updateTraffic samples).final db =
      (insertLog ("[update] Kill pid: ".toList ++
        List.intercalate [','] ((ended (sampled samples db)).map dec))).final
          (closeAll (ended (sampled samples db)) (sampled samples db)) := by
  have hend : ∀ ids db, ((Script.forEach ids endConnection).run db).state = closeAll ids db :=
    fun ids db => Script.run_forEach_part (p := id)
      (f := fun db id => closeWhere (fun r => r.id == id) db) (by simp [endConnection]) ids db
  simp only [updateTraffic, Script.final, Script.bind_eq, Script.run_bind, Script.run_query,
    storeSamples_state, killSessions_state, hend]
  rfl

theorem Inv.sampled {db : Db} {w : World} (h : Inv db w) (samples : List Sample) :
    Inv db ⟨sampled samples w.db, w.live⟩ :=
  foldl_invariant (I := fun db' => Inv db ⟨db', w.live⟩)
    (fun _ s h => h.storeSample s) h samples

theorem Inv.closeAll {db : Db} {w : World} (h : Inv db w) (ids : List Nat)
    (hids : ∀ r ∈ w.db.connections.rows, r.id ∈ ids → pending w.live r = true ∨ Idle r) :
    Inv db ⟨closeAll ids w.db, w.live⟩ := by
  induction ids generalizing w with
  | nil => exact h
  | cons id ids ih =>
      have hclose := h.closeWhere (p := fun r => r.id == id) (by
        intro r hr hid _
        exact hids r hr (by simpa using .inl (beq_iff_eq.1 hid)))
      refine ih hclose fun r' hr' hid => ?_
      obtain ⟨r, hr, rfl⟩ := mem_updateAll.1 hr'
      by_cases hp : (r.id == id) = true
      · rw [if_pos hp] at hid ⊢
        exact hids r hr (List.mem_cons_of_mem _ hid)
      · rw [if_neg hp] at hid ⊢
        exact hids r hr (List.mem_cons_of_mem _ hid)

theorem Inv.updateTraffic {db : Db} {w : World} (h : Inv db w) {samples : List Sample}
    (hagrees : Agrees w (.updateTraffic samples)) : Inv db (w.step (.updateTraffic samples)) := by
  have hclosed := (h.sampled samples).closeAll (ended (Ppp.sampled samples w.db)) hagrees
  refine hclosed.of_eq ?_ ?_ ?_ rfl <;> rw [World.step, updateTraffic_final] <;>
    simp [insertLog, Script.final]

/-! ## Every run -/

theorem Inv.step {db : Db} {w : World} (h : Inv db w) {op : Op} (hpossible : Possible w op)
    (hagrees : Agrees w op) : Inv db (w.step op) := by
  cases op with
  | up link username ppid => exact h.up hpossible hagrees
  | down session link => exact h.down hpossible hagrees
  | lost session => exact h.lost hpossible
  | updateTraffic samples => exact h.updateTraffic hagrees
  | tick t => exact h.of_eq rfl rfl (Nat.le_add_right _ _) rfl

/-- No connection yet. -/
def World.start (db : Db) : World := ⟨db, []⟩

theorem inv_start {db : Db} (hclock : 0 < db.now) (hnone : db.connections.rows = []) :
    Inv db (World.start db) where
  clock := hclock
  started r hr := by simp [World.start, hnone] at hr
  session s hs := by simp [World.start] at hs
  only s hs := by simp [World.start] at hs
  distinct := List.nodup_nil
  balanced := by simp [Balanced, World.start, World.history, hnone]

/-- **The bill agrees with the history**, in every run whose operations are
possible for `pppd` and agree. -/
theorem bill_agrees_with_history {db : Db} (hclock : 0 < db.now)
    (hnone : db.connections.rows = []) (ops : List Op)
    (hops : Along World.step (fun w op => Possible w op ∧ Agrees w op) (World.start db) ops) :
    Balanced db (ops.foldl World.step (World.start db)) :=
  (Along.invariant (I := Inv db) (fun _ _ h hok => h.step hok.1 hok.2)
    (inv_start hclock hnone) hops).balanced

/-! ## A session that is killed, and one that is lost -/

/-- One account with a balance of 100 bytes. -/
def quotaDb : Db :=
  { Db.empty 60 with
    login := .single (.holding "bob".toList 100) }

def bobSession : Session := ⟨"ppp0".toList, "bob".toList, 1⟩

/-- The session is sampled at 150 bytes, killed, closed, and goes down after 200. -/
def killedRun : List Op :=
  [.up (sessionLink 0 0) "bob".toList 4711, .tick 60, .updateTraffic [⟨"0".toList, 100, 50⟩],
    .down bobSession (sessionLink 120 80)]

/-- The session is sampled at 50 bytes and lost, and the interface is used again. -/
def lostRun : List Op :=
  [.up (sessionLink 0 0) "bob".toList 4711, .tick 60, .updateTraffic [⟨"0".toList, 30, 20⟩],
    .lost bobSession, .up (sessionLink 0 0) "bob".toList 4712]

/-- The session is sampled, and goes down by itself. -/
def quietRun : List Op :=
  [.up (sessionLink 0 0) "bob".toList 4711, .tick 60, .updateTraffic [⟨"0".toList, 30, 20⟩],
    .tick 60, .down bobSession (sessionLink 40 20)]

instance (w : World) (op : Op) : Decidable (Possible w op) :=
  match op with
  | .up _ _ _ => inferInstanceAs (Decidable (_ ∧ _ ∧ ∀ s ∈ w.live, _))
  | .down _ _ => inferInstanceAs (Decidable (_ ∧ _ ∧ _ ∧ _))
  | .lost _ => inferInstanceAs (Decidable (_ ∧ ∀ r ∈ w.db.connections.rows, _))
  | .updateTraffic _ => isTrue trivial
  | .tick _ => isTrue trivial

instance (w : World) (op : Op) : Decidable (Agrees w op) :=
  match op with
  | .up _ _ _ => inferInstanceAs (Decidable (∀ r ∈ w.db.connections.rows, _))
  | .down _ _ => inferInstanceAs (Decidable (∀ r ∈ w.db.connections.rows, _))
  | .updateTraffic samples =>
      inferInstanceAs (Decidable (∀ r ∈ (sampled samples w.db).connections.rows, _))
  | .lost _ => isTrue trivial
  | .tick _ => isTrue trivial

theorem bill_disagrees :
    (Along World.step Possible (World.start quotaDb) killedRun ∧
      ¬Balanced quotaDb (killedRun.foldl World.step (World.start quotaDb))) ∧
    Along World.step Possible (World.start quotaDb) lostRun ∧
      ¬Balanced quotaDb (lostRun.foldl World.step (World.start quotaDb)) := by
  refine ⟨⟨by decide, ?_⟩, by decide, ?_⟩
  · unfold Balanced
    decide
  · unfold Balanced
    decide

theorem bill_agrees_with_history_quiet :
    Balanced quotaDb (quietRun.foldl World.step (World.start quotaDb)) :=
  bill_agrees_with_history (by decide) rfl quietRun (by decide)

end ParDiff.Ppp
