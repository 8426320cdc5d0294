import ParDiff.Ppp.Host

/-!
# Samples and the sessions they were read from

A sample belongs to the session that held the interface when its counters were read.
It is stored under the name of the interface, in whatever row is open there by then.
If the interface has changed hands in between, the sample of one session is charged to
the next one, and `update_traffic.pl` may end a session that has hardly transferred
anything.  `Unmixed` is what a step has to respect so that this does not happen.
-/

namespace ParDiff.Ppp

open Lib Lib.Text

variable {ι : Type} [DecidableEq ι]

/-! ## The property and the condition -/

/-- The reading that a process has still to store. -/
def lastRead (own : List (Mark ι)) : Option (Reading ι) :=
  match own.getLast? with
  | some (.read x) => some x
  | _ => none

abbrev Seen (ι : Type) := Shared ι (Host ι) (Mark ι)

/-- Whatever is open on the interface is the session's. -/
def OpenIsOf (g : Seen ι) (i : ι) (unit : Nat) : Prop :=
  ∀ r ∈ g.state.db.connections.rows, isOpen r = true → onInterface (pppName unit) r = true →
    (i, Mark.inserted unit r.id) ∈ g.trace

/-- The mark does not mix two sessions up: an interface is read only while no row of
another session is open on it, and `mysql-ip-up` inserts a row only while no reading of
its interface from another session has still to be stored. -/
def UnmixedMark (g : Seen ι) : ι × Mark ι → Prop
  | (_, .read x) => OpenIsOf g x.session x.unit
  | (i, .inserted unit _) => ∀ j, ∀ x ∈ lastRead (g.own j), x.unit = unit → x.session = i
  | _ => True

def Unmixed (g : Seen ι) (_ : Turn ι (Move ι)) (es : List (ι × Mark ι)) : Prop :=
  ∀ e ∈ es, UnmixedMark g e

instance (g : Seen ι) (i : ι) (unit : Nat) : Decidable (OpenIsOf g i unit) :=
  inferInstanceAs (Decidable (∀ r ∈ g.state.db.connections.rows, _))

instance [Fintype ι] (g : Seen ι) : (e : ι × Mark ι) → Decidable (UnmixedMark g e)
  | (_, .read x) => inferInstanceAs (Decidable (OpenIsOf g x.session x.unit))
  | (i, .inserted unit _) =>
      inferInstanceAs (Decidable (∀ j, ∀ x ∈ lastRead (g.own j), x.unit = unit → x.session = i))
  | (_, .stored _ _) => isTrue trivial
  | (_, .selected _) => isTrue trivial
  | (_, .killed _) => isTrue trivial
  | (_, .ended _) => isTrue trivial

instance [Fintype ι] (g : Seen ι) (a : Turn ι (Move ι)) (es : List (ι × Mark ι)) :
    Decidable (Unmixed g a es) :=
  inferInstanceAs (Decidable (∀ e ∈ es, UnmixedMark g e))

section

variable (task : ι → Task)

/-- The session has transferred more than 3 GB or more than the credit of its owner. -/
def Over (h : Host ι) (i : ι) : Prop :=
  3 * 1024 * 1024 * 1024 < h.bytes i ∨ ∃ u, task i = .ipUp u ∧ ∃ a ∈ h.db.login.rows,
    ciEq (u.username.take 200) a.username = true ∧
      ∃ credit, a.credit = some credit ∧ credit < h.bytes i

/-- The session was over its limit at some point of the schedule. -/
def WasOver (c : Config ι (Host ι) (Mark ι) Unit) (schedule : List (Turn ι (Move ι))) (i : ι) :
    Prop :=
  ∃ pre post, schedule = pre ++ post ∧ Over task (c.run Host.move pre).state i

/-- Samples are stored in the row of the session they were read from, and
`update_traffic.pl` kills and closes only sessions that were over their limit. -/
structure ChargedToOwn (c : Config ι (Host ι) (Mark ι) Unit)
    (schedule : List (Turn ι (Move ι))) : Prop where
  stored : ∀ j x ids, (j, Mark.stored x ids) ∈ (c.run Host.move schedule).trace →
    ∀ id ∈ ids, (x.session, Mark.inserted x.unit id) ∈ (c.run Host.move schedule).trace
  killed : ∀ j pid, (j, Mark.killed pid) ∈ (c.run Host.move schedule).trace →
    ∀ i u, task i = .ipUp u → u.ppid = pid → WasOver task c schedule i
  ended : ∀ j id, (j, Mark.ended id) ∈ (c.run Host.move schedule).trace →
    ∀ i unit, (i, Mark.inserted unit id) ∈ (c.run Host.move schedule).trace →
      WasOver task c schedule i

/-- Nothing has started or ended in the future. -/
def Past (db : Db) : Prop :=
  ∀ r ∈ db.connections.rows, r.startTime ≤ db.now ∧ r.endTime ≤ db.now

/-! ## The invariant -/

/-- The row is the session's, and its traffic is no more than the session's own. -/
def Owns (g : Seen ι) (i : ι) (r : Connection) : Prop :=
  ∃ u, task i = .ipUp u ∧ (i, Mark.inserted u.unit r.id) ∈ g.trace ∧ r.ppid = u.ppid ∧
    r.username = some (u.username.take 200) ∧
    ∀ v, r.connectionTraffic = some v → v ≤ g.state.bytes i

/-- What a process has said before it says this. -/
def Supported (g : Seen ι) (j : ι) : Mark ι → Prop
  | .inserted _ id => id < g.state.db.connections.auto
  | .read _ => True
  | .stored x ids => ∀ id ∈ ids, (x.session, Mark.inserted x.unit id) ∈ g.trace
  | .selected _ => True
  | .killed pid => ∃ es, (j, Mark.selected es) ∈ g.trace ∧ ∃ e ∈ es, e.ppid = pid
  | .ended id => ∃ es, (j, Mark.selected es) ∈ g.trace ∧ ∃ e ∈ es, e.id = id

/-- The reading is no more than the session's own traffic, and no other session has a row
open on the interface. -/
def Current (g : Seen ι) (x : Reading ι) : Prop :=
  x.sample.traffic ≤ g.state.bytes x.session ∧ OpenIsOf g x.session x.unit

structure Sampling (g : Seen ι) : Prop where
  past : Past g.state.db
  unique : ∀ i i' unit unit' id, (i, Mark.inserted unit id) ∈ g.trace →
    (i', Mark.inserted unit' id) ∈ g.trace → i = i'
  owned : ∀ r ∈ g.state.db.connections.rows, isOpen r = true → ∃ i, Owns task g i r
  current : ∀ j, ∀ x ∈ lastRead (g.own j), Current g x
  supported : ∀ j m, (j, m) ∈ g.trace → Supported g j m

end

variable {task : ι → Task} {g : Seen ι}

/-! ## Statements -/

/-- A statement leaves the open rows as they are, or closes them. -/
structure Gentle (f : Db → Db) : Prop where
  past : ∀ db, Past db → Past (f db)
  auto : ∀ db, (f db).connections.auto = db.connections.auto
  kept : ∀ db, Past db → ∀ r ∈ (f db).connections.rows, isOpen r = true →
    r ∈ db.connections.rows

omit [DecidableEq ι] in
theorem gentle_of_connections_eq {f : Db → Db} (hnow : ∀ db, (f db).now = db.now)
    (h : ∀ db, (f db).connections = db.connections) : Gentle f where
  past db hpast := by rwa [Past, h, hnow]
  auto db := by rw [h]
  kept db _ r hr _ := by rwa [h] at hr

/-- An update that ends the rows it changes. -/
theorem gentle_ending {f : Db → Db} {p : Connection → Bool} {k : Time → Connection → Connection}
    (hk : ∀ now r, (k now r).startTime = r.startTime ∧ (k now r).endTime = now)
    (hnow : ∀ db, (f db).now = db.now) (hauto : ∀ db, (f db).connections.auto = db.connections.auto)
    (hrows : ∀ db, (f db).connections.rows = updateAll p (k db.now) db.connections.rows) :
    Gentle f where
  past db hpast := by
    rw [Past, hnow, hrows]
    intro r' hr'
    obtain ⟨r, hr, rfl⟩ := mem_updateAll.1 hr'
    by_cases hp : p r = true
    · rw [if_pos hp, (hk _ _).1, (hk _ _).2]
      exact ⟨(hpast r hr).1, Nat.le_refl _⟩
    · rw [if_neg hp]
      exact hpast r hr
  auto := hauto
  kept db hpast r' hr' hopen := by
    rw [hrows] at hr'
    obtain ⟨r, hr, rfl⟩ := mem_updateAll.1 hr'
    by_cases hp : p r = true
    · rw [if_pos hp] at hopen
      have hclosed : isOpen (k db.now r) = false := by
        rw [isOpen_eq_false, (hk _ _).1, (hk _ _).2]
        exact (hpast r hr).1
      rw [hclosed] at hopen
      cases hopen
    · rwa [if_neg hp]

theorem gentle_closeWhere (p : Connection → Bool) : Gentle (closeWhere p) :=
  gentle_ending (k := fun now r => { r with endTime := now }) (fun _ _ => ⟨rfl, rfl⟩)
    (fun _ => rfl) (fun _ => rfl) fun _ => rfl

theorem gentle_finishConnection (traffic : Int) (username interface : Str) :
    Gentle (finishConnection traffic username interface) :=
  gentle_ending (k := fun now r => { r with connectionTraffic := some traffic, endTime := now })
    (fun _ _ => ⟨rfl, rfl⟩) (fun _ => rfl) (fun _ => rfl) fun _ => rfl

/-! ## What is said stays said -/

section Mono

variable {g' : Seen ι} (htrace : ∀ e ∈ g.trace, e ∈ g'.trace)
  (hopen : ∀ r ∈ g'.state.db.connections.rows, isOpen r = true →
    r ∈ g.state.db.connections.rows)
  (hbytes : ∀ i, g.state.bytes i ≤ g'.state.bytes i)

include htrace

omit [DecidableEq ι] in
theorem Supported.mono {j : ι} {m : Mark ι} (h : Supported g j m)
    (hauto : g.state.db.connections.auto ≤ g'.state.db.connections.auto) : Supported g' j m := by
  cases m with
  | inserted unit id => exact Nat.lt_of_lt_of_le h hauto
  | read x => trivial
  | stored x ids => exact fun id hid => htrace _ (h id hid)
  | selected es => trivial
  | killed pid =>
      obtain ⟨es, hes, he⟩ := h
      exact ⟨es, htrace _ hes, he⟩
  | ended id =>
      obtain ⟨es, hes, he⟩ := h
      exact ⟨es, htrace _ hes, he⟩

include hbytes

omit [DecidableEq ι] in
theorem Owns.mono {i : ι} {r : Connection} (h : Owns task g i r) : Owns task g' i r := by
  obtain ⟨u, hu, hins, hppid, hname, htraffic⟩ := h
  exact ⟨u, hu, htrace _ hins, hppid, hname, fun v hv => (htraffic v hv).trans (hbytes i)⟩

include hopen

omit [DecidableEq ι] in
theorem Current.mono {x : Reading ι} (h : Current g x) : Current g' x :=
  ⟨h.1.trans (hbytes _), fun r hr hr' hunit => htrace _ (h.2 r (hopen r hr hr') hr' hunit)⟩

end Mono

omit [DecidableEq ι] in
theorem lastRead_append_ne {own : List (Mark ι)} {m : Mark ι} (h : ∀ x, m ≠ .read x) :
    lastRead (own ++ [m]) = none := by
  rw [lastRead, List.getLast?_append]
  cases m with
  | read x => exact absurd rfl (h x)
  | _ => rfl

namespace Sampling

/-- The state changes, and open rows are at most closed. -/
theorem kept (h : Sampling task g) {s : Host ι} (hpast : Past s.db)
    (hauto : g.state.db.connections.auto ≤ s.db.connections.auto)
    (hopen : ∀ r ∈ s.db.connections.rows, isOpen r = true → r ∈ g.state.db.connections.rows)
    (hbytes : ∀ i, g.state.bytes i ≤ s.bytes i) : Sampling task ⟨s, g.trace⟩ := by
  have htrace : ∀ e ∈ g.trace, e ∈ (⟨s, g.trace⟩ : Seen ι).trace := fun _ he => he
  refine ⟨hpast, h.unique, fun r hr hr' => ?_, fun j x hx => ?_, fun j m hm => ?_⟩
  · obtain ⟨i, hi⟩ := h.owned r (hopen r hr hr') hr'
    exact ⟨i, hi.mono htrace hbytes⟩
  · exact (h.current j x hx).mono htrace hopen hbytes
  · exact (h.supported j m hm).mono htrace hauto

theorem gentle (h : Sampling task g) {f : Db → Db} (hf : Gentle f) :
    Sampling task ⟨g.state.setDb (f g.state.db), g.trace⟩ :=
  h.kept (hf.past _ h.past) (Nat.le_of_eq (hf.auto _).symm) (hf.kept _ h.past)
    fun _ => Int.le_refl _

/-- A process says something. -/
theorem mark (h : Sampling task g) {j : ι} {m : Mark ι} (hm : Supported g j m)
    (hread : ∀ x, m = .read x → Current g x) (hinserted : ∀ unit id, m ≠ .inserted unit id) :
    Sampling task (g.exec j fun s => (s, [m])) := by
  have htrace : ∀ e ∈ g.trace, e ∈ (g.exec j fun s => (s, [m])).trace :=
    fun e he => List.mem_append_left _ he
  have hold : ∀ i unit id, (i, Mark.inserted unit id) ∈ (g.exec j fun s => (s, [m])).trace →
      (i, Mark.inserted unit id) ∈ g.trace := by
    intro i unit id hmem
    rcases List.mem_append.1 hmem with hmem | hmem
    · exact hmem
    · obtain ⟨-, hm⟩ := Prod.mk.inj (List.mem_singleton.1 hmem)
      exact absurd hm.symm (hinserted unit id)
  refine ⟨h.past, fun i i' unit unit' id hi hi' => ?_, fun r hr hr' => ?_, fun i x hx => ?_,
    fun i m' hm' => ?_⟩
  · exact h.unique i i' unit unit' id (hold _ _ _ hi) (hold _ _ _ hi')
  · obtain ⟨i, hi⟩ := h.owned r hr hr'
    exact ⟨i, hi.mono htrace fun _ => Int.le_refl _⟩
  · have hcurrent : Current g x := by
      rw [Shared.own_exec] at hx
      by_cases hij : j = i
      · rw [if_pos hij] at hx
        by_cases hmread : ∃ y, m = .read y
        · obtain ⟨y, rfl⟩ := hmread
          obtain rfl : y = x := by simpa [lastRead, List.getLast?_append] using hx
          exact hread y rfl
        · rw [lastRead_append_ne fun y hy => hmread ⟨y, hy⟩] at hx
          cases hx
      · rw [if_neg hij, List.append_nil] at hx
        exact h.current i x hx
    exact hcurrent.mono htrace (fun r hr _ => hr) fun _ => Int.le_refl _
  · rcases List.mem_append.1 hm' with hm' | hm'
    · exact (h.supported i m' hm').mono htrace (Nat.le_refl _)
    · obtain ⟨rfl, rfl⟩ := Prod.mk.inj (List.mem_singleton.1 hm')
      exact hm.mono htrace (Nat.le_refl _)

/-- A sample is stored while it is current. -/
theorem store (h : Sampling task g) {x : Reading ι} (hx : Current g x) :
    Sampling task ⟨g.state.setDb (storeSample x.sample g.state.db), g.trace⟩ := by
  have hrow : ∀ r' ∈ (storeSample x.sample g.state.db).connections.rows,
      ∃ r ∈ g.state.db.connections.rows, r' = if onInterface x.sample.interface r && isOpen r then
        { r with connectionTraffic := some x.sample.traffic } else r := fun r' hr' =>
    mem_updateAll.1 hr'
  have hsame : ∀ r' ∈ (storeSample x.sample g.state.db).connections.rows,
      ∃ r ∈ g.state.db.connections.rows, r'.id = r.id ∧ r'.startTime = r.startTime ∧
        r'.endTime = r.endTime ∧ r'.interface = r.interface := by
    intro r' hr'
    obtain ⟨r, hr, rfl⟩ := hrow r' hr'
    refine ⟨r, hr, ?_⟩
    split <;> exact ⟨rfl, rfl, rfl, rfl⟩
  have hopenSame : ∀ {r r' : Connection}, r'.startTime = r.startTime → r'.endTime = r.endTime →
      isOpen r' = isOpen r := by
    intro r r' hstart hend
    rw [isOpen, isOpen, hstart, hend]
  refine ⟨fun r' hr' => ?_, h.unique, fun r' hr' hopen => ?_, fun j y hy => ?_,
    fun j m hm => ?_⟩
  · obtain ⟨r, hr, -, hstart, hend, -⟩ := hsame r' hr'
    rw [hstart, hend]
    exact h.past r hr
  · obtain ⟨r, hr, rfl⟩ := hrow r' hr'
    by_cases hp : (onInterface x.sample.interface r && isOpen r) = true
    · rw [if_pos hp] at hopen ⊢
      rw [Bool.and_eq_true] at hp
      obtain ⟨i, u, hu, hins, hppid, hname, -⟩ := h.owned r hr hp.2
      obtain rfl := h.unique _ _ _ _ _ hins (hx.2 r hr hp.2 hp.1)
      refine ⟨_, u, hu, hins, hppid, hname, fun v hv => ?_⟩
      rw [← Option.some.inj hv]
      exact hx.1
    · rw [if_neg hp] at hopen ⊢
      exact h.owned r hr hopen
  · obtain ⟨hbytes, hopenIs⟩ := h.current j y hy
    refine ⟨hbytes, fun r' hr' hopen hunit => ?_⟩
    obtain ⟨r, hr, hid, hstart, hend, hinterface⟩ := hsame r' hr'
    rw [hid]
    refine hopenIs r hr ?_ ?_
    · rwa [hopenSame hstart hend] at hopen
    · rwa [onInterface_congr hinterface] at hunit
  · exact h.supported j m hm

end Sampling

/-! ## The row of a new session -/

/-- `mysql-ip-up` inserts the row of session `i`. -/
def insertRow (g : Seen ι) (i : ι) (u : Up) : Seen ι :=
  g.exec i fun s => (s.setDb (u.opened s.db), [.inserted u.unit s.db.connections.auto])

section InsertRow

variable {i : ι} {u : Up}

omit [DecidableEq ι] in
theorem mem_insertRow_rows {r : Connection} :
    r ∈ (insertRow g i u).state.db.connections.rows ↔ r ∈ g.state.db.connections.rows ∨
      r = u.row g.state.db.now g.state.db.connections.auto := by
  have hrows : (insertRow g i u).state.db.connections.rows =
      g.state.db.connections.rows ++ [u.row g.state.db.now g.state.db.connections.auto] :=
    u.opened_rows g.state.db
  rw [hrows, List.mem_append, List.mem_singleton]

omit [DecidableEq ι] in
theorem mem_insertRow_trace {e : ι × Mark ι} :
    e ∈ (insertRow g i u).trace ↔
      e ∈ g.trace ∨ e = (i, .inserted u.unit g.state.db.connections.auto) := by
  have htrace : (insertRow g i u).trace =
      g.trace ++ [(i, .inserted u.unit g.state.db.connections.auto)] := rfl
  rw [htrace, List.mem_append, List.mem_singleton]

/-- The number of the new row is larger than all that were used. -/
theorem Sampling.insertRow_unique (h : Sampling task g) {j j' : ι} {unit unit' id : Nat}
    (hj : (j, Mark.inserted unit id) ∈ (insertRow g i u).trace)
    (hj' : (j', Mark.inserted unit' id) ∈ (insertRow g i u).trace) : j = j' := by
  have hused : ∀ {k : ι} {n : Nat}, (k, Mark.inserted n id) ∈ g.trace →
      id < g.state.db.connections.auto := fun hk => h.supported _ _ hk
  rw [mem_insertRow_trace, Prod.mk.injEq, Mark.inserted.injEq] at hj hj'
  rcases hj with hj | ⟨rfl, -, hid⟩
  · rcases hj' with hj' | ⟨-, -, hid⟩
    · exact h.unique j j' unit unit' id hj hj'
    · exact absurd hid (Nat.ne_of_lt (hused hj))
  · rcases hj' with hj' | ⟨rfl, -, -⟩
    · exact absurd hid (Nat.ne_of_lt (hused hj'))
    · rfl

/-- A reading of the interface that has still to be stored is the session's own. -/
theorem Sampling.insertRow_current (h : Sampling task g)
    (hunmixed : UnmixedMark g (i, .inserted u.unit g.state.db.connections.auto)) {j : ι}
    {x : Reading ι} (hx : x ∈ lastRead ((insertRow g i u).own j)) :
    Current (insertRow g i u) x := by
  rw [insertRow, Shared.own_exec] at hx
  by_cases hij : i = j
  · rw [if_pos hij, lastRead_append_ne (by simp)] at hx
    cases hx
  · rw [if_neg hij, List.append_nil] at hx
    obtain ⟨hle, hopenIs⟩ := h.current j x hx
    refine ⟨hle, fun r hr hopen hunit => mem_insertRow_trace.2 ?_⟩
    rcases mem_insertRow_rows.1 hr with hr | rfl
    · exact .inl (hopenIs r hr hopen hunit)
    · have hsame := Up.row_unit hunit
      rw [← hsame, hunmixed j x hx hsame.symm]
      exact .inr rfl

theorem Sampling.insertRow (h : Sampling task g) (hu : task i = .ipUp u)
    (hunmixed : UnmixedMark g (i, .inserted u.unit g.state.db.connections.auto)) :
    Sampling task (insertRow g i u) := by
  have htrace : ∀ e ∈ g.trace, e ∈ (Ppp.insertRow g i u).trace :=
    fun e he => mem_insertRow_trace.2 (.inl he)
  refine ⟨fun r hr => ?_, fun j j' unit unit' id hj hj' => h.insertRow_unique hj hj',
    fun r hr hopen => ?_, fun j x hx => h.insertRow_current hunmixed hx, fun j m hm => ?_⟩
  · rcases mem_insertRow_rows.1 hr with hr | rfl
    · exact h.past r hr
    · exact ⟨Nat.le_refl _, Nat.zero_le _⟩
  · rcases mem_insertRow_rows.1 hr with hr | rfl
    · obtain ⟨j, hj⟩ := h.owned r hr hopen
      exact ⟨j, hj.mono htrace fun _ => Int.le_refl _⟩
    · exact ⟨i, u, hu, mem_insertRow_trace.2 (.inr rfl), rfl, rfl, fun v hv => by cases hv⟩
  · rcases mem_insertRow_trace.1 hm with hm | hm
    · exact (h.supported j m hm).mono htrace (Nat.le_succ _)
    · obtain ⟨rfl, rfl⟩ := Prod.mk.inj hm
      exact Nat.lt_succ_self _

end InsertRow

/-! ## The contract -/

variable (task) in
/-- The row belongs to a session that is over its limit. -/
def Condemned (g : Seen ι) (e : Ended) : Prop :=
  ∃ i u, task i = .ipUp u ∧ u.ppid = e.ppid ∧ (i, Mark.inserted u.unit e.id) ∈ g.trace ∧
    Over task g.state i

omit [DecidableEq ι] in
theorem lt_of_trafficExceeds {limit bytes : Int} {r : Connection}
    (h : trafficExceeds limit r = true) (hr : ∀ v, r.connectionTraffic = some v → v ≤ bytes) :
    limit < bytes := by
  cases htraffic : r.connectionTraffic with
  | none => simp [trafficExceeds, htraffic] at h
  | some v =>
      simp only [trafficExceeds, htraffic, decide_eq_true_eq] at h
      exact Int.lt_of_lt_of_le h (hr v htraffic)

theorem Sampling.condemned_heavy (h : Sampling task g) {e : Ended}
    (he : e ∈ heavy g.state.db) : Condemned task g e := by
  obtain ⟨r, hr, rfl⟩ := List.mem_map.1 he
  obtain ⟨hr, hheavy⟩ := List.mem_filter.1 hr
  rw [isHeavy, Bool.and_eq_true] at hheavy
  obtain ⟨i, u, hu, hins, hppid, -, htraffic⟩ := h.owned r hr hheavy.1
  exact ⟨i, u, hu, hppid.symm, hins, .inl (lt_of_trafficExceeds hheavy.2 htraffic)⟩

theorem Sampling.condemned_exceeded (h : Sampling task g) {e : Ended}
    (he : e ∈ exceeded g.state.db) : Condemned task g e := by
  obtain ⟨a, ha, he⟩ := List.mem_flatMap.1 he
  obtain ⟨r, hr, rfl⟩ := List.mem_map.1 he
  obtain ⟨hr, hexceeds⟩ := List.mem_filter.1 hr
  rw [exceedsCredit, Bool.and_eq_true, Bool.and_eq_true] at hexceeds
  obtain ⟨⟨hopen, huser⟩, hcredit⟩ := hexceeds
  obtain ⟨i, u, hu, hins, hppid, hname, htraffic⟩ := h.owned r hr hopen
  refine ⟨i, u, hu, hppid.symm, hins, .inr ⟨u, hu, a, ha, ?_, ?_⟩⟩
  · rw [ofUser, hname] at huser
    exact huser
  · cases hbalance : a.credit with
    | none => simp [hbalance] at hcredit
    | some credit =>
        rw [hbalance] at hcredit
        exact ⟨credit, rfl, lt_of_trafficExceeds hcredit htraffic⟩

variable (task) in
/-- `guar`: whatever a query returns is condemned at that moment. -/
def sampling : Contract ι (Host ι) (Mark ι) (Move ι) where
  env := Host.move
  admits := Unmixed
  inv := Sampling task
  guar j g g' := ∀ es, (j, Mark.selected es) ∈ g'.trace.drop g.trace.length →
    ∀ e ∈ es, Condemned task g e
  halted _ _ := True

theorem guar_refl {j : ι} : (sampling task).guar j g g := by
  intro es hes
  rw [List.drop_length] at hes
  cases hes

theorem guar_exec {j : ι} {act : Host ι → Host ι × List (Mark ι)}
    (h : ∀ es, Mark.selected es ∈ (act g.state).2 → ∀ e ∈ es, Condemned task g e) :
    (sampling task).guar j g (g.exec j act) := by
  intro es hes
  rw [Shared.exec_trace, List.drop_left] at hes
  obtain ⟨m, hm, heq⟩ := List.mem_map.1 hes
  obtain ⟨-, rfl⟩ := Prod.mk.inj heq
  exact h es hm

/-! ## The scripts of `pppd` -/

omit [DecidableEq ι] in
theorem insertion_gentle {f : Db → Db} (hf : Gentle f) (unit : Nat) (db : Db) :
    (insertion unit db (f db) : List (Mark ι)) = [] := by
  rw [insertion, hf.auto, if_neg (Nat.lt_irrefl _)]

omit [DecidableEq ι] in
theorem insertion_opened (u : Up) (db : Db) :
    (insertion u.unit db (u.opened db) : List (Mark ι)) =
      [.inserted u.unit db.connections.auto] :=
  if_pos (Nat.lt_succ_self _)

/-- A statement on the tables that inserts nothing. -/
theorem sampling_gentle {j : ι} {f : Db → Db} (hf : Gentle f) {emit : Db → Db → List (Mark ι)}
    (hemit : ∀ db, emit db (f db) = []) (hg : Sampling task g) :
    Sampling task (g.exec j fun s => (s.setDb (f s.db), emit s.db (f s.db))) ∧
      (sampling task).guar j g (g.exec j fun s => (s.setDb (f s.db), emit s.db (f s.db))) := by
  refine ⟨?_, guar_exec (by simp [hemit])⟩
  have hexec : (g.exec j fun s => (s.setDb (f s.db), emit s.db (f s.db))) =
      ⟨g.state.setDb (f g.state.db), g.trace⟩ := by
    simp [Shared.exec, hemit]
  rw [hexec]
  exact hg.gentle hf

/-- A script of such statements. -/
theorem valid_gentle {j : ι} {α : Type} {script : Sql α} {emit : Db → Db → List (Mark ι)}
    (h : script.Every fun act => Gentle fun db => (act db).1)
    (hemit : ∀ f, Gentle f → ∀ db, emit db (f db) = []) :
    (sampling task).Valid j (fun _ _ => True) (script.within Host.db Host.setDb emit)
      fun _ => True :=
  Contract.Valid.of_every (h.within fun act hact _ hg _ =>
    sampling_gentle (f := fun db => (act db).1) hact (hemit _ hact) hg)

omit [DecidableEq ι] in
theorem gentle_insertLog (event : Str) :
    (insertLog event).Every fun act => Gentle fun db => (act db).1 :=
  Script.every_exec (gentle_of_connections_eq (fun _ => rfl) fun _ => rfl)

theorem gentle_mysqlIpDown (argv : List Str) :
    (mysqlIpDown argv).Every fun act => Gentle fun db => (act db).1 := by
  unfold mysqlIpDown
  split
  · refine Script.Every.bind (Script.every_exec (gentle_finishConnection _ _ _)) fun _ => ?_
    refine Script.Every.bind (Script.every_exec ?_) fun _ => gentle_insertLog _
    exact gentle_of_connections_eq (fun _ => rfl) fun _ => rfl
  · trivial

theorem valid_ipDown (j : ι) (argv : List Str) :
    (sampling task).Valid j (fun _ _ => True) (ipDownOnHost argv) fun _ => True :=
  valid_gentle (gentle_mysqlIpDown argv) fun _ _ _ => rfl

theorem valid_ipUp {i : ι} {u : Up} (hu : task i = .ipUp u) :
    (sampling task).Valid i (fun _ _ => True) u.onHost fun _ => True := by
  have hscript : (u.onHost : Script (Host ι) (Mark ι) Unit) =
      ((Script.modify (closeWhere fun r => onInterface u.link.ifname r && isOpen r)
        fun _ => [] : Sql Unit).within Host.db Host.setDb (insertion u.unit)).bind fun _ =>
      (Script.modify (fun h => h.setDb (u.opened h.db))
        fun h => insertion u.unit h.db (u.opened h.db)).bind fun _ =>
      u.logging.within Host.db Host.setDb (insertion u.unit) := rfl
  rw [hscript]
  refine (valid_gentle (Script.every_exec (gentle_closeWhere _)) fun f hf db =>
    insertion_gentle hf u.unit db).bind fun _ => ?_
  refine Contract.Valid.bind (Contract.Valid.exec (fun _ => Contract.Stable.const True)
    fun g hg _ hadmits => ?_) fun _ => ?_
  · have hmark : UnmixedMark g (i, .inserted u.unit g.state.db.connections.auto) := by
      refine hadmits _ ?_
      dsimp only
      rw [insertion_opened]
      exact List.mem_singleton_self _
    have hexec : (g.exec i fun s =>
        (s.setDb (u.opened s.db), insertion u.unit s.db (u.opened s.db))) = insertRow g i u :=
      Shared.exec_congr (by rw [insertion_opened]) i
    refine ⟨?_, guar_exec (by simp [insertion_opened]), trivial⟩
    rw [hexec]
    exact hg.insertRow hu hmark
  · exact valid_gentle (gentle_insertLog _) fun f hf db => insertion_gentle hf u.unit db

/-! ## `update_traffic.pl` -/

/-- A statement that only says `m`. -/
theorem sampling_mark (hg : Sampling task g) {j : ι} {m : Mark ι} (hm : Supported g j m)
    (hread : ∀ x, m = .read x → Current g x) (hinserted : ∀ unit id, m ≠ .inserted unit id)
    (hselected : ∀ es, m = .selected es → ∀ e ∈ es, Condemned task g e) :
    Sampling task (g.exec j fun s => (s, [m])) ∧
      (sampling task).guar j g (g.exec j fun s => (s, [m])) := by
  refine ⟨hg.mark hm hread hinserted, guar_exec fun es hes => ?_⟩
  exact hselected es (List.mem_singleton.1 hes).symm

theorem valid_read (j : ι) (unit : Nat) :
    (sampling task).Valid j (fun o g => ∀ x, o = some x → lastRead (g.own j) = some x)
      (Host.read unit) fun _ => True := by
  refine Contract.Valid.exec (fun o => Contract.Stable.own fun own =>
    ∀ x, o = some x → lastRead own = some x) fun g hg _ hadmits => ?_
  cases hreading : g.state.reading unit with
  | none =>
      have hexec : (g.exec j fun h : Host ι =>
          (h, ((h.reading unit).map Mark.read).toList)) = g := by
        simp [Shared.exec, hreading]
      dsimp only
      rw [hexec]
      exact ⟨hg, guar_refl, fun x hx => by cases hx⟩
  | some x =>
      have hexec : (g.exec j fun h : Host ι =>
          (h, ((h.reading unit).map Mark.read).toList)) = g.exec j fun h => (h, [.read x]) :=
        Shared.exec_congr (by simp [hreading]) j
      have hunmixed : OpenIsOf g x.session x.unit := by
        refine hadmits (j, .read x) ?_
        simp [hreading]
      have hcurrent : Current g x := by
        refine ⟨?_, hunmixed⟩
        obtain ⟨i, -, rfl⟩ := Option.map_eq_some_iff.1 hreading
        exact Int.le_refl _
      dsimp only
      rw [hexec]
      obtain ⟨hinv, hguar⟩ := sampling_mark (m := .read x) hg (j := j) trivial
        (fun y hy => Mark.read.inj hy ▸ hcurrent) (by simp) (by simp)
      refine ⟨hinv, hguar, fun y hy => ?_⟩
      obtain rfl := Option.some.inj hy
      simp [lastRead]

theorem valid_store (j : ι) (x : Reading ι) :
    (sampling task).Valid j (fun _ _ => True) (Host.store x)
      fun g => lastRead (g.own j) = some x := by
  refine Contract.Valid.exec (fun _ => Contract.Stable.const True) fun g hg hlast _ => ?_
  have hcurrent := hg.current j x hlast
  have hstored := hg.store hcurrent
  have hids : ∀ id ∈ Host.openIds x.unit g.state.db,
      (x.session, Mark.inserted x.unit id) ∈ g.trace := by
    intro id hid
    obtain ⟨r, hr, rfl⟩ := List.mem_map.1 hid
    obtain ⟨hr, hp⟩ := List.mem_filter.1 hr
    rw [Bool.and_eq_true] at hp
    exact hcurrent.2 r hr hp.2 hp.1
  refine ⟨?_, guar_exec (by simp), trivial⟩
  exact hstored.mark (j := j) (m := .stored x (Host.openIds x.unit g.state.db)) hids (by simp)
    (by simp)

theorem valid_sampleInterface (j : ι) (unit : Nat) :
    (sampling task).Valid j (fun _ _ => True) (Host.sampleInterface unit) fun _ => True := by
  refine (valid_read j unit).bind fun o => ?_
  cases o with
  | none => exact fun _ _ _ => trivial
  | some x => exact (valid_store j x).strengthen fun g _ hread => hread x rfl

/-- The process has been told all of these. -/
def Told (j : ι) (ess : List (List Ended)) (g : Seen ι) : Prop :=
  ∀ es ∈ ess, (j, Mark.selected es) ∈ g.trace

theorem told_stable (j : ι) (ess : List (List Ended)) :
    (sampling task).Stable j (Told j ess) :=
  fun _ _ _ htold hrely _ es hes => hrely.trace_prefix.subset (htold es hes)

theorem valid_select {f : Db → List Ended}
    (hf : ∀ g, Sampling task g → ∀ e ∈ f g.state.db, Condemned task g e) (j : ι)
    (ess : List (List Ended)) :
    (sampling task).Valid j (fun es => Told j (es :: ess)) (Host.select f) (Told j ess) := by
  refine Contract.Valid.exec (fun es => told_stable j (es :: ess)) fun g hg htold _ => ?_
  have hexec : (g.exec j fun h => (h, [Mark.selected (f h.db)])) =
      g.exec j fun h => (h, [.selected (f g.state.db)]) :=
    Shared.exec_congr rfl j
  obtain ⟨hinv, hguar⟩ := sampling_mark (m := .selected (f g.state.db)) hg (j := j) trivial
    (by simp) (by simp) fun es hes => Mark.selected.inj hes ▸ hf g hg
  dsimp only
  rw [hexec]
  refine ⟨hinv, hguar, fun es hes => ?_⟩
  rcases List.mem_cons.1 hes with rfl | hes
  · exact List.mem_append_right _ (List.mem_singleton_self _)
  · exact List.mem_append_left _ (htold es hes)

theorem valid_kill {j : ι} {ess : List (List Ended)} {es : List Ended} (hes : es ∈ ess)
    {e : Ended} (he : e ∈ es) :
    (sampling task).Valid j (fun _ => Told j ess) (Host.kill e) (Told j ess) := by
  refine Contract.Valid.exec (fun _ => told_stable j ess) fun g hg htold _ => ?_
  obtain ⟨hinv, hguar⟩ := sampling_mark (m := .killed e.ppid) hg (j := j)
    ⟨es, htold es hes, e, he, rfl⟩ (by simp) (by simp) (by simp)
  exact ⟨hinv, hguar, fun es' hes' => List.mem_append_left _ (htold es' hes')⟩

theorem valid_endRow {j : ι} {ess : List (List Ended)} {es : List Ended} (hes : es ∈ ess)
    {e : Ended} (he : e ∈ es) :
    (sampling task).Valid j (fun _ => Told j ess) (Host.endRow e.id) (Told j ess) := by
  refine Contract.Valid.exec (fun _ => told_stable j ess) fun g hg htold _ => ?_
  have hclosed := hg.gentle (gentle_closeWhere fun r => r.id == e.id)
  refine ⟨?_, guar_exec (by simp), fun es' hes' => List.mem_append_left _ (htold es' hes')⟩
  exact hclosed.mark (j := j) (m := .ended e.id) ⟨es, htold es hes, e, he, rfl⟩ (by simp)
    (by simp)

theorem valid_enforce (j : ι) :
    (sampling task).Valid j (fun _ _ => True) Host.enforce (Told j []) := by
  refine (valid_select (fun g hg e he => hg.condemned_heavy he) j []).bind fun heavyEnded => ?_
  refine Contract.Valid.bind (Contract.Valid.forEach_keep fun e he =>
    valid_kill (List.mem_singleton_self _) he) fun _ => ?_
  refine (valid_select (fun g hg e he => hg.condemned_exceeded he) j [heavyEnded]).bind
    fun exceededEnded => ?_
  refine Contract.Valid.bind (Contract.Valid.forEach_keep fun e he =>
    valid_kill List.mem_cons_self he) fun _ => ?_
  refine Contract.Valid.bind (Contract.Valid.forEach_keep fun id hid => ?_) fun _ => ?_
  · obtain ⟨e, he, rfl⟩ := List.mem_map.1 hid
    rcases List.mem_append.1 he with he | he
    · exact valid_endRow (by simp) he
    · exact valid_endRow List.mem_cons_self he
  · exact (valid_gentle (gentle_insertLog _) fun _ _ _ => rfl).strengthen fun _ _ _ => trivial

theorem valid_updateTraffic (j : ι) :
    (sampling task).Valid j (fun _ _ => True) Host.updateTraffic fun _ => True := by
  refine Contract.Valid.bind (Contract.Valid.of_every (Script.every_exec fun g hg _ => ?_))
    fun units => ?_
  · have hexec : (g.exec j fun h => (h, ([] : List (Mark ι)))) = g := by simp [Shared.exec]
    rw [hexec]
    exact ⟨hg, guar_refl⟩
  · refine Contract.Valid.bind (Contract.Valid.forEach_keep fun unit _ =>
      valid_sampleInterface j unit) fun _ => ?_
    exact (valid_enforce j).strengthen fun _ _ _ es hes => by cases hes

/-! ## Every schedule -/

theorem Sampling.move (h : Sampling task g) (m : Move ι) :
    Sampling task ⟨Host.move m g.state, g.trace⟩ := by
  have hkept : ∀ s : Host ι, s.db = g.state.db → (∀ i, g.state.bytes i ≤ s.bytes i) →
      Sampling task ⟨s, g.trace⟩ := by
    intro s hdb hbytes
    exact h.kept (hdb ▸ h.past) (Nat.le_of_eq (by rw [hdb])) (fun r hr _ => hdb ▸ hr) hbytes
  cases m with
  | clock t =>
      have hlater : g.state.db.now ≤ g.state.db.now + t := Nat.le_add_right _ t
      refine h.kept (fun r hr => ?_) (Nat.le_refl _) (fun r hr _ => hr) fun _ => Int.le_refl _
      obtain ⟨hstart, hend⟩ := h.past r hr
      exact ⟨hstart.trans hlater, hend.trans hlater⟩
  | linkUp unit i =>
      refine hkept _ ?_ fun j => ?_ <;> simp only [Host.move] <;> split <;> rfl
  | linkDown unit => exact hkept _ rfl fun _ => Int.le_refl _
  | transfer i rx tx =>
      refine hkept _ rfl fun j => ?_
      by_cases hj : j = i
      · subst hj
        simp only [Host.bytes, Host.move, Function.update_self]
        omega
      · simp [Host.bytes, Host.move, hj]

theorem sampling_closed : (sampling task).Closed :=
  ⟨fun m _ hg => hg.move m, fun _ _ _ _ => trivial, fun _ => Contract.Stable.const True⟩

theorem valid_script (i : ι) :
    (sampling task).Valid i (fun _ _ => True) (task i).script fun _ => True := by
  cases hi : task i with
  | ipUp u => exact valid_ipUp hi
  | ipDown argv => exact valid_ipDown i argv
  | updateTraffic => exact valid_updateTraffic i

section

variable {h : Host ι} {schedule : List (Turn ι (Move ι))}

theorem sampling_init (hpast : Past h.db) (hclosed : ∀ r ∈ h.db.connections.rows, isOpen r = false) :
    Sampling task (⟨h, []⟩ : Seen ι) := by
  refine ⟨hpast, ?_, fun r hr hopen => ?_, ?_, ?_⟩
  · simp
  · rw [hclosed r hr] at hopen
    cases hopen
  · simp [lastRead, Shared.own]
  · simp

theorem machine_sound (hpast : Past h.db)
    (hclosed : ∀ r ∈ h.db.connections.rows, isOpen r = false)
    (hadm : (machine task h).Admits Host.move Unmixed schedule) :
    Sampling task ((machine task h).run Host.move schedule).toShared ∧
      ∀ i, (sampling task).Good (fun _ _ _ => True) i
        ((machine task h).run Host.move schedule).toShared
        (((machine task h).run Host.move schedule).proc i) :=
  Contract.init_run_sound (C := sampling task) (P := fun _ _ => True) sampling_closed
    (sampling_init hpast hclosed) (fun _ => trivial) (fun _ => Contract.Stable.const True)
    valid_script schedule hadm

/-- Whatever a query has returned was condemned when it was returned. -/
theorem condemned_of_selected (hpast : Past h.db)
    (hclosed : ∀ r ∈ h.db.connections.rows, isOpen r = false)
    (hadm : (machine task h).Admits Host.move Unmixed schedule) {j : ι} {es : List Ended}
    (hes : (j, Mark.selected es) ∈ ((machine task h).run Host.move schedule).trace) {e : Ended}
    (he : e ∈ es) :
    ∃ pre post, schedule = pre ++ post ∧
      Condemned task ((machine task h).run Host.move pre).toShared e := by
  obtain hinit | ⟨pre, a, post, rfl, hemits⟩ := Config.mem_trace_run hes
  · cases hinit
  · obtain ⟨hpre, hok⟩ := hadm.at_action
    obtain ⟨hinv, hgood⟩ := machine_sound hpast hclosed hpre
    refine ⟨pre, a :: post, rfl, ?_⟩
    cases a with
    | stop i => cases hemits
    | tick m => cases hemits
    | step i =>
        rcases Config.act_step_cases Host.move ((machine task h).run Host.move pre) i with
          ⟨-, hnothing⟩ | ⟨act, next, hproc, -, hmarks⟩
        · rw [hnothing] at hemits
          cases hemits
        · have hgi := hgood i
          rw [hproc] at hgi
          obtain ⟨P, hP, -, hvalid⟩ := hgi
          rw [hmarks] at hok hemits
          obtain ⟨m, hm, heq⟩ := List.mem_map.1 hemits
          obtain ⟨rfl, rfl⟩ := Prod.mk.inj heq
          refine (hvalid _ hinv hP hok).2.1 es ?_ e he
          rw [Shared.exec_trace, List.drop_left]
          exact hemits

/-- **Samples are charged to the session they were read from**, in every schedule none of
whose steps mixes two sessions up and if no two sessions share a process id. -/
theorem samples_charged_to_own (task : ι → Task) (h : Host ι) (hpast : Past h.db)
    (hclosed : ∀ r ∈ h.db.connections.rows, isOpen r = false)
    (hpids : ∀ i i' u u', task i = .ipUp u → task i' = .ipUp u' → u.ppid = u'.ppid → i = i')
    (schedule : List (Turn ι (Move ι)))
    (hadm : (machine task h).Admits Host.move Unmixed schedule) :
    ChargedToOwn task (machine task h) schedule := by
  obtain ⟨hinv, -⟩ := machine_sound hpast hclosed hadm
  refine ⟨fun j x ids hids => hinv.supported j _ hids, fun j pid hpid i u hu hppid => ?_,
    fun j id hid i unit hi => ?_⟩
  · obtain ⟨es, hes, e, he, rfl⟩ := hinv.supported j _ hpid
    obtain ⟨pre, post, hsplit, i', u', hu', hppid', -, hover⟩ :=
      condemned_of_selected hpast hclosed hadm hes he
    obtain rfl := hpids i i' u u' hu hu' (hppid.trans hppid'.symm)
    exact ⟨pre, post, hsplit, hover⟩
  · obtain ⟨es, hes, e, he, rfl⟩ := hinv.supported j _ hid
    obtain ⟨pre, post, rfl, i', u', hu', -, hins, hover⟩ :=
      condemned_of_selected hpast hclosed hadm hes he
    have hins' : (i', Mark.inserted u'.unit e.id) ∈
        ((machine task h).run Host.move (pre ++ post)).trace := by
      rw [Config.run_append]
      exact (Config.trace_prefix_run Host.move _ post).subset hins
    obtain rfl := hinv.unique _ _ _ _ _ hi hins'
    exact ⟨pre, post, rfl, hover⟩

end

/-! ## The interface changes hands -/

theorem ppp0_ifname : ppp0.ifname = pppName 0 := rfl

/-- A session on `ppp0`. -/
def onPpp0 (ppid : Int) (username : Str) : Up :=
  ⟨ppid, 0, ppp0, username, zero_lt_units, ppp0_ifname⟩

/-- Two sessions on `ppp0`, a run of `update_traffic.pl`, and the end of the first session. -/
def handover (i : Fin 4) : Task :=
  match i with
  | 0 => .ipUp (onPpp0 200 "bob".toList)
  | 1 => .ipUp (onPpp0 201 "ann".toList)
  | 2 => .updateTraffic
  | 3 => .ipDown (ipDownArgv { ppp0 with bytesIn := 2147483647, bytesOut := 1073741826 }
      "bob".toList)

def quietHost : Host (Fin 4) where
  db := { Db.empty 5 with login := .single (Login.holding "ann".toList 5000000000) }
  links := []
  rx := fun _ => 0
  tx := fun _ => 0

/-- The counters are read, the first session ends, the second one begins, and only then the
sample is stored. -/
def handoverSchedule : List (Turn (Fin 4) (Move (Fin 4))) :=
  .tick (.linkUp 0 0) :: List.replicate 3 (.step 0) ++
    .tick (.transfer 0 2147483647 1073741826) :: List.replicate 2 (.step 2) ++
    .tick (.linkDown 0) :: List.replicate 3 (.step 3) ++
    .tick (.linkUp 0 1) :: List.replicate 3 (.step 1) ++ List.replicate 3 (.step 2)

theorem handover_trace : ((machine handover quietHost).run Host.move handoverSchedule).trace =
    [(0, .inserted 0 1), (2, .read ⟨0, 0, 2147483647, 1073741826⟩), (1, .inserted 0 2),
      (2, .stored ⟨0, 0, 2147483647, 1073741826⟩ [2]), (2, .selected [⟨2, 201⟩]),
      (2, .killed 201)] := by
  decide

/-- The second session has transferred nothing, and no account is overdrawn. -/
def Unused (c : Config (Fin 4) (Host (Fin 4)) (Mark (Fin 4)) Unit) : Prop :=
  c.state.bytes 1 = 0 ∧ ∀ a ∈ c.state.db.login.rows, 0 ≤ a.credit.getD 0

instance (c : Config (Fin 4) (Host (Fin 4)) (Mark (Fin 4)) Unit) : Decidable (Unused c) :=
  inferInstanceAs (Decidable (_ ∧ _))

theorem Unused.not_over {c : Config (Fin 4) (Host (Fin 4)) (Mark (Fin 4)) Unit} (h : Unused c)
    (task : Fin 4 → Task) : ¬Over task c.state 1 := by
  obtain ⟨hzero, hcredit⟩ := h
  rintro (hheavy | ⟨u, -, a, ha, -, credit, hbalance, hlt⟩)
  · rw [hzero] at hheavy
    omega
  · have hnonneg := hcredit a ha
    rw [hbalance, Option.getD_some] at hnonneg
    rw [hzero] at hlt
    omega

/-- The second session has transferred nothing all along. -/
theorem handover_not_over :
    ¬WasOver handover (machine handover quietHost) handoverSchedule 1 := by
  have hunused : ∀ k, Unused ((machine handover quietHost).run Host.move
      (handoverSchedule.take k)) :=
    (Along.iff_forall_take (I := Unused) (J := fun _ => True) (fun _ _ _ => trivial)
      (fun _ _ _ _ => Iff.rfl) trivial handoverSchedule).2 (by decide)
  rintro ⟨pre, post, hsplit, hover⟩
  have hpre := hunused pre.length
  rw [hsplit, List.take_left] at hpre
  exact hpre.not_over handover hover

/-- The sample of the first session is stored in the row of the second, which is killed
although it has transferred nothing. -/
theorem handover_charged_to_next :
    ¬ChargedToOwn handover (machine handover quietHost) handoverSchedule ∧
      (2, Mark.killed 201) ∈ ((machine handover quietHost).run Host.move handoverSchedule).trace ∧
      ¬WasOver handover (machine handover quietHost) handoverSchedule 1 := by
  refine ⟨fun hown => ?_, by rw [handover_trace]; simp, handover_not_over⟩
  have hstored := hown.stored 2 ⟨0, 0, 2147483647, 1073741826⟩ [2]
    (by rw [handover_trace]; simp) 2 (by simp)
  rw [handover_trace] at hstored
  exact absurd hstored (by decide)

/-- One session, and a run that starts when it has transferred too much. -/
def lonely (i : Fin 4) : Task :=
  if i = 0 then .ipUp (onPpp0 200 "bob".toList) else .updateTraffic

theorem samples_charged_to_own_lonely :
    ChargedToOwn lonely (machine lonely quietHost)
      (.tick (.linkUp 0 0) :: List.replicate 3 (.step 0) ++
        .tick (.transfer 0 2147483647 1073741826) :: List.replicate 8 (.step 2)) := by
  have hfirst : ∀ i u, lonely i = .ipUp u → i = 0 := by
    intro i u hu
    by_contra hi
    rw [lonely, if_neg hi] at hu
    cases hu
  refine samples_charged_to_own lonely quietHost (fun _ hr => by cases hr)
    (fun _ hr => by cases hr) (fun i i' u u' hu hu' _ => ?_) _ (by decide)
  rw [hfirst i u hu, hfirst i' u' hu']

end ParDiff.Ppp
