import Mathlib.Algebra.BigOperators.Group.Finset.Piecewise
import Mathlib.Algebra.Order.BigOperators.Group.Finset
import ParDiff.Lib.Script

/-!
# Interleaved execution and rely/guarantee rules

Any number of scripts share one state.  A schedule is a list of actions: one
process executes its next statement, one process stops for good, or the
environment moves (for the database models this is the clock).  Every
interleaving with every cut point is some schedule, so a theorem about every
schedule needs no further notion of reachability.

`Contract.Valid` is the proof rule.  A process is verified alone against
assertions that the other processes cannot disturb, and `Contract.run_sound`
puts the processes together.
-/

namespace ParDiff.Lib

/-- What assertions speak about: the state, and who emitted what so far. -/
@[ext]
structure Shared (ι σ ε : Type) where
  state : σ
  trace : List (ι × ε)

/-- The shared part and the rest of every process; `none` has stopped. -/
structure Config (ι σ ε α : Type) extends Shared ι σ ε where
  proc : ι → Option (Script σ ε α)

inductive Turn (ι τ : Type) : Type
  | step (i : ι)
  | stop (i : ι)
  | tick (t : τ)

namespace Shared

variable {ι σ ε : Type}

/-- Process `i` executes `act`. -/
def exec (g : Shared ι σ ε) (i : ι) (act : σ → σ × List ε) : Shared ι σ ε :=
  ⟨(act g.state).1, g.trace ++ (act g.state).2.map (Prod.mk i)⟩

@[simp] theorem exec_state (g : Shared ι σ ε) (i : ι) (act : σ → σ × List ε) :
    (g.exec i act).state = (act g.state).1 := rfl

@[simp] theorem exec_trace (g : Shared ι σ ε) (i : ι) (act : σ → σ × List ε) :
    (g.exec i act).trace = g.trace ++ (act g.state).2.map (Prod.mk i) := rfl

theorem exec_congr {g : Shared ι σ ε} {a b : σ → σ × List ε}
    (h : a g.state = b g.state) (i : ι) : g.exec i a = g.exec i b := by
  simp [exec, h]

/-- All emitted events, whoever emitted them. -/
def log (g : Shared ι σ ε) : List ε := g.trace.map Prod.snd

@[simp] theorem log_exec (g : Shared ι σ ε) (i : ι) (act : σ → σ × List ε) :
    (g.exec i act).log = g.log ++ (act g.state).2 := by
  simp [log, Function.comp_def]

variable [DecidableEq ι]

/-- The events of one process. -/
def own (g : Shared ι σ ε) (i : ι) : List ε :=
  g.trace.filterMap fun e => if e.1 = i then some e.2 else none

theorem mem_own {g : Shared ι σ ε} {i : ι} {e : ε} :
    e ∈ g.own i ↔ (i, e) ∈ g.trace := by
  simp [own]

theorem mem_log_of_mem_own {g : Shared ι σ ε} {i : ι} {e : ε} (h : e ∈ g.own i) : e ∈ g.log :=
  List.mem_map.2 ⟨(i, e), mem_own.1 h, rfl⟩

@[simp] theorem own_exec_self (g : Shared ι σ ε) (i : ι) (act : σ → σ × List ε) :
    (g.exec i act).own i = g.own i ++ (act g.state).2 := by
  simp [own, List.filterMap_append, List.filterMap_map]

theorem own_exec_of_ne (g : Shared ι σ ε) {i j : ι} (act : σ → σ × List ε)
    (h : j ≠ i) : (g.exec j act).own i = g.own i := by
  simp [own, List.filterMap_append, List.filterMap_map, h]

theorem own_exec (g : Shared ι σ ε) (i j : ι) (act : σ → σ × List ε) :
    (g.exec i act).own j = g.own j ++ if i = j then (act g.state).2 else [] := by
  by_cases h : i = j
  · subst h
    simp
  · simp [own_exec_of_ne g act h, h]

/-- A property of every process has to be shown again only for the one that
moved. -/
theorem forall_own_exec {T : ι → List ε → Prop} {g : Shared ι σ ε} (h : ∀ j, T j (g.own j))
    (i : ι) {act : σ → σ × List ε} (hi : T i (g.own i ++ (act g.state).2)) (j : ι) :
    T j ((g.exec i act).own j) := by
  by_cases hij : i = j
  · subst hij
    simpa using hi
  · rw [own_exec_of_ne _ _ hij]
    exact h j

private theorem countP_own_cons (p : ε → Bool) (i j : ι) (e : ε)
    (s : σ) (t : List (ι × ε)) :
    ((⟨s, (j, e) :: t⟩ : Shared ι σ ε).own i).countP p =
      (if j = i then (if p e then 1 else 0) else 0) +
        ((⟨s, t⟩ : Shared ι σ ε).own i).countP p := by
  by_cases h : j = i
  · by_cases hp : p e <;> simp [own, h, hp, Nat.add_comm]
  · simp [own, h]

theorem countP_log (g : Shared ι σ ε) (p : ε → Bool) (S : Finset ι)
    (hS : ∀ e ∈ g.trace, e.1 ∈ S) :
    g.log.countP p = ∑ i ∈ S, (g.own i).countP p := by
  obtain ⟨s, t⟩ := g
  induction t with
  | nil => simp [log, own]
  | cons je t ih =>
      obtain ⟨j, e⟩ := je
      have hj : j ∈ S := hS (j, e) (by simp)
      have hrest := ih (fun e' he' => hS e' (by simp [he']))
      simp only [countP_own_cons, Finset.sum_add_distrib, Finset.sum_ite_eq, hj, if_true]
      simp only [log, List.map_cons, List.countP_cons] at hrest ⊢
      rw [hrest, Nat.add_comm]

/-- If every process emits at most as many `p` events as `q` events, so does
the whole system. -/
theorem countP_log_le (g : Shared ι σ ε) (p q : ε → Bool)
    (h : ∀ i, (g.own i).countP p ≤ (g.own i).countP q) :
    g.log.countP p ≤ g.log.countP q := by
  have hS : ∀ e ∈ g.trace, e.1 ∈ (g.trace.map Prod.fst).toFinset := by
    intro e he
    simpa using ⟨e.2, he⟩
  rw [countP_log g p _ hS, countP_log g q _ hS]
  exact Finset.sum_le_sum fun i _ => h i

end Shared

namespace Config

variable {ι σ ε α τ : Type} [DecidableEq ι]

/-- All processes at their first statement, nothing emitted. -/
def init (s : σ) (script : ι → Script σ ε α) : Config ι σ ε α :=
  ⟨⟨s, []⟩, fun i => some (script i)⟩

/-- Events of the next statement of process `i`. -/
def emits (c : Config ι σ ε α) : Turn ι τ → List (ι × ε)
  | .step i =>
      match c.proc i with
      | some (.stmt act _) => (act c.state).2.map (Prod.mk i)
      | _ => []
  | _ => []

/-- One action.  A step of a process that has finished or stopped is idle. -/
def act (env : τ → σ → σ) (c : Config ι σ ε α) : Turn ι τ → Config ι σ ε α
  | .step i =>
      match c.proc i with
      | some (.stmt act next) =>
          ⟨c.toShared.exec i act, Function.update c.proc i (some (next c.state))⟩
      | _ => c
  | .stop i => { c with proc := Function.update c.proc i none }
  | .tick t => { c with state := env t c.state }

/-- Follow a schedule. -/
def run (env : τ → σ → σ) (c : Config ι σ ε α) (schedule : List (Turn ι τ)) :
    Config ι σ ε α :=
  schedule.foldl (act env) c

/-- Every action of the schedule meets `ok`, which sees the shared part before
the action and the events the action emits. -/
def Admits (env : τ → σ → σ)
    (ok : Shared ι σ ε → Turn ι τ → List (ι × ε) → Prop) :
    Config ι σ ε α → List (Turn ι τ) → Prop
  | _, [] => True
  | c, a :: schedule =>
      ok c.toShared a (c.emits a) ∧ Admits env ok (c.act env a) schedule

instance decidableAdmits (env : τ → σ → σ)
    (ok : Shared ι σ ε → Turn ι τ → List (ι × ε) → Prop)
    [∀ g a es, Decidable (ok g a es)] :
    (c : Config ι σ ε α) → (schedule : List (Turn ι τ)) →
      Decidable (c.Admits env ok schedule)
  | _, [] => isTrue trivial
  | c, a :: schedule =>
      have := decidableAdmits env ok (c.act env a) schedule
      inferInstanceAs (Decidable (_ ∧ _))

/-- A step is idle or executes the next statement of the process. -/
theorem act_step_cases (env : τ → σ → σ) (c : Config ι σ ε α) (i : ι) :
    (c.act env (.step i) = c ∧ c.emits (.step i : Turn ι τ) = []) ∨
      ∃ act next, c.proc i = some (.stmt act next) ∧
        c.act env (.step i) =
          ⟨c.toShared.exec i act, Function.update c.proc i (some (next c.state))⟩ ∧
        c.emits (.step i : Turn ι τ) = (act c.state).2.map (Prod.mk i) := by
  match hp : c.proc i with
  | none => exact .inl ⟨by simp [Config.act, hp], by simp [emits, hp]⟩
  | some (.done v) => exact .inl ⟨by simp [Config.act, hp], by simp [emits, hp]⟩
  | some (.stmt act next) =>
      exact .inr ⟨act, next, rfl, by simp [Config.act, hp], by simp [emits, hp]⟩

/-- Every statement that process `i` may still execute satisfies `P i`. -/
def Each (P : ι → (σ → σ × List ε) → Prop) (c : Config ι σ ε α) : Prop :=
  ∀ i script, c.proc i = some script → script.Every (P i)

omit [DecidableEq ι] in
theorem each_init {P : ι → (σ → σ × List ε) → Prop} {script : ι → Script σ ε α}
    (h : ∀ i, (script i).Every (P i)) (s : σ) : (init s script).Each P := by
  intro i p hp
  obtain rfl := Option.some.inj hp
  exact h i

theorem Each.act {P : ι → (σ → σ × List ε) → Prop} {c : Config ι σ ε α} (h : c.Each P)
    (env : τ → σ → σ) (a : Turn ι τ) : (c.act env a).Each P := by
  cases a with
  | step i =>
      rcases c.act_step_cases env i with ⟨hidle, -⟩ | ⟨act, next, hp, hact, -⟩
      · rwa [hidle]
      · rw [hact]
        intro j script hj
        by_cases hij : j = i
        · subst hij
          obtain rfl : next c.state = script := by simpa using hj
          exact (h j _ hp).2 _
        · exact h j script (by simpa [hij] using hj)
  | stop i =>
      intro j script hj
      by_cases hij : j = i
      · simp [Config.act, hij] at hj
      · exact h j script (by simpa [Config.act, hij] using hj)
  | tick t => exact h

theorem act_rel {R : σ → σ → Prop} {env : τ → σ → σ} (hrefl : ∀ s, R s s)
    (henv : ∀ t s, R s (env t s)) {c : Config ι σ ε α}
    (h : c.Each fun _ act => ∀ s, R s (act s).1) (a : Turn ι τ) :
    R c.state (c.act env a).state := by
  cases a with
  | step i =>
      rcases c.act_step_cases env i with ⟨hidle, -⟩ | ⟨act, next, hp, hact, -⟩
      · rw [hidle]
        exact hrefl _
      · rw [hact]
        exact (h i _ hp).1 _
  | stop i => exact hrefl _
  | tick t => exact henv t _

/-- A preorder that every statement and the environment respect is respected by the run. -/
theorem Each.run_rel {R : σ → σ → Prop} {env : τ → σ → σ} (hrefl : ∀ s, R s s)
    (htrans : ∀ {s t u}, R s t → R t u → R s u) (henv : ∀ t s, R s (env t s))
    {c : Config ι σ ε α} (h : c.Each fun _ act => ∀ s, R s (act s).1)
    (schedule : List (Turn ι τ)) : R c.state (c.run env schedule).state := by
  induction schedule generalizing c with
  | nil => exact hrefl _
  | cons a schedule ih => exact htrans (act_rel hrefl henv h a) (ih (h.act env a))

theorem admits_of_forall {env : τ → σ → σ}
    {ok : Shared ι σ ε → Turn ι τ → List (ι × ε) → Prop}
    (h : ∀ g a es, ok g a es) (c : Config ι σ ε α) (schedule : List (Turn ι τ)) :
    c.Admits env ok schedule := by
  induction schedule generalizing c with
  | nil => trivial
  | cons a schedule ih => exact ⟨h _ _ _, ih _⟩

theorem Admits.mono {env : τ → σ → σ}
    {ok ok' : Shared ι σ ε → Turn ι τ → List (ι × ε) → Prop}
    (h : ∀ g a es, ok g a es → ok' g a es) {c : Config ι σ ε α} {schedule : List (Turn ι τ)}
    (hadm : c.Admits env ok schedule) : c.Admits env ok' schedule := by
  induction schedule generalizing c with
  | nil => trivial
  | cons a schedule ih => exact ⟨h _ _ _ hadm.1, ih hadm.2⟩

/-- In an admissible schedule what comes before an action is admissible, and so is the
action. -/
theorem Admits.at_action {env : τ → σ → σ}
    {ok : Shared ι σ ε → Turn ι τ → List (ι × ε) → Prop} {c : Config ι σ ε α}
    {pre post : List (Turn ι τ)} {a : Turn ι τ} (h : c.Admits env ok (pre ++ a :: post)) :
    c.Admits env ok pre ∧ ok (c.run env pre).toShared a ((c.run env pre).emits a) := by
  induction pre generalizing c with
  | nil => exact ⟨trivial, h.1⟩
  | cons b pre ih =>
      obtain ⟨hpre, ha⟩ := ih h.2
      exact ⟨⟨h.1, hpre⟩, ha⟩

theorem run_append (env : τ → σ → σ) (c : Config ι σ ε α) (pre post : List (Turn ι τ)) :
    c.run env (pre ++ post) = (c.run env pre).run env post := List.foldl_append

/-- Some schedule leads from `c` to `c'`. -/
def Reaches (env : τ → σ → σ) (c c' : Config ι σ ε α) : Prop :=
  ∃ schedule, c.run env schedule = c'

theorem Reaches.trans {env : τ → σ → σ} {c c' c'' : Config ι σ ε α} (h : c.Reaches env c')
    (h' : c'.Reaches env c'') : c.Reaches env c'' := by
  obtain ⟨pre, rfl⟩ := h
  obtain ⟨post, rfl⟩ := h'
  exact ⟨pre ++ post, run_append env c pre post⟩

/-- A process that is not interrupted executes its script as it would alone. -/
theorem reaches_alone (env : τ → σ → σ) {β : Type} (script : Script σ ε β) (k : β → Script σ ε α)
    {c : Config ι σ ε α} {i : ι} (h : c.proc i = some (script.bind k)) :
    c.Reaches env
      ⟨⟨(script.run c.state).state, c.trace ++ (script.run c.state).events.map (Prod.mk i)⟩,
        Function.update c.proc i (some (k (script.run c.state).value))⟩ := by
  induction script generalizing c with
  | done a =>
      refine ⟨[], ?_⟩
      have hproc : Function.update c.proc i (some (k a)) = c.proc :=
        Function.update_eq_self_iff.2 h.symm
      simp [run, hproc]
  | stmt act next ih =>
      have hact : c.act env (.step i) = ⟨c.toShared.exec i act,
          Function.update c.proc i (some ((next c.state).bind k))⟩ := by
        simp [Config.act, h, Script.bind]
      obtain ⟨schedule, hrun⟩ := ih c.state (c := c.act env (.step i)) (by simp [hact])
      refine ⟨.step i :: schedule, hrun.trans ?_⟩
      simp [hact, Script.run, Shared.exec]

theorem trace_prefix_act (env : τ → σ → σ) (c : Config ι σ ε α) (a : Turn ι τ) :
    c.trace <+: (c.act env a).trace := by
  cases a with
  | step i =>
      rcases c.act_step_cases env i with ⟨hidle, -⟩ | ⟨act, next, -, hexec, -⟩
      · rw [hidle]
      · rw [hexec]
        exact List.prefix_append _ _
  | stop i => exact List.prefix_refl _
  | tick t => exact List.prefix_refl _

theorem trace_prefix_run (env : τ → σ → σ) (c : Config ι σ ε α) (schedule : List (Turn ι τ)) :
    c.trace <+: (c.run env schedule).trace := by
  induction schedule generalizing c with
  | nil => exact List.prefix_refl _
  | cons a schedule ih => exact (c.trace_prefix_act env a).trans (ih _)

/-- Whatever was emitted was emitted by some action of the schedule. -/
theorem mem_trace_run {env : τ → σ → σ} {c : Config ι σ ε α} {schedule : List (Turn ι τ)}
    {e : ι × ε} (h : e ∈ (c.run env schedule).trace) :
    e ∈ c.trace ∨ ∃ pre a post, schedule = pre ++ a :: post ∧ e ∈ (c.run env pre).emits a := by
  induction schedule generalizing c with
  | nil => exact .inl h
  | cons a schedule ih =>
      rcases ih h with hact | ⟨pre, b, post, rfl, hb⟩
      · have hcases : e ∈ c.trace ∨ e ∈ c.emits a := by
          cases a with
          | step i =>
              rcases c.act_step_cases env i with ⟨hidle, -⟩ | ⟨act, next, -, hexec, hemits⟩
              · rw [hidle] at hact
                exact .inl hact
              · rw [hexec] at hact
                rw [hemits]
                exact List.mem_append.1 hact
          | stop i => exact .inl hact
          | tick t => exact .inl hact
        exact hcases.imp id fun he => ⟨[], a, schedule, rfl, he⟩
      · exact .inr ⟨a :: pre, b, post, rfl, hb⟩

end Config

/-- What a family of processes agrees on: which actions are considered at all,
the invariant of the shared part, what each process may do to it, and what is
known of a process that has stopped. -/
structure Contract (ι σ ε τ : Type) where
  env : τ → σ → σ
  admits : Shared ι σ ε → Turn ι τ → List (ι × ε) → Prop
  inv : Shared ι σ ε → Prop
  guar : ι → Shared ι σ ε → Shared ι σ ε → Prop
  halted : ι → Shared ι σ ε → Prop

namespace Contract

variable {ι σ ε α β τ : Type}

/-- What process `i` must expect between two of its own statements. -/
def Rely (C : Contract ι σ ε τ) (i : ι) (g g' : Shared ι σ ε) : Prop :=
  (∃ j, j ≠ i ∧ C.guar j g g' ∧ ∃ es : List ε, g'.trace = g.trace ++ es.map (Prod.mk j)) ∨
    ∃ t, g' = ⟨C.env t g.state, g.trace⟩

/-- An assertion of process `i` that no other process can disturb. -/
def Stable (C : Contract ι σ ε τ) (i : ι) (P : Shared ι σ ε → Prop) : Prop :=
  ∀ g g', C.inv g → P g → C.Rely i g g' → C.inv g' → P g'

/-- From `P`, the script run as process `i` keeps the invariant and its own
guarantee with every statement, and ends in `Q`. -/
def Valid (C : Contract ι σ ε τ) (i : ι) (Q : α → Shared ι σ ε → Prop) :
    Script σ ε α → (Shared ι σ ε → Prop) → Prop
  | .done a, P => ∀ g, C.inv g → P g → Q a g
  | .stmt act next, P => ∀ g, C.inv g → P g →
      C.admits g (.step i) ((act g.state).2.map (Prod.mk i)) →
      C.inv (g.exec i act) ∧ C.guar i g (g.exec i act) ∧
        ∃ P', P' (g.exec i act) ∧ C.Stable i P' ∧ C.Valid i Q (next g.state) P'

theorem Rely.trace_prefix {C : Contract ι σ ε τ} {i : ι} {g g' : Shared ι σ ε}
    (h : C.Rely i g g') : g.trace <+: g'.trace := by
  rcases h with ⟨j, -, -, es, hes⟩ | ⟨t, rfl⟩
  · exact ⟨_, hes.symm⟩
  · exact List.prefix_refl _

theorem Rely.own_eq [DecidableEq ι] {C : Contract ι σ ε τ} {i : ι} {g g' : Shared ι σ ε}
    (h : C.Rely i g g') : g'.own i = g.own i := by
  rcases h with ⟨j, hj, -, es, hes⟩ | ⟨t, rfl⟩
  · simp [Shared.own, hes, List.filterMap_append, List.filterMap_map, hj]
  · rfl

section Rules

variable {C : Contract ι σ ε τ} {i : ι} {P P' : Shared ι σ ε → Prop}
  {Q : α → Shared ι σ ε → Prop} {Q' : β → Shared ι σ ε → Prop}

theorem Stable.and {P₁ P₂ : Shared ι σ ε → Prop} (h₁ : C.Stable i P₁)
    (h₂ : C.Stable i P₂) : C.Stable i fun g => P₁ g ∧ P₂ g :=
  fun g g' hi hp hr hi' => ⟨h₁ g g' hi hp.1 hr hi', h₂ g g' hi hp.2 hr hi'⟩

theorem Stable.imp (h : C.Stable i P) (p : Prop) : C.Stable i fun g => p → P g :=
  fun g g' hi hP hr hi' hp => h g g' hi (hP hp) hr hi'

theorem Stable.const (p : Prop) : C.Stable i fun _ => p :=
  fun _ _ _ hp _ _ => hp

theorem Stable.own [DecidableEq ι] (p : List ε → Prop) : C.Stable i fun g => p (g.own i) := by
  intro g g' _ hp hr _
  rwa [hr.own_eq]

theorem Valid.strengthen {script : Script σ ε α} (h : C.Valid i Q script P)
    (hP : ∀ g, C.inv g → P' g → P g) : C.Valid i Q script P' := by
  cases script with
  | done a => exact fun g hi hp => h g hi (hP g hi hp)
  | stmt act next => exact fun g hi hp => h g hi (hP g hi hp)

theorem Valid.weaken {script : Script σ ε α} {Q₁ Q₂ : α → Shared ι σ ε → Prop}
    (h : C.Valid i Q₁ script P) (hQ : ∀ a g, C.inv g → Q₁ a g → Q₂ a g) :
    C.Valid i Q₂ script P := by
  induction script generalizing P with
  | done a => exact fun g hi hp => hQ a g hi (h g hi hp)
  | stmt act next ih =>
      intro g hi hp ha
      obtain ⟨hinv, hguar, R, hR, hstable, hrest⟩ := h g hi hp ha
      exact ⟨hinv, hguar, R, hR, hstable, ih _ hrest⟩

theorem Valid.done {a : α} (h : ∀ g, C.inv g → P g → Q a g) :
    C.Valid i Q (.done a) P := h

theorem Valid.bind {script : Script σ ε α} {k : α → Script σ ε β}
    (h : C.Valid i Q script P) (hk : ∀ a, C.Valid i Q' (k a) (Q a)) :
    C.Valid i Q' (script.bind k) P := by
  induction script generalizing P with
  | done a => exact (hk a).strengthen h
  | stmt act next ih =>
      intro g hi hp ha
      obtain ⟨hinv, hguar, R, hR, hstable, hrest⟩ := h g hi hp ha
      exact ⟨hinv, hguar, R, hR, hstable, ih _ hrest⟩

theorem Valid.and_pre {script : Script σ ε α} {p : Prop} (h : p → C.Valid i Q script P) :
    C.Valid i Q script fun g => p ∧ P g := by
  cases script with
  | done a => exact fun g hi hp => h hp.1 g hi hp.2
  | stmt act next => exact fun g hi hp => h hp.1 g hi hp.2

theorem Valid.exists_pre {script : Script σ ε α} {R : β → Shared ι σ ε → Prop}
    (h : ∀ b, C.Valid i Q script (R b)) : C.Valid i Q script fun g => ∃ b, R b g := by
  cases script with
  | done a => exact fun g hi ⟨b, hb⟩ => h b g hi hb
  | stmt act next => exact fun g hi ⟨b, hb⟩ => h b g hi hb

theorem Valid.exec {f : σ → α × σ × List ε} (hstable : ∀ a, C.Stable i (Q a))
    (h : ∀ g, C.inv g → P g →
      C.admits g (.step i) ((f g.state).2.2.map (Prod.mk i)) →
      C.inv (g.exec i fun s => (f s).2) ∧
        C.guar i g (g.exec i fun s => (f s).2) ∧
        Q (f g.state).1 (g.exec i fun s => (f s).2)) :
    C.Valid i Q (Script.exec f) P := by
  intro g hi hp ha
  obtain ⟨hinv, hguar, hQ⟩ := h g hi hp ha
  exact ⟨hinv, hguar, Q (f g.state).1, hQ, hstable _, fun _ _ h => h⟩

theorem Valid.forEach {body : β → Script σ ε Unit}
    (J : List β → Shared ι σ ε → Prop)
    (h : ∀ b rest, C.Valid i (fun _ => J rest) (body b) (J (b :: rest))) (bs : List β) :
    C.Valid i (fun _ => J []) (Script.forEach bs body) (J bs) := by
  induction bs with
  | nil => exact fun _ _ hp => hp
  | cons b bs ih => exact (h b bs).bind fun _ => ih

/-- A loop whose body keeps an assertion for every element. -/
theorem Valid.forEach_keep {body : β → Script σ ε Unit} {bs : List β}
    (h : ∀ b ∈ bs, C.Valid i (fun _ => P) (body b) P) :
    C.Valid i (fun _ => P) (Script.forEach bs body) P := by
  induction bs with
  | nil => exact fun _ _ hp => hp
  | cons b bs ih =>
      exact (h b (by simp)).bind fun _ => ih fun b' hb' => h b' (by simp [hb'])

/-- A script each statement of which keeps the invariant by itself. -/
theorem Valid.of_every {script : Script σ ε α}
    (h : script.Every fun act => ∀ g, C.inv g →
      C.admits g (.step i) ((act g.state).2.map (Prod.mk i)) →
      C.inv (g.exec i act) ∧ C.guar i g (g.exec i act)) :
    C.Valid i (fun _ _ => True) script fun _ => True := by
  induction script with
  | done a => exact fun _ _ _ => trivial
  | stmt act next ih =>
      intro g hi _ ha
      obtain ⟨hinv, hguar⟩ := h.1 g hi ha
      exact ⟨hinv, hguar, fun _ => True, trivial, Stable.const _, ih _ (h.2 _)⟩

end Rules

/-- The two moves that no script makes: the clock and a stop. -/
structure Closed (C : Contract ι σ ε τ) : Prop where
  tick : ∀ t g, C.inv g → C.inv ⟨C.env t g.state, g.trace⟩
  stop : ∀ i g, C.inv g → C.admits g (.stop i) [] → C.halted i g
  halted_stable : ∀ i, C.Stable i (C.halted i)

/-- The rest of a process still satisfies the contract from here. -/
def Good (C : Contract ι σ ε τ) (Q : ι → α → Shared ι σ ε → Prop) (i : ι)
    (g : Shared ι σ ε) : Option (Script σ ε α) → Prop
  | none => C.halted i g
  | some script => ∃ P, P g ∧ C.Stable i P ∧ C.Valid i (Q i) script P

private theorem Good.rely {C : Contract ι σ ε τ} {Q : ι → α → Shared ι σ ε → Prop}
    {i : ι} {g g' : Shared ι σ ε} {p : Option (Script σ ε α)} (hC : C.Closed)
    (h : C.Good Q i g p) (hi : C.inv g) (hr : C.Rely i g g') (hi' : C.inv g') :
    C.Good Q i g' p := by
  cases p with
  | none => exact hC.halted_stable i g g' hi h hr hi'
  | some script =>
      obtain ⟨P, hP, hstable, hvalid⟩ := h
      exact ⟨P, hstable g g' hi hP hr hi', hstable, hvalid⟩

variable [DecidableEq ι]

private theorem act_sound {C : Contract ι σ ε τ} {Q : ι → α → Shared ι σ ε → Prop}
    (hC : C.Closed) {c : Config ι σ ε α} (hinv : C.inv c.toShared)
    (hgood : ∀ i, C.Good Q i c.toShared (c.proc i)) (a : Turn ι τ)
    (hadm : C.admits c.toShared a (c.emits a)) :
    C.inv (c.act C.env a).toShared ∧
      ∀ i, C.Good Q i (c.act C.env a).toShared ((c.act C.env a).proc i) := by
  cases a with
  | step i =>
      have hgi := hgood i
      match hp : c.proc i with
      | none => simpa [Config.act, hp] using ⟨hinv, hgood⟩
      | some (.done v) => simpa [Config.act, hp] using ⟨hinv, hgood⟩
      | some (.stmt act next) =>
          simp only [Config.emits, hp] at hadm
          simp only [Config.act, hp]
          rw [hp] at hgi
          obtain ⟨P, hP, -, hvalid⟩ := hgi
          obtain ⟨hinv', hguar, P', hP', hstable, hrest⟩ := hvalid _ hinv hP hadm
          refine ⟨hinv', fun j => ?_⟩
          by_cases hj : j = i
          · subst hj
            simpa using ⟨P', hP', hstable, hrest⟩
          · rw [Function.update_of_ne hj]
            exact Good.rely hC (hgood j) hinv (.inl ⟨i, fun h => hj h.symm, hguar, _, rfl⟩) hinv'
  | stop i =>
      refine ⟨hinv, fun j => ?_⟩
      by_cases hj : j = i
      · subst hj
        simpa [Config.act, Good] using hC.stop j _ hinv hadm
      · simpa [Config.act, Function.update_of_ne hj] using hgood j
  | tick t =>
      have hinv' := hC.tick t _ hinv
      exact ⟨hinv', fun j => Good.rely hC (hgood j) hinv (.inr ⟨t, rfl⟩) hinv'⟩

/-- **Soundness.**  If every process satisfies the contract from the start, the
invariant holds after every admissible schedule, and the rest of every process
still satisfies the contract there. -/
theorem run_sound {C : Contract ι σ ε τ} {Q : ι → α → Shared ι σ ε → Prop}
    (hC : C.Closed) {c : Config ι σ ε α} (hinv : C.inv c.toShared)
    (hgood : ∀ i, C.Good Q i c.toShared (c.proc i)) (schedule : List (Turn ι τ))
    (hadm : c.Admits C.env C.admits schedule) :
    C.inv (c.run C.env schedule).toShared ∧
      ∀ i, C.Good Q i (c.run C.env schedule).toShared ((c.run C.env schedule).proc i) := by
  induction schedule generalizing c with
  | nil => exact ⟨hinv, hgood⟩
  | cons a schedule ih =>
      obtain ⟨hok, hrest⟩ := hadm
      obtain ⟨hinv', hgood'⟩ := act_sound hC hinv hgood a hok
      exact ih hinv' hgood' hrest

/-- Whatever schedule came before, a further step of process `i` is idle or
within the guarantee of `i`. -/
theorem run_step_guar {C : Contract ι σ ε τ} {Q : ι → α → Shared ι σ ε → Prop}
    {c : Config ι σ ε α} {i : ι} (hinv : C.inv c.toShared)
    (hgood : C.Good Q i c.toShared (c.proc i))
    (hadm : C.admits c.toShared (.step i) (c.emits (.step i : Turn ι τ))) :
    c.act C.env (.step i) = c ∨
      C.guar i c.toShared (c.act C.env (.step i)).toShared := by
  match hp : c.proc i with
  | none => simp [Config.act, hp]
  | some (.done v) => simp [Config.act, hp]
  | some (.stmt act next) =>
      simp only [Config.emits, hp] at hadm
      simp only [Config.act, hp]
      rw [hp] at hgood
      obtain ⟨P, hP, -, hvalid⟩ := hgood
      exact .inr (hvalid _ hinv hP hadm).2.1

theorem init_run_sound {C : Contract ι σ ε τ} {script : ι → Script σ ε α} {s : σ}
    {P : ι → Shared ι σ ε → Prop} {Q : ι → α → Shared ι σ ε → Prop} (hC : C.Closed)
    (hinv : C.inv ⟨s, []⟩) (hP : ∀ i, P i ⟨s, []⟩) (hstable : ∀ i, C.Stable i (P i))
    (hvalid : ∀ i, C.Valid i (Q i) (script i) (P i)) (schedule : List (Turn ι τ))
    (hadm : (Config.init s script).Admits C.env C.admits schedule) :
    C.inv ((Config.init s script).run C.env schedule).toShared ∧
      ∀ i, C.Good Q i ((Config.init s script).run C.env schedule).toShared
        (((Config.init s script).run C.env schedule).proc i) :=
  run_sound hC (c := Config.init s script) hinv
    (fun i => show C.Good Q i _ (some (script i)) from
      ⟨P i, hP i, hstable i, hvalid i⟩) schedule hadm

end Contract

end ParDiff.Lib
