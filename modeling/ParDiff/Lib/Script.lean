import Mathlib.Data.List.Basic

/-!
# Scripts of atomic statements

A script is a client program whose only access to the shared state is a
sequence of atomic statements.  The same script has two readings: `run`
executes it alone from the first statement to the last, and
`ParDiff.Lib.Interleave` lets any number of scripts take turns, one statement
at a time.  A statement may also emit events; they record what it did and are
never read back by a script.
-/

namespace ParDiff.Lib

/-- `stmt act next` executes `act` atomically and goes on with `next`, which
sees the state before the statement and so everything the statement read. -/
inductive Script (σ ε α : Type) : Type
  | done (value : α)
  | stmt (act : σ → σ × List ε) (next : σ → Script σ ε α)

/-- Result of executing a script alone. -/
structure Outcome (σ ε α : Type) where
  value : α
  state : σ
  events : List ε

namespace Script

variable {σ ε α β : Type}

protected def bind : Script σ ε α → (α → Script σ ε β) → Script σ ε β
  | done a, k => k a
  | stmt act next, k => stmt act fun s => (next s).bind k

instance : Monad (Script σ ε) where
  pure := done
  bind := Script.bind

/-- One statement that reads, writes and emits. -/
def exec (f : σ → α × σ × List ε) : Script σ ε α :=
  stmt (fun s => (f s).2) fun s => done (f s).1

/-- A statement that only reads. -/
def query (f : σ → α) : Script σ ε α :=
  exec fun s => (f s, s, [])

/-- A statement that writes and emits; its result is of no interest. -/
def modify (f : σ → σ) (emit : σ → List ε) : Script σ ε Unit :=
  exec fun s => ((), f s, emit s)

/-- Execute `body` for every element, in order. -/
def forEach : List β → (β → Script σ ε Unit) → Script σ ε Unit
  | [], _ => done ()
  | b :: bs, body => (body b).bind fun _ => forEach bs body

/-- The script on a part of a larger state.  Instead of its own events every statement
emits what `emit` says of the part before and after it. -/
def within {τ ε' : Type} (get : τ → σ) (set : σ → τ → τ) (emit : σ → σ → List ε') :
    Script σ ε α → Script τ ε' α
  | done a => done a
  | stmt act next =>
      stmt (fun t => (set (act (get t)).1 t, emit (get t) (act (get t)).1)) fun t =>
        (next (get t)).within get set emit

/-- Execute the script alone, to its end. -/
def run : Script σ ε α → σ → Outcome σ ε α
  | done a, s => ⟨a, s, []⟩
  | stmt act next, s =>
      let rest := (next s).run (act s).1
      ⟨rest.value, rest.state, (act s).2 ++ rest.events⟩

/-- Final state of the script executed alone. -/
def final (script : Script σ ε α) (s : σ) : σ := (script.run s).state

/-- Events of the script executed alone. -/
def emitted (script : Script σ ε α) (s : σ) : List ε := (script.run s).events

@[simp] theorem pure_eq_done (a : α) : (pure a : Script σ ε α) = done a := rfl

@[simp] theorem bind_eq (script : Script σ ε α) (k : α → Script σ ε β) :
    script >>= k = script.bind k := rfl

@[simp] theorem done_bind (a : α) (k : α → Script σ ε β) :
    (done a).bind k = k a := rfl

@[simp] theorem run_done (a : α) (s : σ) :
    (done a : Script σ ε α).run s = ⟨a, s, []⟩ := rfl

@[simp] theorem run_exec (f : σ → α × σ × List ε) (s : σ) :
    (exec f).run s = ⟨(f s).1, (f s).2.1, (f s).2.2⟩ := by
  simp [exec, run]

@[simp] theorem run_query (f : σ → α) (s : σ) :
    (query f : Script σ ε α).run s = ⟨f s, s, []⟩ := by
  simp [query]

@[simp] theorem run_modify (f : σ → σ) (emit : σ → List ε) (s : σ) :
    (modify f emit).run s = ⟨(), f s, emit s⟩ := by
  simp [modify]

@[simp] theorem run_bind (script : Script σ ε α) (k : α → Script σ ε β) (s : σ) :
    (script.bind k).run s =
      ⟨((k (script.run s).value).run (script.run s).state).value,
        ((k (script.run s).value).run (script.run s).state).state,
        (script.run s).events ++
          ((k (script.run s).value).run (script.run s).state).events⟩ := by
  induction script generalizing s with
  | done a => simp
  | stmt act next ih =>
      simp only [Script.bind, run]
      rw [ih]
      simp

theorem bind_assoc {γ : Type} (script : Script σ ε α) (k : α → Script σ ε β)
    (l : β → Script σ ε γ) : (script.bind k).bind l = script.bind fun a => (k a).bind l := by
  induction script with
  | done a => rfl
  | stmt act next ih => exact congrArg (stmt act) (funext ih)

/-- A loop whose body takes the part `p s` of the state to `f (p s) b` folds
`f` over that part, whatever it does to the rest. -/
theorem run_forEach_part {ρ : Type} {p : σ → ρ} {f : ρ → β → ρ}
    {body : β → Script σ ε Unit} (hbody : ∀ b s, p ((body b).run s).state = f (p s) b)
    (bs : List β) (s : σ) :
    p ((forEach bs body).run s).state = bs.foldl f (p s) := by
  induction bs generalizing s with
  | nil => rfl
  | cons b bs ih =>
      simp only [forEach, run_bind, List.foldl_cons]
      rw [ih, hbody]

/-- A loop whose body emits, as far as `p` sees it, `g b` in every state, emits
them in order. -/
theorem run_forEach_filterMap {γ : Type} {p : ε → Option γ} {g : β → List γ}
    {body : β → Script σ ε Unit} (hbody : ∀ b s, ((body b).run s).events.filterMap p = g b)
    (bs : List β) (s : σ) :
    ((forEach bs body).run s).events.filterMap p = bs.flatMap g := by
  induction bs generalizing s with
  | nil => rfl
  | cons b bs ih =>
      simp only [forEach, run_bind, List.flatMap_cons, List.filterMap_append]
      rw [ih, hbody]

section Within

variable {τ ε' : Type} {get : τ → σ} {set : σ → τ → τ} {emit : σ → σ → List ε'}

theorem run_within (hget : ∀ x t, get (set x t) = x) (hself : ∀ t, set (get t) t = t)
    (hset : ∀ x y t, set x (set y t) = set x t) (script : Script σ ε α) (t : τ) :
    (script.within get set fun _ _ => ([] : List ε')).run t =
      ⟨(script.run (get t)).value, set (script.run (get t)).state t, []⟩ := by
  induction script generalizing t with
  | done a => simp [within, hself]
  | stmt act next ih =>
      simp only [within, run]
      rw [ih, hget, hset]
      rfl

end Within

/-! ## All statements of a script -/

/-- Every statement the script can execute, on whatever path, satisfies `P`. -/
def Every (P : (σ → σ × List ε) → Prop) : Script σ ε α → Prop
  | done _ => True
  | stmt act next => P act ∧ ∀ s, (next s).Every P

section Every

variable {P : (σ → σ × List ε) → Prop}

theorem Every.bind {script : Script σ ε α} {k : α → Script σ ε β} (h : script.Every P)
    (hk : ∀ a, (k a).Every P) : (script.bind k).Every P := by
  induction script with
  | done a => exact hk a
  | stmt act next ih => exact ⟨h.1, fun s => ih s (h.2 s)⟩

theorem Every.mono {Q : (σ → σ × List ε) → Prop} {script : Script σ ε α} (h : script.Every P)
    (hPQ : ∀ act, P act → Q act) : script.Every Q := by
  induction script with
  | done a => trivial
  | stmt act next ih => exact ⟨hPQ act h.1, fun s => ih s (h.2 s)⟩

/-- A part of the state that no statement changes is as before at the end. -/
theorem Every.run_part {ρ : Type} {p : σ → ρ} {script : Script σ ε α}
    (h : script.Every fun act => ∀ s, p (act s).1 = p s) (s : σ) :
    p (script.run s).state = p s := by
  induction script generalizing s with
  | done a => rfl
  | stmt act next ih => exact (ih s (h.2 s) _).trans (h.1 s)

theorem every_true (script : Script σ ε α) : script.Every fun _ => True := by
  induction script with
  | done a => trivial
  | stmt act next ih => exact ⟨trivial, ih⟩

theorem Every.within {τ ε' : Type} {get : τ → σ} {set : σ → τ → τ} {emit : σ → σ → List ε'}
    {Q : (τ → τ × List ε') → Prop} {script : Script σ ε α} (h : script.Every P)
    (hQ : ∀ act, P act → Q fun t => (set (act (get t)).1 t, emit (get t) (act (get t)).1)) :
    (script.within get set emit).Every Q := by
  induction script with
  | done a => trivial
  | stmt act next ih => exact ⟨hQ act h.1, fun t => ih (get t) (h.2 (get t))⟩

theorem every_exec {f : σ → α × σ × List ε} (h : P fun s => (f s).2) : (exec f).Every P :=
  ⟨h, fun _ => trivial⟩

theorem every_forEach {body : β → Script σ ε Unit} {bs : List β}
    (h : ∀ b ∈ bs, (body b).Every P) : (forEach bs body).Every P := by
  induction bs with
  | nil => trivial
  | cons b bs ih =>
      have hrest := ih fun b' hb' => h b' (by simp [hb'])
      exact (h b (by simp)).bind fun _ => hrest

end Every

/-! ## All results of a script -/

/-- Every result the script can have, on whatever path, satisfies `Q`. -/
def Returns (Q : α → Prop) : Script σ ε α → Prop
  | done a => Q a
  | stmt _ next => ∀ s, (next s).Returns Q

theorem Returns.trivial (script : Script σ ε α) : script.Returns fun _ => True := by
  induction script with
  | done a => exact True.intro
  | stmt act next ih => exact ih

theorem Returns.bind {Q : α → Prop} {R : β → Prop} {script : Script σ ε α}
    {k : α → Script σ ε β} (h : script.Returns Q) (hk : ∀ a, Q a → (k a).Returns R) :
    (script.bind k).Returns R := by
  induction script with
  | done a => exact hk a h
  | stmt act next ih => exact fun s => ih s (h s)

theorem Returns.run {Q : α → Prop} {script : Script σ ε α} (h : script.Returns Q) (s : σ) :
    Q (script.run s).value := by
  induction script generalizing s with
  | done a => exact h
  | stmt act next ih => exact ih s (h s) _

end Script

end ParDiff.Lib
