import Mathlib.Logic.Function.Basic

/-!
# Transactions under exclusive locks

A server keeps data whose parts can be locked.  A connection takes the lock of a part
before it writes there, and keeps its locks and its writes to itself until it commits.
A statement that would have to wait for a lock fails here; one that gets the lock after a
while is the same statement at a later time.

A connection can break at any time.  The server ends it and takes back what it wrote, or
the client no longer reaches the server, which still holds the locks for it, or the reply
to one more statement gets lost.
-/

namespace ParDiff.Lib.Transaction

inductive Link
  | up
  /-- The next statement is executed, but its reply gets lost, and then the connection. -/
  | deaf
  | lost
  deriving DecidableEq, Repr

structure Server (χ κ ω σ : Type) where
  /-- What is committed. -/
  data : σ
  /-- The connection that holds the lock of a part. -/
  owner : κ → Option χ
  /-- What a connection wrote in its transaction. -/
  writes : χ → List ω
  link : χ → Link

inductive Fault (χ : Type)
  | drop (c : χ)
  | cut (c : χ)
  | deafen (c : χ)

namespace Server

variable {χ κ ω σ α : Type}

/-- No connection is open. -/
def init (data : σ) : Server χ κ ω σ := ⟨data, fun _ => none, fun _ => [], fun _ => .lost⟩

/-! ## What a lock is good for -/

variable {key : ω → κ} {ν : Type} {view : σ → κ → ν} {c c' : χ} {k : κ}

/-- Who wrote to a part holds its lock. -/
def Covered (key : ω → κ) (s : Server χ κ ω σ) : Prop :=
  ∀ c, ∀ w ∈ s.writes c, s.owner (key w) = some c

/-- From `s` to `s'` only the connection `c` did something. -/
structure Moves (view : σ → κ → ν) (c : χ) (s s' : Server χ κ ω σ) : Prop where
  owner : ∀ k c', c' ≠ c → s.owner k = some c' → s'.owner k = some c'
  writes : ∀ c', c' ≠ c → s'.writes c' = s.writes c'
  link : ∀ c', c' ≠ c → s'.link c' = s.link c'
  data : ∀ k, s.owner k ≠ some c → view s'.data k = view s.data k

/-- While it is not broken, the connection holds the lock of a part that meets `P`. -/
def Guarded (view : σ → κ → ν) (c : χ) (k : κ) (P : ν → Prop) (s : Server χ κ ω σ) : Prop :=
  s.link c ≠ .lost → s.owner k = some c ∧ P (view s.data k)

theorem Moves.refl (view : σ → κ → ν) (c : χ) (s : Server χ κ ω σ) : s.Moves view c s :=
  ⟨fun _ _ _ h => h, fun _ _ => rfl, fun _ _ => rfl, fun _ _ => rfl⟩

/-- What was read under a lock stays true under it, whatever the others do. -/
theorem Guarded.moves {P : ν → Prop} {s s' : Server χ κ ω σ} (h : s.Guarded view c k P)
    (hmoves : s.Moves view c' s') (hne : c ≠ c') : s'.Guarded view c k P := by
  intro hlink
  rw [hmoves.link c hne] at hlink
  obtain ⟨howner, hP⟩ := h hlink
  refine ⟨hmoves.owner k c hne howner, ?_⟩
  rw [hmoves.data k (by simp [howner, hne])]
  exact hP

theorem covered_init (key : ω → κ) (data : σ) : (init data : Server χ κ ω σ).Covered key :=
  fun _ _ hw => absurd hw List.not_mem_nil

/-! ## Statements and faults -/

variable [DecidableEq χ]

/-- A new connection. -/
def connect (c : χ) (s : Server χ κ ω σ) : Server χ κ ω σ :=
  { s with writes := Function.update s.writes c [], link := Function.update s.link c .up }

/-- One statement of a connection, and its result if the client gets it. -/
def send (c : χ) (exec : Server χ κ ω σ → α × Server χ κ ω σ) (s : Server χ κ ω σ) :
    Option α × Server χ κ ω σ :=
  match s.link c with
  | .up => (some (exec s).1, (exec s).2)
  | .deaf => (none, { (exec s).2 with link := Function.update (exec s).2.link c .lost })
  | .lost => (none, s)

/-- Take a lock. -/
def lock [DecidableEq κ] (c : χ) (k : κ) (s : Server χ κ ω σ) : Bool × Server χ κ ω σ :=
  if s.owner k = none ∨ s.owner k = some c then
    (true, { s with owner := Function.update s.owner k (some c) })
  else (false, s)

/-- Write to a part, under its lock. -/
def write [DecidableEq κ] (key : ω → κ) (c : χ) (w : ω) (s : Server χ κ ω σ) : Bool × Server χ κ ω σ :=
  let (locked, s) := s.lock c (key w)
  if locked then (true, { s with writes := Function.update s.writes c (s.writes c ++ [w]) })
  else (false, s)

/-- The transaction ends, without its writes. -/
def rollback (c : χ) (s : Server χ κ ω σ) : Server χ κ ω σ :=
  { s with
    owner := fun k => if s.owner k = some c then none else s.owner k
    writes := Function.update s.writes c [] }

/-- The transaction ends, with its writes. -/
def commit (apply : σ → ω → σ) (c : χ) (s : Server χ κ ω σ) : Server χ κ ω σ :=
  { s.rollback c with data := (s.writes c).foldl apply s.data }

/-- The client closes the connection. -/
def close (c : χ) (s : Server χ κ ω σ) : Server χ κ ω σ :=
  match s.link c with
  | .lost => s
  | _ => { s.rollback c with link := Function.update s.link c .lost }

def fault (s : Server χ κ ω σ) : Fault χ → Server χ κ ω σ
  | .drop c => { s.rollback c with link := Function.update s.link c .lost }
  | .cut c => { s with link := Function.update s.link c .lost }
  | .deafen c =>
      if s.link c = .up then { s with link := Function.update s.link c .deaf } else s

/-! ## Faults -/

theorem fault_link {s : Server χ κ ω σ} {f : Fault χ} (h : (s.fault f).link c ≠ .lost) :
    s.link c ≠ .lost ∧ (s.fault f).writes c = s.writes c ∧
      ∀ k, s.owner k = some c → (s.fault f).owner k = some c := by
  cases f with
  | drop d =>
      by_cases hd : c = d
      · simp [fault, hd] at h
      · simp_all [fault, rollback]
  | cut d =>
      by_cases hd : c = d
      · simp [fault, hd] at h
      · simp_all [fault]
  | deafen d =>
      by_cases hup : s.link d = .up
      · by_cases hd : c = d
        · subst hd
          simp [fault, hup]
        · simp_all [fault]
      · simp_all [fault]

@[simp] theorem fault_data (s : Server χ κ ω σ) (f : Fault χ) : (s.fault f).data = s.data := by
  cases f <;> simp only [fault, rollback]
  split <;> rfl

theorem Guarded.fault {P : ν → Prop} {s : Server χ κ ω σ} (h : s.Guarded view c k P)
    (f : Fault χ) : (s.fault f).Guarded view c k P := by
  intro hlink
  obtain ⟨hup, -, howner⟩ := fault_link hlink
  obtain ⟨hk, hP⟩ := h hup
  exact ⟨howner k hk, by simpa using hP⟩

theorem Covered.rollback {s : Server χ κ ω σ} (h : s.Covered key) (c : χ) :
    (s.rollback c).Covered key := by
  intro d w hw
  by_cases hd : d = c
  · simp [Server.rollback, hd] at hw
  · have howner := h d w (by simpa [Server.rollback, hd] using hw)
    simp [Server.rollback, howner, hd]

theorem Covered.fault {s : Server χ κ ω σ} (h : s.Covered key) (f : Fault χ) :
    (s.fault f).Covered key := by
  cases f with
  | drop c => exact h.rollback c
  | cut c => exact h
  | deafen c =>
      rw [Server.fault]
      split
      · exact h
      · exact h

/-! ## The operations of one connection -/

theorem connect_moves (view : σ → κ → ν) (c : χ) (s : Server χ κ ω σ) :
    s.Moves view c (s.connect c) where
  owner _ _ _ h := h
  writes _ hne := by simp [connect, hne]
  link _ hne := by simp [connect, hne]
  data _ _ := rfl

theorem Covered.connect {s : Server χ κ ω σ} (h : s.Covered key) (c : χ) :
    (s.connect c).Covered key := by
  intro d w hw
  by_cases hd : d = c
  · simp [Server.connect, hd] at hw
  · exact h d w (by simpa [Server.connect, hd] using hw)

theorem rollback_moves (view : σ → κ → ν) (c : χ) (s : Server χ κ ω σ) :
    s.Moves view c (s.rollback c) where
  owner k d hne h := by simp [rollback, h, hne]
  writes _ hne := by simp [rollback, hne]
  link _ _ := rfl
  data _ _ := rfl

/-- The data of a part changes only by who holds its lock. -/
theorem foldl_view {apply : σ → ω → σ}
    (happly : ∀ x w k, key w ≠ k → view (apply x w) k = view x k) {ws : List ω}
    (hws : ∀ w ∈ ws, key w ≠ k) (x : σ) : view (ws.foldl apply x) k = view x k := by
  induction ws generalizing x with
  | nil => rfl
  | cons w ws ih =>
      rw [List.foldl_cons, ih fun v hv => hws v (List.mem_cons_of_mem _ hv)]
      exact happly x w k (hws w (by simp))

theorem commit_moves {apply : σ → ω → σ}
    (happly : ∀ x w k, key w ≠ k → view (apply x w) k = view x k) {s : Server χ κ ω σ}
    (h : s.Covered key) (c : χ) : s.Moves view c (s.commit apply c) where
  owner := (rollback_moves view c s).owner
  writes := (rollback_moves view c s).writes
  link _ _ := rfl
  data k hk := by
    refine foldl_view happly (fun w hw (heq : key w = k) => hk ?_) s.data
    rw [← heq]
    exact h c w hw

theorem Covered.commit {s : Server χ κ ω σ} (h : s.Covered key) (apply : σ → ω → σ) (c : χ) :
    (s.commit apply c).Covered key := h.rollback c

theorem close_moves (view : σ → κ → ν) (c : χ) (s : Server χ κ ω σ) :
    s.Moves view c (s.close c) := by
  have hrollback := rollback_moves view c s
  unfold close
  split
  · exact .refl view c s
  · exact ⟨hrollback.owner, hrollback.writes, fun _ hne => by simp [hne], fun _ _ => rfl⟩

theorem Covered.close {s : Server χ κ ω σ} (h : s.Covered key) (c : χ) :
    (s.close c).Covered key := by
  unfold Server.close
  split
  · exact h
  · exact h.rollback c

theorem send_moves (exec : Server χ κ ω σ → α × Server χ κ ω σ) {s : Server χ κ ω σ}
    (h : s.Moves view c (exec s).2) : s.Moves view c (s.send c exec).2 := by
  unfold send
  split
  · exact h
  · exact ⟨h.owner, h.writes, fun d hne => by simpa [hne] using h.link d hne, h.data⟩
  · exact .refl view c s

theorem Covered.send {s : Server χ κ ω σ} (h : s.Covered key)
    (exec : Server χ κ ω σ → α × Server χ κ ω σ) (hexec : (exec s).2.Covered key) (c : χ) :
    (s.send c exec).2.Covered key := by
  unfold Server.send
  split
  · exact hexec
  · exact hexec
  · exact h

/-- The result of a statement arrives, or the connection is lost. -/
theorem send_cases (c : χ) (exec : Server χ κ ω σ → α × Server χ κ ω σ) (s : Server χ κ ω σ) :
    (s.link c = .up ∧ s.send c exec = (some (exec s).1, (exec s).2)) ∨
      (s.send c exec).1 = none ∧ (s.send c exec).2.link c = .lost := by
  unfold send
  split
  · rename_i hup
    exact .inl ⟨hup, rfl⟩
  · exact .inr ⟨rfl, by simp⟩
  · rename_i hlost
    exact .inr ⟨rfl, hlost⟩

section Locks

variable [DecidableEq κ]

theorem lock_moves (view : σ → κ → ν) (c : χ) (k : κ) (s : Server χ κ ω σ) :
    s.Moves view c (s.lock c k).2 := by
  unfold lock
  split
  · rename_i hfree
    refine ⟨fun k' d hne h => ?_, fun _ _ => rfl, fun _ _ => rfl, fun _ _ => rfl⟩
    by_cases hk : k' = k
    · subst hk
      simp [h, hne] at hfree
    · simpa [hk] using h
  · exact .refl view c s

theorem Covered.lock {s : Server χ κ ω σ} (h : s.Covered key) (c : χ) (k : κ) :
    (s.lock c k).2.Covered key := by
  intro d w hw
  unfold Server.lock at hw ⊢
  split at hw
  · rename_i hfree
    rw [if_pos hfree]
    have howner := h d w hw
    by_cases hk : key w = k
    · have hd : d = c := by simpa [← hk, howner] using hfree
      simp [hk, hd]
    · simpa [hk] using howner
  · rename_i hheld
    rw [if_neg hheld]
    exact h d w hw

theorem lock_owner {s : Server χ κ ω σ} (h : (s.lock c k).1 = true) :
    (s.lock c k).2.owner k = some c := by
  unfold lock at h ⊢
  split
  · simp
  · rename_i hheld
    rw [if_neg hheld] at h
    simp at h

theorem lock_owner_of_owner {k' : κ} {s : Server χ κ ω σ} (h : s.owner k' = some c) (k : κ) :
    (s.lock c k).2.owner k' = some c := by
  unfold lock
  split
  · by_cases hk : k' = k
    · simp [hk]
    · simpa [hk] using h
  · exact h

@[simp] theorem lock_data (c : χ) (k : κ) (s : Server χ κ ω σ) : (s.lock c k).2.data = s.data := by
  unfold lock
  split <;> rfl

@[simp] theorem lock_writes (c : χ) (k : κ) (s : Server χ κ ω σ) :
    (s.lock c k).2.writes = s.writes := by
  unfold lock
  split <;> rfl

@[simp] theorem lock_link (c : χ) (k : κ) (s : Server χ κ ω σ) : (s.lock c k).2.link = s.link := by
  unfold lock
  split <;> rfl

theorem write_cases (key : ω → κ) (c : χ) (w : ω) (s : Server χ κ ω σ) :
    ((s.write key c w).1 = false ∧ (s.write key c w).2 = (s.lock c (key w)).2) ∨
      (s.lock c (key w)).1 = true ∧ (s.write key c w).1 = true ∧
        (s.write key c w).2 =
          { (s.lock c (key w)).2 with writes := Function.update s.writes c (s.writes c ++ [w]) } := by
  unfold write
  cases hlock : s.lock c (key w) with
  | mk locked t =>
      have hwrites : t.writes = s.writes := by simpa [hlock] using lock_writes c (key w) s
      cases locked with
      | false => exact .inl ⟨rfl, rfl⟩
      | true => exact .inr ⟨rfl, rfl, by simp [hwrites]⟩

theorem write_moves (view : σ → κ → ν) (c : χ) (w : ω) (s : Server χ κ ω σ) :
    s.Moves view c (s.write key c w).2 := by
  have hlock := lock_moves view c (key w) s
  rcases write_cases key c w s with ⟨-, hsame⟩ | ⟨-, -, hwritten⟩
  · rwa [hsame]
  · rw [hwritten]
    exact ⟨hlock.owner, fun _ hne => by simp [hne], hlock.link, hlock.data⟩

theorem Covered.write {s : Server χ κ ω σ} (h : s.Covered key) (c : χ) (w : ω) :
    (s.write key c w).2.Covered key := by
  have hlock := h.lock c (key w)
  rcases write_cases key c w s with ⟨-, hsame⟩ | ⟨hlocked, -, hwritten⟩
  · rwa [hsame]
  · rw [hwritten]
    intro d v hv
    by_cases hd : d = c
    · subst hd
      have hcases : v ∈ s.writes d ∨ v = w := by simpa using hv
      rcases hcases with hv | rfl
      · exact hlock d v (by simpa using hv)
      · exact lock_owner hlocked
    · exact hlock d v (by simpa [hd] using hv)

end Locks

end Server

end ParDiff.Lib.Transaction
