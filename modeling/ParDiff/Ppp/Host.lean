import ParDiff.Ppp.History
import ParDiff.Ppp.Lifecycle

/-!
# The machine around `update_traffic.pl`

`update_traffic.pl` runs `ifconfig` for one interface after the other and stores each
answer with a statement of its own.  Here the interfaces are part of the state: which
are up, the session that holds each of them, and what every session has transferred.
Links come and go, and traffic flows, between any two statements.

The scripts of `pppd` are the ones of `ParDiff.Ppp.Scripts` on a larger state, and
`updateTraffic_run` says the same of `update_traffic.pl` as long as nothing else moves.
`Mark` is what the statements report; no script reads it.
-/

namespace ParDiff.Ppp

open Lib Lib.Text

variable {ι : Type}

/-! ## State -/

/-- A session is known by the execution of `mysql-ip-up` that `pppd` starts for it. -/
structure Host (ι : Type) where
  db : Db
  /-- The interfaces that are up, by unit. -/
  links : List (Nat × ι)
  rx : ι → Nat
  tx : ι → Nat

/-- Both counters of an interface, and the session that held it. -/
structure Reading (ι : Type) where
  unit : Nat
  session : ι
  rx : Nat
  tx : Nat
  deriving DecidableEq

def Reading.sample (x : Reading ι) : Sample := ⟨dec x.unit, x.rx, x.tx⟩

deriving instance DecidableEq for Ended

inductive Mark (ι : Type)
  /-- `mysql-ip-up` inserted row `id`. -/
  | inserted (unit id : Nat)
  | read (x : Reading ι)
  /-- The reading was stored in these rows. -/
  | stored (x : Reading ι) (ids : List Nat)
  /-- A query of `update_traffic.pl` returned these rows. -/
  | selected (es : List Ended)
  | killed (pid : Int)
  | ended (id : Nat)
  deriving DecidableEq

namespace Host

/-- What the session has transferred. -/
def bytes (h : Host ι) (i : ι) : Int := h.rx i + h.tx i

/-- `ifconfig ppp<unit>`. -/
def reading (h : Host ι) (unit : Nat) : Option (Reading ι) :=
  (h.links.lookup unit).map fun i => ⟨unit, i, h.rx i, h.tx i⟩

/-- What a run finds if nothing else moves. -/
def samples (h : Host ι) : List Sample :=
  (h.links.filterMap fun link => h.reading link.1).map Reading.sample

def setDb (db : Db) (h : Host ι) : Host ι := { h with db := db }

end Host

inductive Move (ι : Type)
  | clock (t : Nat)
  | linkUp (unit : Nat) (i : ι)
  | linkDown (unit : Nat)
  | transfer (i : ι) (rx tx : Nat)

/-- The moves that no script makes.  An interface comes up only if its unit is free. -/
def Host.move [DecidableEq ι] : Move ι → Host ι → Host ι
  | .clock t, h => { h with db := h.db.tick t }
  | .linkUp unit i, h =>
      match h.links.lookup unit with
      | none => { h with links := h.links ++ [(unit, i)] }
      | some _ => h
  | .linkDown unit, h => { h with links := h.links.filter fun link => link.1 != unit }
  | .transfer i rx tx, h =>
      { h with
        rx := Function.update h.rx i (h.rx i + rx)
        tx := Function.update h.tx i (h.tx i + tx) }

/-! ## Scripts -/

/-- A row was inserted between `db` and `db'`. -/
def insertion (unit : Nat) (db db' : Db) : List (Mark ι) :=
  if db.connections.auto < db'.connections.auto then [.inserted unit db.connections.auto] else []

def Up.onHost (u : Up) : Script (Host ι) (Mark ι) Unit :=
  u.script.within Host.db Host.setDb (insertion u.unit)

def ipDownOnHost (argv : List Str) : Script (Host ι) (Mark ι) Unit :=
  (mysqlIpDown argv).within Host.db Host.setDb fun _ _ => []

namespace Host

def read (unit : Nat) : Script (Host ι) (Mark ι) (Option (Reading ι)) :=
  .exec fun h => (h.reading unit, h, ((h.reading unit).map .read).toList)

/-- The rows a sample of the interface is stored in. -/
def openIds (unit : Nat) (db : Db) : List Nat :=
  (db.connections.rows.filter fun r => onInterface (pppName unit) r && isOpen r).map (·.id)

def store (x : Reading ι) : Script (Host ι) (Mark ι) Unit :=
  .modify (fun h => h.setDb (storeSample x.sample h.db)) fun h => [.stored x (openIds x.unit h.db)]

/-- The inner loop for one interface; nothing is printed for one that is gone. -/
def sampleInterface (unit : Nat) : Script (Host ι) (Mark ι) Unit :=
  (read unit).bind fun
    | some x => store x
    | none => .done ()

def select (f : Db → List Ended) : Script (Host ι) (Mark ι) (List Ended) :=
  .exec fun h => (f h.db, h, [.selected (f h.db)])

def kill (e : Ended) : Script (Host ι) (Mark ι) Unit := .modify id fun _ => [.killed e.ppid]

def endRow (id : Nat) : Script (Host ι) (Mark ι) Unit :=
  .modify (fun h => h.setDb (closeWhere (fun r => r.id == id) h.db)) fun _ => [.ended id]

/-- From the first query on. -/
def enforce : Script (Host ι) (Mark ι) Unit := do
  let heavyEnded ← select heavy
  .forEach heavyEnded kill
  let exceededEnded ← select exceeded
  .forEach exceededEnded kill
  let ended := (heavyEnded ++ exceededEnded).map (·.id)
  .forEach ended endRow
  (insertLog ("[update] Kill pid: ".toList ++ List.intercalate [','] (ended.map dec))).within
    Host.db setDb fun _ _ => []

/-- `update_traffic.pl`. -/
def updateTraffic : Script (Host ι) (Mark ι) Unit := do
  let units ← .query fun h => h.links.map (·.1)
  .forEach units sampleInterface
  enforce

end Host

inductive Task
  | ipUp (u : Up)
  | ipDown (argv : List Str)
  | updateTraffic

def Task.script : Task → Script (Host ι) (Mark ι) Unit
  | .ipUp u => u.onHost
  | .ipDown argv => ipDownOnHost argv
  | .updateTraffic => Host.updateTraffic

/-- The executions, all at their start. -/
def machine (task : ι → Task) (h : Host ι) : Config ι (Host ι) (Mark ι) Unit :=
  Config.init h fun i => (task i).script

/-! ## A run alone -/

theorem sampling_run (units : List Nat) (h : Host ι) :
    ((Script.forEach units Host.sampleInterface).run h).state =
      h.setDb (sampled ((units.filterMap h.reading).map Reading.sample) h.db) := by
  induction units generalizing h with
  | nil => rfl
  | cons unit units ih =>
      rw [Script.forEach, Script.run_bind]
      dsimp only
      rw [ih]
      cases hreading : h.reading unit with
      | none =>
          have hbody : ((Host.sampleInterface unit).run h).state = h := by
            simp [Host.sampleInterface, Host.read, hreading]
          rw [hbody, List.filterMap_cons_none hreading]
      | some x =>
          have hbody : ((Host.sampleInterface unit).run h).state =
              h.setDb (storeSample x.sample h.db) := by
            simp [Host.sampleInterface, Host.read, hreading, Host.store]
          rw [hbody, List.filterMap_cons_some hreading]
          rfl

theorem kills_run (es : List Ended) (h : Host ι) :
    ((Script.forEach es Host.kill).run h).state = h :=
  (Script.run_forEach_part (p := id) (f := fun h _ => h) (by simp [Host.kill]) es h).trans
    (List.foldl_fixed _)

theorem ends_run (ids : List Nat) (h : Host ι) :
    ((Script.forEach ids Host.endRow).run h).state = h.setDb (closeAll ids h.db) := by
  induction ids generalizing h with
  | nil => rfl
  | cons id ids ih =>
      rw [Script.forEach, Script.run_bind]
      dsimp only
      rw [ih]
      simp [Host.endRow, closeAll, Host.setDb]

/-- While nothing else moves, the tables are as `updateTraffic` leaves them for what the
interfaces show. -/
theorem updateTraffic_run (h : Host ι) :
    (Host.updateTraffic.run h).state = h.setDb ((updateTraffic h.samples).final h.db) := by
  have hunits : (h.links.map (·.1)).filterMap h.reading =
      h.links.filterMap fun link => h.reading link.1 := by
    rw [List.filterMap_map]
    rfl
  rw [updateTraffic_final]
  simp only [Host.updateTraffic, Host.enforce, Host.select, Script.bind_eq, Script.run_bind,
    Script.run_query, Script.run_exec, sampling_run, kills_run, ends_run, hunits]
  rfl

end ParDiff.Ppp
