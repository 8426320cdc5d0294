import ParDiff.Ppp.Scripts

/-!
# What a PPP session is charged

The byte counters of `pppd` are unsigned 32-bit words, and `%d` prints them as
signed ones.  From `2 ^ 31` bytes on a counter arrives at `mysql-ip-down` as a
negative number, so a session is charged for what it transferred exactly when
both counters are below `2 ^ 31`.
-/

namespace ParDiff.Ppp

open Lib Lib.Text

/-- What `mysql-ip-down` computes from the argument vector. -/
def reported (link : Link) : Int := link.bytesIn.toInt + link.bytesOut.toInt

/-- `mysql-ip-down`, called by the plugin. -/
def ipDown (link : Link) (username : Str) : Sql Unit := mysqlIpDown (ipDownArgv link username)

theorem intPrefix_printD (x : BitVec 32) : intPrefix (printD x) = x.toInt :=
  intPrefix_decInt _

theorem ipDown_login (link : Link) (username : Str) (db : Db) :
    ((ipDown link username).final db).login.rows =
      updateAll (Login.named (some username)) (Login.addCredit (-reported link))
        db.login.rows := by
  rw [← updateFirst_eq_updateAll (named_pairwise db.login (some username))]
  simp [ipDown, ipDownArgv, mysqlIpDown, Script.final, insertLog, deductLimitOne,
    finishConnection, intPrefix_printD, reported]

theorem ipDown_connections (link : Link) (username : Str) (db : Db) :
    ((ipDown link username).final db).connections.rows =
      updateAll (ofSession username link.ifname)
        (fun r => { r with connectionTraffic := some (reported link), endTime := db.now })
        db.connections.rows := by
  simp [ipDown, ipDownArgv, mysqlIpDown, Script.final, insertLog, deductLimitOne,
    finishConnection, intPrefix_printD, reported]

/-- The account and the history row of a session, as they were before, show a
charge of `n` bytes. -/
def ChargedFor (db' : Db) (u : Login) (r : Connection) (n : Int) : Prop :=
  (∃ u' ∈ db'.login.rows, u'.id = u.id ∧ u'.credit = u.credit.map (· - n)) ∧
    ∃ r' ∈ db'.connections.rows, r'.id = r.id ∧ r'.connectionTraffic = some n

theorem ipDown_chargedFor (link : Link) {username : Str} {db : Db} {u : Login}
    (hu : u ∈ db.login.rows) (hnamed : u.named (some username) = true) {r : Connection}
    (hr : r ∈ db.connections.rows) (hsession : ofSession username link.ifname r = true) :
    ChargedFor ((ipDown link username).final db) u r (reported link) := by
  constructor
  · refine ⟨u.addCredit (-reported link), ?_, rfl, rfl⟩
    rw [ipDown_login]
    exact mem_updateAll.2 ⟨u, hu, by rw [if_pos hnamed]⟩
  · refine ⟨{ r with connectionTraffic := some (reported link), endTime := db.now }, ?_, rfl, rfl⟩
    rw [ipDown_connections]
    exact mem_updateAll.2 ⟨r, hr, by rw [if_pos hsession]⟩

/-- The signed and the unsigned reading of the counters agree in sum only if
they agree for both. -/
theorem reported_eq_iff (link : Link) :
    reported link = (link.bytesIn.toNat + link.bytesOut.toNat : Nat) ↔
      link.bytesIn.toNat < 2 ^ 31 ∧ link.bytesOut.toNat < 2 ^ 31 := by
  have hin := link.bytesIn.isLt
  have hout := link.bytesOut.isLt
  rw [reported, BitVec.toInt_eq_toNat_cond, BitVec.toInt_eq_toNat_cond]
  split <;> split <;> omega

/-- **The charge is what was transferred** exactly for counters below `2 ^ 31`. -/
theorem ipDown_charges_transferred_iff (link : Link) {username : Str} {db : Db} {u : Login}
    (hu : u ∈ db.login.rows) (hnamed : u.named (some username) = true) {r : Connection}
    (hr : r ∈ db.connections.rows) (hsession : ofSession username link.ifname r = true) :
    ChargedFor ((ipDown link username).final db) u r
        (link.bytesIn.toNat + link.bytesOut.toNat : Nat) ↔
      link.bytesIn.toNat < 2 ^ 31 ∧ link.bytesOut.toNat < 2 ^ 31 := by
  rw [← reported_eq_iff]
  have hcharged := ipDown_chargedFor link hu hnamed hr hsession
  constructor
  · rintro ⟨-, r₁, hr₁, hid₁, htraffic₁⟩
    obtain ⟨-, r₂, hr₂, hid₂, htraffic₂⟩ := hcharged
    have hsame : r₁ = r₂ := Table.eq_of_key_eq _ hr₁ hr₂ (hid₁.trans hid₂.symm)
    rw [hsame, htraffic₂] at htraffic₁
    exact Option.some.inj htraffic₁
  · intro heq
    rw [← heq]
    exact hcharged

/-! ## A session of `2 ^ 31` bytes -/

def sessionLogin : Login := .holding "bob".toList 0

def sessionRow : Connection :=
  ⟨1, "10.1.1.10".toList, none, 1, 0, some "bob".toList, some "ppp0".toList, 4711⟩

/-- One account, with one open connection. -/
def sessionDb : Db :=
  { Db.empty 60 with
    connections := .single sessionRow
    login := .single sessionLogin }

def sessionLink (bytesIn bytesOut : BitVec 32) : Link :=
  ⟨"ppp0".toList, "/dev/pts/1".toList, 115200, 0x0a010101, 0x0a01010a,
    "114.78.118.213".toList, bytesIn, bytesOut, 6⟩

theorem ipDown_charges_transferred_small :
    ChargedFor ((ipDown (sessionLink 1424 0) "bob".toList).final sessionDb)
      sessionLogin sessionRow 1424 :=
  (ipDown_charges_transferred_iff (sessionLink 1424 0)
    (List.mem_singleton.2 rfl) (by decide) (List.mem_singleton.2 rfl) (by decide)).2
    ⟨by decide, by decide⟩

/-- The account of a session with `2 ^ 31` bytes in and none out grows by
`2 ^ 31`. -/
theorem ipDown_credits_long_session :
    ¬ChargedFor ((ipDown (sessionLink 0x80000000 0) "bob".toList).final sessionDb)
        sessionLogin sessionRow (2 ^ 31) ∧
      ((ipDown (sessionLink 0x80000000 0) "bob".toList).final sessionDb).login.rows.map
        (·.credit) = [some (2 ^ 31)] := by
  refine ⟨fun h => ?_, by decide⟩
  obtain ⟨-, r, hr, -, htraffic⟩ := h
  have hall : ((ipDown (sessionLink 0x80000000 0) "bob".toList).final
      sessionDb).connections.rows.all (fun r => r.connectionTraffic == some (-2 ^ 31)) = true := by
    decide
  have hneg := List.all_eq_true.1 hall r hr
  rw [htraffic] at hneg
  exact absurd hneg (by decide)

end ParDiff.Ppp
