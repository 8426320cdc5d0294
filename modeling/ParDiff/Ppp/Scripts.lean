import ParDiff.Schema

/-!
# `pppd__ip_up`, `pppd__ip_down`, `mysql-ip-up`, `mysql-ip-down`, `update_traffic.pl`

The plugin of `pppd` prints what it knows about a session into an argument
vector, and the Perl scripts read it back.  `pppd` counts bytes in unsigned
32-bit words and prints them with `%d`.

`update_traffic.pl` sees the interfaces through `ifconfig`; a `Sample` is what
its two regular expressions capture.
-/

namespace ParDiff.Ppp

open Lib Lib.Text

/-! ## The plugin -/

/-- `slprintf` with `%d`. -/
def printD (x : BitVec 32) : Str := decInt x.toInt

/-- `slprintf` with `%I`, for an address in host order. -/
def printI (addr : BitVec 32) : Str :=
  List.intercalate ['.'] ([24, 16, 8, 0].map fun k => dec (addr.toNat / 2 ^ k % 256))

/-- The globals of `pppd` that the plugin prints. -/
structure Link where
  ifname : Str
  devnam : Str
  baudRate : BitVec 32
  ouraddr : BitVec 32
  hisaddr : BitVec 32
  ipparam : Str
  bytesIn : BitVec 32
  bytesOut : BitVec 32
  linkConnectTime : BitVec 32

def ipUpArgv (link : Link) (username : Str) : List Str :=
  [link.ifname, link.devnam, printD link.baudRate, printI link.ouraddr, printI link.hisaddr,
    link.ipparam, username]

def ipDownArgv (link : Link) (username : Str) : List Str :=
  [link.ifname, link.devnam, printD link.baudRate, printI link.ouraddr, printI link.hisaddr,
    link.ipparam, username, printD link.bytesIn, printD link.bytesOut,
    printD link.linkConnectTime]

/-! ## Statements on `connections` -/

/-- `end_time < start_time`: the session is still running. -/
def isOpen (r : Connection) : Bool := decide (r.endTime < r.startTime)

/-- `interface = ?`. -/
def onInterface (interface : Str) (r : Connection) : Bool :=
  match r.interface with
  | none => false
  | some name => ciEq name interface

/-- `username = ?`. -/
def ofUser (username : Str) (r : Connection) : Bool :=
  match r.username with
  | none => false
  | some name => ciEq name username

/-- `UPDATE connections SET end_time = NOW() WHERE p`. -/
def closeWhere (p : Connection → Bool) (db : Db) : Db :=
  { db with
    connections := db.connections.update p (fun r => { r with endTime := db.now }) fun _ => rfl }

def insertConnection (username ip interface : Str) (ppid : Int) (db : Db) : Db :=
  { db with
    connections := db.connections.insert
      (fun id => ⟨id, ip.take 20, none, db.now, 0, some (username.take 200),
        some (interface.take 20), ppid⟩) fun _ => rfl }

/-! ## `mysql-ip-up` -/

def mysqlIpUp (ppid : Int) (argv : List Str) : Sql Unit :=
  match argv with
  | [interface, _dev, _bps, _serverIp, _clientIp, ip, username] => do
      -- close old connection
      .modify (closeWhere fun r => onInterface interface r && isOpen r) fun _ => []
      .modify (insertConnection username ip interface ppid) fun _ => []
      insertLog ("[login] User: ".toList ++ username ++ ", IP: ".toList ++ ip)
  | _ => return ()

/-! ## `mysql-ip-down` -/

/-- `username = ? AND end_time < start_time AND interface = ?`. -/
def ofSession (username interface : Str) (r : Connection) : Bool :=
  ofUser username r && isOpen r && onInterface interface r

/-- `UPDATE connections SET connection_traffic = ?, end_time = now() WHERE
username = ? AND end_time < start_time AND interface = ?`. -/
def finishConnection (traffic : Int) (username interface : Str) (db : Db) : Db :=
  { db with
    connections := db.connections.update (ofSession username interface)
      (fun r => { r with connectionTraffic := some traffic, endTime := db.now }) fun _ => rfl }

/-- `UPDATE login SET credit = credit - ? WHERE username = ? LIMIT 1`. -/
def deductLimitOne (traffic : Int) (username : Str) (db : Db) : Db :=
  { db with
    login := db.login.updateLimitOne (Login.named (some username)) (Login.addCredit (-traffic))
      (fun _ => rfl) fun _ => rfl }

def mysqlIpDown (argv : List Str) : Sql Unit :=
  match argv with
  | [interface, _dev, _bps, _serverIp, _clientIp, ip, username, send, recv, _duration] => do
      let traffic := intPrefix send + intPrefix recv
      .modify (finishConnection traffic username interface) fun _ => []
      .modify (deductLimitOne traffic username) fun db =>
        [.deducted (.ppp interface) username traffic (db.countLogin (some username))]
      insertLog ("[logout] User: ".toList ++ username ++ ", IP: ".toList ++ ip ++
        ", traffic: ".toList ++ decInt traffic ++ " bytes".toList)
  | _ => return ()

/-! ## `update_traffic.pl` -/

/-- One line of `ifconfig ppp<unit>` with both byte counters. -/
structure Sample where
  unit : Str
  rx : Nat
  tx : Nat

def Sample.interface (s : Sample) : Str := "ppp".toList ++ s.unit

def Sample.traffic (s : Sample) : Int := s.rx + s.tx

/-- `UPDATE connections SET connection_traffic = ? WHERE interface = ? AND
(end_time IS NULL OR end_time < start_time)`; the column is `NOT NULL`. -/
def storeSample (s : Sample) (db : Db) : Db :=
  { db with
    connections := db.connections.update (fun r => onInterface s.interface r && isOpen r)
      (fun r => { r with connectionTraffic := some s.traffic }) fun _ => rfl }

/-- A connection that is to be ended: its row and the process to kill. -/
structure Ended where
  id : Nat
  ppid : Int

/-- `connection_traffic > ?`; `NULL` is not greater. -/
def trafficExceeds (limit : Int) (r : Connection) : Bool :=
  match r.connectionTraffic with
  | none => false
  | some traffic => decide (limit < traffic)

/-- `end_time < start_time AND connection_traffic > 3 * 1024 * 1024 * 1024`. -/
def isHeavy (r : Connection) : Bool :=
  isOpen r && trafficExceeds (3 * 1024 * 1024 * 1024) r

def heavy (db : Db) : List Ended :=
  (db.connections.rows.filter isHeavy).map fun r => ⟨r.id, r.ppid⟩

/-- `c.username = u.username AND c.connection_traffic > u.credit`, for an open `c`. -/
def exceedsCredit (u : Login) (r : Connection) : Bool :=
  isOpen r && ofUser u.username r &&
    match u.credit with
    | none => false
    | some credit => trafficExceeds credit r

/-- The join of the accounts with the open connections. -/
def exceeded (db : Db) : List Ended :=
  db.login.rows.flatMap fun u =>
    (db.connections.rows.filter (exceedsCredit u)).map fun r => ⟨r.id, r.ppid⟩

def killSession (e : Ended) : Sql Unit := .modify id fun _ => [.killPid e.ppid]

/-- `UPDATE connections SET end_time = now() WHERE id = ?`. -/
def endConnection (id : Nat) : Sql Unit :=
  .modify (closeWhere fun r => r.id == id) fun _ => []

def updateTraffic (samples : List Sample) : Sql Unit := do
  .forEach samples fun s => .modify (storeSample s) fun _ => []
  let heavyEnded ← .query heavy
  .forEach heavyEnded killSession
  let exceededEnded ← .query exceeded
  .forEach exceededEnded killSession
  let ended := (heavyEnded ++ exceededEnded).map (·.id)
  .forEach ended endConnection
  insertLog ("[update] Kill pid: ".toList ++ List.intercalate [','] (ended.map dec))

end ParDiff.Ppp
