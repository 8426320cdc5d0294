import ParDiff.Schema

/-!
# `scripts/openvpn-refresh.pl`

The script takes the list of clients from the management interface, writes it
into `openvpn_connections`, and moves the rows of the sessions that are gone to
`connections`, with a deduction for each.  A session is identified twice: by
four columns in SQL, and by a text that joins the same four values with colons.

`Net::OpenVPN::Manage` delivers a client as seven strings.  `port` and `since`
are compared with integer columns, for which the database reads the number at
the front of the text.
-/

namespace ParDiff.OpenVpn

open Lib Lib.Text

/-! ## Clients -/

structure Client where
  name : Str
  clientAddr : Str
  internalIp : Str
  recv : Str
  sent : Str
  connectSince : Str
  connectSinceNumber : Str

/-- `my ($client_ip, $client_port) = split(/:/, $client_addr)`; what is missing
is undefined. -/
def splitAddr (addr : Str) : Option Str × Option Str :=
  if addr = [] then (none, none)
  else
    match addr.dropWhile (· ≠ ':') with
    | [] => (some addr, none)
    | _ :: rest => (some (addr.takeWhile (· ≠ ':')), some (rest.takeWhile (· ≠ ':')))

namespace Client

def clientIp (c : Client) : Option Str := (splitAddr c.clientAddr).1

def clientPort (c : Client) : Option Str := (splitAddr c.clientAddr).2

/-- `chomp $connect_since_number`. -/
def since (c : Client) : Str := chomp c.connectSinceNumber

/-- `$recv + $sent`. -/
def traffic (c : Client) : Int := intPrefix c.recv + intPrefix c.sent

/-- `$name . ':' . $client_ip . ':' . $client_port . ':' . $connect_since_number`. -/
def hashStr (c : Client) : Str :=
  c.name ++ ':' :: (c.clientIp.getD [] ++ ':' :: (c.clientPort.getD [] ++ ':' :: c.since))

end Client

/-- `$username . ':' . $ip . ':' . $port . ':' . $since`, of a row. -/
def hashStr (r : OpenvpnConnection) : Str :=
  r.username ++ ':' :: (r.ip ++ ':' :: (decInt r.port ++ ':' :: decInt r.since))

/-- `ip = ? AND port = ? AND username = ? AND since = ?`; an undefined value is
bound as `NULL` and matches nothing. -/
def sameSession (c : Client) (r : OpenvpnConnection) : Bool :=
  match c.clientIp, c.clientPort with
  | some ip, some port =>
      ciEq r.ip ip && decide (r.port = intPrefix port) && ciEq r.username c.name &&
        decide (r.since = intPrefix c.since)
  | _, _ => false

/-! ## Insert or update -/

/-- `_log`. -/
def log (message : Str) : Sql Unit := insertLog ("[openvpn]".toList ++ message)

theorem traffic_id (c : Client) (r : OpenvpnConnection) :
    ({ r with traffic := clampInt c.traffic } : OpenvpnConnection).id = r.id := rfl

/-- `UPDATE openvpn_connections SET traffic = ? WHERE …`. -/
def updateTraffic (c : Client) (db : Db) : Db :=
  { db with
    openvpnConnections := db.openvpnConnections.update (sameSession c)
      (fun r => { r with traffic := clampInt c.traffic }) (traffic_id c) }

/-- The row that `INSERT INTO openvpn_connections … VALUES (?, ?, ?, ?, 0, ?)`
writes. -/
def newRow (c : Client) (ip port : Str) (id : Nat) : OpenvpnConnection :=
  ⟨id, c.name.take 100, ip.take 20, clampInt (intPrefix port), c.internalIp.take 20, 0,
    clampInt (intPrefix c.since)⟩

theorem newRow_id (c : Client) (ip port : Str) (id : Nat) : (newRow c ip port id).id = id := rfl

/-- The insert.  Neither `ip` nor `port` may be `NULL`, so without them the
statement fails, and the script goes on. -/
def insertClient (c : Client) : Sql Unit :=
  match c.clientIp, c.clientPort with
  | some ip, some port =>
      .modify
        (fun db => { db with
          openvpnConnections :=
            db.openvpnConnections.insert (newRow c ip port) (newRow_id c ip port) })
        fun db => [.opened (newRow c ip port db.openvpnConnections.auto)]
  | _, _ => .modify id fun _ => []

def refreshClient (c : Client) : Sql Unit := do
  let known ← .query fun db => db.openvpnConnections.rows.countP (sameSession c)
  if 0 < known then
    -- old connection
    .modify (updateTraffic c) fun _ => []
  else
    log ("new connection: user ".toList ++ c.name ++ " ip: ".toList ++ c.clientIp.getD [])
    insertClient c

/-! ## Finished connections -/

/-- The rows whose text is not among those of the clients. -/
def finishedRows (connections : List Str) (db : Db) : List OpenvpnConnection :=
  db.openvpnConnections.rows.filter fun r => !connections.contains (hashStr r)

/-- `SELECT * FROM openvpn_connections` and the loop over its rows. -/
def findFinished (connections : List Str) : Sql (List OpenvpnConnection) := do
  let finished ← .exec fun db =>
    (finishedRows connections db, db, (finishedRows connections db).map .listed)
  .forEach finished fun r => log ("User ".toList ++ r.username ++ " terminated connection.".toList)
  return finished

/-! ## Users over their limit -/

/-- `GROUP BY username`; a group shows its first name. -/
def groups : List Str → List Str
  | [] => []
  | name :: names => name :: (groups names).filter fun other => !ciEq name other

/-- `sum(traffic)` of a group. -/
def sumTraffic (username : Str) (rows : List OpenvpnConnection) : Int :=
  ((rows.filter fun r => ciEq r.username username).map (·.traffic)).sum

/-- `o.username = l.username AND l.credit < o.traffic`. -/
def overLimit (db : Db) (username : Str) (l : Login) : Bool :=
  l.named (some username) &&
    match l.credit with
    | none => false
    | some credit => decide (credit < sumTraffic username db.openvpnConnections.rows)

/-- The join of the groups with the accounts. -/
def exceeding (db : Db) : List Str :=
  (groups (db.openvpnConnections.rows.map (·.username))).flatMap fun username =>
    (db.login.rows.filter (overLimit db username)).map fun _ => username

def killUser (commonname : Str) : Sql Unit := do
  log ("User ".toList ++ commonname ++ " exceeds the limit.".toList)
  .modify id fun _ => [.killCommonName commonname]

/-! ## Moving -/

/-- `FROM_UNIXTIME(?)`, stored into a `TIMESTAMP`: out of range it is `NULL`, for
which the column takes the current time. -/
def fromUnixtime (now : Time) (since : Int) : Time :=
  if since < 0 then now else unixEpoch + since.toNat

/-- The row of `connections` for a finished session. -/
def historyRow (now : Time) (r : OpenvpnConnection) (id : Nat) : Connection :=
  ⟨id, r.ip.take 20, some r.traffic, fromUnixtime now r.since, now, some (r.username.take 200),
    some "OPENVPN".toList, -1⟩

def insertHistory (r : OpenvpnConnection) (db : Db) : Db :=
  { db with connections := db.connections.insert (historyRow db.now r) fun _ => rfl }

def removeRow (id : Nat) (db : Db) : Db :=
  { db with openvpnConnections := db.openvpnConnections.delete fun r => r.id == id }

def moveConnection (r : OpenvpnConnection) : Sql Unit := do
  -- login info
  .modify (insertHistory r) fun _ => [.moved r]
  -- credit info
  .modify (fun db => db.addCredit r.username (-r.traffic)) fun db =>
    [.deducted (.openvpn r) r.username r.traffic (db.countLogin (some r.username))]
  -- remove from openvpn connections
  .modify (removeRow r.id) fun _ => [.removed r.id]

/-! ## The script -/

/-- The script after the finished connections are found. -/
def settle (finished : List OpenvpnConnection) : Sql Unit := do
  -- now lets find connections which have used up its exceed
  let exceeds ← .query exceeding
  .forEach exceeds killUser
  -- now lets move the connections
  .forEach finished moveConnection

/-- The script once it is connected. -/
def refreshConnected (clients : List Client) : Sql Unit := do
  .modify id fun _ => [.polled]
  log ("connected clients: ".toList ++ dec clients.length)
  .forEach clients refreshClient
  let finished ← findFinished (clients.map (·.hashStr))
  settle finished

/-- One execution; `none` when the server cannot be reached. -/
def openvpnRefresh (status : Option (List Client)) : Sql Unit :=
  match status with
  | none => log "Failed to connect openvpn server".toList
  | some clients => refreshConnected clients

end ParDiff.OpenVpn
