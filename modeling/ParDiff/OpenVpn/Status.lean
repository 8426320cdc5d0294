import ParDiff.Lib.Lines
import ParDiff.OpenVpn.Mirror
import ParDiff.OpenVpn.Server

/-!
# The status on the management interface

`multi_print_status` of `openvpn-2.1.1/multi.c` writes one line for each client, with
commas between the fields.  `Net::OpenVPN::Manage` reads up to the first line that looks
like the end of an answer, and gives each line of a client as a list of its fields.

`Net::Telnet` and the texts of title and times are parameters.
-/

namespace ParDiff.OpenVpn

open Lib Lib.Text

/-! ## What the server prints -/

/-- `in_addr_t`. -/
structure InAddr where
  a : Fin 256
  b : Fin 256
  c : Fin 256
  d : Fin 256
  deriving DecidableEq

def InAddr.undef : InAddr := ⟨0, 0, 0, 0⟩

def InAddr.ofBytes (a b c d : UInt8) : InAddr := ⟨a.toFin, b.toFin, c.toFin, d.toFin⟩

/-- `inet_ntoa`. -/
def InAddr.ntoa (x : InAddr) : Str :=
  dec x.a ++ '.' :: (dec x.b ++ '.' :: (dec x.c ++ '.' :: dec x.d))

/-- `print_in_addr_t`, with `IA_EMPTY_IF_UNDEF`. -/
def printInAddrT (x : InAddr) : Str := if x = .undef then [] else x.ntoa

/-- `struct mroute_addr`. -/
inductive MrouteAddr
  | ether (addr : List (Fin 256))
  | ipv4 (addr : InAddr) (netbits : Option (Fin 256)) (port : Option (Fin 65536))
  | ipv6
  | unknown

/-- `%02x`. -/
def hexByte (b : Fin 256) : Str := [Nat.digitChar (b / 16), Nat.digitChar (b % 16)]

/-- `mroute_addr_print`. -/
def mrouteAddrPrint : MrouteAddr → Str
  | .ether addr => [':'].intercalate ((addr.take 6).map hexByte)
  | .ipv4 addr netbits port =>
      printInAddrT addr ++ (netbits.elim [] fun n => '/' :: dec n) ++
        port.elim [] fun p => ':' :: dec p
  | .ipv6 => "IPV6".toList
  | .unknown => "UNKNOWN".toList

/-- `struct multi_instance`. -/
structure MultiInstance where
  halt : Bool
  tlsMulti : TlsMulti
  realAddr : InAddr
  realPort : Fin 65536
  reportingAddr : InAddr
  linkReadBytes : UInt64
  linkWriteBytes : UInt64
  created : Nat

/-- `struct multi_route`. -/
structure MultiRoute where
  addr : MrouteAddr
  instance' : MultiInstance
  cache : Bool
  ageable : Bool
  cacheGeneration : Nat
  lastReference : Nat

/-- `struct multi_context`; the hash tables are lists, in the order of their iterators. -/
structure MultiContext where
  hash : List MultiInstance
  vhash : List MultiRoute
  /-- `mbuf_maximum_queued`, if there is an `mbuf`. -/
  mbuf : Option (Fin (2 ^ 31))
  cacheGeneration : Nat
  ageableTtlSecs : Nat
  now : Nat

/-- The title of the server, and `time_string`. -/
structure Texts where
  title : Str
  timeString : Nat → Str

/-- `struct status_output`. -/
structure StatusOutput where
  errors : Bool
  lines : List Str

def statusPrintfMaxlen : Nat := 512

/-- `status_printf`: after an error nothing more is written. -/
def statusPrintf (so : StatusOutput) (text : Str) : StatusOutput :=
  if so.errors || decide (statusPrintfMaxlen ≤ text.length) then { so with errors := true }
  else { so with lines := so.lines ++ [text.rdropWhile fun c => c == '\r' || c == '\n'] }

/-- Fields with `sep` between them. -/
def commaLine (fields : List Str) : Str := [','].intercalate fields

/-- `%u`. -/
def unsigned (n : Nat) : Str := dec (n % 2 ^ 32)

namespace MultiInstance

def real (mi : MultiInstance) : Str := mrouteAddrPrint (.ipv4 mi.realAddr none mi.realPort)

def fields (t : Texts) (mi : MultiInstance) : List Str :=
  [mi.tlsMulti.tlsCommonName, mi.real, printInAddrT mi.reportingAddr,
    dec mi.linkReadBytes.toNat, dec mi.linkWriteBytes.toNat, t.timeString mi.created,
    unsigned mi.created]

def line (t : Texts) (mi : MultiInstance) : Str :=
  commaLine ("CLIENT_LIST".toList :: mi.fields t)

end MultiInstance

namespace MultiContext

/-- `multi_route_defined`. -/
def routeDefined (m : MultiContext) (r : MultiRoute) : Bool :=
  !r.instance'.halt && !(r.cache && decide (r.cacheGeneration ≠ m.cacheGeneration)) &&
    !(r.ageable && decide (r.lastReference + m.ageableTtlSecs < m.now))

def live (m : MultiContext) : List MultiInstance := m.hash.filter fun mi => !mi.halt

def head (t : Texts) (m : MultiContext) : List Str :=
  [commaLine ["TITLE".toList, t.title],
    commaLine ["TIME".toList, t.timeString m.now, unsigned m.now],
    commaLine (["HEADER", "CLIENT_LIST", "Common Name", "Real Address", "Virtual Address",
      "Bytes Received", "Bytes Sent", "Connected Since",
      "Connected Since (time_t)"].map String.toList)]

def routeLine (t : Texts) (r : MultiRoute) : Str :=
  commaLine ["ROUTING_TABLE".toList, mrouteAddrPrint r.addr ++ (if r.cache then ['C'] else []),
    r.instance'.tlsMulti.tlsCommonName, r.instance'.real, t.timeString r.lastReference,
    unsigned r.lastReference]

def tail (t : Texts) (m : MultiContext) : List Str :=
  commaLine (["HEADER", "ROUTING_TABLE", "Virtual Address", "Common Name", "Real Address",
      "Last Ref", "Last Ref (time_t)"].map String.toList) ::
    (m.vhash.filter m.routeDefined).map (routeLine t) ++
    (m.mbuf.elim [] fun n =>
      [commaLine ["GLOBAL_STATS".toList, "Max bcast/mcast queue length".toList, dec n]])

/-- The lines of version 2. -/
def statusLines (t : Texts) (m : MultiContext) : List Str :=
  m.head t ++ m.live.map (·.line t) ++ m.tail t ++ ["END".toList]

end MultiContext

/-- `multi_print_status`, version 2. -/
def multiPrintStatus (t : Texts) (m : MultiContext) : StatusOutput :=
  (m.statusLines t).foldl statusPrintf ⟨false, []⟩

/-! ## What the script gets -/

/-- The keywords of the pattern for the prompt. -/
def prompts : List Str := ["SUCCESS:".toList, "ERROR:".toList, "END".toList]

/-- `split ','`, which leaves out what is empty at the end. -/
def splitComma (s : Str) : List Str := (s.splitOn ',').rdropWhile (·.isEmpty)

/-- The hash that `status_ref` builds. -/
structure StatusRef where
  routingTable : List (List Str)
  clientList : List (List Str)
  header : Str → List Str
  title : Option Str
  time : Option Str
  globalStats : Option Str

def StatusRef.empty : StatusRef := ⟨[], [], fun _ => [], none, none, none⟩

/-- What follows a front of the text. -/
def after (front : String) (s : Str) : Option Str :=
  if front.toList.isPrefixOf s then some (s.drop front.toList.length) else none

def isWordChar (c : Char) : Bool := c.isAlphanum || c == '_'

/-- `([\w\_]+),` and what follows. -/
def wordComma (s : Str) : Option (Str × Str) :=
  match s.takeWhile isWordChar, s.dropWhile isWordChar with
  | c :: word, ',' :: rest => some (c :: word, rest)
  | _, _ => none

/-- `status_ref`, one line. -/
def StatusRef.read (ref : StatusRef) (ln : Str) : StatusRef :=
  if ln.all isSpace then ref
  else
    match after "ROUTING_TABLE," ln with
    | some rest => { ref with routingTable := ref.routingTable ++ [splitComma rest] }
    | none =>
        match after "CLIENT_LIST," ln with
        | some rest => { ref with clientList := ref.clientList ++ [splitComma rest] }
        | none =>
            match (after "HEADER," ln).bind wordComma with
            | some (word, rest) =>
                { ref with
                  header := Function.update ref.header word (ref.header word ++ splitComma rest) }
            | none =>
                match after "TITLE," ln with
                | some rest => { ref with title := some rest }
                | none =>
                    match after "TIME," ln with
                    | some rest => { ref with time := some rest }
                    | none =>
                        match after "GLOBAL_STATS," ln with
                        | some rest => { ref with globalStats := some rest }
                        | none => ref

/-- `$telnet->cmd`: the lines before the prompt, and the prompt; `none` is a timeout. -/
abbrev TelnetCmd := (answer : Str) → Option (List Str × Str)

/-- `status_ref`; `none` is a false or a text, of which the script cannot take the
clients. -/
def statusRef (cmd : TelnetCmd) (answer : Str) : Option StatusRef :=
  match cmd answer with
  | none => none
  | some (output, lastPrompt) =>
      if "END".toList <:+: lastPrompt then some (output.foldl StatusRef.read .empty) else none

/-- `my (…) = @$client`; what is missing is undefined. -/
def Client.ofFields (a : List Str) : Client :=
  ⟨a.getD 0 [], a.getD 1 [], a.getD 2 [], a.getD 3 [], a.getD 4 [], a.getD 5 [], a.getD 6 []⟩

/-- The clients of one execution of the script, from the state of the server. -/
def statusClients (cmd : TelnetCmd) (t : Texts) (m : MultiContext) : Option (List Client) :=
  (statusRef cmd (unlines (multiPrintStatus t m).lines)).map fun ref =>
    ref.clientList.map Client.ofFields

/-- `cmd` waits for the leftmost match of the pattern, and gives the lines before it, or
one empty line. -/
def TelnetCmd.Documented (cmd : TelnetCmd) : Prop :=
  ∀ answer before found, matchLine prompts answer = some (before, found) →
    cmd answer = some (if records before = [] then [[]] else records before, found)

/-- No separator. -/
structure Field (s : Str) : Prop where
  comma : ',' ∉ s
  newline : '\n' ∉ s
  ret : '\r' ∉ s

/-- Nor a keyword. -/
structure Plain (s : Str) : Prop extends Field s where
  silent : Silent prompts s

structure Texts.Documented (t : Texts) : Prop where
  title : Plain t.title ∧ t.title.length ≤ 400
  timeString : ∀ s, Plain (t.timeString s) ∧ (t.timeString s).length < 64

end ParDiff.OpenVpn
