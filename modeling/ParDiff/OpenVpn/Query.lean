import ParDiff.Lib.SqlText
import ParDiff.OpenVpn.Plugin

/-!
# The query of `src/myopenvpn/myopenvpn.c`

How the plugin gets from the credentials to the text of its query: the escaping
buffer with its two sentinel bytes, the length `lenq` it computes from the format
string, and `snprintf`.  `malloc` may fail, and gives a buffer with anything in it.
`mysql_escape_string` is any function that escapes as the client library says.

The whitelist of `as_mysql_validate` has no character that is escaped, so the
buffer is never full, the query is never cut off, and what the server reads is the
fixed `SELECT` with the two texts as they came.
-/

namespace ParDiff.OpenVpn

open Lib Lib.Text Lib.SqlText

/-! ## Escaping -/

/-- The bytes that `mysql_escape_string` escapes. -/
def special : Str := ['\x00', '\n', '\r', '\\', '\'', '"', '\x1a']

/-- Write to the front of a buffer. -/
def write (bytes buffer : Str) : Str := bytes ++ buffer.drop bytes.length

/-- What a call of `mysql_escape_string` leaves in the buffer, the escaped text and a zero
byte, and the length of that text.  A special byte takes two bytes, and any other stays
as it is. -/
def Escapes (mysqlEscapeString : (dest source : Str) → Str × Nat) : Prop :=
  ∃ escape : Char → Str, (∀ c ∈ special, (escape c).length = 2) ∧
    (∀ c, c ∉ special → escape c = [c]) ∧
    ∀ dest source, mysqlEscapeString dest source =
      (write (source.flatMap escape ++ ['\x00']) dest, (source.flatMap escape).length)

/-- The C string at the front of a buffer. -/
def cString (buffer : Str) : Str := buffer.takeWhile (· ≠ '\x00')

inductive Escaped
  | null
  /-- `for (;;) *to++ = 0`. -/
  | wiping
  | text (s : Str)
  deriving DecidableEq, Repr

/-- What one call gets from the C library: memory, and `rand`. -/
structure Runtime where
  malloc : (size : Nat) → Option (Vector Char size)
  rand : Nat

section

variable (mysqlEscapeString : (dest source : Str) → Str × Nat)

/-- `as_mysql_escape_string`. -/
def asMysqlEscapeString (rt : Runtime) : Option Str → Escaped
  | none => .null
  | some source =>
      let toLen := source.length * 2 + 1
      match rt.malloc (toLen + 2) with
      | none => .null
      | some buffer =>
          let t1 := Char.ofNat (rt.rand % 256)
          let t2 := Char.ofNat (rt.rand / 256 % 256)
          let dest := (buffer.toList.set toLen t1).set (toLen + 1) t2
          let (dest, tolen) := mysqlEscapeString dest source
          if toLen ≤ tolen ∨ dest[toLen]? ≠ some t1 ∨ dest[toLen + 1]? ≠ some t2 then .wiping
          else .text (cString (dest.set tolen '\x00'))

end

/-! ## The text of the query -/

def fmt : Str :=
  ("SELECT username FROM login WHERE password='%s' AND username='%s' AND credit > 0 " ++
    "AND account_state = 'ACTIVE'").toList

/-- A format string with `%s` only. -/
def format : Str → List Str → Str
  | '%' :: 's' :: f, a :: args => a ++ format f args
  | c :: f, args => c :: format f args
  | [], _ => []

/-- `snprintf(query, size, …)`. -/
def snprintf (size : Nat) (text : Str) : Str := text.take (size - 1)

/-- `lenq`. -/
def lenq (escapedUsername escapedPassword : Str) : Nat :=
  escapedUsername.length + escapedPassword.length + fmt.length

inductive Prepared
  /-- A return before the query: bad credentials, or no memory. -/
  | error
  | wiping
  | query (text : Str)
  deriving DecidableEq, Repr

/-- `openvpn_plugin_func_v1` up to the query. -/
def prepareQuery (mysqlEscapeString : (dest source : Str) → Str × Nat) (rt rt' : Runtime) (envp : List Str) : Prepared :=
  let username := getEnv "username".toList envp
  let password := getEnv "password".toList envp
  if !asMysqlValidate username then .error
  else if !asMysqlValidate password then .error
  else
    match asMysqlEscapeString mysqlEscapeString rt username with
    | .null => .error
    | .wiping => .wiping
    | .text escapedUsername =>
        match asMysqlEscapeString mysqlEscapeString rt' password with
        | .null => .error
        | .wiping => .wiping
        | .text escapedPassword =>
            .query (snprintf (lenq escapedUsername escapedPassword)
              (format fmt [escapedPassword, escapedUsername]))

/-- The fixed `SELECT`, with the two literals. -/
def selectTokens (password username : Str) : List Token :=
  [.word "SELECT".toList, .word "username".toList, .word "FROM".toList, .word "login".toList,
    .word "WHERE".toList, .word "password".toList, .symbol '=', .string password,
    .word "AND".toList, .word "username".toList, .symbol '=', .string username,
    .word "AND".toList, .word "credit".toList, .symbol '>', .word "0".toList,
    .word "AND".toList, .word "account_state".toList, .symbol '=', .string "ACTIVE".toList]

/-! ## No wiping, and no change -/

theorem notMem_special {c : Char} (h : isValidChar c = true) : c ∉ special := by
  intro hmem
  have hnone : special.all (fun c => !isValidChar c) = true := by decide
  simpa [h] using List.all_eq_true.1 hnone c hmem

theorem cString_append {s b : Str} (h : '\x00' ∉ s) : cString (s ++ '\x00' :: b) = s := by
  unfold cString
  rw [List.takeWhile_append_of_pos]
  · simp
  · intro c hc
    simp only [decide_not, Bool.not_eq_eq_eq_not, Bool.not_true, decide_eq_false_iff_not]
    rintro rfl
    exact h hc

theorem zero_notMem {s : Str} (h : s.all isValidChar = true) : '\x00' ∉ s := by
  intro hmem
  exact absurd (List.all_eq_true.1 h _ hmem) (by decide)

/-- The two sentinels stand behind everything that is written. -/
theorem getElem?_write {bytes buffer : Str} {i : Nat} (h : bytes.length ≤ i) :
    (write bytes buffer)[i]? = buffer[i]? := by
  rw [write, List.getElem?_append_right h, List.getElem?_drop]
  congr 1
  omega

section

variable {mysqlEscapeString : (dest source : Str) → Str × Nat} (hlib : Escapes mysqlEscapeString)

include hlib

theorem Escapes.of_valid {s : Str} (h : s.all isValidChar = true) (dest : Str) :
    mysqlEscapeString dest s = (write (s ++ ['\x00']) dest, s.length) := by
  obtain ⟨escape, -, hplain, hlib⟩ := hlib
  rw [List.all_eq_true] at h
  have hsame : s.flatMap escape = s := by
    calc s.flatMap escape = s.flatMap fun c => [c] :=
          List.flatMap_congr fun c hc => hplain c (notMem_special (h c hc))
      _ = s := by simp
  rw [hlib, hsame]

theorem asMysqlEscapeString_eq (rt : Runtime) {s : Str} (h : s.all isValidChar = true) :
    asMysqlEscapeString mysqlEscapeString rt (some s) =
      if (rt.malloc (s.length * 2 + 1 + 2)).isSome then .text s else .null := by
  unfold asMysqlEscapeString
  cases hbuffer : rt.malloc (s.length * 2 + 1 + 2) with
  | none => simp [hbuffer]
  | some buffer =>
      have hwritten : (s ++ ['\x00']).length ≤ s.length * 2 + 1 := by simp; omega
      simp only [hbuffer, hlib.of_valid h, Option.isSome_some, if_true]
      rw [getElem?_write hwritten, getElem?_write (hwritten.trans (by omega))]
      have hroom : ¬s.length * 2 + 1 ≤ s.length := by omega
      rw [if_neg]
      · simp [write, cString_append (zero_notMem h)]
      · simp only [hroom, false_or]
        simp

end

/-! ## No truncation -/

/-- The text between the arguments of `fmt`. -/
theorem format_fmt (password username : Str) :
    format fmt [password, username] =
      "SELECT username FROM login WHERE password='".toList ++ (password ++
        ("' AND username='".toList ++ (username ++
          "' AND credit > 0 AND account_state = 'ACTIVE'".toList))) := by
  rfl

/-- The four characters of the two `%s` leave room for the zero byte. -/
theorem length_format_fmt (password username : Str) :
    (format fmt [password, username]).length + 4 = lenq username password := by
  have hfmt : fmt.length = 108 := by decide
  rw [format_fmt, lenq, hfmt]
  simp only [List.length_append]
  rw [show "SELECT username FROM login WHERE password='".toList.length = 43 by decide,
    show "' AND username='".toList.length = 16 by decide,
    show "' AND credit > 0 AND account_state = 'ACTIVE'".toList.length = 45 by decide]
  omega

theorem snprintf_query (password username : Str) :
    snprintf (lenq username password) (format fmt [password, username]) =
      format fmt [password, username] := by
  have hroom := length_format_fmt password username
  rw [snprintf, List.take_of_length_le]
  omega

/-! ## What the server reads -/

theorem plain_of_isValidChar {s : Str} (h : s.all isValidChar = true) :
    ∀ c ∈ s, Plain '\'' c := by
  intro c hc
  have hvalid := List.all_eq_true.1 h c hc
  constructor
  · rintro rfl
    exact absurd hvalid (by decide)
  · rintro rfl
    exact absurd hvalid (by decide)

/-- Two literals of plain characters in their places. -/
theorem lex_query {password username : Str} (hpass : ∀ c ∈ password, Plain '\'' c)
    (huser : ∀ c ∈ username, Plain '\'' c) :
    lex (format fmt [password, username]) = some (selectTokens password username) := by
  have hhead : scan .start "SELECT username FROM login WHERE password='".toList =
      (.quoted '\'' [], (selectTokens [] []).take 7) := by decide +kernel
  have hmiddle : scan .start " AND username='".toList =
      (.quoted '\'' [], ((selectTokens [] []).drop 8).take 3) := by decide +kernel
  have htail : tokens .start " AND credit > 0 AND account_state = 'ACTIVE'".toList =
      some ((selectTokens [] []).drop 12) := by decide +kernel
  have husername : tokens (.quoted '\'' []) (username ++
      "' AND credit > 0 AND account_state = 'ACTIVE'".toList) =
        some (.string username :: (selectTokens [] []).drop 12) := by
    refine (tokens_literal huser (c := ' ') (by decide)
      "AND credit > 0 AND account_state = 'ACTIVE'".toList).trans ?_
    exact congrArg (Option.map _) htail
  have hpassword : tokens (.quoted '\'' []) (password ++ ("' AND username='".toList ++ (username ++
      "' AND credit > 0 AND account_state = 'ACTIVE'".toList))) =
        some (.string password :: (((selectTokens [] []).drop 8).take 3 ++
          .string username :: (selectTokens [] []).drop 12)) := by
    refine (tokens_literal hpass (c := ' ') (by decide) ("AND username='".toList ++ (username ++
      "' AND credit > 0 AND account_state = 'ACTIVE'".toList))).trans ?_
    refine (congrArg (Option.map _) (tokens_of_scan hmiddle)).trans ?_
    rw [husername]
    rfl
  rw [format_fmt, lex, tokens_of_scan hhead, hpassword]
  rfl

/-- **The query.**  For accepted credentials the escaping changes nothing and never
wipes, `snprintf` cuts nothing off, and the server reads the fixed `SELECT` whose
literals are the two texts. -/
theorem query_carries_credentials {mysqlEscapeString : (dest source : Str) → Str × Nat}
    (hlib : Escapes mysqlEscapeString) {envp : List Str} {username password : Str}
    (hpasses : Passes envp username password) (huser : asMysqlValidate (some username) = true)
    (hpass : asMysqlValidate (some password) = true) (rt rt' : Runtime) :
    (∀ s ∈ [username, password], ∀ rt,
      asMysqlEscapeString mysqlEscapeString rt (some s) ≠ .wiping ∧
      ((rt.malloc (s.length * 2 + 1 + 2)).isSome →
        asMysqlEscapeString mysqlEscapeString rt (some s) = .text s)) ∧
    (format fmt [password, username]).length < lenq username password ∧
    prepareQuery mysqlEscapeString rt rt' envp =
      (if (rt.malloc (username.length * 2 + 1 + 2)).isSome ∧
          (rt'.malloc (password.length * 2 + 1 + 2)).isSome then
        .query (format fmt [password, username])
      else .error) ∧
    lex (format fmt [password, username]) = some (selectTokens password username) := by
  have hu : username.all isValidChar = true := (Bool.and_eq_true_iff.1 huser).2
  have hp : password.all isValidChar = true := (Bool.and_eq_true_iff.1 hpass).2
  refine ⟨?_, ?_, ?_, lex_query (plain_of_isValidChar hp) (plain_of_isValidChar hu)⟩
  · intro s hs rt
    have hvalid : s.all isValidChar = true := by
      rcases List.mem_pair.1 hs with rfl | rfl
      · exact hu
      · exact hp
    rw [asMysqlEscapeString_eq hlib rt hvalid]
    split <;> simp_all
  · have hroom := length_format_fmt password username
    omega
  · obtain ⟨hname, hpassword⟩ := hpasses
    simp only [prepareQuery, hname, hpassword, huser, hpass, asMysqlEscapeString_eq hlib _ hu,
      asMysqlEscapeString_eq hlib _ hp]
    by_cases hfirst : (rt.malloc (username.length * 2 + 1 + 2)).isSome
    · by_cases hsecond : (rt'.malloc (password.length * 2 + 1 + 2)).isSome
      · simp [hfirst, hsecond, snprintf_query]
      · simp [hfirst, hsecond]
    · simp [hfirst]

/-- One byte of the input. -/
def escapeChar : Char → Str
  | '\x00' => ['\\', '0']
  | '\n' => ['\\', 'n']
  | '\r' => ['\\', 'r']
  | '\\' => ['\\', '\\']
  | '\'' => ['\\', '\'']
  | '"' => ['\\', '"']
  | '\x1a' => ['\\', 'Z']
  | c => [c]

/-- What MySQL 5 does. -/
def escapeString (dest source : Str) : Str × Nat :=
  (write (source.flatMap escapeChar ++ ['\x00']) dest, (source.flatMap escapeChar).length)

theorem escapes_escapeString : Escapes escapeString := by
  have htwo : special.all (fun c => (escapeChar c).length == 2) = true := by decide
  refine ⟨escapeChar, fun c hc => by simpa using List.all_eq_true.1 htwo c hc, fun c hc => ?_,
    fun _ _ => rfl⟩
  unfold escapeChar
  split <;> first | rfl | exact absurd (by decide) hc

/-- Memory that is always there, full of blanks. -/
def blankRuntime : Runtime := ⟨fun size => some (.replicate size ' '), 0x2a17⟩

theorem query_carries_ann :
    prepareQuery escapeString blankRuntime blankRuntime (credentials "ann".toList "a-b_c".toList) =
        .query (format fmt ["a-b_c".toList, "ann".toList]) ∧
      lex (format fmt ["a-b_c".toList, "ann".toList]) =
        some (selectTokens "a-b_c".toList "ann".toList) := by
  obtain ⟨-, -, hprepared, hlex⟩ := query_carries_credentials escapes_escapeString
    (passes_credentials "ann".toList "a-b_c".toList) (by decide) (by decide) blankRuntime blankRuntime
  exact ⟨hprepared.trans (if_pos ⟨rfl, rfl⟩), hlex⟩

/-! ## The plugin, from the text of its query -/

/-- The rows the server answers with, if it reads the `SELECT` of the plugin. -/
def mysqlQuery (db : Db) (text : Str) : Option (List Login) :=
  (lex text).bind fun ts =>
    match ts[7]?, ts[11]? with
    | some (Token.string password), some (Token.string username) =>
        if ts = selectTokens password username then
          some (db.login.rows.filter (admissible password username))
        else none
    | _, _ => none

/-- `openvpn_plugin_func_v1` with the query as a text; `none` is the loop that wipes. -/
def pluginFromText (mysqlEscapeString : (dest source : Str) → Str × Nat) (rt rt' : Runtime)
    (mysql : Option Db) (envp : List Str) : Option FuncResult :=
  match mysql with
  | none => some .ERROR
  | some db =>
      match prepareQuery mysqlEscapeString rt rt' envp with
      | .error => some .ERROR
      | .wiping => none
      | .query text =>
          match mysqlQuery db text with
          | some (row :: _) =>
              if (getEnv "username".toList envp).getD [] = row.username then some .SUCCESS
              else some .ERROR
          | _ => some .ERROR

theorem mysqlQuery_selectTokens {db : Db} {text password username : Str}
    (h : lex text = some (selectTokens password username)) :
    mysqlQuery db text = some (db.login.rows.filter (admissible password username)) := by
  simp [mysqlQuery, h, selectTokens]

/-- With memory, the plugin that goes through the text of the query decides as the
plugin that compares the credentials. -/
theorem pluginFromText_eq {mysqlEscapeString : (dest source : Str) → Str × Nat}
    (hlib : Escapes mysqlEscapeString) {rt rt' : Runtime} (hrt : ∀ n, (rt.malloc n).isSome)
    (hrt' : ∀ n, (rt'.malloc n).isSome) (mysql : Option Db) (envp : List Str) :
    pluginFromText mysqlEscapeString rt rt' mysql envp = some (openvpnPluginFuncV1 mysql envp) := by
  unfold pluginFromText prepareQuery openvpnPluginFuncV1
  generalize getEnv "username".toList envp = username
  generalize getEnv "password".toList envp = password
  cases mysql with
  | none => simp
  | some db =>
      cases huser : asMysqlValidate username with
      | false => simp [huser]
      | true =>
          cases hpass : asMysqlValidate password with
          | false => simp [huser, hpass]
          | true =>
              obtain ⟨username, rfl⟩ := exists_eq_some_of_asMysqlValidate huser
              obtain ⟨password, rfl⟩ := exists_eq_some_of_asMysqlValidate hpass
              have hu : username.all isValidChar = true := (Bool.and_eq_true_iff.1 huser).2
              have hp : password.all isValidChar = true := (Bool.and_eq_true_iff.1 hpass).2
              have hlex := lex_query (plain_of_isValidChar hp) (plain_of_isValidChar hu)
              simp only [huser, hpass, asMysqlEscapeString_eq hlib _ hu, asMysqlEscapeString_eq hlib _ hp, hrt,
                hrt', Bool.not_true, Bool.false_eq_true, if_false, if_true, Option.getD_some,
                snprintf_query, mysqlQuery_selectTokens hlex, ← List.head?_filter]
              cases db.login.rows.filter (admissible password username) with
              | nil => simp
              | cons row rows => simp; split <;> rfl

end ParDiff.OpenVpn
