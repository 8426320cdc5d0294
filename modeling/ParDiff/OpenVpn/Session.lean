import ParDiff.OpenVpn.Refresh

/-!
# The identity of a session

SQL compares four columns, and the comparison of texts ignores letter case and
trailing blanks; Perl compares one text in which the four values are joined by
colons, although a user name may contain colons itself.  For the clients a
server really reports the two agree with the plain equality of `SessionKey`, as long
as no two sessions differ only in what the collation ignores of their names.
-/

namespace ParDiff.OpenVpn

open Lib Lib.Text

structure SessionKey where
  username : Str
  ip : Str
  port : Int
  since : Int
  deriving DecidableEq, Repr

def rowKey (r : OpenvpnConnection) : SessionKey := ⟨r.username, r.ip, r.port, r.since⟩

def Client.key (c : Client) : SessionKey :=
  ⟨c.name, c.clientIp.getD [], intPrefix (c.clientPort.getD []), intPrefix c.since⟩

/-! ## Well-formed clients -/

/-- A dotted quad. -/
def IsIPv4 (s : Str) : Prop :=
  ∃ a < 256, ∃ b < 256, ∃ c < 256, ∃ d < 256,
    s = dec a ++ '.' :: (dec b ++ '.' :: (dec c ++ '.' :: dec d))

/-- What the server reports for a client: a name and an address that fit their
columns, with port and start in plain decimal. -/
def Client.WellFormed (c : Client) : Prop :=
  c.name.length ≤ 100 ∧ ∃ ip, IsIPv4 ip ∧ ∃ port < 2 ^ 31, ∃ since < 2 ^ 31,
    c.clientAddr = ip ++ ':' :: dec port ∧
      (c.connectSinceNumber = dec since ∨ c.connectSinceNumber = dec since ++ ['\n'])

/-- A row as such a client leaves it. -/
def WellFormedRow (r : OpenvpnConnection) : Prop :=
  IsIPv4 r.ip ∧ 0 ≤ r.port ∧ 0 ≤ r.since

theorem IsIPv4.mem {s : Str} (h : IsIPv4 s) {x : Char} (hx : x ∈ s) : x.isDigit ∨ x = '.' := by
  obtain ⟨a, -, b, -, c, -, d, -, rfl⟩ := h
  simp only [List.mem_append, List.mem_cons] at hx
  rcases hx with hx | rfl | hx | rfl | hx | rfl | hx
  · exact .inl (isDigit_of_mem_dec hx)
  · exact .inr rfl
  · exact .inl (isDigit_of_mem_dec hx)
  · exact .inr rfl
  · exact .inl (isDigit_of_mem_dec hx)
  · exact .inr rfl
  · exact .inl (isDigit_of_mem_dec hx)

theorem IsIPv4.length_le {s : Str} (h : IsIPv4 s) : s.length ≤ 20 := by
  obtain ⟨a, ha, b, hb, c, hc, d, hd, rfl⟩ := h
  have hdec : ∀ n < 256, (dec n).length ≤ 3 := fun n hn => length_dec_le (by decide) (by omega)
  have := hdec a ha
  have := hdec b hb
  have := hdec c hc
  have := hdec d hd
  simp only [List.length_append, List.length_cons]
  omega

theorem IsIPv4.colon_notMem {s : Str} (h : IsIPv4 s) : ':' ∉ s := by
  intro hx
  rcases h.mem hx with hd | hd <;> exact absurd hd (by decide)

theorem IsIPv4.fold_eq {s : Str} (h : IsIPv4 s) : fold s = s := by
  refine fold_eq_self fun c hc => ?_
  rcases h.mem hc with hd | rfl
  · refine ⟨toLower_of_isDigit hd, ?_⟩
    rintro rfl
    exact absurd hd (by decide)
  · decide

theorem colon_notMem_dec (n : Nat) : ':' ∉ dec n := fun h =>
  absurd (isDigit_of_mem_dec h) (by decide)

theorem splitAddr_eq {ip : Str} (hip : IsIPv4 ip) (port : Nat) :
    splitAddr (ip ++ ':' :: dec port) = (some ip, some (dec port)) := by
  have hall : ∀ c ∈ ip, decide (c ≠ ':') = true := by
    intro c hc
    have hne : c ≠ ':' := by
      rintro rfl
      exact hip.colon_notMem hc
    simpa using hne
  have hport : ∀ c ∈ dec port, decide (c ≠ ':') = true := by
    intro c hc
    have hne : c ≠ ':' := by
      rintro rfl
      exact colon_notMem_dec port hc
    simpa using hne
  have hdrop : (ip ++ ':' :: dec port).dropWhile (fun c => decide (c ≠ ':')) = ':' :: dec port := by
    rw [List.dropWhile_append_of_pos hall]
    simp
  have htake : (ip ++ ':' :: dec port).takeWhile (fun c => decide (c ≠ ':')) = ip := by
    rw [List.takeWhile_append_of_pos hall]
    simp
  rw [splitAddr, if_neg (by simp), hdrop, htake]
  simp only [Prod.mk.injEq, Option.some.injEq, true_and]
  exact List.takeWhile_eq_self_iff.2 hport

theorem Client.WellFormed.fields {c : Client} (h : c.WellFormed) :
    ∃ ip port since, IsIPv4 ip ∧ port < 2 ^ 31 ∧ since < 2 ^ 31 ∧ c.clientIp = some ip ∧
      c.clientPort = some (dec port) ∧ c.since = dec since := by
  obtain ⟨-, ip, hip, port, hport, since, hsince, haddr, hnumber⟩ := h
  refine ⟨ip, port, since, hip, hport, hsince, ?_, ?_, ?_⟩
  · rw [clientIp, haddr, splitAddr_eq hip]
  · rw [clientPort, haddr, splitAddr_eq hip]
  · rcases hnumber with hnumber | hnumber
    · rw [Client.since, hnumber, chomp_dec]
    · rw [Client.since, hnumber, chomp_newline]

/-! ## The two comparisons -/

theorem decInt_of_nonneg {z : Int} (h : 0 ≤ z) : decInt z = dec z.toNat := by
  obtain ⟨n, rfl⟩ := Int.eq_ofNat_of_zero_le h
  rfl

theorem hashStr_eq_iff {c : Client} (hc : c.WellFormed) {r : OpenvpnConnection}
    (hr : WellFormedRow r) : hashStr r = c.hashStr ↔ rowKey r = c.key := by
  obtain ⟨ip, port, since, hip, -, -, hclientIp, hclientPort, hclientSince⟩ := hc.fields
  obtain ⟨hrip, hrport, hrsince⟩ := hr
  rw [hashStr, Client.hashStr, rowKey, Client.key, hclientIp, hclientPort, hclientSince,
    decInt_of_nonneg hrport, decInt_of_nonneg hrsince]
  simp only [Option.getD_some, intPrefix_dec, SessionKey.mk.injEq]
  have hassoc : ∀ a b c d : Str, a ++ ':' :: (b ++ ':' :: (c ++ ':' :: d)) =
      ((a ++ ':' :: b) ++ ':' :: c) ++ ':' :: d := by simp
  rw [hassoc, hassoc, append_cons_inj_right (colon_notMem_dec _) (colon_notMem_dec _),
    append_cons_inj_right (colon_notMem_dec _) (colon_notMem_dec _),
    append_cons_inj_right hrip.colon_notMem hip.colon_notMem]
  constructor
  · rintro ⟨⟨⟨hname, hipEq⟩, hportEq⟩, hsinceEq⟩
    have := dec_injective hportEq
    have := dec_injective hsinceEq
    exact ⟨hname, hipEq, by omega, by omega⟩
  · rintro ⟨hname, hipEq, hportEq, hsinceEq⟩
    refine ⟨⟨⟨hname, hipEq⟩, ?_⟩, ?_⟩
    · rw [hportEq, Int.toNat_natCast]
    · rw [hsinceEq, Int.toNat_natCast]

/-- No two of the sessions differ only in letter case or trailing blanks of the
user name. -/
def Distinct (ks : List SessionKey) : Prop :=
  ∀ a ∈ ks, ∀ b ∈ ks, fold a.username = fold b.username → a.ip = b.ip → a.port = b.port →
    a.since = b.since → a = b

theorem sameSession_iff {ks : List SessionKey} (hks : Distinct ks) {c : Client}
    (hc : c.WellFormed) (hck : c.key ∈ ks) {r : OpenvpnConnection}
    (hr : WellFormedRow r) (hrk : rowKey r ∈ ks) :
    sameSession c r = true ↔ rowKey r = c.key := by
  obtain ⟨ip, port, since, hip, -, -, hclientIp, hclientPort, hclientSince⟩ := hc.fields
  have hkey : c.key = ⟨c.name, ip, port, since⟩ := by
    rw [Client.key, hclientIp, hclientPort, hclientSince]
    simp
  rw [hkey] at hck ⊢
  rw [sameSession, hclientIp, hclientPort, hclientSince]
  simp only [Bool.and_eq_true, ciEq_iff, decide_eq_true_eq, intPrefix_dec, hr.1.fold_eq,
    hip.fold_eq]
  constructor
  · rintro ⟨⟨⟨hipEq, hportEq⟩, hname⟩, hsinceEq⟩
    exact hks _ hrk _ hck hname hipEq hportEq hsinceEq
  · intro heq
    rw [rowKey, SessionKey.mk.injEq] at heq
    obtain ⟨hname, hipEq, hportEq, hsinceEq⟩ := heq
    exact ⟨⟨⟨hipEq, hportEq⟩, by rw [hname]⟩, hsinceEq⟩

theorem newRow_wellFormed {c : Client} (hc : c.WellFormed) :
    ∃ ip port, c.clientIp = some ip ∧ c.clientPort = some port ∧
      ∀ id, WellFormedRow (newRow c ip port id) ∧ rowKey (newRow c ip port id) = c.key := by
  obtain ⟨ip, port, since, hip, hport, hsince, hclientIp, hclientPort, hclientSince⟩ := hc.fields
  refine ⟨ip, dec port, hclientIp, hclientPort, fun id => ?_⟩
  have hname : c.name.take 100 = c.name := List.take_of_length_le hc.1
  have htake : ip.take 20 = ip := List.take_of_length_le hip.length_le
  have hportClamp : clampInt port = port := clampInt_of_range (by omega) (by omega)
  have hsinceClamp : clampInt since = since := clampInt_of_range (by omega) (by omega)
  simp only [newRow, rowKey, Client.key, WellFormedRow, hname, htake, hclientIp, hclientPort,
    hclientSince, intPrefix_dec, hportClamp, hsinceClamp, Option.getD_some]
  exact ⟨⟨hip, by omega, by omega⟩, trivial⟩

end ParDiff.OpenVpn
