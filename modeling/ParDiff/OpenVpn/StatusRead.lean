import ParDiff.OpenVpn.Status

/-!
# The clients that reach the script

Nothing of what the server prints looks like the end of the answer, except for a common
name with `END` in it.  Up to the first client of such a name the script gets every client
as it is, of that one it gets the front of the name, and after it nothing.
-/

namespace ParDiff.OpenVpn

open Lib Lib.Text

/-! ## Fields -/

theorem prompts_ne_nil : ∀ k ∈ prompts, k ≠ [] := by decide

theorem comma_notMem_prompts : ∀ k ∈ prompts, ',' ∉ k := by decide

theorem newline_notMem_prompts : ∀ k ∈ prompts, '\n' ∉ k := by decide

/-- All keywords have an `E`. -/
def isBland (c : Char) : Bool := c != 'E' && c != ',' && c != '\n' && c != '\r'

theorem plain_of_bland {s : Str} (h : ∀ c ∈ s, isBland c = true) : Plain s where
  comma hc := absurd (h _ hc) (by decide)
  newline hc := absurd (h _ hc) (by decide)
  ret hc := absurd (h _ hc) (by decide)
  silent := silent_of_notMem (c := 'E') (by decide) fun hc => absurd (h _ hc) (by decide)

theorem isBland_of_isDigit {c : Char} (h : c.isDigit = true) : isBland c = true := by
  simp only [isBland, Bool.and_eq_true, bne_iff_ne, ne_eq]
  refine ⟨⟨⟨?_, ?_⟩, ?_⟩, ?_⟩ <;> rintro rfl <;> exact absurd h (by decide)

theorem isBland_of_mem_dec {n : Nat} {c : Char} (h : c ∈ dec n) : isBland c = true :=
  isBland_of_isDigit (isDigit_of_mem_dec h)

theorem plain_dec (n : Nat) : Plain (dec n) := plain_of_bland fun _ hc => isBland_of_mem_dec hc

theorem InAddr.isIPv4 (x : InAddr) : IsIPv4 x.ntoa :=
  ⟨x.a, x.a.isLt, x.b, x.b.isLt, x.c, x.c.isLt, x.d, x.d.isLt, rfl⟩

theorem isBland_of_mem_printInAddrT {x : InAddr} {c : Char} (h : c ∈ printInAddrT x) :
    isBland c = true := by
  unfold printInAddrT at h
  split at h
  · simp at h
  · rcases x.isIPv4.mem h with hdigit | rfl
    · exact isBland_of_isDigit hdigit
    · decide

theorem isBland_of_mem_hexByte {b : Fin 256} {c : Char} (h : c ∈ hexByte b) :
    isBland c = true := by
  have hall : ∀ k < 16, isBland (Nat.digitChar k) = true := by decide
  simp only [hexByte, List.mem_cons, List.not_mem_nil, or_false] at h
  rcases h with rfl | rfl
  · exact hall _ (by omega)
  · exact hall _ (by omega)

theorem mem_intercalate {sep : Char} {ls : List Str} {c : Char}
    (h : c ∈ [sep].intercalate ls) : c = sep ∨ ∃ l ∈ ls, c ∈ l := by
  induction ls with
  | nil => simp [List.intercalate] at h
  | cons l ls ih =>
      cases ls with
      | nil => exact .inr ⟨l, by simp, by simpa [List.intercalate] using h⟩
      | cons l' ls =>
          rw [List.intercalate_cons_cons, List.mem_append, List.mem_append] at h
          rcases h with (h | h) | h
          · exact .inr ⟨l, by simp, h⟩
          · exact .inl (by simpa using h)
          · rcases ih h with hsep | ⟨l'', hl'', hc⟩
            · exact .inl hsep
            · exact .inr ⟨l'', List.mem_cons_of_mem _ hl'', hc⟩

theorem isBland_of_mem_mrouteAddrPrint {ma : MrouteAddr} {c : Char}
    (hc : c ∈ mrouteAddrPrint ma) : isBland c = true := by
  cases ma with
  | ether addr =>
      rcases mem_intercalate hc with rfl | ⟨l, hl, hmem⟩
      · decide
      · obtain ⟨b, -, rfl⟩ := List.mem_map.1 hl
        exact isBland_of_mem_hexByte hmem
  | ipv4 addr netbits port =>
      rcases List.mem_append.1 hc with hc | hc
      · rcases List.mem_append.1 hc with hc | hc
        · exact isBland_of_mem_printInAddrT hc
        · cases netbits with
          | none => exact absurd hc List.not_mem_nil
          | some n =>
              rcases List.mem_cons.1 hc with rfl | hc
              · decide
              · exact isBland_of_mem_dec hc
      · cases port with
        | none => exact absurd hc List.not_mem_nil
        | some p =>
            rcases List.mem_cons.1 hc with rfl | hc
            · decide
            · exact isBland_of_mem_dec hc
  | ipv6 => exact List.all_eq_true.1 (by decide : "IPV6".toList.all isBland = true) c hc
  | unknown => exact List.all_eq_true.1 (by decide : "UNKNOWN".toList.all isBland = true) c hc

theorem plain_mrouteAddrPrint (ma : MrouteAddr) : Plain (mrouteAddrPrint ma) :=
  plain_of_bland fun _ hc => isBland_of_mem_mrouteAddrPrint hc

/-! ## Lines -/

/-- The keywords that a common name cannot have. -/
def colonPrompts : List Str := ["SUCCESS:".toList, "ERROR:".toList]

theorem Plain.colon {s : Str} (h : Plain s) : Silent colonPrompts s := by
  have hsubset : colonPrompts ⊆ prompts := by decide
  exact fun k hk => h.silent k (hsubset hk)

/-- No such keyword is without its colon. -/
def isFieldChar (c : Char) : Bool := c != ',' && c != '\n' && c != '\r' && c != ':'

theorem field_of_all {s : Str} (h : s.all isFieldChar = true) :
    Field s ∧ Silent colonPrompts s := by
  have hmem : ∀ c, isFieldChar c = false → c ∉ s := by
    intro c hc hs
    rw [List.all_eq_true.1 h c hs] at hc
    exact absurd hc (by decide)
  exact ⟨⟨hmem _ (by decide), hmem _ (by decide), hmem _ (by decide)⟩,
    silent_of_notMem (c := ':') (by decide) (hmem _ (by decide))⟩

theorem fields_of_all {ws : List Str} (h : ws.all (·.all isFieldChar) = true) :
    ∀ g ∈ ws, Field g ∧ Silent colonPrompts g :=
  fun g hg => field_of_all (List.all_eq_true.1 h g hg)

theorem silent_cons {ks : List Str} {f : Str} (fs : List Str) (hks : ∀ k ∈ ks, ',' ∉ k)
    (h : ∀ g ∈ f :: fs, Silent ks g) : Silent ks (commaLine (f :: fs)) := by
  induction fs generalizing f with
  | nil => simpa [commaLine] using h f (by simp)
  | cons g fs ih =>
      have hsplit : commaLine (f :: g :: fs) = f ++ ',' :: commaLine (g :: fs) := by
        simp [commaLine, List.intercalate_cons_cons]
      rw [hsplit, silent_append_cons hks]
      exact ⟨h f (by simp), ih fun g' hg' => h g' (List.mem_cons_of_mem _ hg')⟩

theorem length_intercalate_le (sep : Char) (fs : List Str) :
    ([sep].intercalate fs).length ≤ (fs.map fun f => f.length + 1).sum := by
  induction fs with
  | nil => simp
  | cons f fs ih =>
      cases fs with
      | nil => simp
      | cons g fs =>
          rw [List.intercalate_cons_cons]
          simp only [List.length_append, List.length_singleton, List.map_cons,
            List.sum_cons] at ih ⊢
          omega

/-- A line as `status_printf` passes it on. -/
structure Printed (l : Str) : Prop where
  length : l.length < statusPrintfMaxlen
  newline : '\n' ∉ l
  ret : '\r' ∉ l
  colon : Silent colonPrompts l

theorem printed_commaLine {f : Str} {fs : List Str}
    (hfields : ∀ g ∈ f :: fs, Field g ∧ Silent colonPrompts g)
    (hlength : ((f :: fs).map fun g => g.length + 1).sum < statusPrintfMaxlen) :
    Printed (commaLine (f :: fs)) where
  length := lt_of_le_of_lt (length_intercalate_le _ _) hlength
  newline h := by
    rcases mem_intercalate h with hcomma | ⟨g, hg, hmem⟩
    · exact absurd hcomma (by decide)
    · exact (hfields g hg).1.newline hmem
  ret h := by
    rcases mem_intercalate h with hcomma | ⟨g, hg, hmem⟩
    · exact absurd hcomma (by decide)
    · exact (hfields g hg).1.ret hmem
  colon := silent_cons fs (by decide) fun g hg => (hfields g hg).2

theorem foldl_statusPrintf {ls : List Str} (h : ∀ l ∈ ls, Printed l) (lines : List Str) :
    ls.foldl statusPrintf ⟨false, lines⟩ = ⟨false, lines ++ ls⟩ := by
  induction ls generalizing lines with
  | nil => simp
  | cons l ls ih =>
      have hl := h l (by simp)
      have htext : l.rdropWhile (fun c => c == '\r' || c == '\n') = l := by
        rw [List.rdropWhile_eq_self_iff]
        intro hne hlast
        have hmem := List.getLast_mem hne
        simp only [Bool.or_eq_true, beq_iff_eq] at hlast
        rcases hlast with hlast | hlast
        · exact hl.ret (hlast ▸ hmem)
        · exact hl.newline (hlast ▸ hmem)
      have hstep : statusPrintf ⟨false, lines⟩ l = ⟨false, lines ++ [l]⟩ := by
        rw [statusPrintf, if_neg (by simpa using hl.length), htext]
      rw [List.foldl_cons, hstep, ih fun l' hl' => h l' (List.mem_cons_of_mem _ hl')]
      simp

/-! ## What is in the lines -/

/-- A client as the server has it: a connection that came about by events, and an
address. -/
structure MultiInstance.Sane (opt : SslOptions) (mi : MultiInstance) : Prop where
  reached : ∃ events, mi.tlsMulti = tlsRun opt .init events
  addr : mi.realAddr ≠ .undef
  created : mi.created < 2 ^ 31

structure MultiContext.Sane (opt : SslOptions) (m : MultiContext) : Prop where
  hash : ∀ mi ∈ m.hash, mi.Sane opt
  vhash : ∀ r ∈ m.vhash, r.instance'.Sane opt

theorem length_printInAddrT_le (x : InAddr) : (printInAddrT x).length ≤ 20 := by
  unfold printInAddrT
  split
  · simp
  · exact x.isIPv4.length_le

theorem length_mrouteAddrPrint_le (ma : MrouteAddr) : (mrouteAddrPrint ma).length ≤ 40 := by
  cases ma with
  | ether addr =>
      have hbytes : (((addr.take 6).map hexByte).map fun f => f.length + 1).sum ≤ 18 := by
        have hmap : ((addr.take 6).map hexByte).map (fun f => f.length + 1) =
            (addr.take 6).map fun _ => 3 := by
          rw [List.map_map]
          rfl
        rw [hmap, List.map_const', List.sum_replicate_nat, List.length_take]
        omega
      exact (length_intercalate_le _ _).trans (hbytes.trans (by decide))
  | ipv4 addr netbits port =>
      have haddr := length_printInAddrT_le addr
      have hbits : (netbits.elim ([] : Str) fun n => '/' :: dec n).length ≤ 4 := by
        cases netbits with
        | none => simp
        | some n =>
            have hn : (dec n).length ≤ 3 := length_dec_le (by decide) (by omega)
            exact Nat.succ_le_succ hn
      have hport : (port.elim ([] : Str) fun p => ':' :: dec p).length ≤ 6 := by
        cases port with
        | none => simp
        | some p =>
            have hp : (dec p).length ≤ 5 := length_dec_le (by decide) (by omega)
            exact Nat.succ_le_succ hp
      have hlength : (mrouteAddrPrint (.ipv4 addr netbits port)).length =
          (printInAddrT addr).length + (netbits.elim ([] : Str) fun n => '/' :: dec n).length +
            (port.elim ([] : Str) fun p => ':' :: dec p).length := by
        rw [← List.length_append, ← List.length_append]
        rfl
      omega
  | ipv6 => decide
  | unknown => decide

theorem length_unsigned_le (n : Nat) : (unsigned n).length ≤ 10 :=
  length_dec_le (by decide) (by omega)

theorem length_dec_toNat_le (n : UInt64) : (dec n.toNat).length ≤ 20 :=
  length_dec_le (by decide) (by have := n.toNat_lt; omega)

section Lines

variable {opt : SslOptions} (hopt : opt.usernameAsCommonName = true)
  (hremap : opt.noNameRemapping = false) {t : Texts} (ht : t.Documented)

include hopt hremap

theorem MultiInstance.Sane.commonName {mi : MultiInstance} (h : mi.Sane opt) :
    (∀ c ∈ mi.tlsMulti.tlsCommonName, isCommonNameChar c = true) ∧
      mi.tlsMulti.tlsCommonName.length < tlsCnLen := by
  obtain ⟨events, hreached⟩ := h.reached
  rw [hreached]
  exact tlsCommonName_class hopt hremap events

theorem MultiInstance.Sane.field {mi : MultiInstance} (h : mi.Sane opt) :
    Field mi.tlsMulti.tlsCommonName ∧ Silent colonPrompts mi.tlsMulti.tlsCommonName := by
  apply field_of_all
  rw [List.all_eq_true]
  intro c hc
  have hclass := (h.commonName hopt hremap).1 c hc
  simp only [isFieldChar, Bool.and_eq_true, bne_iff_ne, ne_eq]
  refine ⟨⟨⟨?_, ?_⟩, ?_⟩, ?_⟩ <;> rintro rfl <;> exact absurd hclass (by decide)

include ht

theorem printed_line {mi : MultiInstance} (h : mi.Sane opt) : Printed (mi.line t) := by
  have hcn := (h.commonName hopt hremap).2
  have htime := ht.timeString mi.created
  apply printed_commaLine
  · intro g hg
    simp only [MultiInstance.fields, List.mem_cons, List.not_mem_nil, or_false] at hg
    rcases hg with rfl | rfl | rfl | rfl | rfl | rfl | rfl | rfl
    · exact field_of_all (by decide)
    · exact h.field hopt hremap
    · exact ⟨(plain_mrouteAddrPrint _).toField, (plain_mrouteAddrPrint _).colon⟩
    · have hplain : Plain (printInAddrT mi.reportingAddr) :=
        plain_of_bland fun _ hc => isBland_of_mem_printInAddrT hc
      exact ⟨hplain.toField, hplain.colon⟩
    · exact ⟨(plain_dec _).toField, (plain_dec _).colon⟩
    · exact ⟨(plain_dec _).toField, (plain_dec _).colon⟩
    · exact ⟨htime.1.toField, htime.1.colon⟩
    · exact ⟨(plain_dec _).toField, (plain_dec _).colon⟩
  · have hreal := length_mrouteAddrPrint_le (.ipv4 mi.realAddr none mi.realPort)
    have hvirtual := length_printInAddrT_le mi.reportingAddr
    have hread := length_dec_toNat_le mi.linkReadBytes
    have hwrite := length_dec_toNat_le mi.linkWriteBytes
    have hcreated := length_unsigned_le mi.created
    have hword : "CLIENT_LIST".toList.length = 11 := by decide
    simp only [MultiInstance.fields, MultiInstance.real, List.map_cons, List.map_nil,
      List.sum_cons, List.sum_nil, hword, tlsCnLen, statusPrintfMaxlen] at *
    omega

theorem printed_routeLine {r : MultiRoute} (h : r.instance'.Sane opt) :
    Printed (MultiContext.routeLine t r) := by
  have hcn := (h.commonName hopt hremap).2
  have htime := ht.timeString r.lastReference
  have hflags : Plain (mrouteAddrPrint r.addr ++ if r.cache then ['C'] else []) := by
    apply plain_of_bland
    intro c hc
    rcases List.mem_append.1 hc with hc | hc
    · exact isBland_of_mem_mrouteAddrPrint hc
    · split at hc
      · rw [List.mem_singleton.1 hc]
        decide
      · simp at hc
  apply printed_commaLine
  · intro g hg
    simp only [List.mem_cons, List.not_mem_nil, or_false] at hg
    rcases hg with rfl | rfl | rfl | rfl | rfl | rfl
    · exact field_of_all (by decide)
    · exact ⟨hflags.toField, hflags.colon⟩
    · exact h.field hopt hremap
    · exact ⟨(plain_mrouteAddrPrint _).toField, (plain_mrouteAddrPrint _).colon⟩
    · exact ⟨htime.1.toField, htime.1.colon⟩
    · exact ⟨(plain_dec _).toField, (plain_dec _).colon⟩
  · have haddr := length_mrouteAddrPrint_le r.addr
    have hflag : (if r.cache then ['C'] else []).length ≤ 1 := by
      split
      · simp
      · simp
    have hreal := length_mrouteAddrPrint_le (.ipv4 r.instance'.realAddr none r.instance'.realPort)
    have hreference := length_unsigned_le r.lastReference
    have hword : "ROUTING_TABLE".toList.length = 13 := by decide
    simp only [MultiInstance.real, List.map_cons, List.map_nil, List.sum_cons, List.sum_nil,
      List.length_append, hword, tlsCnLen, statusPrintfMaxlen] at *
    omega

omit hopt hremap in
theorem printed_title (m : MultiContext) : ∀ l ∈ m.head t, Printed l := by
  intro l hl
  have htime := ht.timeString m.now
  simp only [MultiContext.head, List.mem_cons, List.not_mem_nil, or_false] at hl
  rcases hl with rfl | rfl | rfl
  · apply printed_commaLine
    · intro g hg
      simp only [List.mem_cons, List.not_mem_nil, or_false] at hg
      rcases hg with rfl | rfl
      · exact field_of_all (by decide)
      · exact ⟨ht.title.1.toField, ht.title.1.colon⟩
    · have hlength := ht.title.2
      have hword : "TITLE".toList.length = 5 := by decide
      simp only [List.map_cons, List.map_nil, List.sum_cons, List.sum_nil, hword,
        statusPrintfMaxlen]
      omega
  · apply printed_commaLine
    · intro g hg
      simp only [List.mem_cons, List.not_mem_nil, or_false] at hg
      rcases hg with rfl | rfl | rfl
      · exact field_of_all (by decide)
      · exact ⟨htime.1.toField, htime.1.colon⟩
      · exact ⟨(plain_dec _).toField, (plain_dec _).colon⟩
    · have hnow := length_unsigned_le m.now
      have hword : "TIME".toList.length = 4 := by decide
      simp only [List.map_cons, List.map_nil, List.sum_cons, List.sum_nil, hword,
        statusPrintfMaxlen]
      omega
  · exact printed_commaLine (fields_of_all (by decide)) (by decide)

theorem printed_tail {m : MultiContext} (hm : m.Sane opt) : ∀ l ∈ m.tail t, Printed l := by
  intro l hl
  simp only [MultiContext.tail, List.mem_append, List.mem_cons, List.mem_map] at hl
  rcases hl with (rfl | ⟨r, hr, rfl⟩) | hmbuf
  · exact printed_commaLine (fields_of_all (by decide)) (by decide)
  · exact printed_routeLine hopt hremap ht (hm.vhash r (List.mem_filter.1 hr).1)
  · cases hn : m.mbuf with
    | none => simp [hn] at hmbuf
    | some n =>
        rw [hn] at hmbuf
        obtain rfl := List.mem_singleton.1 hmbuf
        have hlength : (dec n).length ≤ 10 := length_dec_le (by decide) (by omega)
        apply printed_commaLine
        · intro g hg
          simp only [List.mem_cons, List.not_mem_nil, or_false] at hg
          rcases hg with rfl | rfl | rfl
          · exact field_of_all (by decide)
          · exact field_of_all (by decide)
          · exact ⟨(plain_dec _).toField, (plain_dec _).colon⟩
        · have hword : "GLOBAL_STATS".toList.length = 12 := by decide
          have hword' : "Max bcast/mcast queue length".toList.length = 28 := by decide
          simp only [List.map_cons, List.map_nil, List.sum_cons, List.sum_nil, hword, hword',
            statusPrintfMaxlen]
          omega

theorem printed_statusLines {m : MultiContext} (hm : m.Sane opt) :
    ∀ l ∈ m.statusLines t, Printed l := by
  intro l hl
  simp only [MultiContext.statusLines, List.mem_append, List.mem_singleton, List.mem_map] at hl
  rcases hl with ((hl | ⟨mi, hmi, rfl⟩) | hl) | rfl
  · exact printed_title ht m l hl
  · exact printed_line hopt hremap ht (hm.hash mi (List.mem_filter.1 hmi).1)
  · exact printed_tail hopt hremap ht hm l hl
  · exact ⟨by decide, by decide, by decide, by decide⟩

/-- No line is too long, so the answer is complete. -/
theorem multiPrintStatus_lines {m : MultiContext} (hm : m.Sane opt) :
    (multiPrintStatus t m).lines = m.statusLines t := by
  rw [multiPrintStatus, foldl_statusPrintf (printed_statusLines hopt hremap ht hm)]
  rfl

end Lines

/-! ## What the script reads -/

/-- What a line adds to the list of clients. -/
def clientRow (ln : Str) : Option (List Str) :=
  if ln.all isSpace then none
  else
    match after "ROUTING_TABLE," ln with
    | some _ => none
    | none => (after "CLIENT_LIST," ln).map splitComma

theorem read_clientList (ref : StatusRef) (ln : Str) :
    (ref.read ln).clientList = ref.clientList ++ (clientRow ln).toList := by
  unfold StatusRef.read clientRow
  by_cases hblank : ln.all isSpace = true
  · simp [hblank]
  · rw [if_neg hblank, if_neg hblank]
    cases after "ROUTING_TABLE," ln with
    | some rest => simp
    | none =>
        cases after "CLIENT_LIST," ln with
        | some rest => simp
        | none =>
            dsimp only
            split
            · simp
            · split
              · simp
              · split
                · simp
                · split <;> simp

theorem foldl_read_clientList (output : List Str) (ref : StatusRef) :
    (output.foldl StatusRef.read ref).clientList =
      ref.clientList ++ output.filterMap clientRow := by
  induction output generalizing ref with
  | nil => simp
  | cons ln output ih =>
      rw [List.foldl_cons, ih, read_clientList, List.filterMap_cons]
      cases clientRow ln with
      | none => simp
      | some row => simp

theorem after_append (front : String) (rest : Str) :
    after front (front.toList ++ rest) = some rest := by
  simp [after]

theorem clientRow_nil : clientRow [] = none := rfl

/-- Only the lines of clients begin with this letter. -/
theorem clientRow_of_ne {c : Char} (hc : c ≠ 'C') (ln : Str) : clientRow (c :: ln) = none := by
  have hclient : after "CLIENT_LIST," (c :: ln) = none := by
    rw [after, if_neg]
    intro hprefix
    exact hc (List.cons_prefix_cons.1 (List.isPrefixOf_iff_prefix.1 hprefix)).1.symm
  unfold clientRow
  split
  · rfl
  · rw [hclient]
    cases after "ROUTING_TABLE," (c :: ln) <;> rfl

theorem clientRow_client (rest : Str) :
    clientRow ("CLIENT_LIST".toList ++ ',' :: rest) = some (splitComma rest) := by
  have hline : "CLIENT_LIST".toList ++ ',' :: rest = "CLIENT_LIST,".toList ++ rest := rfl
  have hblank : ("CLIENT_LIST".toList ++ ',' :: rest).all isSpace = false := rfl
  have hrouting : after "ROUTING_TABLE," ("CLIENT_LIST".toList ++ ',' :: rest) = none := rfl
  rw [clientRow, hblank, if_neg (by decide), hrouting, hline, after_append]
  rfl

theorem splitComma_commaLine {fs : List Str} (hcomma : ∀ f ∈ fs, ',' ∉ f) {l : Str}
    (hl : ',' ∉ l) (hne : l ≠ []) : splitComma (commaLine (fs ++ [l])) = fs ++ [l] := by
  unfold splitComma commaLine
  rw [List.splitOn_intercalate]
  · rw [List.rdropWhile_concat_neg]
    simpa using hne
  · intro f hf
    rcases List.mem_append.1 hf with hf | hf
    · exact hcomma f hf
    · rw [List.mem_singleton.1 hf]
      exact hl
  · simp

theorem splitComma_of_notMem {s : Str} (h : ',' ∉ s) :
    splitComma s = if s = [] then [] else [s] := by
  have hsplit : s.splitOn ',' = [s] := by
    have hsingle : ([','].intercalate [s]).splitOn ',' = [s] :=
      List.splitOn_intercalate ',' (by simpa using h) (by simp)
    simpa using hsingle
  rw [splitComma, hsplit]
  by_cases hs : s = []
  · simp [hs, List.rdropWhile]
  · have hempty : s.isEmpty = false := by simpa using hs
    simp [hs, hempty, List.rdropWhile]

theorem filterMap_output (rs : List Str) :
    (if rs = [] then [[]] else rs).filterMap clientRow = rs.filterMap clientRow := by
  by_cases hnil : rs = []
  · simp [hnil, clientRow_nil]
  · rw [if_neg hnil]

theorem statusRef_clientList {cmd : TelnetCmd} (hcmd : cmd.Documented) {pre more : List Str}
    {bad before found : Str} (hpre : ∀ l ∈ pre, Silent prompts l ∧ '\n' ∉ l)
    (hbad : Printed bad) (hcut : cutAt prompts bad = some (before, found)) :
    (statusRef cmd (unlines (pre ++ bad :: more))).map (·.clientList) =
      some (pre.filterMap (fun l => clientRow (l ++ ['\n'])) ++ (clientRow before).toList) := by
  obtain ⟨hsplit, k, hk, hfound⟩ := cutAt_spec hcut
  have hend : "END".toList <:+: found ++ ['\n'] := by
    have hkind : k ∈ colonPrompts ∨ k = "END".toList := by
      simpa [prompts, colonPrompts, or_assoc] using hk
    rcases hkind with hcolon | rfl
    · have hinside : k <:+: bad := hsplit ▸ hfound.isInfix.trans (List.suffix_append _ _).isInfix
      exact absurd hinside (hbad.colon k hcolon)
    · exact hfound.isInfix.trans (List.prefix_append _ _).isInfix
  have hbefore : '\n' ∉ before := fun h => hbad.newline (by rw [hsplit]; simp [h])
  have hmatch : matchLine prompts (unlines (pre ++ bad :: more)) =
      some (unlines pre ++ before, found ++ ['\n']) :=
    matchLine_first newline_notMem_prompts (fun l hl => (hpre l hl).1) hbad.newline hcut
  have hrows : (if records (unlines pre ++ before) = [] then [[]]
      else records (unlines pre ++ before)).filterMap clientRow =
        pre.filterMap (fun l => clientRow (l ++ ['\n'])) ++ (clientRow before).toList := by
    have hlast : (records before).filterMap clientRow = (clientRow before).toList := by
      by_cases hnil : before = []
      · simp [hnil, records, clientRow_nil]
      · rw [records_last hbefore hnil]
        cases hrow : clientRow before <;> simp [hrow]
    have hrecords := records_unlines (fun l hl => (hpre l hl).2) before
    rw [← hlast, filterMap_output, hrecords, List.filterMap_append, List.filterMap_map]
    rfl
  rw [statusRef, hcmd _ _ _ hmatch]
  simp only [hend, if_true, Option.map_some, foldl_read_clientList, hrows]
  rfl

/-! ## Clients -/

namespace MultiInstance

/-- The client as the script should get it. -/
def client (t : Texts) (mi : MultiInstance) : Client :=
  ⟨mi.tlsMulti.tlsCommonName, mi.real, printInAddrT mi.reportingAddr,
    dec mi.linkReadBytes.toNat, dec mi.linkWriteBytes.toNat, t.timeString mi.created,
    unsigned mi.created ++ ['\n']⟩

/-- What it gets instead of one whose name looks like the end. -/
def cutClient (mi : MultiInstance) : Client :=
  .ofFields [((cutAt prompts mi.tlsMulti.tlsCommonName).map (·.1)).getD []]

/-- No keyword stands in the name. -/
def Quiet (mi : MultiInstance) : Prop := Silent prompts mi.tlsMulti.tlsCommonName

instance (mi : MultiInstance) : Decidable mi.Quiet :=
  inferInstanceAs (Decidable (Silent _ _))

end MultiInstance

/-- The clients that the script gets. -/
def MultiContext.delivered (t : Texts) (m : MultiContext) : List Client :=
  (m.live.takeWhile fun mi => decide mi.Quiet).map (·.client t) ++
    ((m.live.find? fun mi => !decide mi.Quiet).map (·.cutClient)).toList

theorem commaLine_append {fs : List Str} {l : Str} (x : Str) :
    commaLine (fs ++ [l]) ++ x = commaLine (fs ++ [l ++ x]) := by
  induction fs with
  | nil => simp [commaLine]
  | cons f fs ih =>
      have hne : ∀ l : Str, fs ++ [l] ≠ [] := by simp
      unfold commaLine at ih ⊢
      rw [List.cons_append, List.cons_append, List.intercalate_cons_of_ne_nil (hne _),
        List.intercalate_cons_of_ne_nil (hne _), ← ih]
      simp

theorem line_eq (t : Texts) (mi : MultiInstance) :
    mi.line t = "CLIENT_LIST".toList ++ ',' :: commaLine (mi.fields t) := by
  simp [MultiInstance.line, MultiInstance.fields, commaLine, List.intercalate_cons_cons]

/-- The other fields of a client hold no keyword. -/
theorem silent_line {t : Texts} (ht : t.Documented) {mi : MultiInstance} (hquiet : mi.Quiet) :
    Silent prompts (mi.line t) := by
  apply silent_cons _ comma_notMem_prompts
  intro g hg
  simp only [MultiInstance.fields, List.mem_cons, List.not_mem_nil, or_false] at hg
  rcases hg with rfl | rfl | rfl | rfl | rfl | rfl | rfl | rfl
  · decide
  · exact hquiet
  · exact (plain_mrouteAddrPrint _).silent
  · exact (plain_of_bland fun _ hc => isBland_of_mem_printInAddrT hc).silent
  · exact (plain_dec _).silent
  · exact (plain_dec _).silent
  · exact (ht.timeString _).1.silent
  · exact (plain_dec _).silent

/-- A line is cut off within the name. -/
theorem cutAt_line (t : Texts) {mi : MultiInstance} (hloud : ¬mi.Quiet) :
    ∃ found, cutAt prompts (mi.line t) = some ("CLIENT_LIST".toList ++
      ',' :: (((cutAt prompts mi.tlsMulti.tlsCommonName).map (·.1)).getD []), found) := by
  obtain ⟨front, found, hcut⟩ := cutAt_isSome prompts_ne_nil hloud
  obtain ⟨rest, hrest⟩ : ∃ rest, commaLine (mi.fields t) =
      mi.tlsMulti.tlsCommonName ++ ',' :: rest :=
    ⟨_, by simp [MultiInstance.fields, commaLine, List.intercalate_cons_cons]; rfl⟩
  refine ⟨found ++ ',' :: rest, ?_⟩
  rw [line_eq, cutAt_append_cons_of_silent comma_notMem_prompts (by decide), hrest,
    cutAt_append_cons comma_notMem_prompts hcut, hcut]
  rfl

/-- The lines before and after those of the clients are none of a client. -/
theorem head_ne_of_mem {t : Texts} {m : MultiContext} {l : Str}
    (hl : l ∈ m.head t ∨ l ∈ m.tail t ++ ["END".toList]) : ∃ c s, l = c :: s ∧ c ≠ 'C' := by
  have hword : ∀ (w : String) (fs : List Str), w.toList.head?.any (· ≠ 'C') = true →
      ∃ c s, commaLine (w.toList :: fs) = c :: s ∧ c ≠ 'C' := by
    intro w fs hw
    cases hlist : w.toList with
    | nil => simp [hlist] at hw
    | cons c s =>
        refine ⟨c, ?_, ?_, by simpa [hlist] using hw⟩
        · exact (commaLine ((c :: s) :: fs)).tail
        · cases fs with
          | nil => simp [commaLine]
          | cons f fs => simp [commaLine, List.intercalate_cons_cons]
  simp only [MultiContext.head, MultiContext.tail, List.mem_append, List.mem_cons,
    List.not_mem_nil, or_false, List.mem_map] at hl
  rcases hl with (rfl | rfl | rfl) | ((rfl | ⟨r, -, rfl⟩) | hmbuf) | rfl
  · exact hword _ _ (by decide)
  · exact hword _ _ (by decide)
  · exact hword _ _ (by decide)
  · exact hword _ _ (by decide)
  · exact hword _ _ (by decide)
  · cases hn : m.mbuf with
    | none => simp [hn] at hmbuf
    | some n =>
        rw [hn] at hmbuf
        obtain rfl := List.mem_singleton.1 hmbuf
        exact hword _ _ (by decide)
  · exact ⟨'E', ['N', 'D'], rfl, by decide⟩

theorem silent_title {t : Texts} (ht : t.Documented) (m : MultiContext) : ∀ l ∈ m.head t, Silent prompts l := by
  intro l hl
  simp only [MultiContext.head, List.mem_cons, List.not_mem_nil, or_false] at hl
  rcases hl with rfl | rfl | rfl
  · apply silent_cons _ comma_notMem_prompts
    intro g hg
    simp only [List.mem_cons, List.not_mem_nil, or_false] at hg
    rcases hg with rfl | rfl
    · decide
    · exact ht.title.1.silent
  · apply silent_cons _ comma_notMem_prompts
    intro g hg
    simp only [List.mem_cons, List.not_mem_nil, or_false] at hg
    rcases hg with rfl | rfl | rfl
    · decide
    · exact (ht.timeString _).1.silent
    · exact (plain_dec _).silent
  · exact silent_cons _ comma_notMem_prompts (by decide)

theorem ofFields_front (s : Str) :
    Client.ofFields (if s = [] then [] else [s]) = Client.ofFields [s] := by
  by_cases hs : s = []
  · rw [if_pos hs, hs]
    rfl
  · rw [if_neg hs]

section Clients

variable {opt : SslOptions} (hopt : opt.usernameAsCommonName = true)
  (hremap : opt.noNameRemapping = false) {t : Texts} (ht : t.Documented)

include hopt hremap ht

theorem clientRow_line {mi : MultiInstance} (h : mi.Sane opt) :
    (clientRow (mi.line t ++ ['\n'])).map Client.ofFields = some (mi.client t) := by
  have hfields : mi.fields t = [mi.tlsMulti.tlsCommonName, mi.real,
      printInAddrT mi.reportingAddr, dec mi.linkReadBytes.toNat, dec mi.linkWriteBytes.toNat,
      t.timeString mi.created] ++ [unsigned mi.created] := rfl
  have hline : mi.line t ++ ['\n'] = "CLIENT_LIST".toList ++ ',' :: commaLine
      ([mi.tlsMulti.tlsCommonName, mi.real, printInAddrT mi.reportingAddr,
        dec mi.linkReadBytes.toNat, dec mi.linkWriteBytes.toNat, t.timeString mi.created] ++
        [unsigned mi.created ++ ['\n']]) := by
    rw [line_eq, hfields, ← commaLine_append, List.append_assoc, List.cons_append]
  rw [hline, clientRow_client, splitComma_commaLine]
  · rfl
  · intro f hf
    simp only [List.mem_cons, List.not_mem_nil, or_false] at hf
    rcases hf with rfl | rfl | rfl | rfl | rfl | rfl
    · exact (h.field hopt hremap).1.comma
    · exact (plain_mrouteAddrPrint _).comma
    · exact (plain_of_bland fun _ hc => isBland_of_mem_printInAddrT hc).comma
    · exact (plain_dec _).comma
    · exact (plain_dec _).comma
    · exact (ht.timeString _).1.comma
  · have hcomma := (plain_dec (mi.created % 2 ^ 32)).comma
    simpa [unsigned] using hcomma
  · simp

theorem rows_of_clients {mis : List MultiInstance} (hmis : ∀ mi ∈ mis, mi.Sane opt) :
    ((mis.map (·.line t)).filterMap fun l => clientRow (l ++ ['\n'])).map Client.ofFields =
      mis.map (·.client t) := by
  induction mis with
  | nil => rfl
  | cons mi mis ih =>
      obtain ⟨row, hrow, hclient⟩ :=
        Option.map_eq_some_iff.1 (clientRow_line hopt hremap ht (hmis mi (by simp)))
      rw [List.map_cons, List.filterMap_cons_some (f := fun l => clientRow (l ++ ['\n'])) hrow,
        List.map_cons, hclient,
        ih fun mi' hmi' => hmis mi' (List.mem_cons_of_mem _ hmi')]
      rfl

/-- The answer ends in the first line with a keyword. -/
theorem statusClients_of_split {cmd : TelnetCmd} (hcmd : cmd.Documented) {m : MultiContext}
    (hm : m.Sane opt) {mis : List MultiInstance} (hmis : ∀ mi ∈ mis, mi.Sane opt ∧ mi.Quiet)
    {clean more : List Str} {bad before found : Str}
    (hlines : m.statusLines t = (m.head t ++ mis.map (·.line t) ++ clean) ++ bad :: more)
    (hclean : ∀ l ∈ clean, Silent prompts l ∧ clientRow (l ++ ['\n']) = none)
    (hcut : cutAt prompts bad = some (before, found)) :
    statusClients cmd t m =
      some (mis.map (·.client t) ++ ((clientRow before).map Client.ofFields).toList) := by
  have hprinted := printed_statusLines hopt hremap ht hm
  rw [hlines] at hprinted
  have hpre : ∀ l ∈ m.head t ++ mis.map (·.line t) ++ clean, Silent prompts l ∧ '\n' ∉ l := by
    intro l hl
    refine ⟨?_, (hprinted l (List.mem_append_left _ hl)).newline⟩
    simp only [List.mem_append, List.mem_map] at hl
    rcases hl with (hl | ⟨mi, hmi, rfl⟩) | hl
    · exact silent_title ht m l hl
    · exact silent_line ht (hmis mi hmi).2
    · exact (hclean l hl).1
  have hhead : (m.head t).filterMap (fun l => clientRow (l ++ ['\n'])) = [] := by
    rw [List.filterMap_eq_nil_iff]
    intro l hl
    obtain ⟨c, s, rfl, hc⟩ := head_ne_of_mem (.inl hl)
    exact clientRow_of_ne hc _
  have hnone : clean.filterMap (fun l => clientRow (l ++ ['\n'])) = [] :=
    List.filterMap_eq_nil_iff.2 fun l hl => (hclean l hl).2
  have href : (statusRef cmd (unlines ((m.head t ++ mis.map (·.line t) ++ clean) ++
      bad :: more))).map (·.clientList) = _ :=
    statusRef_clientList hcmd hpre (hprinted bad (by simp)) hcut
  rw [← hlines, List.filterMap_append, List.filterMap_append, hhead, hnone] at href
  have hclients : statusClients cmd t m = ((statusRef cmd (unlines (m.statusLines t))).map
      (·.clientList)).map (·.map Client.ofFields) := by
    rw [statusClients, multiPrintStatus_lines hopt hremap ht hm, Option.map_map]
    rfl
  rw [hclients, href, Option.map_some, List.nil_append, List.append_nil, List.map_append,
    rows_of_clients hopt hremap ht fun mi hmi => (hmis mi hmi).1]
  cases clientRow before <;> rfl

/-- The script gets the clients before the first one whose name looks like the end of an
answer, and the front of that name. -/
theorem statusClients_eq {cmd : TelnetCmd} (hcmd : cmd.Documented) {m : MultiContext}
    (hm : m.Sane opt) : statusClients cmd t m = some (m.delivered t) := by
  have hsane : ∀ mi ∈ m.live, mi.Sane opt := fun mi hmi => hm.hash mi (List.mem_filter.1 hmi).1
  cases hfind : m.live.find? fun mi => !decide mi.Quiet with
  | none =>
      have hquiet : ∀ mi ∈ m.live, mi.Quiet := by
        simpa using hfind
      have hend : ∃ l ∈ m.tail t ++ ["END".toList], ¬Silent prompts l :=
        ⟨"END".toList, by simp, by decide⟩
      obtain ⟨clean, bad, more, hrest, hclean, hbad⟩ := exists_first_line hend
      obtain ⟨before, found, hcut⟩ := cutAt_isSome prompts_ne_nil hbad
      have hother : ∀ l ∈ clean ++ bad :: more, ∃ c s, l = c :: s ∧ c ≠ 'C' := by
        intro l hl
        exact head_ne_of_mem (t := t) (m := m) (.inr (by rwa [hrest]))
      have hlines : m.statusLines t =
          (m.head t ++ m.live.map (·.line t) ++ clean) ++ bad :: more := by
        rw [MultiContext.statusLines, List.append_assoc _ (m.tail t), hrest]
        simp
      have hbefore : clientRow before = none := by
        obtain ⟨c, s, hbad', hc⟩ := hother bad (by simp)
        cases before with
        | nil => exact clientRow_nil
        | cons d before =>
            have hd : c :: s = d :: before ++ found := hbad' ▸ (cutAt_spec hcut).1
            obtain ⟨rfl, -⟩ : c = d ∧ s = before ++ found := by simpa using hd
            exact clientRow_of_ne hc _
      have htake : m.live.takeWhile (fun mi => decide mi.Quiet) = m.live :=
        List.takeWhile_eq_self_iff.2 fun mi hmi => decide_eq_true (hquiet mi hmi)
      rw [statusClients_of_split hopt hremap ht hcmd hm
        (fun mi hmi => ⟨hsane mi hmi, hquiet mi hmi⟩) hlines ?_ hcut, hbefore,
        MultiContext.delivered, hfind, htake]
      · rfl
      · intro l hl
        obtain ⟨c, s, rfl, hc⟩ := hother l (List.mem_append_left _ hl)
        exact ⟨hclean _ hl, clientRow_of_ne hc _⟩
  | some mi =>
      obtain ⟨hloud, good, rest, hlive, hgood⟩ := List.find?_eq_some_iff_append.1 hfind
      have hloud : ¬mi.Quiet := by simpa using hloud
      have hgood : ∀ mi' ∈ good, mi'.Quiet := fun mi' hmi' => by simpa using hgood mi' hmi'
      have hsane' : ∀ mi' ∈ good ++ mi :: rest, mi'.Sane opt := hlive ▸ hsane
      obtain ⟨found, hcut⟩ := cutAt_line t hloud
      have hlines : m.statusLines t = (m.head t ++ good.map (·.line t) ++ []) ++
          mi.line t :: (rest.map (·.line t) ++ (m.tail t ++ ["END".toList])) := by
        rw [MultiContext.statusLines, hlive]
        simp
      have htake : m.live.takeWhile (fun mi' => decide mi'.Quiet) = good := by
        rw [hlive, List.takeWhile_append_of_pos fun mi' hmi' => decide_eq_true (hgood mi' hmi')]
        simp [hloud]
      rw [statusClients_of_split hopt hremap ht hcmd hm
        (fun mi' hmi' => ⟨hsane' mi' (List.mem_append_left _ hmi'), hgood mi' hmi'⟩) hlines
        (by simp) hcut, clientRow_client, MultiContext.delivered, hfind, htake]
      have hcomma : ',' ∉ ((cutAt prompts mi.tlsMulti.tlsCommonName).map (·.1)).getD [] := by
        obtain ⟨front, found', hname⟩ := cutAt_isSome prompts_ne_nil hloud
        intro hmem
        rw [hname] at hmem
        have hfield := (hsane' mi (by simp)).field hopt hremap
        apply hfield.1.comma
        rw [(cutAt_spec hname).1]
        exact List.mem_append_left _ hmem
      rw [splitComma_of_notMem hcomma, Option.map_some, Option.map_some, ofFields_front]
      rfl

end Clients

end ParDiff.OpenVpn
