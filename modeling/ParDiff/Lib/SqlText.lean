import ParDiff.Lib.Numeral

/-!
# SQL as text

The lexical rules by which MySQL reads a statement.  A string literal stands
between single or double quotes; a backslash escapes the character after it and a
doubled quote stands for the quote.  Names may stand between backquotes.  `#`,
`-- ` and `/* … */` start comments.

The lexer reads one character at a time, so that reading a text from the left is
a run of `next`, and what was read so far is in the mode.  A number is a word
that starts with a digit or a dot.  A comment `/*! … */`, whose text the server
would execute, is read as a comment.
-/

namespace ParDiff.Lib.SqlText

open Text

inductive Token
  | word (text : Str)
  /-- A string literal, with its escapes resolved. -/
  | string (value : Str)
  /-- A name between backquotes. -/
  | name (text : Str)
  | symbol (c : Char)
  deriving DecidableEq, Repr

inductive Mode
  | start
  | word (read : Str)
  | quoted (quote : Char) (read : Str)
  | escape (quote : Char) (read : Str)
  /-- After a quote that ends the literal, unless another one follows. -/
  | quoteEnd (quote : Char) (read : Str)
  | dash
  | dashDash
  | slash
  | block
  | blockStar
  | line
  deriving DecidableEq, Repr

def isWordChar (c : Char) : Bool :=
  c.isAlphanum || c == '_' || c == '$' || decide (128 ≤ c.toNat)

/-- Digits, of which one may be a dot, and the mark of an exponent. -/
def endsInExponent (w : Str) : Bool :=
  (w.getLast? == some 'e' || w.getLast? == some 'E') &&
    w.dropLast.any Char.isDigit && w.dropLast.all (fun c => c.isDigit || c == '.') &&
    w.dropLast.count '.' ≤ 1

/-- The character belongs to the word before it: a dot after the digits of a
number, and a sign after the mark of its exponent, do. -/
def continues (w : Str) (c : Char) : Bool :=
  isWordChar c || (c == '.' && w.all Char.isDigit) ||
    ((c == '+' || c == '-') && endsInExponent w)

/-- What a backslash and a character stand for in a literal.  `\%` and `\_` are for
patterns and keep the backslash. -/
def unescape : Char → Str
  | '0' => ['\x00']
  | 'b' => ['\x08']
  | 'n' => ['\n']
  | 'r' => ['\r']
  | 't' => ['\t']
  | 'Z' => ['\x1a']
  | '%' => ['\\', '%']
  | '_' => ['\\', '_']
  | c => [c]

def quotedToken (quote : Char) (read : Str) : Token :=
  if quote = '`' then .name read else .string read

def emit (t : Token) : Mode × List Token → Mode × List Token
  | (m, ts) => (m, t :: ts)

/-- The first character of something new. -/
def fresh (c : Char) : Mode × List Token :=
  if isSpace c then (.start, [])
  else if c = '\'' ∨ c = '"' ∨ c = '`' then (.quoted c [], [])
  else if c = '#' then (.line, [])
  else if c = '-' then (.dash, [])
  else if c = '/' then (.slash, [])
  else if isWordChar c ∨ c = '.' then (.word [c], [])
  else (.start, [.symbol c])

def afterDash (c : Char) : Mode × List Token :=
  if c = '-' then (.dashDash, []) else emit (.symbol '-') (fresh c)

/-- Read one character: the tokens that it completes come first. -/
def next : Mode → Char → Mode × List Token
  | .start, c => fresh c
  | .word w, c => if continues w c then (.word (w ++ [c]), []) else emit (.word w) (fresh c)
  | .quoted q s, c =>
      if c = q then (.quoteEnd q s, [])
      else if c = '\\' ∧ q ≠ '`' then (.escape q s, [])
      else (.quoted q (s ++ [c]), [])
  | .escape q s, c => (.quoted q (s ++ unescape c), [])
  | .quoteEnd q s, c =>
      if c = q then (.quoted q (s ++ [q]), []) else emit (quotedToken q s) (fresh c)
  | .dash, c => afterDash c
  -- two dashes are a comment only before a blank or a control character
  | .dashDash, c =>
      if isSpace c ∨ c.toNat < 32 then
        if c = '\n' then (.start, []) else (.line, [])
      else emit (.symbol '-') (afterDash c)
  | .slash, c => if c = '*' then (.block, []) else emit (.symbol '/') (fresh c)
  | .block, c => if c = '*' then (.blockStar, []) else (.block, [])
  | .blockStar, c =>
      if c = '/' then (.start, []) else if c = '*' then (.blockStar, []) else (.block, [])
  | .line, c => if c = '\n' then (.start, []) else (.line, [])

/-- The tokens at the end of the text; an open literal or comment is an error. -/
def finish : Mode → Option (List Token)
  | .start => some []
  | .word w => some [.word w]
  | .quoted _ _ => none
  | .escape _ _ => none
  | .quoteEnd q s => some [quotedToken q s]
  | .dash => some [.symbol '-']
  | .dashDash => some []
  | .slash => some [.symbol '/']
  | .block => none
  | .blockStar => none
  | .line => some []

/-- The tokens of a text that is read from the mode on. -/
def tokens : Mode → Str → Option (List Token)
  | m, [] => finish m
  | m, c :: s => (tokens (next m c).1 s).map ((next m c).2 ++ ·)

/-- The tokens of a statement. -/
def lex (s : Str) : Option (List Token) := tokens .start s

/-! ## Reading in parts -/

/-- The mode after a text, and the tokens it completed. -/
def scan : Mode → Str → Mode × List Token
  | m, [] => (m, [])
  | m, c :: s => ((scan (next m c).1 s).1, (next m c).2 ++ (scan (next m c).1 s).2)

theorem tokens_append (m : Mode) (a b : Str) :
    tokens m (a ++ b) = (tokens (scan m a).1 b).map ((scan m a).2 ++ ·) := by
  induction a generalizing m with
  | nil => simp [scan]
  | cons c a ih => simp [scan, tokens, ih, Function.comp_def]

theorem scan_append (m : Mode) (a b : Str) :
    scan m (a ++ b) = ((scan (scan m a).1 b).1, (scan m a).2 ++ (scan (scan m a).1 b).2) := by
  induction a generalizing m with
  | nil => simp [scan]
  | cons c a ih => simp [scan, ih]

/-- A text that a scan reads up to the mode `m'`. -/
theorem tokens_of_scan {m m' : Mode} {a b : Str} {ts : List Token} (h : scan m a = (m', ts)) :
    tokens m (a ++ b) = (tokens m' b).map (ts ++ ·) := by
  rw [tokens_append, h]

/-- A character that a literal between these quotes holds as it is. -/
def Plain (quote c : Char) : Prop := c ≠ quote ∧ c ≠ '\\'

theorem plain_of_all {q : Char} {s : Str} (h : s.all (fun c => c != q && c != '\\') = true) :
    ∀ c ∈ s, Plain q c := by
  intro c hc
  simpa [Plain] using List.all_eq_true.1 h c hc

theorem plain_append {q : Char} {a b : Str} (ha : ∀ c ∈ a, Plain q c) (hb : ∀ c ∈ b, Plain q c) :
    ∀ c ∈ a ++ b, Plain q c := by
  intro c hc
  exact (List.mem_append.1 hc).elim (ha c) (hb c)

theorem scan_quoted {q : Char} {a : Str} (h : ∀ c ∈ a, Plain q c) (s : Str) :
    scan (.quoted q s) a = (.quoted q (s ++ a), []) := by
  induction a generalizing s with
  | nil => simp [scan]
  | cons c a ih =>
      obtain ⟨hquote, hescape⟩ := h c (by simp)
      have ha : ∀ c ∈ a, Plain q c := fun c hc => h c (by simp [hc])
      simp [scan, next, hquote, hescape, ih ha]

/-- The end of a literal: the next character is not the quote again. -/
theorem tokens_quoted_close {q c : Char} (h : c ≠ q) (s b : Str) :
    tokens (.quoted q s) (q :: c :: b) =
      (tokens .start (c :: b)).map (quotedToken q s :: ·) := by
  simp [tokens, next, h, emit, Function.comp_def]

/-- A literal of plain characters, from the character after its opening quote on. -/
theorem tokens_literal {q c : Char} {a : Str} (ha : ∀ c ∈ a, Plain q c) (hc : c ≠ q) (b : Str) :
    tokens (.quoted q []) (a ++ q :: c :: b) =
      (tokens .start (c :: b)).map (quotedToken q a :: ·) := by
  rw [tokens_of_scan (scan_quoted ha []), tokens_quoted_close hc]
  simp [Function.comp_def]

/-! ## Numbers -/

theorem isWordChar_of_isDigit {c : Char} (h : c.isDigit) : isWordChar c = true := by
  simp [isWordChar, Char.isAlphanum, h]

theorem scan_word {a : Str} (h : ∀ c ∈ a, isWordChar c = true) (w : Str) :
    scan (.word w) a = (.word (w ++ a), []) := by
  induction a generalizing w with
  | nil => simp [scan]
  | cons c a ih =>
      have hc : continues w c = true := by simp [continues, h c]
      have ha : ∀ c ∈ a, isWordChar c = true := fun c hc => h c (by simp [hc])
      simp [scan, next, hc, ih ha]

/-- The digits of a number before its exponent. -/
structure IsMantissa (w : Str) : Prop where
  digit : ∃ c ∈ w, c.isDigit
  digits : ∀ c ∈ w, c.isDigit ∨ c = '.'
  dot : w.count '.' ≤ 1

theorem IsMantissa.endsInExponent {w : Str} (h : IsMantissa w) {mark : Char}
    (hmark : mark = 'e' ∨ mark = 'E') : endsInExponent (w ++ [mark]) = true := by
  have hdigit : w.any Char.isDigit = true := List.any_eq_true.2 h.digit
  have hdigits : w.all (fun c => c.isDigit || c == '.') = true := by simpa using h.digits
  rcases hmark with rfl | rfl <;> simp [SqlText.endsInExponent, hdigit, hdigits, h.dot]

theorem scan_exponent {w : Str} (hw : IsMantissa w) {e : Exponent} (he : e.Valid) :
    scan (.word w) e.text = (.word (w ++ e.text), []) := by
  have hmark : isWordChar e.mark = true := by rcases he.mark with h | h <;> rw [h] <;> decide
  have hdigits : ∀ c ∈ e.digits, isWordChar c = true :=
    fun c hc => isWordChar_of_isDigit (he.digits c hc)
  have hcontinues : continues w e.mark = true := by simp [continues, hmark]
  have hexponent := hw.endsInExponent he.mark
  rw [Exponent.text]
  cases hsign : e.sign with
  | none => simp [scan, next, hcontinues, scan_word hdigits]
  | some c =>
      have hc : continues (w ++ [e.mark]) c = true := by
        rcases he.sign c hsign with rfl | rfl <;> simp [continues, hexponent]
      simp [scan, next, hcontinues, hc, scan_word hdigits]

/-- The fraction of a number, after its digits. -/
theorem scan_fraction {w : Str} (hw : ∀ c ∈ w, c.isDigit) {f : Str} (hf : ∀ c ∈ f, c.isDigit) :
    scan (.word w) ('.' :: f) = (.word (w ++ '.' :: f), []) := by
  have hdot : continues w '.' = true := by
    have hdigits : w.all Char.isDigit = true := List.all_eq_true.2 hw
    simp [continues, hdigits]
  have hword : ∀ c ∈ f, isWordChar c = true := fun c hc => isWordChar_of_isDigit (hf c hc)
  simp [scan, next, hdot, scan_word hword]

theorem isSpace_of_isDigit {c : Char} (h : c.isDigit) : isSpace c = false := by
  refine Bool.eq_false_iff.2 fun hblank => ?_
  simp only [isSpace, Bool.or_eq_true, beq_iff_eq] at hblank
  rcases hblank with ((((rfl | rfl) | rfl) | rfl) | rfl) | rfl <;> exact absurd h (by decide)

theorem fresh_of_isDigit {c : Char} (h : c.isDigit) : fresh c = (.word [c], []) := by
  have hother : c ≠ '\'' ∧ c ≠ '"' ∧ c ≠ '`' ∧ c ≠ '#' ∧ c ≠ '-' ∧ c ≠ '/' := by
    refine ⟨?_, ?_, ?_, ?_, ?_, ?_⟩ <;> rintro rfl <;> exact absurd h (by decide)
  simp [fresh, isSpace_of_isDigit h, hother, isWordChar_of_isDigit h]

theorem scan_digits {w : Str} (hw : ∀ c ∈ w, c.isDigit) (hne : w ≠ []) :
    scan .start w = (.word w, []) := by
  obtain ⟨c, w, rfl⟩ := List.exists_cons_of_ne_nil hne
  have hword : ∀ c ∈ w, isWordChar c = true :=
    fun x hx => isWordChar_of_isDigit (hw x (by simp [hx]))
  simp [scan, next, fresh_of_isDigit (hw c (by simp)), scan_word hword]

/-- The number up to its exponent. -/
theorem scan_mantissa {whole : Str} {fraction : Option Str} {exponent : Option Exponent}
    (h : (Numeral.decimal whole fraction exponent).Valid) :
    scan .start (whole ++ fraction.elim [] ('.' :: ·)) =
        (.word (whole ++ fraction.elim [] ('.' :: ·)), []) ∧
      IsMantissa (whole ++ fraction.elim [] ('.' :: ·)) := by
  obtain ⟨hwhole, hfraction, hsome, -⟩ := h
  have hnodot : ∀ {s : Str}, (∀ c ∈ s, c.isDigit) → s.count '.' = 0 := by
    intro s hs
    refine List.count_eq_zero.2 fun hmem => ?_
    exact absurd (hs _ hmem) (by decide)
  cases fraction with
  | none =>
      have hne : whole ≠ [] := by simpa using hsome
      obtain ⟨c, hc⟩ := List.exists_mem_of_ne_nil whole hne
      simp only [Option.elim_none, List.append_nil]
      exact ⟨scan_digits hwhole hne, ⟨c, hc, hwhole c hc⟩, fun c hc => .inl (hwhole c hc),
        by simp [hnodot hwhole]⟩
  | some f =>
      have hf := hfraction f rfl
      simp only [Option.elim_some]
      refine ⟨?_, ?_, ?_, ?_⟩
      · by_cases hne : whole = []
        · have hword : ∀ c ∈ f, isWordChar c = true := fun c hc => isWordChar_of_isDigit (hf c hc)
          have hdot : fresh '.' = (.word ['.'], []) := by decide
          simp [hne, scan, next, hdot, scan_word hword]
        · rw [scan_append, scan_digits hwhole hne]
          simp [scan_fraction hwhole hf]
      · rcases hsome with hne | ⟨g, hg, hne⟩
        · obtain ⟨c, hc⟩ := List.exists_mem_of_ne_nil whole hne
          exact ⟨c, by simp [hc], hwhole c hc⟩
        · obtain rfl : f = g := by simpa using hg
          obtain ⟨c, hc⟩ := List.exists_mem_of_ne_nil f hne
          exact ⟨c, by simp [hc], hf c hc⟩
      · intro c hc
        rcases List.mem_append.1 hc with hc | hc
        · exact .inl (hwhole c hc)
        · rcases List.mem_cons.1 hc with rfl | hc
          · exact .inr rfl
          · exact .inl (hf c hc)
      · simp [hnodot hwhole, hnodot hf]

theorem isWordChar_of_isHexDigit {c : Char} (h : isHexDigit c = true) : isWordChar c = true := by
  simp only [isHexDigit, Bool.or_eq_true, Bool.and_eq_true, decide_eq_true_eq] at h
  have halpha : c.isAlphanum = true := by
    have hupper : c.isUpper = decide ('A'.val ≤ c.val ∧ c.val ≤ 'Z'.val) := rfl
    have hlower : c.isLower = (decide ('a'.val ≤ c.val) && decide (c.val ≤ 'z'.val)) := rfl
    change (c.isUpper || c.isLower || c.isDigit) = true
    simp only [hupper, hlower, Bool.or_eq_true, Bool.and_eq_true, decide_eq_true_eq]
    rcases h with (h | ⟨hlo, hhi⟩) | ⟨hlo, hhi⟩
    · exact .inr h
    · exact .inl (.inr ⟨hlo, UInt32.le_trans hhi (by decide)⟩)
    · exact .inl (.inl ⟨hlo, UInt32.le_trans hhi (by decide)⟩)
  simp [isWordChar, halpha]

/-- A number is one word. -/
theorem scan_numeral {n : Numeral} (h : n.Valid) : scan .start n.text = (.word n.text, []) := by
  cases n with
  | decimal whole fraction exponent =>
      obtain ⟨hscan, hmantissa⟩ := scan_mantissa h
      cases exponent with
      | none => simpa [Numeral.text] using hscan
      | some e =>
          rw [Numeral.text, ← List.append_assoc, scan_append, hscan]
          simp [scan_exponent hmantissa (h.2.2.2 e rfl)]
  | hex mark digits =>
      obtain ⟨hmark, -, hdigits⟩ := h
      have hword : ∀ c ∈ mark :: digits, isWordChar c = true := by
        intro c hc
        rcases List.mem_cons.1 hc with rfl | hc
        · rcases hmark with rfl | rfl <;> decide
        · exact isWordChar_of_isHexDigit (hdigits c hc)
      have hzero : fresh '0' = (.word ['0'], []) := by decide
      rw [Numeral.text, scan, next, hzero, scan_word hword]
      rfl

/-- The end of a word. -/
theorem tokens_word_close {w : Str} {c : Char} (h : continues w c = false) (b : Str) :
    tokens (.word w) (c :: b) = (tokens .start (c :: b)).map (.word w :: ·) := by
  simp [tokens, next, h, emit, Function.comp_def]

/-- Blanks, a sign and a number. -/
theorem scan_signed {blanks : Str} (hblanks : ∀ c ∈ blanks, isSpace c = true) {sign : Option Char}
    (hsign : ∀ c ∈ sign, c = '+' ∨ c = '-') {n : Numeral} (h : n.Valid) :
    scan .start (blanks ++ (sign.toList ++ n.text)) =
      (.word n.text, sign.toList.map .symbol) := by
  have hskip : scan .start blanks = (.start, []) := by
    induction blanks with
    | nil => rfl
    | cons c blanks ih =>
        have hc : fresh c = (.start, []) := by simp [fresh, hblanks c]
        simp [scan, next, hc, ih fun c hc => hblanks c (by simp [hc])]
  rw [scan_append, hskip]
  cases sign with
  | none => simp [scan_numeral h]
  | some c =>
      rcases hsign c rfl with rfl | rfl
      · have hplus : fresh '+' = (.start, [.symbol '+']) := by decide
        simp [scan, next, hplus, scan_numeral h]
      · have hdash : fresh '-' = (.dash, []) := by decide
        obtain ⟨x, s, htext, hx⟩ := Numeral.text_eq_cons h
        have hne : x ≠ '-' := by
          rintro rfl
          revert hx
          decide
        have hnumber := scan_numeral h
        rw [htext] at hnumber ⊢
        obtain ⟨hmode, htokens⟩ := Prod.ext_iff.1 hnumber
        simp only [scan, next] at hmode htokens
        simp [scan, next, hdash, afterDash, hne, emit, hmode, htokens]

/-! ## Where a literal ends -/

/-- The text `a` between the quotes stands for `t`. -/
inductive Decodes (q : Char) : Str → Str → Prop
  | nil : Decodes q [] []
  | plain {c : Char} {a t : Str} : Plain q c → Decodes q a t → Decodes q (c :: a) (c :: t)
  | quote {a t : Str} : Decodes q a t → Decodes q (q :: q :: a) (q :: t)
  | escape {c : Char} {a t : Str} : Decodes q a t → Decodes q ('\\' :: c :: a) (unescape c ++ t)

/-- A text that a literal holds as it is: no quote, and no backslash but in `\%` and
`\_`. -/
def Verbatim (q : Char) : Str → Prop
  | [] => True
  | '\\' :: c :: s => (c = '%' ∨ c = '_') ∧ Verbatim q s
  | '\\' :: [] => False
  | c :: s => c ≠ q ∧ Verbatim q s

theorem verbatim_cons {q c : Char} {s : Str} (h : c ≠ '\\') :
    Verbatim q (c :: s) ↔ c ≠ q ∧ Verbatim q s := by
  cases s <;> simp [Verbatim, h]

theorem length_unescape (c : Char) : (unescape c).length ≤ 2 := by
  unfold unescape
  split <;> simp

theorem length_unescape_eq {c : Char} : (unescape c).length = 2 ↔ c = '%' ∨ c = '_' := by
  unfold unescape
  split <;> simp_all

theorem Decodes.length_le {q : Char} {a t : Str} (h : Decodes q a t) : t.length ≤ a.length := by
  induction h with
  | nil => simp
  | plain _ _ ih => simpa using ih
  | quote _ ih => simp; omega
  | @escape c a t _ ih =>
      have := length_unescape c
      simp
      omega

/-- A text that does not get shorter is verbatim. -/
theorem Decodes.verbatim {q : Char} {a t : Str} (h : Decodes q a t)
    (hlength : t.length = a.length) : Verbatim q a := by
  induction h with
  | nil => trivial
  | @plain c a t hc _ ih =>
      exact (verbatim_cons hc.2).2 ⟨hc.1, ih (by simpa using hlength)⟩
  | quote h ih =>
      have := h.length_le
      simp at hlength
      omega
  | @escape c a t h ih =>
      have hle := h.length_le
      have hunescape := length_unescape c
      simp only [List.length_append, List.length_cons] at hlength
      have hc : c = '%' ∨ c = '_' := length_unescape_eq.1 (by omega)
      exact ⟨hc, ih (by omega)⟩

/-- Inside a literal: the text up to its closing quote, and the tokens after it. -/
theorem exists_decodes {q : Char} (hq : q ≠ '`') {r s : Str} {ts : List Token}
    (h : tokens (.quoted q r) s = some ts) :
    ∃ a t s₁ ts₁, s = a ++ q :: s₁ ∧ Decodes q a t ∧ ts = .string (r ++ t) :: ts₁ ∧
      tokens .start s₁ = some ts₁ := by
  -- an escape and a doubled quote take two characters at once
  induction hn : s.length using Nat.strong_induction_on generalizing r s with
  | _ n ih =>
      subst hn
      cases s with
      | nil => simp [tokens, finish] at h
      | cons c s =>
          by_cases hc : c = q
          · subst hc
            cases s with
            | nil =>
                obtain rfl : [Token.string r] = ts := by
                  simpa [tokens, next, finish, quotedToken, hq] using h
                exact ⟨[], [], [], [], rfl, .nil, by simp, rfl⟩
            | cons d s =>
                by_cases hd : d = c
                · subst hd
                  have hrest : tokens (.quoted d (r ++ [d])) s = some ts := by
                    simpa [tokens, next] using h
                  obtain ⟨a, t, s₁, ts₁, rfl, hdecodes, rfl, hts₁⟩ :=
                    ih s.length (by simp only [List.length_cons]; omega) hrest rfl
                  exact ⟨d :: d :: a, d :: t, s₁, ts₁, rfl, .quote hdecodes, by simp, hts₁⟩
                · rw [tokens_quoted_close hd] at h
                  obtain ⟨ts₁, hts₁, rfl⟩ := Option.map_eq_some_iff.1 h
                  exact ⟨[], [], d :: s, ts₁, rfl, .nil, by simp [quotedToken, hq], hts₁⟩
          · by_cases hescape : c = '\\'
            · subst hescape
              cases s with
              | nil => simp [tokens, next, hc, hq, finish] at h
              | cons d s =>
                  have hrest : tokens (.quoted q (r ++ unescape d)) s = some ts := by
                    simpa [tokens, next, hc, hq] using h
                  obtain ⟨a, t, s₁, ts₁, rfl, hdecodes, rfl, hts₁⟩ :=
                    ih s.length (by simp only [List.length_cons]; omega) hrest rfl
                  exact ⟨'\\' :: d :: a, unescape d ++ t, s₁, ts₁, rfl, .escape hdecodes, by simp,
                    hts₁⟩
            · have hrest : tokens (.quoted q (r ++ [c])) s = some ts := by
                simpa [tokens, next, hc, hescape] using h
              obtain ⟨a, t, s₁, ts₁, rfl, hdecodes, rfl, hts₁⟩ :=
                ih s.length (by simp) hrest rfl
              exact ⟨c :: a, c :: t, s₁, ts₁, rfl, .plain ⟨hc, hescape⟩ hdecodes, by simp, hts₁⟩

theorem scan_verbatim {q : Char} (hq : q ≠ '`') (hq' : '\\' ≠ q) {s : Str} (h : Verbatim q s)
    (r : Str) : scan (.quoted q r) s = (.quoted q (r ++ s), []) := by
  induction s using Verbatim.induct generalizing r with
  | case1 => simp [scan]
  | case2 c s ih =>
      obtain ⟨hc, hs⟩ := h
      have hunescape : unescape c = ['\\', c] := by rcases hc with rfl | rfl <;> rfl
      simp [scan, next, hq, hq', hunescape, ih hs]
  | case3 => exact h.elim
  | case4 c s hpair hsingle ih =>
      have hc : c ≠ '\\' := by
        rintro rfl
        cases s with
        | nil => exact hsingle rfl rfl
        | cons d s => exact hpair d s rfl rfl
      obtain ⟨hquote, hs⟩ := (verbatim_cons hc).1 h
      simp [scan, next, hquote, hc, ih hs]

/-- What a mode has read of a literal, with its quotes. -/
def credit : Mode → Nat
  | .quoted _ r => r.length + 1
  | .escape _ r => r.length + 2
  | .quoteEnd _ r => r.length + 2
  | _ => 0

theorem credit_fresh (c : Char) : credit (fresh c).1 ≤ 1 := by
  unfold fresh
  repeat' split
  all_goals simp [credit]

theorem emit_ne_nil {t : Token} {p : Mode × List Token} : (emit t p).2 ≠ [] := by
  simp [emit]

theorem credit_next {m : Mode} {c : Char} (h : (next m c).2 = []) :
    credit (next m c).1 ≤ credit m + 1 := by
  cases m with
  | start => simpa [next, credit] using credit_fresh c
  | escape q r =>
      have := length_unescape c
      simp only [next, credit, List.length_append]
      omega
  | quoted q r =>
      simp only [next]
      split
      · simp [credit]
      · split <;> simp [credit]
  | word w =>
      simp only [next] at h ⊢
      split at h
      · simp [credit, *]
      · exact absurd h emit_ne_nil
  | quoteEnd q r =>
      simp only [next] at h ⊢
      split at h
      · simp [credit, *]
      · exact absurd h emit_ne_nil
  | dash =>
      simp only [next, afterDash] at h ⊢
      split at h
      · simp [credit, *]
      · exact absurd h emit_ne_nil
  | dashDash =>
      simp only [next] at h ⊢
      split at h
      · split <;> split <;> simp_all [credit]
      · exact absurd h emit_ne_nil
  | slash =>
      simp only [next] at h ⊢
      split at h
      · simp [credit, *]
      · exact absurd h emit_ne_nil
  | block => simp only [next]; split <;> simp [credit]
  | blockStar => simp only [next]; split <;> (try split) <;> simp [credit]
  | line => simp only [next]; split <;> simp [credit]

theorem eq_of_quotedToken {q : Char} {r t : Str} (h : quotedToken q r = .string t) : r = t := by
  unfold quotedToken at h
  split at h
  · simp at h
  · exact Token.string.inj h

/-- Only a closing quote completes a literal. -/
theorem string_of_next {m : Mode} {c : Char} {t : Str} {ts : List Token}
    (h : (next m c).2 = .string t :: ts) :
    (∃ q, m = .quoteEnd q t) ∧ next m c = emit (.string t) (fresh c) := by
  have hfresh : ∀ c, (fresh c).2 ≠ .string t :: ts := by
    intro c
    unfold fresh
    repeat' split
    all_goals simp
  cases m with
  | quoteEnd q r =>
      simp only [next] at h ⊢
      split at h
      · simp at h
      · rename_i hc
        have hr : quotedToken q r = .string t := by simpa [emit] using congrArg List.head? h
        obtain rfl := eq_of_quotedToken hr
        exact ⟨⟨q, rfl⟩, by rw [if_neg hc, hr]⟩
  | start => exact absurd h (hfresh c)
  | quoted q r => simp only [next] at h; (repeat' split at h) <;> simp at h
  | escape q r => simp [next] at h
  | word w => simp only [next] at h; split at h <;> simp [emit] at h
  | dash => simp only [next, afterDash] at h; split at h <;> simp [emit] at h
  | dashDash => simp only [next] at h; (repeat' split at h) <;> simp [emit] at h
  | slash => simp only [next] at h; split at h <;> simp [emit] at h
  | block => simp only [next] at h; split at h <;> simp at h
  | blockStar => simp only [next] at h; (repeat' split at h) <;> simp at h
  | line => simp only [next] at h; split at h <;> simp at h

/-- A literal is never longer than the text it is read from. -/
theorem length_literal {m : Mode} {s t : Str} {ts : List Token}
    (h : tokens m s = some (.string t :: ts)) :
    ∃ s₁, s₁ <:+ s ∧ tokens .start s₁ = some ts ∧ t.length + 2 + s₁.length ≤ s.length + credit m := by
  induction s generalizing m with
  | nil =>
      cases m with
      | quoteEnd q r =>
          obtain ⟨hr, rfl⟩ : quotedToken q r = .string t ∧ [] = ts := by
            simpa [tokens, finish] using h
          obtain rfl := eq_of_quotedToken hr
          exact ⟨[], List.suffix_rfl, rfl, by simp [credit]⟩
      | _ => simp [tokens, finish] at h
  | cons c s ih =>
      obtain ⟨rest, hrest, htokens⟩ := Option.map_eq_some_iff.1 h
      cases hnext : (next m c).2 with
      | nil =>
          rw [hnext, List.nil_append] at htokens
          obtain ⟨s₁, hsuffix, hs₁, hle⟩ := ih (htokens ▸ hrest)
          have hcredit := credit_next hnext
          refine ⟨s₁, hsuffix.trans (List.suffix_cons c s), hs₁, ?_⟩
          simp only [List.length_cons]
          omega
      | cons e es =>
          rw [hnext, List.cons_append, List.cons.injEq] at htokens
          obtain ⟨rfl, rfl⟩ := htokens
          obtain ⟨⟨q, rfl⟩, hfresh⟩ := string_of_next hnext
          obtain ⟨hmode, hes⟩ : (next (.quoteEnd q t) c).1 = (fresh c).1 ∧ es = (fresh c).2 := by
            rw [hfresh] at hnext ⊢
            exact ⟨rfl, (List.cons.inj hnext).2.symm⟩
          rw [hmode] at hrest
          refine ⟨c :: s, List.suffix_rfl, ?_, by simp [credit]; omega⟩
          simp [tokens, next, hrest, hes]

/-! ## Adjacent literals -/

/-- Literals next to each other are one text. -/
def literals : List Token → Option Str
  | [] => some []
  | .string t :: ts => (literals ts).map (t ++ ·)
  | _ => none

/-- The text of a value that is made of literals. -/
def textValue (v : List Token) : Option Str := if v.isEmpty then none else literals v

theorem length_literals {v ts : List Token} {s x : Str} (h : tokens .start s = some (v ++ ts))
    (hv : literals v = some x) :
    ∃ s₁, s₁ <:+ s ∧ tokens .start s₁ = some ts ∧
      x.length + 2 * v.length + s₁.length ≤ s.length := by
  induction v generalizing s x with
  | nil =>
      obtain rfl : [] = x := by simpa [literals] using hv
      exact ⟨s, List.suffix_rfl, h, by simp⟩
  | cons e v ih =>
      cases e with
      | string t =>
          obtain ⟨y, hy, rfl⟩ := Option.map_eq_some_iff.1 hv
          obtain ⟨s₁, hsuffix, hs₁, hle⟩ := length_literal h
          obtain ⟨s₂, hsuffix₂, hs₂, hle₂⟩ := ih hs₁ hy
          refine ⟨s₂, hsuffix₂.trans hsuffix, hs₂, ?_⟩
          simp only [credit, List.length_append, List.length_cons] at hle ⊢
          omega
      | _ => simp [literals] at hv

/-- A text is put between quotes, and the value there is this text.  Then the text is
verbatim, or some of what follows belongs to the value too. -/
theorem verbatim_or_shorter {q : Char} (hq : q ≠ '`') {text tail : Str} {v ts : List Token}
    (h : tokens (.quoted q []) (text ++ q :: tail) = some (v ++ ts))
    (hv : textValue v = some text) :
    Verbatim q text ∨
      ∃ s₁, s₁ <:+ tail ∧ s₁.length < tail.length ∧ tokens .start s₁ = some ts := by
  obtain ⟨a, t, s, ts₁, hsplit, hdecodes, hts, hs⟩ := exists_decodes hq h
  cases v with
  | nil => simp [textValue] at hv
  | cons e v =>
      obtain ⟨rfl, rfl⟩ : e = .string t ∧ v ++ ts = ts₁ := by simpa using hts
      obtain ⟨x, hx, htext⟩ := Option.map_eq_some_iff.1 (show (literals v).map (t ++ ·) = some text
        by simpa [textValue, literals] using hv)
      obtain ⟨s₁, hsuffix, hs₁, hle⟩ := length_literals hs hx
      have hlength := congrArg List.length hsplit
      have htextLength : (t ++ x).length = text.length := congrArg List.length htext
      have hshort := hdecodes.length_le
      simp only [List.length_append, List.length_cons] at hlength htextLength
      by_cases hless : s₁.length < tail.length
      · refine .inr ⟨s₁, ?_, hless, hs₁⟩
        have hs₁' : s₁ <:+ text ++ q :: tail := by
          rw [hsplit]
          exact hsuffix.trans ⟨a ++ [q], by simp⟩
        exact List.suffix_of_suffix_length_le hs₁' ⟨text ++ [q], by simp⟩ hless.le
      · obtain rfl : v = [] := List.eq_nil_of_length_eq_zero (by omega)
        obtain rfl : [] = x := by simpa [literals] using hx
        have hsame : a = text := by
          refine (List.append_inj hsplit ?_).1.symm
          simp only [List.length_nil] at *
          omega
        exact .inl (hsame ▸ hdecodes.verbatim (by omega))

end ParDiff.Lib.SqlText
