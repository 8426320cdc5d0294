import Mathlib.Data.List.Basic
import ParDiff.Lib.Text

/-!
# The words of a shell command

How a POSIX shell reads the text of a command: every character gets a mark, and the
words are put together from the marks.  Quotes, escapes and comments are taken away,
blanks end a word, and an operator means that the text is not one simple command.

A text with an unquoted character for an expansion (a parameter, a command, a
pattern, a home directory) stands for what the environment makes of it, which is a
parameter here.
-/

namespace ParDiff.Lib.Shell

open Text

/-! ## Marks -/

/-- Where the shell is in the text.  `blank` is a place where a word can begin; an escape
remembers whether it was one. -/
inductive Mode
  | blank
  | word
  | escaped (start : Bool)
  | single
  | double
  | doubleEscaped
  | comment
  deriving DecidableEq, Repr

/-- What becomes of a character.  A quote is taken away but leaves a word, be it an
empty one. -/
inductive Mark
  | literal (c : Char)
  | blank
  | quote
  | dropped
  | operator
  | active
  deriving DecidableEq, Repr

def isBlank (c : Char) : Bool := c == ' ' || c == '\t'

/-- The characters of the operators. -/
def isOperator (c : Char) : Bool :=
  c == '|' || c == '&' || c == ';' || c == '<' || c == '>' || c == '(' || c == ')' || c == '\n'

/-- The characters with which an expansion or a pattern begins anywhere in a word. -/
def isActive (c : Char) : Bool := c == '$' || c == '\x60' || c == '*' || c == '?' || c == '['

/-- A character outside quotes. -/
def unquoted (start : Bool) (c : Char) : Mode × Mark :=
  if c = '\'' then (.single, .quote)
  else if c = '"' then (.double, .quote)
  else if c = '\\' then (.escaped start, .dropped)
  else if isBlank c then (.blank, .blank)
  else if isOperator c then (.blank, .operator)
  else if isActive c then (.word, .active)
  else (.word, .literal c)

/-- The characters that a backslash escapes between double quotes. -/
def escapedInDouble (c : Char) : Bool :=
  c == '$' || c == '\x60' || c == '"' || c == '\\' || c == '\n'

/-- The character `c`, with the one after it. -/
def step (m : Mode) (c : Char) (next : Option Char) : Mode × Mark :=
  match m with
  | .blank =>
      if c = '#' then (.comment, .dropped)
      else if c = '~' then (.word, .active)
      else unquoted true c
  | .word => unquoted false c
  | .escaped start =>
      -- a backslash and a line break are no characters at all
      if c = '\n' then (if start then .blank else .word, .dropped) else (.word, .literal c)
  | .single => if c = '\'' then (.word, .quote) else (.single, .literal c)
  | .double =>
      if c = '"' then (.word, .quote)
      else if c = '\\' then
        if next.any escapedInDouble then (.doubleEscaped, .dropped) else (.double, .literal c)
      else if c = '$' ∨ c = '\x60' then (.double, .active)
      else (.double, .literal c)
  | .doubleEscaped => (.double, if c = '\n' then .dropped else .literal c)
  | .comment => if c = '\n' then (.blank, .operator) else (.comment, .dropped)

theorem step_blank (c : Char) (next : Option Char) :
    step .blank c next =
      if c = '#' then (.comment, .dropped)
      else if c = '~' then (.word, .active)
      else unquoted true c := rfl

def marks : Mode → Str → List Mark
  | _, [] => []
  | m, c :: s => (step m c s.head?).2 :: marks (step m c s.head?).1 s

/-- Where the text leaves the shell. -/
def finalMode : Mode → Str → Mode
  | m, [] => m
  | m, c :: s => finalMode (step m c s.head?).1 s

/-- A command cannot end between quotes or after a backslash. -/
def Mode.complete : Mode → Bool
  | .blank => true
  | .word => true
  | .comment => true
  | _ => false

/-! ## Words -/

/-- The word that the marks begin with, if they do, and the words after it. -/
def wordsFrom : List Mark → Option Str × List Str
  | [] => (none, [])
  | .literal c :: ms => (some (c :: (wordsFrom ms).1.getD []), (wordsFrom ms).2)
  | .quote :: ms => (some ((wordsFrom ms).1.getD []), (wordsFrom ms).2)
  | .blank :: ms => (none, (wordsFrom ms).1.toList ++ (wordsFrom ms).2)
  | .dropped :: ms => wordsFrom ms
  | .operator :: ms => wordsFrom ms
  | .active :: ms => wordsFrom ms

def words (ms : List Mark) : List Str := (wordsFrom ms).1.toList ++ (wordsFrom ms).2

/-- The argument list, if the text is one simple command. -/
def argv (environment : Str → Option (List Str)) (s : Str) : Option (List Str) :=
  if (finalMode .blank s).complete = false then none
  else if .active ∈ marks .blank s then environment s
  else if .operator ∈ marks .blank s then none
  else some (words (marks .blank s))

example : argv (fun _ => none) "echo 'a b'\"c\"\\ d '' # no".toList =
    some ["echo".toList, "a bc d".toList, []] := by decide

/-! ## Counting characters -/

/-- Neither part of a word nor between two. -/
def Mark.removed : Mark → Bool
  | .literal _ => false
  | .blank => false
  | .quote => true
  | .dropped => true
  | .operator => true
  | .active => true

theorem length_marks (m : Mode) (s : Str) : (marks m s).length = s.length := by
  induction s generalizing m with
  | nil => rfl
  | cons c s ih => simp [marks, ih]

/-- Every character of a word, every blank between two words and every mark that is removed
takes a character of the text. -/
theorem length_wordsFrom_le (ms : List Mark) :
    ((wordsFrom ms).1.getD []).length + ((wordsFrom ms).2.map (·.length + 1)).sum +
      ms.countP Mark.removed ≤ ms.length := by
  induction ms with
  | nil => simp [wordsFrom]
  | cons m ms ih =>
      cases m with
      | blank =>
          simp only [wordsFrom, List.countP_cons, Mark.removed, List.length_cons]
          cases h : (wordsFrom ms).1 with
          | none =>
              simp [h] at ih ⊢
              omega
          | some w =>
              simp [h] at ih ⊢
              omega
      | _ =>
          simp [wordsFrom, List.countP_cons, Mark.removed] at ih ⊢
          omega

/-- A word of all the characters is written as it is. -/
theorem eq_literals {ms : List Mark} (h : ((wordsFrom ms).1.getD []).length = ms.length) :
    ms = ((wordsFrom ms).1.getD []).map .literal := by
  induction ms with
  | nil => rfl
  | cons m ms ih =>
      have hle := length_wordsFrom_le ms
      cases m with
      | literal c =>
          simp only [wordsFrom, Option.getD_some, List.length_cons, Nat.add_right_cancel_iff,
            List.map_cons] at h ⊢
          rw [← ih h]
      | blank => simp [wordsFrom] at h
      | _ =>
          simp only [wordsFrom, Option.getD_some, List.length_cons] at h
          omega

/-! ## Quotes and words -/

/-- A single quote is closed by the next one. -/
theorem exists_closing {s : Str} (h : (finalMode .single s).complete = true) :
    ∃ a b, s = a ++ '\'' :: b ∧ '\'' ∉ a := by
  have hmem : '\'' ∈ s := by
    by_contra hnot
    have hfinal : finalMode .single s = .single := by
      induction s with
      | nil => rfl
      | cons c s ih =>
          simp only [List.mem_cons, not_or] at hnot
          have hstep : step .single c s.head? = (.single, .literal c) := if_neg (Ne.symm hnot.1)
          rw [finalMode, hstep] at h ⊢
          exact ih h hnot.2
    simp [hfinal, Mode.complete] at h
  exact List.eq_append_cons_of_mem hmem

theorem marks_single {a : Str} (b : Str) (ha : '\'' ∉ a) :
    marks .single (a ++ '\'' :: b) = a.map .literal ++ .quote :: marks .word b := by
  induction a with
  | nil => rfl
  | cons c a ih =>
      simp only [List.mem_cons, not_or] at ha
      have hstep : step .single c (a ++ '\'' :: b).head? = (.single, .literal c) :=
        if_neg (Ne.symm ha.1)
      rw [List.cons_append, marks, hstep, ih ha.2]
      rfl

theorem finalMode_single {a : Str} (b : Str) (ha : '\'' ∉ a) :
    finalMode .single (a ++ '\'' :: b) = finalMode .word b := by
  induction a with
  | nil => rfl
  | cons c a ih =>
      simp only [List.mem_cons, not_or] at ha
      have hstep : step .single c (a ++ '\'' :: b).head? = (.single, .literal c) :=
        if_neg (Ne.symm ha.1)
      rw [List.cons_append, finalMode, hstep, ih ha.2]

/-- A character that stands for itself outside quotes. -/
def isPlain (c : Char) : Bool :=
  c != '\'' && c != '"' && c != '\\' && !isBlank c && !isOperator c && !isActive c

/-- A text that is one word as it stands. -/
structure IsWord (s : Str) : Prop where
  nonempty : s ≠ []
  plain : ∀ c ∈ s, isPlain c = true
  begins : ∀ c ∈ s.head?, c ≠ '#' ∧ c ≠ '~'

theorem unquoted_of_plain {c : Char} (start : Bool) (h : isPlain c = true) :
    unquoted start c = (.word, .literal c) := by
  simp only [isPlain, Bool.and_eq_true, bne_iff_ne, Bool.not_eq_true'] at h
  obtain ⟨⟨⟨⟨⟨hsingle, hdouble⟩, hback⟩, hblank⟩, hoperator⟩, hactive⟩ := h
  simp [unquoted, hsingle, hdouble, hback, hblank, hoperator, hactive]

theorem plain_of_unquoted {start : Bool} {c d : Char}
    (h : (unquoted start c).2 = .literal d) : isPlain c = true := by
  unfold unquoted at h
  split_ifs at h
  simp_all [isPlain]

/-- Outside quotes a character that is kept leads on outside quotes. -/
theorem unquoted_kept {start : Bool} {c : Char} (h : (unquoted start c).2.removed = false) :
    c ≠ '\'' ∧ ((unquoted start c).1 = .blank ∨ (unquoted start c).1 = .word) := by
  unfold unquoted at h ⊢
  by_cases hc : c = '\''
  · simp [hc, Mark.removed] at h
  · refine ⟨hc, ?_⟩
    split_ifs at h ⊢ <;> first | exact .inl rfl | exact .inr rfl | simp [Mark.removed] at h

theorem step_kept {m : Mode} (hm : m = .blank ∨ m = .word) {c : Char} {next : Option Char}
    (h : (step m c next).2.removed = false) :
    c ≠ '\'' ∧ ((step m c next).1 = .blank ∨ (step m c next).1 = .word) := by
  rcases hm with rfl | rfl
  · rw [step_blank] at h ⊢
    split_ifs at h ⊢
    · simp [Mark.removed] at h
    · simp [Mark.removed] at h
    · exact unquoted_kept h
  · exact unquoted_kept h

theorem quote_notMem {m : Mode} (hm : m = .blank ∨ m = .word) {s : Str}
    (h : (marks m s).countP Mark.removed = 0) : '\'' ∉ s := by
  induction s generalizing m with
  | nil => simp
  | cons c s ih =>
      rw [marks, List.countP_cons] at h
      have hkept : (step m c s.head?).2.removed = false := by
        by_contra hremoved
        simp [hremoved] at h
      obtain ⟨hc, hmode⟩ := step_kept hm hkept
      simp only [List.mem_cons, not_or]
      exact ⟨Ne.symm hc, ih hmode (by omega)⟩

theorem marks_word {s : Str} (h : ∀ c ∈ s, isPlain c = true) :
    marks .word s = s.map .literal ∧ finalMode .word s = .word := by
  induction s with
  | nil => exact ⟨rfl, rfl⟩
  | cons c s ih =>
      have hstep : step .word c s.head? = (.word, .literal c) :=
        unquoted_of_plain false (h c (by simp))
      rw [marks, finalMode, hstep, (ih fun d hd => h d (by simp [hd])).1]
      exact ⟨rfl, (ih fun d hd => h d (by simp [hd])).2⟩

theorem IsWord.marks_eq {s : Str} (h : IsWord s) :
    marks .blank s = s.map .literal ∧ finalMode .blank s = .word := by
  cases s with
  | nil => exact absurd rfl h.nonempty
  | cons c s =>
      have hrest := marks_word (s := s) fun d hd => h.plain d (by simp [hd])
      have hstep : step .blank c s.head? = (.word, .literal c) := by
        rw [step_blank, if_neg (h.begins c rfl).1, if_neg (h.begins c rfl).2]
        exact unquoted_of_plain true (h.plain c (by simp))
      rw [marks, finalMode, hstep, hrest.1]
      exact ⟨rfl, hrest.2⟩

/-- Only plain characters are marked as literal outside quotes. -/
theorem plain_of_marks {s w : Str} (h : marks .word s = w.map .literal) :
    ∀ c ∈ s, isPlain c = true := by
  induction s generalizing w with
  | nil => simp
  | cons c s ih =>
      cases w with
      | nil => simp [marks] at h
      | cons d w =>
          simp only [marks, List.map_cons, List.cons.injEq] at h
          have hplain := plain_of_unquoted h.1
          have hstep : step .word c s.head? = (.word, .literal c) := unquoted_of_plain false hplain
          rw [hstep] at h
          intro x hx
          rcases List.mem_cons.1 hx with rfl | hx
          · exact hplain
          · exact ih h.2 x hx

theorem isWord_of_marks {s w : Str} (hs : s ≠ []) (h : marks .blank s = w.map .literal) :
    IsWord s := by
  cases s with
  | nil => exact absurd rfl hs
  | cons c s =>
      cases w with
      | nil => simp [marks] at h
      | cons d w =>
          simp only [marks, List.map_cons, List.cons.injEq] at h
          have hbegins : c ≠ '#' ∧ c ≠ '~' := by
            constructor <;> rintro rfl <;> simp [step_blank] at h
          have hunquoted : step .blank c s.head? = unquoted true c := by
            rw [step_blank, if_neg hbegins.1, if_neg hbegins.2]
          rw [hunquoted] at h
          have hplain := plain_of_unquoted h.1
          rw [unquoted_of_plain true hplain] at h
          refine ⟨hs, fun x hx => ?_, by simpa using hbegins⟩
          rcases List.mem_cons.1 hx with rfl | hx
          · exact hplain
          · exact plain_of_marks h.2 x hx

/-! ## A quoted text and a word -/

theorem wordsFrom_literals (s : Str) (ms : List Mark) :
    (wordsFrom (s.map .literal ++ ms)).1.getD [] = s ++ (wordsFrom ms).1.getD [] ∧
      (wordsFrom (s.map .literal ++ ms)).2 = (wordsFrom ms).2 := by
  induction s with
  | nil => exact ⟨rfl, rfl⟩
  | cons c s ih =>
      simp only [List.map_cons, List.cons_append, wordsFrom, Option.getD_some, ih, and_self]

theorem words_literals {s : Str} (h : s ≠ []) : words (s.map .literal) = [s] := by
  obtain ⟨hfront, hrest⟩ := wordsFrom_literals s []
  rw [List.append_nil] at hfront hrest
  obtain ⟨c, t, rfl⟩ := List.exists_cons_of_ne_nil h
  rw [words, hrest]
  simpa [wordsFrom] using hfront

/-- A text is one word, and that word itself, only if it is so character by character. -/
theorem isWord_of_words {s : Str} (h : words (marks .blank s) = [s]) : IsWord s := by
  have hsize := length_wordsFrom_le (marks .blank s)
  rw [length_marks] at hsize
  rw [words] at h
  cases hfront : (wordsFrom (marks .blank s)).1 with
  | none =>
      rw [hfront, Option.toList_none, List.nil_append] at h
      simp [h] at hsize
      omega
  | some w =>
      have hs : s ≠ [] := by
        rintro rfl
        simp [marks, wordsFrom] at hfront
      obtain rfl : w = s := by simp_all
      exact isWord_of_marks hs (eq_literals (by rw [hfront, length_marks]; rfl))

theorem marks_quoted_then_word {s e : Str} (hs : '\'' ∉ s) (he : IsWord e) :
    marks .single (s ++ '\'' :: ' ' :: e) =
      s.map .literal ++ .quote :: .blank :: e.map .literal := by
  have hblank : marks .word (' ' :: e) = .blank :: marks .blank e := rfl
  rw [marks_single _ hs, hblank, he.marks_eq.1]

/-- What is left of a text after its opening quote gives the quoted text `s` and the word
`e` after it only if it is all there, `s` has no quote of its own and `e` is a word as it
stands. -/
theorem quoted_then_word_iff {s e y : Str} (hy : y <+: s ++ '\'' :: ' ' :: e) :
    ((finalMode .single y).complete = true ∧
        (wordsFrom (marks .single y)).1.getD [] = s ∧ (wordsFrom (marks .single y)).2 = [e]) ↔
      y = s ++ '\'' :: ' ' :: e ∧ '\'' ∉ s ∧ IsWord e := by
  constructor
  · rintro ⟨hcomplete, hfront, hrest⟩
    obtain ⟨a, b, rfl, ha⟩ := exists_closing hcomplete
    rw [marks_single b ha] at hfront hrest
    -- the closing quote and the blank take the two characters that are not in the words
    have hsize := length_wordsFrom_le (a.map .literal ++ .quote :: marks .word b)
    rw [hfront, hrest] at hsize
    have hlength := hy.length_le
    simp only [List.countP_append, List.countP_map, List.countP_cons, Mark.removed, length_marks,
      List.length_append, List.length_cons, List.length_map, List.map_cons, List.map_nil,
      List.sum_cons, List.sum_nil, if_true] at hsize hlength
    have hremoved : (marks .word b).countP Mark.removed = 0 := by omega
    have hb := quote_notMem (.inr rfl) hremoved
    have heq := hy.eq_of_length (by simp only [List.length_append, List.length_cons]; omega)
    obtain ⟨hs, he⟩ : '\'' ∉ s ∧ '\'' ∉ e := by
      have hcount := congrArg (List.count '\'') heq
      simp [List.count_eq_zero_of_not_mem ha, List.count_eq_zero_of_not_mem hb] at hcount
      exact ⟨List.count_eq_zero.1 (by omega), List.count_eq_zero.1 (by omega)⟩
    obtain ⟨rfl, rfl⟩ := (append_cons_inj_right hb (by simp [he])).1 heq
    rw [(wordsFrom_literals _ _).2] at hrest
    exact ⟨rfl, hs, isWord_of_words hrest⟩
  · rintro ⟨rfl, hs, he⟩
    have hfinal : finalMode .word (' ' :: e) = finalMode .blank e := rfl
    rw [finalMode_single _ hs, hfinal, he.marks_eq.2, marks_quoted_then_word hs he]
    obtain ⟨hfront, hrest⟩ := wordsFrom_literals s (.quote :: .blank :: e.map .literal)
    refine ⟨rfl, ?_, ?_⟩
    · rw [hfront]
      exact List.append_nil s
    · rw [hrest]
      exact words_literals he.nonempty

end ParDiff.Lib.Shell
