import Mathlib.Data.List.DropRight
import ParDiff.Lib.Shell
import ParDiff.Schema

/-!
# The command of `email_to_address`

Five scripts share one helper, which opens a pipe to
`mail -a 'From: support@pardiff.com' -s '${subject}' ${email}`.  Perl hands the text to the
shell, and the shell finds the words in it again: the subject between quotes that it may
contain itself, and the address without any.

`Email::Valid` is a parameter.  Its atoms may contain most of what is special to a shell.
-/

namespace ParDiff.Mail

open Lib Lib.Text Lib.Shell

/-! ## What the shell gets -/

/-- The blanks of Perl. -/
def perlSpace (c : Char) : Bool :=
  c == ' ' || c == '\t' || c == '\n' || c == '\r' || c == '\x0c'

/-- A vertical bar at the end would mean a pipe in the other direction; it is ignored. -/
def withoutBar (s : Str) : Str := if s.getLast? = some '|' then s.dropLast else s

/-- `open FH, "|…"` with two arguments: blanks at the end do not count, and the text ends
at the first NUL. -/
def pipeText (s : Str) : Str := (withoutBar (s.rdropWhile perlSpace)).takeWhile (· != '\x00')

def openingText : Str := "mail -a 'From: support@pardiff.com' -s '".toList

/-- The command that `email_to_address` opens, if it opens one. -/
def mailCommand (valid : Str → Bool) (email : Option Str) (subject : Str) : Option Str :=
  match email with
  | none => none
  | some address =>
      if valid address then
        some (pipeText (openingText ++ (subject ++ ("' ".toList ++ address))))
      else none

/-- The arguments the helper means. -/
def intended (subject address : Str) : List Str :=
  ["mail".toList, "-a".toList, "From: support@pardiff.com".toList, "-s".toList, subject, address]

/-- Whatever there is in the environment, the shell runs `mail` with these arguments. -/
def SentAsIntended (valid : Str → Bool) (subject address : Str) : Prop :=
  ∀ environment, (mailCommand valid (some address) subject).bind (argv environment) =
    some (intended subject address)

/-- A subject that its quotes can hold. -/
structure SafeSubject (s : Str) : Prop where
  quote : '\'' ∉ s
  nul : '\x00' ∉ s

/-- An address that is one word as it stands, up to its end. -/
structure SafeAddress (s : Str) : Prop where
  word : IsWord s
  nul : '\x00' ∉ s
  ends : ∀ c ∈ s.getLast?, perlSpace c = false

/-! ## Perl -/

theorem withoutBar_isPrefix (s : Str) : withoutBar s <+: s := by
  unfold withoutBar
  split
  · exact s.dropLast_prefix
  · exact List.prefix_refl s

theorem pipeText_isPrefix (s : Str) : pipeText s <+: s :=
  (List.takeWhile_prefix _).trans ((withoutBar_isPrefix _).trans (List.rdropWhile_prefix _ _))

theorem nul_notMem_pipeText (s : Str) : '\x00' ∉ pipeText s := by
  intro h
  have := List.mem_takeWhile_imp h
  simp at this

theorem pipeText_eq_self {s : Str} (hends : ∀ c ∈ s.getLast?, perlSpace c = false ∧ c ≠ '|')
    (hnul : '\x00' ∉ s) : pipeText s = s := by
  have hspace : s.rdropWhile perlSpace = s := by
    rw [List.rdropWhile_eq_self_iff]
    intro hs
    simpa using (hends _ (List.getLast?_eq_some_getLast hs)).1
  have hbar : withoutBar s = s := if_neg fun h => (hends '|' h).2 rfl
  rw [pipeText, hspace, hbar, List.takeWhile_eq_self_iff]
  intro c hc
  simpa using ne_of_mem_of_not_mem hc hnul

/-- A text that is passed on whole has no blanks at its end. -/
theorem ends_of_pipeText {s : Str} (h : pipeText s = s) :
    ∀ c ∈ s.getLast?, perlSpace c = false := by
  have hlength : s.length ≤ (s.rdropWhile perlSpace).length := by
    have hle := ((List.takeWhile_prefix (· != '\x00')).trans
      (withoutBar_isPrefix (s.rdropWhile perlSpace))).length_le
    rwa [← pipeText, h] at hle
  have hspace : s.rdropWhile perlSpace = s :=
    (List.rdropWhile_prefix _ _).eq_of_length_le hlength
  rw [List.rdropWhile_eq_self_iff] at hspace
  intro c hc
  obtain ⟨hs, rfl⟩ := List.mem_getLast?_eq_getLast hc
  simpa using hspace hs

/-- A beginning that ends with a quote and has no NUL is passed on. -/
theorem isPrefix_pipeText {l : Str} (hl : l.getLast? = some '\'') (hnul : '\x00' ∉ l) (x : Str) :
    l <+: pipeText (l ++ x) := by
  have hne : l ≠ [] := by
    rintro rfl
    simp at hl
  have hspace : ∃ y, (l ++ x).rdropWhile perlSpace = l ++ y := by
    induction x using List.reverseRecOn with
    | nil =>
        refine ⟨[], ?_⟩
        rw [List.append_nil, List.rdropWhile_eq_self_iff]
        intro _
        have hlast : l.getLast hne = '\'' := by
          simpa [List.getLast?_eq_some_getLast hne] using hl
        rw [hlast]
        decide
    | append_singleton x c ih =>
        rw [← List.append_assoc, List.rdropWhile_concat]
        split
        · exact ih
        · exact ⟨x ++ [c], List.append_assoc _ _ _⟩
  obtain ⟨y, hy⟩ := hspace
  have hbar : ∃ z, withoutBar (l ++ y) = l ++ z := by
    unfold withoutBar
    split
    · rename_i hlast
      have hyne : y ≠ [] := by
        rintro rfl
        simp [hl] at hlast
      exact ⟨y.dropLast, List.dropLast_append_of_ne_nil hyne⟩
    · exact ⟨y, rfl⟩
  obtain ⟨z, hz⟩ := hbar
  rw [pipeText, hy, hz, List.takeWhile_append_of_pos fun c hc => ?_]
  · exact List.prefix_append _ _
  · simpa using ne_of_mem_of_not_mem hc hnul

theorem pipeText_append (x : Str) :
    ∃ y, y <+: x ∧ pipeText (openingText ++ x) = openingText ++ y := by
  obtain ⟨y, hy⟩ := isPrefix_pipeText (l := openingText) (by decide) (by decide) x
  refine ⟨y, ?_, hy.symm⟩
  have hprefix := pipeText_isPrefix (openingText ++ x)
  rwa [← hy, List.prefix_append_right_inj] at hprefix

/-! ## The shell -/

/-- The four words that are always there, and the two that depend on the mail. -/
theorem argv_opening (environment : Str → Option (List Str)) (y : Str) :
    argv environment (openingText ++ y) =
      if (finalMode .single y).complete = false then none
      else if .active ∈ marks .single y then environment (openingText ++ y)
      else if .operator ∈ marks .single y then none
      else some (["mail".toList, "-a".toList, "From: support@pardiff.com".toList, "-s".toList] ++
        (wordsFrom (marks .single y)).1.getD [] :: (wordsFrom (marks .single y)).2) := by
  have hfinal : finalMode .blank (openingText ++ y) = finalMode .single y := rfl
  have hmarks : marks .blank (openingText ++ y) = marks .blank openingText ++ marks .single y := rfl
  have hwords : ∀ ms, words (marks .blank openingText ++ ms) =
      ["mail".toList, "-a".toList, "From: support@pardiff.com".toList, "-s".toList] ++
        (wordsFrom ms).1.getD [] :: (wordsFrom ms).2 := fun _ => rfl
  have hactive : .active ∉ marks .blank openingText := by decide
  have hoperator : .operator ∉ marks .blank openingText := by decide
  rw [argv, hfinal, hmarks, hwords]
  simp only [List.mem_append, hactive, hoperator, false_or]

variable {valid : Str → Bool} {subject address : Str}

/-- The command ends as the address does. -/
theorem getLast?_command (h : address ≠ []) :
    (openingText ++ (subject ++ '\'' :: ' ' :: address)).getLast? = address.getLast? := by
  simp [List.getLast?_append, List.getLast?_cons, List.getLast?_eq_some_getLast h]

/-- A mail is sent as intended exactly when its subject has no quote and no NUL, and its
address is one word for the shell. -/
theorem sentAsIntended_iff (hvalid : valid address = true) :
    SentAsIntended valid subject address ↔ SafeSubject subject ∧ SafeAddress address := by
  have hcommand : mailCommand valid (some address) subject =
      some (pipeText (openingText ++ (subject ++ '\'' :: ' ' :: address))) := if_pos hvalid
  obtain ⟨y, hy, htext⟩ := pipeText_append (subject ++ '\'' :: ' ' :: address)
  have hread := quoted_then_word_iff hy
  rw [SentAsIntended, hcommand, htext]
  simp only [Option.bind_some, argv_opening]
  constructor
  · intro h
    -- an environment in which an expansion fails
    have hnone := h fun _ => none
    split_ifs at hnone with hcomplete hactive hoperator
    have hargs := List.append_cancel_left (Option.some.inj hnone)
    obtain ⟨rfl, hquote, hword⟩ := hread.1 ⟨by simpa using hcomplete, List.cons.inj hargs⟩
    have hnul := nul_notMem_pipeText (openingText ++ (subject ++ '\'' :: ' ' :: address))
    have hends := ends_of_pipeText htext
    rw [htext] at hnul
    simp only [List.mem_append, List.mem_cons, not_or] at hnul
    rw [getLast?_command hword.nonempty] at hends
    exact ⟨⟨hquote, hnul.2.1⟩, hword, hnul.2.2.2.2, hends⟩
  · rintro ⟨hsubject, haddress⟩ environment
    have hends : ∀ c ∈ address.getLast?, perlSpace c = false ∧ c ≠ '|' := by
      intro c hc
      refine ⟨haddress.ends c hc, ?_⟩
      rintro rfl
      exact absurd (haddress.word.plain '|' (List.mem_of_getLast? hc)) (by decide)
    have hself := pipeText_eq_self
      (s := openingText ++ (subject ++ '\'' :: ' ' :: address))
      (by rwa [getLast?_command haddress.word.nonempty])
      (by
        simp only [List.mem_append, List.mem_cons, not_or]
        exact ⟨by decide, hsubject.nul, by decide, by decide, haddress.nul⟩)
    obtain rfl := List.append_cancel_left (hself.symm.trans htext)
    obtain ⟨hcomplete, hfront, hrest⟩ := hread.2 ⟨rfl, hsubject.quote, haddress.word⟩
    have hmarks := marks_quoted_then_word hsubject.quote haddress.word
    rw [hfront, hrest, if_neg (by simp [hcomplete]), if_neg (by simp [hmarks]),
      if_neg (by simp [hmarks])]
    rfl

/-! ## Subjects of strangers -/

/-- `tr/\<\>/  /`. -/
def withoutTags (s : Str) : Str := s.map fun c => if c = '<' ∨ c = '>' then ' ' else c

/-- The subject of the mail to the support about a new ticket. -/
def ticketSubject (title : Str) : Str := "[ticket] New ticket: ".toList ++ withoutTags title

/-- The subject of the mail that confirms it. -/
def confirmationSubject (title : Str) : Str := withoutTags title ++ "记录确认".toList

/-- The subject of the mail to a new user. -/
def welcomeSubject (username : Str) : Str := username ++ " ParDiff VPN帐户已建立".toList

theorem safeSubject_append {a b : Str} : SafeSubject (a ++ b) ↔ SafeSubject a ∧ SafeSubject b := by
  constructor
  · rintro ⟨hquote, hnul⟩
    simp only [List.mem_append, not_or] at hquote hnul
    exact ⟨⟨hquote.1, hnul.1⟩, hquote.2, hnul.2⟩
  · rintro ⟨ha, hb⟩
    exact ⟨by simp [ha.quote, hb.quote], by simp [ha.nul, hb.nul]⟩

/-- Taking the tags away leaves quotes where they are. -/
theorem safeSubject_withoutTags {s : Str} : SafeSubject (withoutTags s) ↔ SafeSubject s := by
  have hmem : ∀ c : Char, c ≠ ' ' → c ≠ '<' → c ≠ '>' → (c ∈ withoutTags s ↔ c ∈ s) := by
    intro c hblank hlt hgt
    simp only [withoutTags, List.mem_map]
    constructor
    · rintro ⟨a, ha, hac⟩
      split at hac
      · exact absurd hac.symm hblank
      · exact hac ▸ ha
    · intro hc
      exact ⟨c, hc, if_neg (by simp [hlt, hgt])⟩
  have hquote := hmem '\'' (by decide) (by decide) (by decide)
  have hnul := hmem '\x00' (by decide) (by decide) (by decide)
  constructor
  · rintro ⟨h, h'⟩
    exact ⟨mt hquote.2 h, mt hnul.2 h'⟩
  · rintro ⟨h, h'⟩
    exact ⟨mt hquote.1 h, mt hnul.1 h'⟩

/-- The title of a ticket and the name of a new user reach the shell with every quote they
have. -/
theorem stranger_subjects_safe_iff (title username : Str) :
    (SafeSubject (ticketSubject title) ↔ SafeSubject title) ∧
      (SafeSubject (confirmationSubject title) ↔ SafeSubject title) ∧
      (SafeSubject (welcomeSubject username) ↔ SafeSubject username) := by
  have hticket : SafeSubject "[ticket] New ticket: ".toList := ⟨by decide, by decide⟩
  have hconfirmation : SafeSubject "记录确认".toList := ⟨by decide +kernel, by decide +kernel⟩
  have hwelcome : SafeSubject " ParDiff VPN帐户已建立".toList :=
    ⟨by decide +kernel, by decide +kernel⟩
  exact ⟨safeSubject_append.trans ((and_iff_right hticket).trans safeSubject_withoutTags),
    safeSubject_append.trans ((and_iff_left hconfirmation).trans safeSubject_withoutTags),
    safeSubject_append.trans (and_iff_left hwelcome)⟩

/-- `Email::Valid` on one address. -/
def sampleValid (address : Str) : Bool := address == "support@pardiff.com".toList

theorem plain_ticket_sent :
    SentAsIntended sampleValid (ticketSubject "no <VPN> connection".toList)
      "support@pardiff.com".toList := by
  have hsubject : SafeSubject (ticketSubject "no <VPN> connection".toList) :=
    ⟨by decide +kernel, by decide +kernel⟩
  have hplain : "support@pardiff.com".toList.all isPlain = true := by decide
  have hword : IsWord "support@pardiff.com".toList := by
    refine ⟨by decide, List.all_eq_true.1 hplain, fun c hc => ?_⟩
    obtain rfl : 's' = c := Option.some.inj hc
    decide
  have hends : ∀ c ∈ "support@pardiff.com".toList.getLast?, perlSpace c = false := by
    intro c hc
    obtain rfl : 'm' = c := Option.some.inj hc
    decide
  exact (sentAsIntended_iff (by decide)).2 ⟨hsubject, hword, by decide, hends⟩

/-- A quote in the title ends the subject, and what follows is one more recipient. -/
theorem quoted_title_adds_recipient :
    (mailCommand sampleValid (some "support@pardiff.com".toList)
        (ticketSubject "x' eve@example.com '".toList)).bind (argv fun _ => none) =
      some ["mail".toList, "-a".toList, "From: support@pardiff.com".toList, "-s".toList,
        "[ticket] New ticket: x".toList, "eve@example.com".toList, [],
        "support@pardiff.com".toList] ∧
      ¬SentAsIntended sampleValid (ticketSubject "x' eve@example.com '".toList)
        "support@pardiff.com".toList := by
  have hargs : (mailCommand sampleValid (some "support@pardiff.com".toList)
        (ticketSubject "x' eve@example.com '".toList)).bind (argv fun _ => none) =
      some ["mail".toList, "-a".toList, "From: support@pardiff.com".toList, "-s".toList,
        "[ticket] New ticket: x".toList, "eve@example.com".toList, [],
        "support@pardiff.com".toList] := by
    decide +kernel
  refine ⟨hargs, fun h => ?_⟩
  have hintended := h fun _ => none
  rw [hargs] at hintended
  exact absurd hintended (by decide)

end ParDiff.Mail
