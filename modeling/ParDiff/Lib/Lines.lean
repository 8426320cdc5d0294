import ParDiff.Lib.Text

/-!
# Lines and prompts

A text that comes over a connection line by line, and the first place in it where a line
says one of some keywords: what the pattern `(k₁.*\n|k₂.*\n|…)` matches.
-/

namespace ParDiff.Lib.Text

/-- Every line with its end. -/
def unlines (lines : List Str) : Str := lines.flatMap (· ++ ['\n'])

/-- The records of a text, with their ends. -/
def records : Str → List Str
  | [] => []
  | c :: s =>
      if c = '\n' then ['\n'] :: records s
      else
        match records s with
        | [] => [[c]]
        | l :: ls => (c :: l) :: ls

/-- The first place where a keyword begins. -/
def cutAt (ks : List Str) : Str → Option (Str × Str)
  | [] => none
  | c :: s =>
      if ks.any (·.isPrefixOf (c :: s)) then some ([], c :: s)
      else (cutAt ks s).map fun (before, found) => (c :: before, found)

/-- The leftmost match of `(k₁.*\n|k₂.*\n|…)`: what stands before it, and itself. -/
def matchLine (ks : List Str) : Str → Option (Str × Str)
  | [] => none
  | c :: s =>
      if ks.any (·.isPrefixOf (c :: s)) && '\n' ∈ c :: s then
        some ([], (c :: s).takeWhile (· ≠ '\n') ++ ['\n'])
      else (matchLine ks s).map fun (before, found) => (c :: before, found)

/-- No keyword stands in the text. -/
def Silent (ks : List Str) (s : Str) : Prop := ∀ k ∈ ks, ¬k <:+: s

instance (ks : List Str) (s : Str) : Decidable (Silent ks s) :=
  inferInstanceAs (Decidable (∀ k ∈ ks, ¬k <:+: s))

/-! ## Keywords and separators -/

/-- Nothing without `c` stands across a `c`. -/
theorem infix_append_cons {k a b : Str} {c : Char} (h : c ∉ k) :
    k <:+: a ++ c :: b ↔ k <:+: a ∨ k <:+: b := by
  constructor
  · rintro ⟨s, t, heq⟩
    have hcut : s ++ (k ++ t) = a ++ c :: b := by simpa using heq
    rcases List.append_eq_append_iff.1 hcut with ⟨u, ha, hrest⟩ | ⟨u, hs, hb⟩
    · rcases List.append_eq_append_iff.1 hrest with ⟨v, hu, -⟩ | ⟨v, hk, hv⟩
      · exact .inl ⟨s, v, by simp [ha, hu]⟩
      · cases v with
        | nil => exact .inl ⟨s, [], by simp [ha, hk]⟩
        | cons d v =>
            obtain ⟨rfl, -⟩ : c = d ∧ _ := by simpa using hv
            exact absurd (by simp [hk]) h
    · cases u with
      | nil =>
          cases k with
          | nil => exact .inl (by simp)
          | cons d k =>
              obtain ⟨rfl, -⟩ : c = d ∧ _ := by simpa using hb
              simp at h
      | cons d u =>
          obtain ⟨rfl, hb'⟩ : c = d ∧ b = u ++ (k ++ t) := by simpa using hb
          exact .inr ⟨u, t, by simp [hb']⟩
  · rintro (h | h)
    · exact h.trans (List.prefix_append _ _).isInfix
    · exact h.trans ((List.suffix_cons c b).trans (List.suffix_append a _)).isInfix

theorem silent_append_cons {ks : List Str} {c : Char} (h : ∀ k ∈ ks, c ∉ k) (a b : Str) :
    Silent ks (a ++ c :: b) ↔ Silent ks a ∧ Silent ks b := by
  constructor
  · intro hs
    exact ⟨fun k hk ha => hs k hk ((infix_append_cons (h k hk)).2 (.inl ha)),
      fun k hk hb => hs k hk ((infix_append_cons (h k hk)).2 (.inr hb))⟩
  · rintro ⟨ha, hb⟩ k hk hinside
    rcases (infix_append_cons (h k hk)).1 hinside with hinside | hinside
    · exact ha k hk hinside
    · exact hb k hk hinside

/-- A character that every keyword has. -/
theorem silent_of_notMem {ks : List Str} {c : Char} (h : ∀ k ∈ ks, c ∈ k) {s : Str}
    (hs : c ∉ s) : Silent ks s := by
  intro k hk hinside
  exact hs (hinside.subset (h k hk))

theorem Silent.tail {ks : List Str} {c : Char} {s : Str} (h : Silent ks (c :: s)) :
    Silent ks s :=
  fun k hk hinside => h k hk (hinside.trans (List.suffix_cons c s).isInfix)

theorem Silent.not_any {ks : List Str} {s : Str} (h : Silent ks s) :
    ks.any (·.isPrefixOf s) = false := by
  rw [List.any_eq_false]
  intro k hk hprefix
  exact h k hk (List.isPrefixOf_iff_prefix.1 hprefix).isInfix

theorem cutAt_isSome {ks : List Str} {s : Str} (hne : ∀ k ∈ ks, k ≠ []) (h : ¬Silent ks s) :
    ∃ before found, cutAt ks s = some (before, found) := by
  induction s with
  | nil =>
      exfalso
      apply h
      intro k hk hinside
      exact hne k hk (List.infix_nil.1 hinside)
  | cons c s ih =>
      by_cases hany : ks.any (·.isPrefixOf (c :: s)) = true
      · exact ⟨[], c :: s, by rw [cutAt, if_pos hany]⟩
      · have hs : ¬Silent ks s := by
          intro hs
          apply h
          intro k hk hinside
          rcases List.infix_cons_iff.1 hinside with hprefix | hinside
          · apply hany
            exact List.any_eq_true.2 ⟨k, hk, List.isPrefixOf_iff_prefix.2 hprefix⟩
          · exact hs k hk hinside
        obtain ⟨before, found, hcut⟩ := ih hs
        exact ⟨c :: before, found, by rw [cutAt, if_neg hany, hcut]; rfl⟩

/-- What is cut off begins with a keyword, before which there is none. -/
theorem cutAt_spec {ks : List Str} {s before found : Str} (h : cutAt ks s = some (before, found)) :
    s = before ++ found ∧ ∃ k ∈ ks, k <+: found := by
  induction s generalizing before with
  | nil => simp [cutAt] at h
  | cons c s ih =>
      by_cases hany : ks.any (·.isPrefixOf (c :: s)) = true
      · rw [cutAt, if_pos hany] at h
        obtain ⟨rfl, rfl⟩ : [] = before ∧ c :: s = found := by simpa using h
        obtain ⟨k, hk, hprefix⟩ := List.any_eq_true.1 hany
        exact ⟨rfl, k, hk, List.isPrefixOf_iff_prefix.1 hprefix⟩
      · rw [cutAt, if_neg hany] at h
        obtain ⟨⟨before', found'⟩, hcut, heq⟩ := Option.map_eq_some_iff.1 h
        obtain ⟨rfl, rfl⟩ : c :: before' = before ∧ found' = found := by simpa using heq
        obtain ⟨hs, hk⟩ := ih hcut
        exact ⟨by rw [hs]; rfl, hk⟩

theorem prefix_of_prefix_append_cons {k l rest : Str} {c : Char} (hk : c ∉ k)
    (h : k <+: l ++ c :: rest) : k <+: l := by
  have hline : l ++ [c] <+: l ++ c :: rest := ⟨rest, by simp⟩
  rcases List.prefix_or_prefix_of_prefix h hline with hshort | hlong
  · rcases List.prefix_concat_iff.1 hshort with heq | hprefix
    · exact absurd (by simp [heq]) hk
    · exact hprefix
  · exact absurd (hlong.subset (by simp)) hk

section Separator

variable {ks : List Str} {c : Char} (hks : ∀ k ∈ ks, c ∉ k)

include hks

theorem any_isPrefixOf_append_cons (l rest : Str) :
    ks.any (·.isPrefixOf (l ++ c :: rest)) = ks.any (·.isPrefixOf l) := by
  rw [Bool.eq_iff_iff, List.any_eq_true, List.any_eq_true]
  simp only [List.isPrefixOf_iff_prefix]
  constructor
  · rintro ⟨k, hk, hprefix⟩
    exact ⟨k, hk, prefix_of_prefix_append_cons (hks k hk) hprefix⟩
  · rintro ⟨k, hk, hprefix⟩
    exact ⟨k, hk, hprefix.trans (List.prefix_append _ _)⟩

/-- In a text without keyword there is nothing to find. -/
theorem cutAt_append_cons_of_silent {a : Str} (ha : Silent ks a) (b : Str) :
    cutAt ks (a ++ c :: b) =
      (cutAt ks b).map fun (before, found) => (a ++ c :: before, found) := by
  induction a with
  | nil =>
      have hany := any_isPrefixOf_append_cons hks [] b
      rw [ha.not_any, List.nil_append] at hany
      rw [List.nil_append, cutAt, hany]
      rfl
  | cons d a ih =>
      have hany := any_isPrefixOf_append_cons hks (d :: a) b
      rw [ha.not_any, List.cons_append] at hany
      rw [List.cons_append, cutAt, hany, ih ha.tail]
      cases cutAt ks b with
      | none => rfl
      | some found => rfl

theorem cutAt_append_cons {a before found : Str} (h : cutAt ks a = some (before, found))
    (b : Str) : cutAt ks (a ++ c :: b) = some (before, found ++ c :: b) := by
  induction a generalizing before with
  | nil => simp [cutAt] at h
  | cons d a ih =>
      have hany := any_isPrefixOf_append_cons hks (d :: a) b
      rw [List.cons_append] at hany ⊢
      rw [cutAt] at h ⊢
      by_cases hfound : ks.any (·.isPrefixOf (d :: a)) = true
      · rw [if_pos hfound] at h
        obtain ⟨rfl, rfl⟩ : [] = before ∧ d :: a = found := by simpa using h
        rw [hany, if_pos hfound]
        rfl
      · rw [if_neg hfound] at h
        obtain ⟨⟨before', found'⟩, hcut, heq⟩ := Option.map_eq_some_iff.1 h
        obtain ⟨rfl, rfl⟩ : d :: before' = before ∧ found' = found := by simpa using heq
        rw [hany, if_neg hfound, ih hcut]
        rfl

end Separator

/-! ## The first line with a keyword -/

section Match

variable {ks : List Str} (hks : ∀ k ∈ ks, '\n' ∉ k)

include hks

/-- A line without keyword is passed over. -/
theorem matchLine_silent {l : Str} (hl : Silent ks l) (rest : Str) :
    matchLine ks (l ++ '\n' :: rest) =
      (matchLine ks rest).map fun (before, found) => (l ++ '\n' :: before, found) := by
  induction l with
  | nil =>
      have hany : ks.any (·.isPrefixOf ('\n' :: rest)) = false := by
        rw [← List.nil_append ('\n' :: rest), any_isPrefixOf_append_cons hks]
        exact hl.not_any
      rw [List.nil_append, matchLine, hany]
      rfl
  | cons c l ih =>
      have hany : ks.any (·.isPrefixOf (c :: (l ++ '\n' :: rest))) = false := by
        rw [← List.cons_append, any_isPrefixOf_append_cons hks]
        exact hl.not_any
      rw [List.cons_append, matchLine, hany, ih hl.tail]
      cases matchLine ks rest with
      | none => rfl
      | some found => rfl

/-- A line with a keyword is matched from there on. -/
theorem matchLine_of_cutAt {l before found : Str} (hl : '\n' ∉ l)
    (h : cutAt ks l = some (before, found)) (rest : Str) :
    matchLine ks (l ++ '\n' :: rest) = some (before, found ++ ['\n']) := by
  induction l generalizing before with
  | nil => simp [cutAt] at h
  | cons c l ih =>
      have hany := any_isPrefixOf_append_cons hks (c :: l) rest
      by_cases hfound : ks.any (·.isPrefixOf (c :: l)) = true
      · rw [cutAt, if_pos hfound] at h
        obtain ⟨rfl, rfl⟩ : [] = before ∧ c :: l = found := by simpa using h
        rw [hfound] at hany
        have htake : ((c :: l) ++ '\n' :: rest).takeWhile (fun d => decide (d ≠ '\n')) = c :: l := by
          rw [List.takeWhile_append_of_pos]
          · simp
          · intro d hd
            simp only [ne_eq, decide_not, Bool.not_eq_eq_eq_not, Bool.not_true,
              decide_eq_false_iff_not]
            rintro rfl
            exact hl hd
        rw [List.cons_append] at hany htake ⊢
        rw [matchLine, hany, if_pos (by simp), htake]
      · rw [cutAt, if_neg hfound] at h
        obtain ⟨⟨before', found'⟩, hcut, heq⟩ := Option.map_eq_some_iff.1 h
        obtain ⟨rfl, rfl⟩ : c :: before' = before ∧ found' = found := by simpa using heq
        rw [Bool.not_eq_true] at hfound
        rw [hfound] at hany
        rw [List.cons_append] at hany ⊢
        rw [matchLine, hany, ih (fun hmem => hl (List.mem_cons_of_mem _ hmem)) hcut]
        rfl

theorem matchLine_unlines {lines : List Str} (hlines : ∀ l ∈ lines, Silent ks l) (rest : Str) :
    matchLine ks (unlines lines ++ rest) =
      (matchLine ks rest).map fun (before, found) => (unlines lines ++ before, found) := by
  induction lines with
  | nil => cases hmatch : matchLine ks rest <;> simp [unlines, hmatch]
  | cons l lines ih =>
      have hrest := ih fun l' hl' => hlines l' (List.mem_cons_of_mem _ hl')
      have hsplit : unlines (l :: lines) ++ rest = l ++ '\n' :: (unlines lines ++ rest) := by
        simp [unlines]
      rw [hsplit, matchLine_silent hks (hlines l (by simp)), hrest]
      cases matchLine ks rest with
      | none => rfl
      | some found => simp [unlines]

/-- The match in a text of lines is in the first one with a keyword. -/
theorem matchLine_first {clean more : List Str} {bad before found : Str}
    (hclean : ∀ l ∈ clean, Silent ks l) (hbad : '\n' ∉ bad)
    (hcut : cutAt ks bad = some (before, found)) :
    matchLine ks (unlines (clean ++ bad :: more)) =
      some (unlines clean ++ before, found ++ ['\n']) := by
  have hsplit : unlines (clean ++ bad :: more) =
      unlines clean ++ (bad ++ '\n' :: unlines more) := by
    simp [unlines]
  rw [hsplit, matchLine_unlines hks hclean, matchLine_of_cutAt hks hbad hcut]
  rfl

end Match

theorem exists_first_line {ks lines : List Str} (h : ∃ l ∈ lines, ¬Silent ks l) :
    ∃ clean bad more, lines = clean ++ bad :: more ∧ (∀ l ∈ clean, Silent ks l) ∧
      ¬Silent ks bad := by
  obtain ⟨l, hl, hloud⟩ := h
  have hfind : (lines.find? fun l => !decide (Silent ks l)).isSome = true :=
    List.find?_isSome.2 ⟨l, hl, by simpa using hloud⟩
  obtain ⟨bad, hbad⟩ := Option.isSome_iff_exists.1 hfind
  obtain ⟨hloud, clean, more, heq, hclean⟩ := List.find?_eq_some_iff_append.1 hbad
  exact ⟨clean, bad, more, heq, fun l hl => by simpa using hclean l hl, by simpa using hloud⟩

/-! ## Records -/

theorem records_line {l : Str} (hl : '\n' ∉ l) (rest : Str) :
    records (l ++ '\n' :: rest) = (l ++ ['\n']) :: records rest := by
  induction l with
  | nil => simp [records]
  | cons c l ih =>
      simp only [List.mem_cons, not_or] at hl
      rw [List.cons_append, records, if_neg (Ne.symm hl.1), ih hl.2]
      rfl

theorem records_last {l : Str} (hl : '\n' ∉ l) (hne : l ≠ []) : records l = [l] := by
  induction l with
  | nil => exact absurd rfl hne
  | cons c l ih =>
      simp only [List.mem_cons, not_or] at hl
      rw [records, if_neg (Ne.symm hl.1)]
      cases l with
      | nil => rfl
      | cons d l => rw [ih hl.2 (by simp)]

theorem records_unlines {lines : List Str} (hlines : ∀ l ∈ lines, '\n' ∉ l) (rest : Str) :
    records (unlines lines ++ rest) = lines.map (· ++ ['\n']) ++ records rest := by
  induction lines with
  | nil => rfl
  | cons l lines ih =>
      have hsplit : unlines (l :: lines) ++ rest = l ++ '\n' :: (unlines lines ++ rest) := by
        simp [unlines]
      rw [hsplit, records_line (hlines l (by simp)),
        ih fun l' hl' => hlines l' (List.mem_cons_of_mem _ hl')]
      rfl

end ParDiff.Lib.Text
