import ParDiff.Lib.SqlText

/-!
# The rows of an `INSERT`

What follows `VALUES`: rows between parentheses, with commas between the rows and
between the values of a row.  A value is the list of its tokens; it may hold
parentheses of its own.
-/

namespace ParDiff.Lib.SqlText

/-- A place in the list of rows. -/
inductive Place
  /-- Before the parenthesis of a row. -/
  | row
  /-- In a value, with the values of the row before it. -/
  | value (depth : Nat) (values : List (List Token)) (value : List Token)
  /-- After a row. -/
  | after
  deriving DecidableEq, Repr

def Token.isSeparator : Token → Bool
  | .symbol c => c == '(' || c == ')' || c == ','
  | _ => false

/-- The rows from a place on, up to the end of the statement. -/
def rows : Place → List Token → Option (List (List (List Token)))
  | .row, .symbol '(' :: ts => rows (.value 0 [] []) ts
  | .row, _ => none
  | .value 0 vs v, .symbol ',' :: ts => rows (.value 0 (vs ++ [v]) []) ts
  | .value 0 vs v, .symbol ')' :: ts => (rows .after ts).map ((vs ++ [v]) :: ·)
  | .value d vs v, .symbol '(' :: ts => rows (.value (d + 1) vs (v ++ [.symbol '('])) ts
  | .value (d + 1) vs v, .symbol ')' :: ts => rows (.value d vs (v ++ [.symbol ')'])) ts
  | .value d vs v, t :: ts => rows (.value d vs (v ++ [t])) ts
  | .value _ _ _, [] => none
  | .after, [] => some []
  | .after, [.symbol ';'] => some []
  | .after, .symbol ',' :: ts => rows .row ts
  | .after, _ => none

theorem rows_value_of_not_separator {t : Token} (h : t.isSeparator = false) (d : Nat)
    (vs : List (List Token)) (v ts : List Token) :
    rows (.value d vs v) (t :: ts) = rows (.value d vs (v ++ [t])) ts := by
  cases t with
  | symbol c =>
      simp only [Token.isSeparator, Bool.or_eq_false_iff, beq_eq_false_iff_ne] at h
      cases d <;> simp [rows, h]
  | _ => cases d <;> simp [rows]

/-- A value without separators, and the comma after it. -/
theorem rows_value_comma {x : List Token} (hx : ∀ t ∈ x, t.isSeparator = false)
    (vs : List (List Token)) (v ts : List Token) :
    rows (.value 0 vs v) (x ++ .symbol ',' :: ts) = rows (.value 0 (vs ++ [v ++ x]) []) ts := by
  induction x generalizing v with
  | nil => simp [rows]
  | cons t x ih =>
      rw [List.cons_append, rows_value_of_not_separator (hx t (by simp)),
        ih fun t ht => hx t (by simp [ht])]
      simp

theorem isSeparator_iff {t : Token} :
    t.isSeparator = true ↔ t = .symbol '(' ∨ t = .symbol ')' ∨ t = .symbol ',' := by
  cases t <;> simp [Token.isSeparator, or_assoc]

/-- The first row has the values that were read, and goes on with the open one. -/
theorem exists_of_rows_value {d : Nat} {vs : List (List Token)} {v ts : List Token}
    {r : List (List Token)} {rs : List (List (List Token))}
    (h : rows (.value d vs v) ts = some (r :: rs)) :
    ∃ w more, r = vs ++ (v ++ w) :: more := by
  induction ts generalizing d vs v with
  | nil => cases d <;> simp [rows] at h
  | cons t ts ih =>
      by_cases ht : t.isSeparator = true
      · rcases isSeparator_iff.1 ht with rfl | rfl | rfl
        · have h' : rows (.value (d + 1) vs (v ++ [.symbol '('])) ts = some (r :: rs) := by
            cases d <;> simpa [rows] using h
          obtain ⟨w, more, rfl⟩ := ih h'
          exact ⟨.symbol '(' :: w, more, by simp⟩
        · cases d with
          | zero =>
              simp only [rows, Option.map_eq_some_iff, List.cons.injEq] at h
              obtain ⟨_, -, rfl, -⟩ := h
              exact ⟨[], [], by simp⟩
          | succ d =>
              obtain ⟨w, more, rfl⟩ := ih (by simpa [rows] using h)
              exact ⟨.symbol ')' :: w, more, by simp⟩
        · cases d with
          | zero =>
              obtain ⟨w, more, rfl⟩ := ih (by simpa [rows] using h)
              exact ⟨[], ([] ++ w) :: more, by simp⟩
          | succ d =>
              obtain ⟨w, more, rfl⟩ := ih (by simpa [rows] using h)
              exact ⟨.symbol ',' :: w, more, by simp⟩
      · rw [rows_value_of_not_separator (by simpa using ht)] at h
        obtain ⟨w, more, rfl⟩ := ih h
        exact ⟨t :: w, more, by simp⟩

/-- A value without separators ends at the next comma or parenthesis. -/
theorem exists_of_rows_value_text {vs : List (List Token)} {v ts x : List Token}
    {r : List (List Token)} {rs : List (List (List Token))}
    (h : rows (.value 0 vs v) ts = some (r :: rs)) (hx : r[vs.length]? = some x)
    (htext : ∀ t ∈ x, t.isSeparator = false) :
    ∃ w ts', x = v ++ w ∧
      ((ts = w ++ .symbol ',' :: ts' ∧ rows (.value 0 (vs ++ [x]) []) ts' = some (r :: rs)) ∨
        (ts = w ++ .symbol ')' :: ts' ∧ r = vs ++ [x])) := by
  induction ts generalizing v with
  | nil => simp [rows] at h
  | cons t ts ih =>
      by_cases ht : t.isSeparator = true
      · rcases isSeparator_iff.1 ht with rfl | rfl | rfl
        · -- the parenthesis would be part of the value
          obtain ⟨w, more, rfl⟩ := exists_of_rows_value
            (show rows (.value 1 vs (v ++ [.symbol '('])) ts = some (r :: rs) by simpa [rows] using h)
          obtain rfl : v ++ [.symbol '('] ++ w = x := by simpa using hx
          exact absurd (htext (.symbol '(') (by simp)) (by decide)
        · simp only [rows, Option.map_eq_some_iff, List.cons.injEq] at h
          obtain ⟨_, -, rfl, -⟩ := h
          obtain rfl : v = x := by simpa using hx
          exact ⟨[], ts, by simp, .inr ⟨rfl, rfl⟩⟩
        · have hnext : rows (.value 0 (vs ++ [v]) []) ts = some (r :: rs) := by
            simpa [rows] using h
          obtain ⟨w, more, rfl⟩ := exists_of_rows_value hnext
          obtain rfl : v = x := by simpa using hx
          exact ⟨[], ts, by simp, .inl ⟨rfl, hnext⟩⟩
      · rw [rows_value_of_not_separator (by simpa using ht)] at h
        obtain ⟨w, ts', rfl, hend⟩ := ih h
        refine ⟨t :: w, ts', by simp, ?_⟩
        simpa using hend

theorem isSeparator_of_textValue {x : List Token} {s : Str} (h : textValue x = some s) :
    ∀ t ∈ x, t.isSeparator = false := by
  have hliterals : ∀ {x : List Token} {s : Str}, literals x = some s →
      ∀ t ∈ x, t.isSeparator = false := by
    intro x
    induction x with
    | nil => simp
    | cons e x ih =>
        intro s hs
        cases e with
        | string t =>
            obtain ⟨y, hy, -⟩ := Option.map_eq_some_iff.1 hs
            simpa [Token.isSeparator] using ih hy
        | _ => simp [literals] at hs
  unfold textValue at h
  split at h
  · simp at h
  · exact hliterals h

end ParDiff.Lib.SqlText
