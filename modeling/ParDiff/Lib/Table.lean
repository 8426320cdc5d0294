import Mathlib.Algebra.Order.BigOperators.Group.List
import Mathlib.Algebra.Order.Ring.Int
import Mathlib.Data.List.Nodup

/-!
# Keyed tables

A table is a list of rows in insertion order, with the auto-increment counter
of its primary key.  Key uniqueness is part of the type, so no statement can
build a table that violates it and no proof has to carry it along.
`UniqueTable` adds a second unique key, for which an insert can fail.
-/

namespace ParDiff.Lib

@[ext]
structure Table (α : Type) (key : α → Nat) where
  rows : List α
  auto : Nat
  nodup : (rows.map key).Nodup
  lt_auto : ∀ r ∈ rows, key r < auto

/-- Apply `f` to the first row that satisfies `p` (`LIMIT 1`). -/
def updateFirst {α : Type} (p : α → Bool) (f : α → α) : List α → List α
  | [] => []
  | r :: rs => if p r then f r :: rs else r :: updateFirst p f rs

/-- Apply `f` to every row that satisfies `p`. -/
def updateAll {α : Type} (p : α → Bool) (f : α → α) (rs : List α) : List α :=
  rs.map fun r => if p r then f r else r

section Lists

variable {α β : Type}

theorem map_updateAll {g : α → β} {p : α → Bool} {f : α → α}
    (hf : ∀ r, p r → g (f r) = g r) (rs : List α) :
    (updateAll p f rs).map g = rs.map g := by
  simp only [updateAll, List.map_map]
  apply List.map_congr_left
  intro r _
  by_cases hp : p r <;> simp [hp, hf]

theorem map_updateFirst {g : α → β} {p : α → Bool} {f : α → α}
    (hf : ∀ r, p r → g (f r) = g r) (rs : List α) :
    (updateFirst p f rs).map g = rs.map g := by
  induction rs with
  | nil => rfl
  | cons r rs ih =>
      by_cases hp : p r
      · simp [updateFirst, hp, hf]
      · simp [updateFirst, hp, ih]

theorem updateFirst_updateFirst {p : α → Bool} {f g : α → α} (hg : ∀ r, p (g r) = p r)
    (rs : List α) : updateFirst p f (updateFirst p g rs) = updateFirst p (f ∘ g) rs := by
  induction rs with
  | nil => rfl
  | cons r rs ih =>
      by_cases hp : p r
      · simp [updateFirst, hp, hg]
      · simp [updateFirst, hp, ih]

theorem mem_updateAll {p : α → Bool} {f : α → α} {rs : List α} {r' : α} :
    r' ∈ updateAll p f rs ↔ ∃ r ∈ rs, r' = if p r then f r else r := by
  simp only [updateAll, List.mem_map]
  constructor <;> rintro ⟨r, hr, h⟩ <;> exact ⟨r, hr, h.symm⟩

theorem updateAll_congr {p q : α → Bool} {f : α → α} {rs : List α} (h : ∀ r ∈ rs, p r = q r) :
    updateAll p f rs = updateAll q f rs := by
  refine List.map_congr_left fun r hr => ?_
  simp only [h r hr]

theorem updateAll_of_forall_not {p : α → Bool} {f : α → α} {rs : List α}
    (h : ∀ r ∈ rs, p r = false) : updateAll p f rs = rs := by
  rw [updateAll]
  conv_rhs => rw [← List.map_id rs]
  apply List.map_congr_left
  intro r hr
  simp [h r hr]

/-- Where at most one row can match, `LIMIT 1` makes no difference. -/
theorem updateFirst_eq_updateAll {p : α → Bool} {f : α → α} {rs : List α}
    (h : rs.Pairwise fun a b => ¬(p a ∧ p b)) : updateFirst p f rs = updateAll p f rs := by
  induction rs with
  | nil => rfl
  | cons r rs ih =>
      rw [List.pairwise_cons] at h
      by_cases hp : p r
      · have hrest : ∀ b ∈ rs, p b = false := by
          intro b hb
          simpa [hp] using h.1 b hb
        have heq := updateAll_of_forall_not (f := f) hrest
        simp only [updateAll] at heq
        simp [updateFirst, updateAll, hp, heq]
      · have heq := ih h.2
        simp only [updateAll] at heq
        simp [updateFirst, updateAll, hp, heq]

theorem updateAll_cons (p : α → Bool) (f : α → α) (r : α) (rs : List α) :
    updateAll p f (r :: rs) = (if p r then f r else r) :: updateAll p f rs := rfl

/-- An update that the condition `q` and the column `g` do not see leaves the
first row found by `q` alone, as far as `g` can tell. -/
theorem find?_updateAll {g : α → β} {q p : α → Bool} {f : α → α}
    (hq : ∀ r, q (f r) = q r) (hg : ∀ r, g (f r) = g r) (rs : List α) :
    ((updateAll p f rs).find? q).map g = (rs.find? q).map g := by
  induction rs with
  | nil => rfl
  | cons r rs ih =>
      rw [updateAll_cons, List.find?_cons, List.find?_cons]
      by_cases hp : p r <;> cases hqr : q r <;> simp [hp, hq, hg, hqr, ih]

/-- `LIMIT 1` is an update of the first matching row, named by its key. -/
theorem updateFirst_eq_updateAll_key [DecidableEq β] {key : α → β} {p : α → Bool} {f : α → α}
    {rs : List α} (hnodup : (rs.map key).Nodup) {r : α} (h : rs.find? p = some r) :
    updateFirst p f rs = updateAll (fun a => decide (key a = key r)) f rs := by
  induction rs with
  | nil => simp at h
  | cons a rs ih =>
      rw [List.map_cons, List.nodup_cons] at hnodup
      rw [List.find?_cons] at h
      cases hp : p a with
      | true =>
          obtain rfl : a = r := by simpa [hp] using h
          have hrest : ∀ b ∈ rs, decide (key b = key a) = false := by
            intro b hb
            rw [decide_eq_false_iff_not]
            intro hkey
            exact hnodup.1 (hkey ▸ List.mem_map_of_mem hb)
          rw [updateFirst, if_pos hp, updateAll_cons, updateAll_of_forall_not hrest]
          simp
      | false =>
          have hr : rs.find? p = some r := by simpa [hp] using h
          have hne : key a ≠ key r := by
            intro hkey
            exact hnodup.1 (hkey ▸ List.mem_map_of_mem (List.mem_of_find?_eq_some hr))
          rw [updateFirst, if_neg (by simp [hp]), updateAll_cons, ih hnodup.2 hr]
          simp [hne]

theorem filter_updateAll {q p : α → Bool} {f : α → α} {rs : List α}
    (h : ∀ r ∈ rs, p r → q r = false ∧ q (f r) = false) :
    (updateAll p f rs).filter q = rs.filter q := by
  induction rs with
  | nil => rfl
  | cons r rs ih =>
      have hrest := ih fun r' hr' => h r' (by simp [hr'])
      rw [updateAll_cons]
      by_cases hp : p r
      · obtain ⟨hq, hqf⟩ := h r (by simp) hp
        simp [hp, hq, hqf, hrest]
      · simp [hp, List.filter_cons, hrest]

/-- Updating one row after the other, by key, updates the rows with these keys. -/
theorem foldl_updateAll [DecidableEq β] {γ : Type} {f : α → α} (key : α → β) (keyOf : γ → β)
    (hkey : ∀ r, key (f r) = key r) (hidem : ∀ r, f (f r) = f r) (bs : List γ) (rs : List α) :
    bs.foldl (fun rs b => updateAll (fun r => decide (key r = keyOf b)) f rs) rs =
      updateAll (fun r => bs.any fun b => decide (key r = keyOf b)) f rs := by
  induction bs generalizing rs with
  | nil => exact (updateAll_of_forall_not (by simp)).symm
  | cons b bs ih =>
      rw [List.foldl_cons, ih]
      simp only [updateAll, List.map_map]
      refine List.map_congr_left fun r _ => ?_
      by_cases hb : key r = keyOf b
      · simp [hb, hkey, hidem]
      · simp [hb]

/-- Adding at most `a` to the weight of at most one row adds at most `a`. -/
theorem sum_updateAll_le {w : α → Int} {p : α → Bool} {f : α → α} {a : Int} (ha : 0 ≤ a)
    (hw : ∀ r, w (f r) ≤ w r + a) {rs : List α}
    (hp : rs.Pairwise fun x y => ¬(p x ∧ p y)) :
    ((updateAll p f rs).map w).sum ≤ (rs.map w).sum + a := by
  induction rs with
  | nil => simpa [updateAll] using ha
  | cons r rs ih =>
      rw [List.pairwise_cons] at hp
      rw [updateAll_cons]
      by_cases hpr : p r
      · have hrest : ∀ b ∈ rs, p b = false := by
          intro b hb
          simpa [hpr] using hp.1 b hb
        rw [updateAll_of_forall_not hrest]
        have := hw r
        simp only [hpr, if_true, List.map_cons, List.sum_cons]
        omega
      · have := ih hp.2
        simp only [hpr, List.map_cons, List.sum_cons, Bool.false_eq_true, if_false]
        omega

theorem sum_map_eq_add {key : α → Nat} {w w' : α → Int} {rs : List α}
    (hnodup : (rs.map key).Nodup) {a : α} (ha : a ∈ rs)
    (h : ∀ r ∈ rs, key r ≠ key a → w' r = w r) :
    (rs.map w').sum = (rs.map w).sum + (w' a - w a) := by
  induction rs with
  | nil => simp at ha
  | cons r rs ih =>
      rw [List.map_cons, List.nodup_cons] at hnodup
      simp only [List.map_cons, List.sum_cons]
      rcases List.mem_cons.1 ha with rfl | hars
      · have hrest : rs.map w' = rs.map w := by
          apply List.map_congr_left
          intro b hb
          refine h b (by simp [hb]) fun hkey => hnodup.1 ?_
          exact hkey ▸ List.mem_map_of_mem hb
        rw [hrest]
        omega
      · have hne : key r ≠ key a := fun hkey => hnodup.1 (hkey ▸ List.mem_map_of_mem hars)
        rw [h r (by simp) hne, ih hnodup.2 hars fun b hb => h b (by simp [hb])]
        omega

theorem eq_of_nodup_map {key : α → β} {rs : List α} (h : (rs.map key).Nodup)
    {a b : α} (ha : a ∈ rs) (hb : b ∈ rs) (hab : key a = key b) : a = b :=
  List.inj_on_of_nodup_map h ha hb hab

theorem filter_eq_singleton {key : α → β} {rs : List α} (hnodup : (rs.map key).Nodup) {r : α}
    (hr : r ∈ rs) {p : α → Bool} (hp : ∀ a ∈ rs, p a = true ↔ key a = key r) :
    rs.filter p = [r] := by
  refine List.perm_singleton.1 ((List.perm_ext_iff_of_nodup
    ((List.Nodup.of_map key hnodup).filter p) (List.nodup_singleton r)).2 fun a => ?_)
  rw [List.mem_filter, List.mem_singleton]
  constructor
  · rintro ⟨ha, hpa⟩
    exact eq_of_nodup_map hnodup ha hr ((hp a ha).1 hpa)
  · rintro rfl
    exact ⟨hr, (hp a hr).2 rfl⟩

end Lists

namespace Table

variable {α : Type} {key : α → Nat}

def empty : Table α key := ⟨[], 1, by simp, by simp⟩

/-- A table with one row. -/
def single (r : α) : Table α key := ⟨[r], key r + 1, by simp, by simp⟩

theorem eq_of_key_eq (t : Table α key) {a b : α} (ha : a ∈ t.rows) (hb : b ∈ t.rows)
    (h : key a = key b) : a = b :=
  eq_of_nodup_map t.nodup ha hb h

theorem filter_key_eq (t : Table α key) {r : α} (hr : r ∈ t.rows) {p : α → Bool}
    (hp : ∀ a, p a = true ↔ key a = key r) : t.rows.filter p = [r] :=
  filter_eq_singleton t.nodup hr fun a _ => hp a

/-- `UPDATE … WHERE p`; the assignment leaves the primary key alone. -/
def update (t : Table α key) (p : α → Bool) (f : α → α)
    (hf : ∀ r, key (f r) = key r) : Table α key where
  rows := updateAll p f t.rows
  auto := t.auto
  nodup := by rw [map_updateAll fun r _ => hf r]; exact t.nodup
  lt_auto := by
    intro r hr
    obtain ⟨a, ha, rfl⟩ := mem_updateAll.1 hr
    have := t.lt_auto a ha
    by_cases hp : p a <;> simp [hp, hf, this]

/-- `UPDATE … WHERE p LIMIT 1`. -/
def updateLimitOne (t : Table α key) (p : α → Bool) (f : α → α)
    (hf : ∀ r, key (f r) = key r) : Table α key where
  rows := updateFirst p f t.rows
  auto := t.auto
  nodup := by rw [map_updateFirst fun r _ => hf r]; exact t.nodup
  lt_auto := by
    intro r hr
    have hmem : key r ∈ t.rows.map key := by
      rw [← map_updateFirst (p := p) fun r _ => hf r]
      exact List.mem_map_of_mem hr
    obtain ⟨a, ha, hka⟩ := List.mem_map.1 hmem
    rw [← hka]
    exact t.lt_auto a ha

/-- `DELETE … WHERE p`. -/
def delete (t : Table α key) (p : α → Bool) : Table α key where
  rows := t.rows.filter fun r => !p r
  auto := t.auto
  nodup := t.nodup.sublist (List.filter_sublist.map key)
  lt_auto := fun r hr => t.lt_auto r (List.mem_filter.1 hr).1

/-- `INSERT`; the row is built from the key the counter hands out. -/
def insert (t : Table α key) (row : Nat → α) (hrow : ∀ n, key (row n) = n) :
    Table α key where
  rows := t.rows ++ [row t.auto]
  auto := t.auto + 1
  nodup := by
    rw [List.map_append, List.nodup_append]
    refine ⟨t.nodup, by simp, ?_⟩
    simp only [List.map_cons, List.map_nil, List.mem_singleton]
    intro k hk k' hk' heq
    obtain ⟨a, ha, rfl⟩ := List.mem_map.1 hk
    have := t.lt_auto a ha
    rw [hk', hrow] at heq
    omega
  lt_auto := by
    intro r hr
    rcases List.mem_append.1 hr with hr | hr
    · exact Nat.lt_succ_of_lt (t.lt_auto r hr)
    · rw [List.mem_singleton.1 hr, hrow]
      exact Nat.lt_succ_self _

@[simp] theorem update_rows (t : Table α key) (p : α → Bool) (f : α → α)
    (hf : ∀ r, key (f r) = key r) : (t.update p f hf).rows = updateAll p f t.rows := rfl

@[simp] theorem updateLimitOne_rows (t : Table α key) (p : α → Bool) (f : α → α)
    (hf : ∀ r, key (f r) = key r) :
    (t.updateLimitOne p f hf).rows = updateFirst p f t.rows := rfl

@[simp] theorem delete_rows (t : Table α key) (p : α → Bool) :
    (t.delete p).rows = t.rows.filter fun r => !p r := rfl

@[simp] theorem insert_rows (t : Table α key) (row : Nat → α)
    (hrow : ∀ n, key (row n) = n) :
    (t.insert row hrow).rows = t.rows ++ [row t.auto] := rfl

theorem foldl_delete_rows (rs : List α) (t : Table α key) :
    (rs.foldl (fun t r => t.delete fun r' => key r' == key r) t).rows =
      t.rows.filter fun r' => !rs.any fun r => key r' == key r := by
  induction rs generalizing t with
  | nil => simp
  | cons r rs ih =>
      rw [List.foldl_cons, ih, delete_rows, List.filter_filter]
      refine List.filter_congr fun r' _ => ?_
      simp [Bool.and_comm]

theorem foldl_insert_rows {β : Type} {f : β → Nat → α} (hf : ∀ b n, key (f b n) = n)
    (bs : List β) (t : Table α key) :
    (bs.foldl (fun t b => t.insert (f b) (hf b)) t).rows =
      t.rows ++ bs.mapIdx fun i b => f b (t.auto + i) := by
  induction bs generalizing t with
  | nil => simp
  | cons b bs ih =>
      rw [List.foldl_cons, ih, insert_rows, List.mapIdx_cons, List.append_assoc]
      simp only [List.singleton_append, Nat.add_zero]
      congr 2
      refine List.mapIdx_eq_mapIdx_iff.2 fun i hi => ?_
      simp only [insert]
      congr 1
      omega

theorem update_of_forall_not {t : Table α key} {p : α → Bool} {f : α → α}
    {hf : ∀ r, key (f r) = key r} (h : ∀ r ∈ t.rows, p r = false) : t.update p f hf = t := by
  ext1
  · exact updateAll_of_forall_not h
  · rfl

end Table

/-- A table with a second unique key. -/
@[ext]
structure UniqueTable (α κ : Type) (key : α → Nat) (ukey : α → κ) extends Table α key where
  unique : (rows.map ukey).Nodup

namespace UniqueTable

variable {α κ : Type} {key : α → Nat} {ukey : α → κ}

def empty : UniqueTable α κ key ukey := ⟨Table.empty, by simp [Table.empty]⟩

def single (r : α) : UniqueTable α κ key ukey := ⟨Table.single r, by simp [Table.single]⟩

def update (t : UniqueTable α κ key ukey) (p : α → Bool) (f : α → α)
    (hf : ∀ r, key (f r) = key r) (hu : ∀ r, ukey (f r) = ukey r) :
    UniqueTable α κ key ukey where
  toTable := t.toTable.update p f hf
  unique := by
    rw [Table.update_rows, map_updateAll fun r _ => hu r]
    exact t.unique

def updateLimitOne (t : UniqueTable α κ key ukey) (p : α → Bool) (f : α → α)
    (hf : ∀ r, key (f r) = key r) (hu : ∀ r, ukey (f r) = ukey r) :
    UniqueTable α κ key ukey where
  toTable := t.toTable.updateLimitOne p f hf
  unique := by
    rw [Table.updateLimitOne_rows, map_updateFirst fun r _ => hu r]
    exact t.unique

@[simp] theorem update_rows (t : UniqueTable α κ key ukey) (p : α → Bool) (f : α → α)
    (hf : ∀ r, key (f r) = key r) (hu : ∀ r, ukey (f r) = ukey r) :
    (t.update p f hf hu).rows = updateAll p f t.rows := rfl

@[simp] theorem updateLimitOne_rows (t : UniqueTable α κ key ukey) (p : α → Bool)
    (f : α → α) (hf : ∀ r, key (f r) = key r) (hu : ∀ r, ukey (f r) = ukey r) :
    (t.updateLimitOne p f hf hu).rows = updateFirst p f t.rows := rfl

/-- Two statements that find the same row are one. -/
theorem updateLimitOne_updateLimitOne (t : UniqueTable α κ key ukey) {p : α → Bool}
    {f g : α → α} (hf : ∀ r, key (f r) = key r) (huf : ∀ r, ukey (f r) = ukey r)
    (hg : ∀ r, key (g r) = key r) (hug : ∀ r, ukey (g r) = ukey r)
    (hp : ∀ r, p (g r) = p r) :
    (t.updateLimitOne p g hg hug).updateLimitOne p f hf huf =
      t.updateLimitOne p (f ∘ g) (fun r => (hf (g r)).trans (hg r))
        fun r => (huf (g r)).trans (hug r) := by
  ext1
  · exact updateFirst_updateFirst hp t.rows
  · rfl

variable [DecidableEq κ]

/-- `INSERT`; `none` is the duplicate-key error. -/
def insert (t : UniqueTable α κ key ukey) (row : Nat → α)
    (hrow : ∀ n, key (row n) = n) : Option (UniqueTable α κ key ukey) :=
  if h : ukey (row t.auto) ∈ t.rows.map ukey then none
  else some
    { toTable := t.toTable.insert row hrow
      unique := by
        rw [Table.insert_rows, List.map_append, List.nodup_append]
        refine ⟨t.unique, by simp, ?_⟩
        intro a ha b hb heq
        rw [List.map_singleton, List.mem_singleton] at hb
        exact h (hb ▸ heq ▸ ha) }

theorem pairwise_not_both (t : UniqueTable α κ key ukey) (k : κ) :
    t.rows.Pairwise fun a b => ¬(decide (ukey a = k) ∧ decide (ukey b = k)) := by
  have h := List.pairwise_map.1 t.unique
  refine h.imp ?_
  intro a b hab hboth
  simp only [decide_eq_true_eq] at hboth
  exact hab (hboth.1.trans hboth.2.symm)

end UniqueTable

end ParDiff.Lib
