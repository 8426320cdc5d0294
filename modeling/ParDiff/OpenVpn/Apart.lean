import ParDiff.Lib.Run
import ParDiff.OpenVpn.Executions

/-!
# Executions that keep apart

From the `SELECT` that reads finished rows to the last `DELETE` an execution settles.
If no execution reads finished rows while another one that still runs settles, and none
stops in the loop that moves the rows, then a row is moved at most once: whoever reads
it as finished is alone with it until it is deleted, and who settled before has deleted
all that it moved.
-/

namespace ParDiff.OpenVpn

open Lib Lib.Text

/-- Between the `SELECT` that found rows and the last `DELETE`. -/
def Settling (es : List Event) : Prop :=
  ∃ r ∈ es.filterMap listedRow, r.id ∉ es.filterMap removedId

/-- In the loop that moves the rows. -/
def Moving (es : List Event) : Prop := es.filterMap movedRow ≠ [] ∧ Settling es

instance (es : List Event) : Decidable (Settling es) :=
  inferInstanceAs (Decidable (∃ r ∈ es.filterMap listedRow, r.id ∉ es.filterMap removedId))

instance (es : List Event) : Decidable (Moving es) := inferInstanceAs (Decidable (_ ∧ _))

theorem Settling.of_append {es es' : List Event} (h : Settling (es ++ es')) :
    Settling es ∨ es'.filterMap listedRow ≠ [] := by
  obtain ⟨r, hr, hid⟩ := h
  rw [List.filterMap_append] at hid
  rw [List.filterMap_append, List.mem_append] at hr
  rcases hr with hr | hr
  · exact .inl ⟨r, hr, fun hmem => hid (List.mem_append_left _ hmem)⟩
  · exact .inr (List.ne_nil_of_mem hr)

/-- Outside the loop, whatever was moved has been deleted. -/
theorem Told.removed_of_moved {status : Option (List Client)} {es : List Event}
    (h : Told status es) (hout : ¬Moving es) {r : OpenvpnConnection}
    (hr : r ∈ es.filterMap movedRow) : Event.removed r.id ∈ es := by
  refine mem_filterMap_removedId.1 (not_not.1 fun hid => hout ⟨List.ne_nil_of_mem hr, ?_⟩)
  exact ⟨r, h.moved.subset hr, hid⟩

theorem Told.nodup {status : Option (List Client)} {es : List Event} (h : Told status es) :
    ((es.filterMap movedRow).map (·.id)).Nodup ∧
      ((es.filterMap deductedRow).map (·.id)).Nodup :=
  ⟨h.once.sublist (h.moved.sublist.map _),
    h.once.sublist ((h.deducted.trans h.moved).sublist.map _)⟩

section

variable {ι : Type}

/-- A `SELECT` that finds finished rows. -/
def Reads (es : List (ι × Event)) : Prop := ∃ e ∈ es, (listedRow e.2).isSome

instance (es : List (ι × Event)) : Decidable (Reads es) :=
  inferInstanceAs (Decidable (∃ e ∈ es, (listedRow e.2).isSome))

variable [DecidableEq ι]

/-- No execution reads finished rows while another one runs and settles, and none stops
while it moves. -/
def Apart (c : Config ι Db Event Unit) : Turn ι Nat → Prop
  | .step i => Reads (c.emits (.step i : Turn ι Nat)) →
      ∀ j, j ≠ i → (c.proc j).isSome → ¬Settling (c.own j)
  | .stop i => ¬Moving (c.own i)
  | .tick _ => True

instance [Fintype ι] (c : Config ι Db Event Unit) : (a : Turn ι Nat) → Decidable (Apart c a)
  | .step _ => inferInstanceAs (Decidable (_ → ∀ _, _ → _ → _))
  | .stop i => inferInstanceAs (Decidable (¬Moving (c.own i)))
  | .tick _ => isTrue trivial

/-- Only rows of the table are read. -/
def ReadsTable (act : Db → Db × List Event) : Prop :=
  ∀ s, ∀ r ∈ (act s).2.filterMap listedRow, r ∈ s.openvpnConnections.rows

/-- What holds as long as the executions keep apart. -/
structure Sections (c : Config ι Db Event Unit) : Prop where
  single : ∀ i j, (c.proc i).isSome → (c.proc j).isSome → Settling (c.own i) →
    Settling (c.own j) → i = j
  stopped : ∀ i, c.proc i = none → ¬Moving (c.own i)
  /-- What a running execution has read and not deleted, nobody has. -/
  kept : ∀ i, (c.proc i).isSome → ∀ r ∈ (c.own i).filterMap listedRow,
    r.id ∉ (c.own i).filterMap removedId → Event.removed r.id ∉ c.log
  once : ∀ id, (c.log.filterMap movedRow).countP (·.id == id) ≤ 1

theorem sections_init (db : Db) (script : ι → Sql Unit) :
    Sections (Config.init db script : Config ι Db Event Unit) where
  single _ _ _ _ h := by simp [Settling, Config.init, Shared.own] at h
  stopped _ h := by simp [Config.init] at h
  kept _ _ _ h := by simp [Config.init, Shared.own] at h
  once _ := Nat.zero_le _

theorem mem_filterMap_log {g : Shared ι Db Event} {p : Event → Option OpenvpnConnection}
    {r : OpenvpnConnection} (hr : r ∈ g.log.filterMap p) : ∃ i, r ∈ (g.own i).filterMap p := by
  obtain ⟨e, he, hp⟩ := List.mem_filterMap.1 hr
  obtain ⟨⟨i, e'⟩, hie, rfl⟩ := List.mem_map.1 he
  exact ⟨i, List.mem_filterMap.2 ⟨e', Shared.mem_own.2 hie, hp⟩⟩

theorem Inv.told_append {db : Db} {status : ι → Option (List Client)} {g : Shared ι Db Event}
    {i : ι} {act : Db → Db × List Event} (h : Inv db status (g.exec i act)) :
    Told (status i) (g.own i ++ (act g.state).2) :=
  g.own_exec_self i act ▸ h.told i

/-! ## One statement -/

section Step

variable {db : Db} {status : ι → Option (List Client)} {c : Config ι Db Event Unit} {i : ι}
  {act : Db → Db × List Event} (hc : Sections c) (hrun : (c.proc i).isSome)
  (hapart : (act c.state).2.filterMap listedRow ≠ [] →
    ∀ j, j ≠ i → (c.proc j).isSome → ¬Settling (c.own j))
  (hinv : Inv db status c.toShared) (hinv' : Inv db status (c.exec i act))
  (htable : ReadsTable act)

include hc hrun hapart

/-- While an execution settles, or reads what it will settle, no other one moves. -/
theorem Sections.others_out
    (h : Settling (c.own i) ∨ (act c.state).2.filterMap listedRow ≠ []) {j : ι} (hj : j ≠ i) :
    ¬Moving (c.own j) := by
  intro hmoving
  cases hproc : c.proc j with
  | none => exact hc.stopped j hproc hmoving
  | some script =>
      have hrunj : (c.proc j).isSome := by simp [hproc]
      rcases h with hi | hreads
      · exact hj (hc.single j i hrunj hrun hmoving.2 hi)
      · exact hapart hreads j hj hrunj hmoving.2

/-- Two executions do not settle at the same time. -/
theorem Sections.not_both {j : ι} (hj : j ≠ i) (hrunj : (c.proc j).isSome)
    (hsettling : Settling (c.own j)) : ¬Settling (c.own i ++ (act c.state).2) := by
  intro hi
  rcases hi.of_append with hi | hreads
  · exact hj (hc.single j i hrunj hrun hsettling hi)
  · exact hapart hreads j hj hrunj hsettling

omit hapart in
include hinv htable in
/-- A row that the execution has read and not deleted was not deleted by anybody. -/
theorem Sections.not_removed {r : OpenvpnConnection}
    (hr : r ∈ (c.own i ++ (act c.state).2).filterMap listedRow)
    (hid : r.id ∉ (c.own i).filterMap removedId) : Event.removed r.id ∉ c.log := by
  rw [List.filterMap_append, List.mem_append] at hr
  rcases hr with hr | hr
  · exact hc.kept i hrun r hr hid
  · exact fun hremoved => (hinv.removed r.id hremoved).2 r (htable _ r hr) rfl

include hinv' in
/-- Nor does the execution delete what another one has read and not deleted. -/
theorem Sections.kept_of_ne {j : ι} (hj : j ≠ i) (hrunj : (c.proc j).isSome)
    {r : OpenvpnConnection} (hr : r ∈ (c.own j).filterMap listedRow)
    (hid : r.id ∉ (c.own j).filterMap removedId) : Event.removed r.id ∉ (act c.state).2 := by
  intro hremoved
  have htold := hinv'.told_append
  have hmoved : r.id ∈ ((c.own i ++ (act c.state).2).filterMap movedRow).map (·.id) :=
    htold.removed.subset (mem_filterMap_removedId.2 (List.mem_append_right _ hremoved))
  obtain ⟨r', hr', hid'⟩ := List.mem_map.1 hmoved
  have hlisted := htold.moved.subset hr'
  rw [List.filterMap_append, List.mem_append] at hlisted
  -- `i` has read the row too, so both settle
  rcases hlisted with hlisted | hlisted
  · have hown : r'.id ∉ (c.own i).filterMap removedId := fun hmem =>
      hc.kept j hrunj r hr hid
        (Shared.mem_log_of_mem_own (mem_filterMap_removedId.1 (hid' ▸ hmem)))
    exact hj (hc.single j i hrunj hrun ⟨r, hr, hid⟩ ⟨r', hlisted, hown⟩)
  · exact hapart (List.ne_nil_of_mem hlisted) j hj hrunj ⟨r, hr, hid⟩

include hinv hinv' htable

/-- A row that is moved now has not been moved before. -/
theorem Sections.not_moved {r r' : OpenvpnConnection}
    (hr : r ∈ (act c.state).2.filterMap movedRow) (hr' : r' ∈ c.log.filterMap movedRow) :
    r'.id ≠ r.id := by
  intro hid
  have htold := hinv'.told_append
  have hnodup := htold.nodup.1
  rw [List.filterMap_append, List.map_append, List.nodup_append] at hnodup
  have hfresh : r.id ∉ ((c.own i).filterMap movedRow).map (·.id) := fun hmem =>
    hnodup.2.2 _ hmem _ (List.mem_map_of_mem hr) rfl
  have hown : r.id ∉ (c.own i).filterMap removedId := fun hmem =>
    hfresh ((hinv.told i).removed.subset hmem)
  have hlisted : r ∈ (c.own i ++ (act c.state).2).filterMap listedRow := by
    refine htold.moved.subset ?_
    rw [List.filterMap_append]
    exact List.mem_append_right _ hr
  obtain ⟨j, hj⟩ := mem_filterMap_log hr'
  by_cases hji : j = i
  · subst hji
    exact hfresh (hid ▸ List.mem_map_of_mem hj)
  · have hsettles : Settling (c.own i) ∨ (act c.state).2.filterMap listedRow ≠ [] := by
      rw [List.filterMap_append, List.mem_append] at hlisted
      exact hlisted.imp (fun h => ⟨r, h, hown⟩) List.ne_nil_of_mem
    have hremoved := (hinv.told j).removed_of_moved (hc.others_out hrun hapart hsettles hji) hj
    exact hc.not_removed hrun hinv htable hlisted hown
      (hid ▸ Shared.mem_log_of_mem_own hremoved)

theorem Sections.once_exec (id : Nat) :
    ((c.exec i act).log.filterMap movedRow).countP (·.id == id) ≤ 1 := by
  rw [Shared.log_exec, List.filterMap_append, List.countP_append]
  by_cases hnew : ((act c.state).2.filterMap movedRow).countP (·.id == id) = 0
  · rw [hnew]
    exact hc.once id
  · obtain ⟨r, hr, hrid⟩ := List.countP_pos_iff.1 (Nat.pos_of_ne_zero hnew)
    have hold : (c.log.filterMap movedRow).countP (·.id == id) = 0 := by
      refine List.countP_eq_zero.2 fun r' hr' hid' => ?_
      exact hc.not_moved hrun hapart hinv hinv' htable hr hr'
        ((beq_iff_eq.1 hid').trans (beq_iff_eq.1 hrid).symm)
    have hnodup := hinv'.told_append.nodup.1
    rw [List.filterMap_append, List.map_append] at hnodup
    have hcount := List.nodup_iff_count_le_one.1 (List.nodup_append.1 hnodup).2.1 id
    rw [List.count, List.countP_map] at hcount
    rw [hold, Nat.zero_add]
    exact hcount

theorem Sections.exec (next : Sql Unit) :
    Sections ⟨c.exec i act, Function.update c.proc i (some next)⟩ := by
  have hsame : ∀ j, j ≠ i → (c.exec i act).own j = c.own j := fun j hj =>
    c.own_exec_of_ne act (Ne.symm hj)
  have hself : (c.exec i act).own i = c.own i ++ (act c.state).2 := c.own_exec_self i act
  have hproc : ∀ j, j ≠ i → Function.update c.proc i (some next) j = c.proc j := fun j hj =>
    Function.update_of_ne hj _ _
  refine ⟨fun j k hj hk hsj hsk => ?_, fun j hj => ?_, fun j hj r hr hid => ?_,
    hc.once_exec hrun hapart hinv hinv' htable⟩
  · by_cases hji : j = i <;> by_cases hki : k = i
    · rw [hji, hki]
    · subst hji
      dsimp only at hk hsj hsk
      rw [hproc k hki] at hk
      rw [hsame k hki] at hsk
      exact absurd (hself ▸ hsj) (hc.not_both hrun hapart hki hk hsk)
    · subst hki
      dsimp only at hj hsj hsk
      rw [hproc j hji] at hj
      rw [hsame j hji] at hsj
      exact absurd (hself ▸ hsk) (hc.not_both hrun hapart hji hj hsj)
    · dsimp only at hj hk hsj hsk
      rw [hproc j hji] at hj
      rw [hproc k hki] at hk
      exact hc.single j k hj hk (hsame j hji ▸ hsj) (hsame k hki ▸ hsk)
  · have hji : j ≠ i := by
      rintro rfl
      simp at hj
    dsimp only at hj ⊢
    rw [hproc j hji] at hj
    rw [hsame j hji]
    exact hc.stopped j hj
  · dsimp only at hj hr hid ⊢
    rw [Shared.log_exec, List.mem_append, not_or]
    by_cases hji : j = i
    · subst hji
      rw [hself] at hr hid
      rw [List.filterMap_append, List.mem_append, not_or] at hid
      exact ⟨hc.not_removed hrun hinv htable hr hid.1,
        fun hmem => hid.2 (mem_filterMap_removedId.2 hmem)⟩
    · rw [hproc j hji] at hj
      rw [hsame j hji] at hr hid
      exact ⟨hc.kept j hj r hr hid,
        hc.kept_of_ne hrun hapart hinv' hji hj hr hid⟩

end Step

/-! ## The other actions -/

theorem Sections.stop {c : Config ι Db Event Unit} (hc : Sections c) {i : ι}
    (hout : ¬Moving (c.own i)) : Sections (c.act Db.tick (.stop i : Turn ι Nat)) := by
  have hrunning : ∀ j, (Function.update c.proc i none j).isSome → (c.proc j).isSome := by
    intro j hj
    by_cases hji : j = i
    · simp [hji] at hj
    · rwa [Function.update_of_ne hji] at hj
  refine ⟨fun j k hj hk => hc.single j k (hrunning j hj) (hrunning k hk), fun j hj => ?_,
    fun j hj => hc.kept j (hrunning j hj), hc.once⟩
  by_cases hji : j = i
  · subst hji
    exact hout
  · refine hc.stopped j ?_
    simpa [Config.act, hji] using hj

theorem Sections.tick {c : Config ι Db Event Unit} (hc : Sections c) (seconds : Nat) :
    Sections (c.act Db.tick (.tick seconds : Turn ι Nat)) :=
  ⟨hc.single, hc.stopped, hc.kept, hc.once⟩

/-- **One action.**  Executions that keep apart go on moving every row at most once. -/
theorem Sections.act {db : Db} {status : ι → Option (List Client)} {c : Config ι Db Event Unit}
    (hc : Sections c) (htable : c.Each fun _ => ReadsTable) {a : Turn ι Nat} (ha : Apart c a)
    (hinv : Inv db status c.toShared) (hinv' : Inv db status (c.act Db.tick a).toShared) :
    Sections (c.act Db.tick a) := by
  cases a with
  | step i =>
      rcases c.act_step_cases Db.tick i with ⟨hidle, -⟩ | ⟨act, next, hp, hact, hemits⟩
      · rwa [hidle]
      · rw [hact] at hinv' ⊢
        refine hc.exec (by simp [hp]) (fun hreads => ?_) hinv hinv' (htable i _ hp).1 _
        obtain ⟨r, hr⟩ := List.exists_mem_of_ne_nil _ hreads
        obtain ⟨e, he, hlisted⟩ := List.mem_filterMap.1 hr
        refine ha ⟨(i, e), ?_, by simp [hlisted]⟩
        rw [hemits]
        exact List.mem_map_of_mem he
  | stop i => exact hc.stop ha
  | tick seconds => exact hc.tick seconds

end

end ParDiff.OpenVpn
