import ParDiff.Lib.Interleave
import ParDiff.Lib.Run
import ParDiff.Expiry.Validity

/-!
# A run of `expire.pl` among redemptions

The run reads the overdue accounts with one statement and freezes them later, each
by its id.  A redemption that comes in between brings the account back, and is
undone.  A redemption of an account that is not on the list is safe at every point
of the schedule.
-/

namespace ParDiff.Expiry

open Lib Lib.Text Vouchers

/-! ## The processes -/

variable {κ : Type} [DecidableEq κ] (valid : Str → Bool)

/-- Process `none` is the run of `expire.pl`, the others are redemptions. -/
def script (reqs : κ → Request) : Option κ → Sql Unit
  | none => (expire valid).bind fun _ => .done ()
  | some j => (couponCredit (reqs j)).bind fun _ => .done ()

def processes (db : Db) (reqs : κ → Request) : Config (Option κ) Db Event Unit :=
  Config.init db (script valid reqs)

/-- The statement is a redemption's `UPDATE login`, and it matches account `id`. -/
def redeems (db : Db) (id : Nat) : Event → Bool
  | .credited (.coupon _) name _ rows =>
      rows != 0 && db.login.rows.any fun u => decide (u.id = id) && u.named (some name)
  | _ => false

/-- What is left of `expire.pl` when it has still to freeze `suspended`, of all it
has read; `mails` are already sent. -/
def loop (mails : List Mail) (all suspended : List Login) : Sql Unit :=
  (((Script.forEach suspended suspend).bind fun _ =>
    .done (notifyAdmin valid "[suspend] Accounts suspended notification".toList
      (report "The following accounts are expired for 7 days, and suspended\n".toList all))).bind
    fun final => .done (mails ++ final)).bind fun _ => .done ()

/-- What is left of `expire.pl` before it reads the overdue accounts. -/
def selecting (mails : List Mail) : Sql Unit :=
  selectOverdue.bind fun suspended => loop valid mails suspended suspended

variable (id : Nat) (c : Config (Option κ) Db Event Unit)

/-- A redemption updates the account. -/
def Redeemed (a : Turn (Option κ) Nat) : Prop :=
  ∃ e ∈ c.emits a, redeems c.state id e.2 = true

instance (a : Turn (Option κ) Nat) : Decidable (Redeemed id c a) :=
  inferInstanceAs (Decidable (∃ e ∈ c.emits a, redeems c.state id e.2 = true))

/-- The account has been read as overdue and is still to be frozen. -/
def Pending : Prop :=
  ∃ mails all suspended, c.proc none = some (loop valid mails all suspended) ∧
    ∃ v ∈ suspended, v.id = id

/-- The next statement of `expire.pl` freezes the account. -/
def Freezes (a : Turn (Option κ) Nat) : Prop :=
  a = .step none ∧ ∃ mails all v suspended,
    c.proc none = some (loop valid mails all (v :: suspended)) ∧ v.id = id

/-- Recharges last.  From the statement of a redemption that updates an account on,
as long as no other redemption updates it and whenever `expire.pl` freezes it the
new date, if there is one, is not older than seven days, the account is active and has
that date. -/
def RechargesLast (schedule : List (Turn (Option κ) Nat)) : Prop :=
  ∀ pre a mid post, schedule = pre ++ a :: (mid ++ post) → ∀ id (date : Option Time),
    Redeemed id (c.run Db.tick pre) a →
    (∀ u ∈ ((c.run Db.tick pre).act Db.tick a).state.login.rows, u.id = id →
      u.expireAt = date) →
    Along (Config.act Db.tick)
      (fun c a => ¬Redeemed id c a ∧
        (Freezes valid id c a → ∀ e ∈ date, c.state.now ≤ e + 7 * 86400))
      ((c.run Db.tick pre).act Db.tick a) mid →
    ∃ u ∈ (((c.run Db.tick pre).act Db.tick a).run Db.tick mid).state.login.rows,
      u.id = id ∧ u.accountState = .ACTIVE ∧ u.expireAt = date

/-- No redemption updates an account that is still to be frozen. -/
def Undisturbed (a : Turn (Option κ) Nat) : Prop := ∀ id, Redeemed id c a → ¬Pending valid id c

/-! ## Statements of a redemption -/

/-- A statement touches an account only if it says so, and then activates it. -/
structure Redemption (act : Db → Db × List Event) : Prop where
  now : ∀ db, (act db).1.now = db.now
  kept : ∀ db u, u ∈ db.login.rows → (∀ e ∈ (act db).2, redeems db u.id e = false) →
    u ∈ (act db).1.login.rows
  active : ∀ db id e, e ∈ (act db).2 → redeems db id e = true →
    ∃ u ∈ (act db).1.login.rows, u.id = id ∧ u.accountState = .ACTIVE

omit [DecidableEq κ] in
theorem redemption_of_login_eq {act : Db → Db × List Event} (hnow : ∀ db, (act db).1.now = db.now)
    (hlogin : ∀ db, (act db).1.login = db.login)
    (hevents : ∀ db id e, e ∈ (act db).2 → redeems db id e = false) : Redemption act where
  now := hnow
  kept db u hu _ := by rwa [hlogin]
  active db id e he hredeems := by
    rw [hevents db id e he] at hredeems
    cases hredeems

theorem redemption_credit (r : Request) (card : Str) (amount expire : Int) :
    (Vouchers.credit r card amount expire).Every Redemption := by
  refine Script.every_exec ⟨fun db => ?_, fun db u hu hquiet => ?_, fun db id e he hredeems => ?_⟩
  · dsimp only
    split <;> rfl
  · dsimp only at hquiet ⊢
    split at hquiet
    · rwa [if_pos ‹_›]
    · rw [if_neg ‹_›]
      have hevent := hquiet _ (List.mem_singleton.2 rfl)
      have hnot : u.named r.username = false := by
        rw [Bool.eq_false_iff]
        intro hnamed
        cases hname : r.username with
        | none => simp [hname, Login.named] at hnamed
        | some name =>
            rw [hname] at hnamed hevent
            have hrows := Db.countLogin_ne_zero hu hnamed
            simp only [redeems, Option.getD_some, Bool.and_eq_false_imp, bne_iff_ne] at hevent
            have hany := hevent hrows
            rw [List.any_eq_false] at hany
            exact hany u hu (by simp [hnamed])
      exact mem_updateAll.2 ⟨u, hu, by simp [hnot]⟩
  · dsimp only at he ⊢
    split at he
    · simp at he
    · rw [if_neg ‹_›]
      obtain rfl := List.mem_singleton.1 he
      simp only [redeems, Bool.and_eq_true, bne_iff_ne, List.any_eq_true, decide_eq_true_eq]
        at hredeems
      obtain ⟨hrows, u, hu, hid, hnamed⟩ := hredeems
      cases hname : r.username with
      | none =>
          rw [hname] at hrows
          exact absurd (List.countP_eq_zero.2 fun _ _ => by simp [Login.named]) hrows
      | some name =>
          rw [hname, Option.getD_some] at hnamed
          refine ⟨_, mem_updateAll.2 ⟨u, hu, rfl⟩, ?_⟩
          rw [if_pos hnamed]
          exact ⟨hid, rfl⟩

theorem redemption_query {α : Type} (f : Db → α) :
    (Script.query f : Sql α).Every Redemption :=
  Script.every_exec (redemption_of_login_eq (fun _ => rfl) (fun _ => rfl) (by simp))

theorem redemption_claim (r : Request) (card : Str) :
    (Vouchers.claim r card).Every Redemption := by
  refine Script.every_exec (redemption_of_login_eq (fun db => ?_) (fun db => ?_) ?_)
  · split <;> rfl
  · split <;> rfl
  · intro db id e he
    split at he
    · simp at he
    · rw [List.mem_singleton.1 he]
      rfl

theorem redemption_record (r : Request) (card : Str) (amount expire : Int) :
    (Vouchers.record r card amount expire).Every Redemption := by
  refine Script.every_exec (redemption_of_login_eq (fun db => ?_) (fun db => ?_) ?_)
  · dsimp only
    split
    · rfl
    · split <;> rfl
  · dsimp only
    split
    · rfl
    · split <;> rfl
  · intro db id e he
    dsimp only at he
    split at he
    · simp at he
    · split at he
      · simp at he
      · rw [List.mem_singleton.1 he]
        rfl

theorem redemption_redeem (r : Request) (card : Str) :
    (redeem r card).Every Redemption := by
  refine (redemption_claim r card).bind fun couponFound => ?_
  split
  · trivial
  · refine (redemption_query _).bind fun ref => ?_
    split
    · trivial
    · split
      · trivial
      · exact (redemption_credit r card _ _).bind fun _ =>
          (redemption_record r card _ _).bind fun _ => trivial

theorem redemption_couponCredit (r : Request) : (couponCredit r).Every Redemption := by
  unfold couponCredit
  split
  · trivial
  · dsimp only
    split
    · trivial
    · refine (redemption_query _).bind fun c => ?_
      split
      · trivial
      · refine (redemption_query _).bind fun c => ?_
        split
        · trivial
        · exact redemption_redeem r _

/-! ## Where `expire.pl` stands -/

/-- The run has stopped, has not read the overdue accounts yet, or is still to
freeze accounts that satisfy `Q`. -/
def Phase (Q : Login → Prop) (p : Option (Sql Unit)) : Prop :=
  p = none ∨ p = some ((expire valid).bind fun _ => .done ()) ∨
    (∃ mails, p = some (selecting valid mails)) ∨
    ∃ mails all suspended, p = some (loop valid mails all suspended) ∧ ∀ v ∈ suspended, Q v

variable {valid c id}

/-- One statement of `expire.pl`: it reads the overdue accounts, freezes the next one,
or does neither. -/
theorem Phase.act_step {Q : Login → Prop} (h : Phase valid Q (c.proc none))
    (hselect : ∀ v ∈ c.state.login.rows, overdue c.state.now v = true → Q v) :
    Phase valid Q ((c.act Db.tick (.step none)).proc none) ∧
      ((c.act Db.tick (.step none)).state = c.state ∨
        ∃ mails all v suspended, c.proc none = some (loop valid mails all (v :: suspended)) ∧
          Q v ∧ (c.act Db.tick (.step none)).state = freeze v.id c.state) := by
  rcases h with hp | hp | ⟨mails, hp⟩ | ⟨mails, all, suspended, hp, hQ⟩
  · have hact : c.act Db.tick (.step none) = c := by simp [Config.act, hp]
    rw [hact]
    exact ⟨.inl hp, .inl rfl⟩
  · refine ⟨.inr (.inr (.inl ⟨warnings valid (c.state.login.rows.filter
      (expiredBefore c.state.now)), ?_⟩)), .inl ?_⟩
    · simp only [Config.act, hp]
      rfl
    · simp only [Config.act, hp]
      rfl
  · refine ⟨.inr (.inr (.inr ⟨mails, c.state.login.rows.filter (overdue c.state.now),
      c.state.login.rows.filter (overdue c.state.now), ?_, ?_⟩)), .inl ?_⟩
    · simp only [Config.act, hp]
      rfl
    · intro v hv
      obtain ⟨hmem, hoverdue⟩ := List.mem_filter.1 hv
      exact hselect v hmem hoverdue
    · simp only [Config.act, hp]
      rfl
  · cases suspended with
    | nil =>
        have hact : c.act Db.tick (.step none) = c := by
          simp only [Config.act, hp]
          rfl
        rw [hact]
        exact ⟨.inr (.inr (.inr ⟨mails, all, [], hp, hQ⟩)), .inl rfl⟩
    | cons v suspended =>
        refine ⟨.inr (.inr (.inr ⟨mails, all, suspended, ?_, ?_⟩)),
          .inr ⟨mails, all, v, suspended, hp, hQ v (by simp), ?_⟩⟩
        · simp only [Config.act, hp]
          rfl
        · intro w hw
          exact hQ w (by simp [hw])
        · simp only [Config.act, hp]
          rfl

theorem Phase.imp {Q Q' : Login → Prop} {p : Option (Sql Unit)} (h : Phase valid Q p)
    (hQ : ∀ mails all suspended, p = some (loop valid mails all suspended) →
      ∀ v ∈ suspended, Q v → Q' v) : Phase valid Q' p := by
  rcases h with hp | hp | hp | ⟨mails, all, suspended, hp, hall⟩
  · exact .inl hp
  · exact .inr (.inl hp)
  · exact .inr (.inr (.inl hp))
  · refine .inr (.inr (.inr ⟨mails, all, suspended, hp, fun v hv => ?_⟩))
    exact hQ mails all suspended hp v hv (hall v hv)

theorem proc_none_act_some (j : κ) :
    (c.act Db.tick (.step (some j))).proc none = c.proc none := by
  rcases c.act_step_cases Db.tick (some j) with ⟨hidle, -⟩ | ⟨act, next, -, hact, -⟩
  · rw [hidle]
  · rw [hact]
    simp

/-! ## Every schedule -/

/-- `expire.pl` reports nothing, and the others are redemptions. -/
def Allowed : Option κ → (Db → Db × List Event) → Prop
  | none, act => ∀ db, (act db).2 = []
  | some _, act => Redemption act

/-- What holds of the system at any time. -/
structure Running (valid : Str → Bool) (c : Config (Option κ) Db Event Unit) : Prop where
  each : c.Each Allowed
  phase : Phase valid (fun _ => True) (c.proc none)

/-- The account is active with this date, and if it is still to be frozen the date is
older than seven days by now. -/
structure Recharged (valid : Str → Bool) (id : Nat) (date : Option Nat)
    (c : Config (Option κ) Db Event Unit) : Prop where
  each : c.Each Allowed
  row : ∃ u ∈ c.state.login.rows, u.id = id ∧ u.accountState = .ACTIVE ∧ u.expireAt = date
  phase : Phase valid (fun v => v.id = id → ∃ e ∈ date, e + 7 * 86400 < c.state.now)
    (c.proc none)

theorem phase_stop {Q : Login → Prop} (h : Phase valid Q (c.proc none)) (i : Option κ) :
    Phase valid Q ((c.act Db.tick (.stop i : Turn (Option κ) Nat)).proc none) := by
  by_cases hi : i = none
  · exact .inl (by simp [Config.act, hi])
  · have hproc : (c.act Db.tick (.stop i : Turn (Option κ) Nat)).proc none = c.proc none := by
      simp [Config.act, Function.update_of_ne (Ne.symm hi)]
    rwa [hproc]

theorem Running.act (h : Running valid c) (a : Turn (Option κ) Nat) :
    Running valid (c.act Db.tick a) := by
  refine ⟨h.each.act Db.tick a, ?_⟩
  cases a with
  | step i =>
      cases i with
      | none => exact (h.phase.act_step fun _ _ _ => trivial).1
      | some j =>
          rw [proc_none_act_some]
          exact h.phase
  | stop i => exact phase_stop h.phase i
  | tick t => exact h.phase

theorem silent_expire (valid : Str → Bool) :
    (expire valid).Every fun act => ∀ db, (act db).2 = [] := by
  refine (Script.every_exec fun _ => rfl).bind fun expired => ?_
  refine (Script.every_exec fun _ => rfl).bind fun suspended => ?_
  refine Script.Every.bind ?_ fun _ => trivial
  exact (Script.every_forEach fun _ _ => Script.every_exec fun _ => rfl).bind fun _ => trivial

omit [DecidableEq κ] in
theorem running_processes (valid : Str → Bool) (db : Db) (reqs : κ → Request) :
    Running valid (processes valid db reqs) := by
  refine ⟨Config.each_init (fun i => ?_) db, .inr (.inl rfl)⟩
  cases i with
  | none => exact (silent_expire valid).bind fun _ => trivial
  | some j => exact (redemption_couponCredit (reqs j)).bind fun _ => trivial

theorem running_run {db : Db} {reqs : κ → Request} (schedule : List (Turn (Option κ) Nat)) :
    Running valid ((processes valid db reqs).run Db.tick schedule) :=
  foldl_invariant (fun _ a h => h.act a) (running_processes valid db reqs) schedule

/-- A statement of another process that does not redeem the account leaves it alone. -/
theorem Recharged.act_some {date : Option Nat} (h : Recharged valid id date c) (j : κ)
    (hquiet : ¬Redeemed id c (.step (some j))) :
    Recharged valid id date (c.act Db.tick (.step (some j))) := by
  refine ⟨h.each.act Db.tick _, ?_, ?_⟩
  · rcases c.act_step_cases Db.tick (some j) with ⟨hidle, -⟩ | ⟨act, next, hp, hact, hemits⟩
    · rw [hidle]
      exact h.row
    · rw [hact]
      obtain ⟨u, hu, rfl, hactive, hexpire⟩ := h.row
      have hredemption : Redemption act := (h.each _ _ hp).1
      refine ⟨u, hredemption.kept _ u hu fun ev hev => ?_, rfl, hactive, hexpire⟩
      rw [Bool.eq_false_iff]
      intro hredeems
      refine hquiet ⟨(some j, ev), ?_, hredeems⟩
      rw [hemits]
      exact List.mem_map_of_mem hev
  · rw [proc_none_act_some]
    have hnow : (c.act Db.tick (.step (some j))).state.now = c.state.now := by
      rcases c.act_step_cases Db.tick (some j) with ⟨hidle, -⟩ | ⟨act, next, hp, hact, -⟩
      · rw [hidle]
      · rw [hact]
        have hredemption : Redemption act := (h.each _ _ hp).1
        exact hredemption.now c.state
    rw [hnow]
    exact h.phase

/-- `expire.pl` freezes the account only when the date is older than seven days. -/
theorem Recharged.act_none {date : Option Nat} (h : Recharged valid id date c)
    (hold : Freezes valid id c (.step none) → ∀ e ∈ date, c.state.now ≤ e + 7 * 86400) :
    Recharged valid id date (c.act Db.tick (.step none)) := by
  obtain ⟨u, hu, huid, hactive, hexpire⟩ := h.row
  have hselect : ∀ v ∈ c.state.login.rows, overdue c.state.now v = true → v.id = id →
      ∃ e ∈ date, e + 7 * 86400 < c.state.now := by
    intro v hv hoverdue hvid
    obtain rfl : v = u := c.state.login.eq_of_key_eq hv hu (hvid.trans huid.symm)
    obtain ⟨e, he, hlt⟩ := old_of_overdue hoverdue
    exact ⟨e, hexpire.symm.trans he, hlt⟩
  obtain ⟨hphase, hstate | ⟨mails, all, v, suspended, hp, hv, hstate⟩⟩ := h.phase.act_step hselect
  · refine ⟨h.each.act Db.tick _, ?_, ?_⟩ <;> rw [hstate]
    · exact ⟨u, hu, huid, hactive, hexpire⟩
    · exact hphase
  · have hne : v.id ≠ id := by
      intro hvid
      obtain ⟨e, he, hlate⟩ := hv hvid
      have hcurrent := hold ⟨rfl, mails, all, v, suspended, hp, hvid⟩ e he
      exact absurd hlate (Nat.not_lt.2 hcurrent)
    refine ⟨h.each.act Db.tick _, ?_, ?_⟩ <;> rw [hstate]
    · refine ⟨u, mem_updateAll.2 ⟨u, hu, ?_⟩, huid, hactive, hexpire⟩
      simp [huid, hne.symm]
    · exact hphase

theorem Recharged.act {date : Option Nat} (h : Recharged valid id date c)
    (a : Turn (Option κ) Nat) (hquiet : ¬Redeemed id c a)
    (hold : Freezes valid id c a → ∀ e ∈ date, c.state.now ≤ e + 7 * 86400) :
    Recharged valid id date (c.act Db.tick a) := by
  cases a with
  | step i =>
      cases i with
      | none => exact h.act_none hold
      | some j => exact h.act_some j hquiet
  | stop i => exact ⟨h.each.act Db.tick _, h.row, phase_stop h.phase i⟩
  | tick t =>
      refine ⟨h.each, h.row, h.phase.imp fun _ _ _ _ v _ hv hid => ?_⟩
      obtain ⟨e, he, hlt⟩ := hv hid
      exact ⟨e, he, Nat.lt_of_lt_of_le hlt (Nat.le_add_right _ t)⟩

/-- A redemption of an account that is not still to be frozen. -/
theorem Running.redeemed {date : Option Nat} (h : Running valid c) {a : Turn (Option κ) Nat}
    (hredeemed : Redeemed id c a) (hpending : ¬Pending valid id c)
    (hdate : ∀ u ∈ (c.act Db.tick a).state.login.rows, u.id = id → u.expireAt = date) :
    Recharged valid id date (c.act Db.tick a) := by
  obtain ⟨ev, hev, hredeems⟩ := hredeemed
  cases a with
  | stop i => simp [Config.emits] at hev
  | tick t => simp [Config.emits] at hev
  | step i =>
      rcases c.act_step_cases Db.tick i with ⟨-, hemits⟩ | ⟨act, next, hp, hact, hemits⟩
      · simp [hemits] at hev
      · have hallowed : Allowed i act := (h.each _ _ hp).1
        rw [hemits] at hev
        obtain ⟨event, hevent, rfl⟩ := List.mem_map.1 hev
        cases i with
        | none =>
            have hsilent : (act c.state).2 = [] := hallowed c.state
            simp [hsilent] at hevent
        | some j =>
            refine ⟨h.each.act Db.tick _, ?_, ?_⟩
            · rw [hact] at hdate ⊢
              obtain ⟨u, hu, hid, hactive⟩ :=
                Redemption.active hallowed c.state id event hevent hredeems
              exact ⟨u, hu, hid, hactive, hdate u hu hid⟩
            · rw [proc_none_act_some]
              refine h.phase.imp fun mails all suspended hp v hv _ hid => ?_
              exact absurd ⟨mails, all, suspended, hp, v, hv, hid⟩ hpending

/-- **Recharges last.**  In every schedule in which no redemption updates an account
that `expire.pl` has read as overdue and is still to freeze, no recharge is undone. -/
theorem recharges_last (db : Db) (reqs : κ → Request) (schedule : List (Turn (Option κ) Nat))
    (hundisturbed : Along (Config.act Db.tick) (Undisturbed valid) (processes valid db reqs)
      schedule) :
    RechargesLast valid (processes valid db reqs) schedule := by
  rintro pre a mid post rfl id date hredeemed hdate hmid
  rw [Along.append_iff] at hundisturbed
  have hpending : ¬Pending valid id ((processes valid db reqs).run Db.tick pre) :=
    hundisturbed.2.1 id hredeemed
  have hstart : Recharged valid id date (((processes valid db reqs).run Db.tick pre).act Db.tick a) :=
    (running_run pre).redeemed hredeemed hpending hdate
  have hend := Along.invariant (I := Recharged valid id date)
    (fun c a h hok => h.act a hok.1 hok.2) hstart hmid
  exact hend.row

/-! ## One run and one redemption -/

def lateProcesses : Config (Option Unit) Db Event Unit :=
  processes (fun _ => true) lateDb fun _ => request lateCard "bob".toList

/-- `expire.pl` reads bob's account as overdue, bob redeems his card up to the update
of his account, and `expire.pl` freezes it. -/
def undoingSchedule : List (Turn (Option Unit) Nat) :=
  List.replicate 2 (.step none) ++ List.replicate 5 (.step (some ())) ++ [.step none]

/-- The account is disabled, though its new date is 22 days ahead. -/
theorem recharge_undone :
    ¬RechargesLast (fun _ => true) lateProcesses undoingSchedule := by
  intro h
  have hlast := h (List.replicate 2 (.step none) ++ List.replicate 4 (.step (some ())))
    (.step (some ())) [.step none] [] rfl 1 (some (unixEpoch + 1000000 + 30 * 86400)) (by decide)
    (by decide) ⟨⟨by decide, fun _ => by decide⟩, trivial⟩
  revert hlast
  decide

omit [DecidableEq κ] in
theorem undisturbed_of_silent {a : Turn (Option κ) Nat} (h : c.emits a = []) :
    Undisturbed valid c a := by
  rintro id ⟨e, he, -⟩
  simp [h] at he

omit [DecidableEq κ] in
theorem not_pending_of_done (h : c.proc none = some (.done ())) : ¬Pending valid id c := by
  rintro ⟨mails, all, suspended, hp, v, hv, -⟩
  rw [h] at hp
  cases suspended with
  | nil => simp at hv
  | cons w suspended => cases Option.some.inj hp

/-- The run comes first and freezes the account, and the recharge lasts. -/
theorem recharges_last_after_run :
    RechargesLast (fun _ => true) lateProcesses
      (List.replicate 3 (.step none) ++ List.replicate 6 (.step (some ()))) :=
  recharges_last lateDb _ _
    ⟨undisturbed_of_silent rfl, undisturbed_of_silent rfl, undisturbed_of_silent rfl,
      undisturbed_of_silent rfl, undisturbed_of_silent rfl,
      fun _ _ => not_pending_of_done rfl, undisturbed_of_silent rfl,
      fun _ _ => not_pending_of_done rfl, fun _ _ => not_pending_of_done rfl, trivial⟩

end ParDiff.Expiry
