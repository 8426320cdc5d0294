import ParDiff.PppSql.Logins

/-!
# Exclusive logins

With `mysql-exclusive` no user should be online twice.  The row of a user is locked from
the check of the password to the commit of the status, so between two logins the status
was set back, by the link that was online.
-/

namespace ParDiff.PppSql

open Lib Lib.Text Lib.Transaction Lib.Transaction.Server

section Links

variable {ι : Type} [DecidableEq ι] {i : ι} {α : Type} {P : Shared ι (Mysql ι) Event → Prop}
  {c : Handle ι} {host : Host} {opt : Options}

/-! ## Authentication -/

def Unseen (own : List Event) : Prop := ∀ name, .established name ∉ own

theorem away_unseen : Away Unseen where
  offline h := .inl h
  stored h hes name hmem := by
    rcases List.mem_append.1 hmem with hmem | hmem
    · exact h name hmem
    · obtain ⟨account, status, heq⟩ := hes _ hmem
      exact absurd heq (by simp)

theorem away_released : Away fun own => .released ∈ own where
  offline h := .inr h
  stored h _ := List.mem_append_left _ h

theorem locks_of_parameter (hparameter : opt.parameter = true) (hexclusive : opt.exclusive = true) :
    opt.locks = true := by
  simp only [Options.parameter, hexclusive, Bool.true_and, Bool.and_eq_true,
    Bool.not_eq_eq_eq_not, Bool.not_true, Bool.or_eq_false_iff, Option.isNone_eq_false_iff] at hparameter
  simp [Options.locks, hexclusive, hparameter.2]

variable {peer : Peer}

theorem valid_databaseAuth (hreads : Reads host.sql opt peer.name)
    (hopens : ∀ row, Opens host opt peer row →
      opt.exclusive = true ∧ row.update ≠ "1".toList) :
    logins.Valid i
      (fun r g => Unseen (g.own i) ∧ ∀ username, r = some username →
        username = peer.name.take maxNameLen ∧ Holds i (fold peer.name) g)
      (databaseAuth host opt i peer) fun g => Unseen (g.own i) := by
  have hunseen : Steady i fun g : Shared ι (Mysql ι) Event => Unseen (g.own i) := steady_own i Unseen
  rw [databaseAuth]
  by_cases hparameter : opt.parameter = true
  · rw [if_pos hparameter]
    refine (valid_mysqlConnect opt hunseen).bind fun r => ?_
    rcases r with - | - | c
    · exact Contract.Valid.done fun _ _ h => ⟨h.1, by simp⟩
    · simp only [mysqlPassword, queryLoop_none, Script.done_bind, Option.any_none,
        Bool.false_eq_true, if_false, mysqlDisconnect]
      exact Contract.Valid.done fun _ _ h => ⟨h.1, by simp⟩
    · refine Contract.Valid.strengthen (Contract.Valid.and_pre fun hc : c.1 = i => ?_)
        fun g _ h => ⟨(h.2 _ rfl c rfl).1, h⟩
      have hpassword := (valid_mysqlPassword hreads hc hunseen).strengthen
        fun g _ (h : Unseen (g.own i) ∧ ∀ d, some (some c) = some d → Fresh i d g.state.server) =>
          ⟨h.1, (h.2 _ rfl c rfl).2, by simp⟩
      refine hpassword.bind fun secret => ?_
      by_cases haccepts : secret.any (peer.credentials.accepts host opt) = true
      · rw [if_pos haccepts]
        have hmay : ∀ g : Shared ι (Mysql ι) Event, Unseen (g.own i) ∧
              Found host opt peer.name c secret g.state.server →
            Unseen (g.own i) ∧ (g.state.server.Guarded rowsOf c (fold peer.name)
              fun rows => ¬LoggedIn rows) ∧ Only c ⟨fold peer.name, "1".toList⟩ g.state.server := by
          rintro g ⟨hg, hwrites, hfound⟩
          obtain ⟨secretName, rfl, haccepts⟩ : ∃ s, secret = some s ∧
              peer.credentials.accepts host opt s = true := by
            simpa [Option.any_eq_true] using haccepts
          obtain ⟨row, ⟨huser, hcondition, hfetch⟩, hguarded⟩ := hfound secretName rfl
          obtain ⟨hexclusive, hupdate⟩ := hopens row ⟨huser, hcondition, by simp [hfetch, haccepts]⟩
          refine ⟨hg, fun hlink => ?_, fun hlink v hv => ?_⟩
          · obtain ⟨howner, hrow⟩ := hguarded (locks_of_parameter hparameter hexclusive) hlink
            exact ⟨howner, fun hall => hupdate (hall row hrow)⟩
          · rw [hwrites hlink] at hv
            exact absurd hv List.not_mem_nil
        have hstatus := valid_mysqlStatus (w := ⟨fold peer.name, "1".toList⟩) hreads (by simp) rfl
          hc away_unseen (permits_guarded hc (fold peer.name))
        refine (hstatus.strengthen fun g _ h => hmay g h).bind fun ok => ?_
        have hsteady := hunseen.and (((steady_holds i (fold peer.name)).imp
          ("1".toList = "1".toList)).imp (ok = true))
        refine (valid_mysqlDisconnect hsteady hc).bind fun _ => ?_
        apply Contract.Valid.done
        rintro g - ⟨hg, hholds⟩
        refine ⟨hg, fun username husername => ?_⟩
        cases ok with
        | true => exact ⟨(Option.some.inj husername).symm, hholds rfl rfl⟩
        | false => exact absurd husername (by simp)
      · rw [if_neg haccepts]
        refine ((valid_mysqlDisconnect hunseen hc).strengthen fun _ _ h => h.1).bind fun _ => ?_
        exact Contract.Valid.done fun _ _ h => ⟨h, by simp⟩
  · rw [if_neg hparameter]
    exact Contract.Valid.done fun _ _ h => ⟨h, by simp⟩

/-! ## IPCP -/

omit [DecidableEq ι] in
theorem holder_concat {account : Str} {trace : List (ι × Event)} {e : ι × Event}
    (he : ∀ a status, e.2 ≠ .stored a status) :
    holder account (trace ++ [e]) = holder account trace := by
  rw [holder, holder, List.foldl_append, List.foldl_cons, List.foldl_nil]
  split
  · rename_i a status hstored
    exact absurd hstored (he a status)
  · rfl

/-- A step of the process that stores nothing and tells who is online. -/
theorem valid_tell {e : Event} (he : ∀ a status, e ≠ .stored a status)
    {Q : Shared ι (Mysql ι) Event → Prop} (hstable : logins.Stable i Q)
    (honline : ∀ g : Shared ι (Mysql ι) Event, Sound g → P g → ∀ account,
      Online ⟨g.state, g.trace ++ [(i, e)]⟩ i account → Holds i account g)
    (hQ : ∀ g : Shared ι (Mysql ι) Event, P g → Q ⟨g.state, g.trace ++ [(i, e)]⟩) :
    logins.Valid i (fun _ => Q) (Script.modify id fun _ => [e] : Program ι Unit) P := by
  refine Contract.Valid.exec (fun _ => hstable) ?_
  rintro g hsound hP -
  have hholds : ∀ j account, Holds j account g →
      Holds j account ⟨g.state, g.trace ++ [(i, e)]⟩ := by
    intro j account hj
    rw [Holds, holder_concat he]
    exact hj
  have hown : ∀ j, j ≠ i →
      (⟨g.state, g.trace ++ [(i, e)]⟩ : Shared ι (Mysql ι) Event).own j = g.own j := by
    intro j hj
    simp [Shared.own, Ne.symm hj]
  refine ⟨⟨hsound.covered, fun j account hj => ?_⟩,
    ⟨⟨0, .refl _ _ _⟩, fun j account _ hj => hholds j account hj⟩, hQ g hP⟩
  by_cases hji : j = i
  · subst hji
    exact hholds j account (honline g hsound hP account hj)
  · rw [Online] at hj
    change (∃ n, fold n = account ∧ _ ∈ (⟨g.state, g.trace ++ [(i, e)]⟩ :
      Shared ι (Mysql ι) Event).own j) ∧ _ ∉ (⟨g.state, g.trace ++ [(i, e)]⟩ :
        Shared ι (Mysql ι) Event).own j at hj
    rw [hown j hji] at hj
    exact hholds j account (hsound.online j account hj)

omit [DecidableEq ι] in
theorem holds_tell {e : Event} (he : ∀ a status, e ≠ .stored a status) {account : Str}
    {g : Shared ι (Mysql ι) Event} (h : Holds i account g) :
    Holds i account ⟨g.state, g.trace ++ [(i, e)]⟩ := by
  rw [Holds, holder_concat he]
  exact h

theorem mem_own_tell (g : Shared ι (Mysql ι) Event) (i : ι) (e : Event) :
    e ∈ (⟨g.state, g.trace ++ [(i, e)]⟩ : Shared ι (Mysql ι) Event).own i := by
  simp [Shared.own]

/-- The user name of the process, and what is known if its status is going to be reset. -/
def Named (opt : Options) (i : ι) (username : Str) (g : Shared ι (Mysql ι) Event) : Prop :=
  opt.locks = true → Holds i (fold username) g

theorem steady_named (opt : Options) (i : ι) (username : Str) : Steady i (Named opt i username) :=
  (steady_holds i (fold username)).imp _

variable {username : Str}

theorem valid_release :
    logins.Valid i (fun _ g => .released ∈ g.own i ∧ Named opt i username g)
      (release : Program ι Unit) (Named opt i username) := by
  have hstable := ((steady_own i fun own => .released ∈ own).and
    (steady_named opt i username)).stable
  refine valid_tell (by simp) hstable (fun g _ _ account honline => ?_) fun g hnamed => ?_
  · exact absurd (mem_own_tell g i .released) honline.2
  · exact ⟨mem_own_tell g i .released, fun hlocks => holds_tell (by simp) (hnamed hlocks)⟩

theorem statusLoop_none (sql : Sql) (text : Str) (count : Nat) :
    (statusLoop sql none text count : Program ι Bool) = .done false := by
  induction count with
  | zero => rfl
  | succ count ih => exact ih

theorem valid_resetStatus (hreads : opt.locks = true → Reads host.sql opt username) :
    logins.Valid i (fun _ g => .released ∈ g.own i) (resetStatus host opt i username)
      fun g => .released ∈ g.own i ∧ Named opt i username g := by
  rw [resetStatus]
  by_cases hlocks : opt.locks = true
  · rw [if_pos hlocks]
    have hreleased : Steady i fun g : Shared ι (Mysql ι) Event => .released ∈ g.own i :=
      steady_own i fun own => .released ∈ own
    refine (valid_mysqlConnect opt (hreleased.and (steady_named opt i username))).bind fun r => ?_
    rcases r with - | - | c
    · exact Contract.Valid.done fun _ _ h => h.1.1
    · simp only [mysqlStatus, statusLoop_none, Script.done_bind, Bool.false_eq_true, if_false,
        mysqlRollback, mysqlDisconnect]
      exact Contract.Valid.done fun _ _ h => h.1.1
    · refine Contract.Valid.strengthen (Contract.Valid.and_pre fun hc : c.1 = i => ?_)
        fun g _ h => ⟨(h.2 _ rfl c rfl).1, h⟩
      have hstatus := valid_mysqlStatus (w := ⟨fold username, "0".toList⟩) (hreads hlocks) (by simp)
        rfl hc away_released (permits_holds hc (fold username))
      have hpre := hstatus.strengthen fun g _ (h : (.released ∈ g.own i ∧ Named opt i username g) ∧
          ∀ d, some (some c) = some d → Fresh i d g.state.server) =>
        ⟨h.1.1, fun _ => h.1.2 hlocks, fun hlink v hv => by
          rw [(h.2 _ rfl c rfl).2 hlink] at hv
          exact absurd hv List.not_mem_nil⟩
      exact hpre.bind fun ok => (valid_mysqlDisconnect hreleased hc).strengthen fun _ _ h => h.1
  · rw [if_neg hlocks]
    exact Contract.Valid.done fun _ _ h => h.1

theorem valid_mysqlUp (hreads : opt.locks = true → Reads host.sql opt username) (failed : Bool) :
    logins.Valid i (fun alive g => alive = true → Named opt i username g)
      (mysqlUp host opt i username failed) (Named opt i username) := by
  rw [mysqlUp]
  split
  · refine valid_release.bind fun _ => (valid_resetStatus hreads).bind fun _ => ?_
    exact Contract.Valid.done fun _ _ _ => by simp
  · exact Contract.Valid.done fun _ _ h _ => h

theorem valid_mysqlDown (hreads : opt.locks = true → Reads host.sql opt username) (failed : Bool) :
    logins.Valid i (fun _ _ => True) (mysqlDown host opt i username failed)
      (Named opt i username) := by
  refine valid_release.bind fun _ => ?_
  split
  · exact Contract.Valid.done fun _ _ _ => trivial
  · refine (valid_resetStatus hreads).bind fun _ => ?_
    exact Contract.Valid.done fun _ _ _ => trivial

theorem valid_ipcp (hreads : opt.locks = true → Reads host.sql opt username)
    {events : List IpcpEvent} (honce : Once events) :
    logins.Valid i (fun _ _ => True) (ipcp host opt i username events)
      (Named opt i username) := by
  induction events with
  | nil => exact Contract.Valid.done fun _ _ _ => trivial
  | cons e events ih =>
      cases e with
      | up failed =>
          refine (valid_mysqlUp hreads failed).bind fun alive => ?_
          cases alive with
          | true => exact (ih honce).strengthen fun _ _ h => h rfl
          | false => exact Contract.Valid.done fun _ _ _ => trivial
      | down failed =>
          obtain rfl : events = [] := honce
          refine (valid_mysqlDown hreads failed).bind fun alive => ?_
          cases alive <;> exact Contract.Valid.done fun _ _ _ => trivial

/-! ## Links -/

/-- A link that the statement about exclusive logins is about: `pppd` cuts names off, and
the notifiers are called once. -/
structure PppLink.Served (host : Host) (opt : Options) (l : PppLink) : Prop where
  length : l.peer.name.length < maxNameLen
  reads : Reads host.sql opt l.peer.name
  once : Once l.events

theorem valid_pppLink {l : PppLink} (hl : l.Served host opt)
    (hopens : ∀ row, Opens host opt l.peer row →
      opt.exclusive = true ∧ row.update ≠ "1".toList) :
    logins.Valid i (fun _ _ => True) (pppLink host opt i l) fun g => Unseen (g.own i) := by
  refine (valid_databaseAuth hl.reads hopens).bind fun r => ?_
  cases r with
  | none =>
      dsimp only
      split
      · rename_i hlocal
        have hunlocked : ¬opt.locks = true := by
          intro hlocks
          simp_all [Options.locks]
        exact (valid_ipcp (fun h => absurd h hunlocked) hl.once).strengthen
          fun _ _ _ h => absurd h hunlocked
      · exact Contract.Valid.done fun _ _ _ => trivial
  | some username =>
      refine Contract.Valid.strengthen
        (Contract.Valid.and_pre fun husername : username = l.peer.name => ?_)
        fun g _ h => ⟨(h.2 _ rfl).1.trans (List.take_of_length_le hl.length.le), h⟩
      subst husername
      have htell := valid_tell (i := i)
        (P := fun g => Unseen (g.own i) ∧ ∀ u, some l.peer.name = some u →
          u = l.peer.name.take maxNameLen ∧ Holds i (fold l.peer.name) g)
        (e := .established l.peer.name) (by simp) (steady_named opt i l.peer.name).stable ?_ ?_
      · exact htell.bind fun _ => valid_ipcp (fun _ => hl.reads) hl.once
      · rintro g - ⟨hunseen, hholds⟩ account ⟨⟨name, rfl, hname⟩, -⟩
        have hcases : .established name ∈ g.own i ∨ name = l.peer.name := by
          simpa [Shared.own] using hname
        rcases hcases with hold | rfl
        · exact absurd hold (hunseen name)
        · exact (hholds _ rfl).2
      · rintro g ⟨-, hholds⟩ -
        exact holds_tell (by simp) (hholds _ rfl).2

/-- All links at their start. -/
def linksAt (accounts : List Account) (host : Host) (opt : Options) (links : ι → PppLink) :
    Config ι (Mysql ι) Event Unit :=
  .init ⟨.init accounts, fun _ => 0, false⟩ fun i => pppLink host opt i (links i)

theorem exclusive_of_opens (accounts : List Account) {links : ι → PppLink}
    (hlinks : ∀ i, (links i).Served host opt)
    (hopens : ∀ i row, Opens host opt (links i).peer row →
      opt.exclusive = true ∧ row.update ≠ "1".toList)
    (schedule : List (Turn ι (Disturbance ι))) :
    Exclusive ((linksAt accounts host opt links).run Mysql.disturb schedule).toShared := by
  have hsound : Sound ((linksAt accounts host opt links).run Mysql.disturb schedule).toShared := by
    refine (Contract.init_run_sound (P := fun i g => Unseen (g.own i)) logins_closed ?_ ?_ ?_
      (fun i => valid_pppLink (hlinks i) (hopens i)) schedule
      (Config.admits_of_forall (fun _ _ _ => trivial) _ _)).1
    · exact ⟨covered_init _ _, fun i account h => absurd h.1.choose_spec.2 (by simp [Shared.own])⟩
    · intro i name h
      simp [Shared.own] at h
    · exact fun i => Contract.Stable.own Unseen
  intro i j account hi hj
  have hheld := (hsound.online i account hi).2.symm.trans (hsound.online j account hj).2
  exact Option.some.inj hheld

end Links

end ParDiff.PppSql
