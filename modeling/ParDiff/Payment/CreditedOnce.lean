import ParDiff.Payment.Orders

/-!
# An order is credited at most once

What the invariant of `ParDiff.Payment.Orders` says about charges: in every
schedule of any number of requests an order is charged by at most one of them,
which is the one that moved it from `UNPAID` to `PAID`, and every account is its
initial balance plus what the log of the run says was added to it.
-/

namespace ParDiff.Payment

open Lib Lib.Text

theorem bytes_eq (traffic : Int) : bytes traffic = traffic * 2 ^ 30 := by
  unfold bytes
  omega

section

variable {ι : Type} [DecidableEq ι]

/-- The state of a run in which no order is credited twice, or to anybody but
its owner, or without a verified success. -/
structure CreditedOnce (db : Db) (reqs : ι → Request) (g : Shared ι Db Event) : Prop where
  /-- `charge` runs at most once for an order. -/
  charges : ∀ id, g.log.countP (isChargeOf id) ≤ 1
  /-- It runs for the request that completed the order. -/
  charged : ∀ i id, Event.chargeStarted id ∈ g.own i →
    id = (reqs i).message.dingdan ∧ Completes (reqs i) (g.own i)
  credits : ∀ id, g.log.countP (isCreditOf id) ≤ 1
  /-- Whatever is credited is the traffic of an order, for its owner. -/
  credited : ∀ source username amount rows,
    Event.credited source username amount rows ∈ g.log →
    ∃ o ∈ db.paymentTransactions.rows, o.status = some .UNPAID ∧ source = .order o.id ∧
      username = o.username ∧ amount = o.traffic * 2 ^ 30
  records : ∀ id, g.log.countP (isRecordOf id) ≤ 1
  recorded : ∀ source username amount,
    Event.recorded source username amount ∈ g.log →
    ∃ o ∈ db.paymentTransactions.rows, o.status = some .UNPAID ∧ source = .order o.id ∧
      username = o.username ∧ amount = o.traffic * 2 ^ 30
  /-- No account changes otherwise; `NULL` stays `NULL`. -/
  login : g.state.login.rows =
    db.login.rows.map fun u => u.addCredit (creditChange g.log u.username)
  /-- No history row is written otherwise. -/
  history : g.state.transactionsRecords.map (fun t => (t.credit, t.username)) =
    db.transactionsRecords.map (fun t => (t.credit, t.username)) ++ g.log.filterMap recordOf

variable {db : Db} {r : Request} {es : List Event}

/-- An event of a request is a read, an answer, or part of the story of the
order the request completes. -/
theorem Told.of_mem (h : Told db r es) {e : Event} (he : e ∈ es) :
    (∃ id status, e = .statusRead id status) ∨ (∃ id success, e = .notifyAnswered id success) ∨
      ∃ o ∈ db.paymentTransactions.rows, o.status = some .UNPAID ∧
        (o.id : Int) = r.message.dingdan ∧ r.message.verifyResult = true ∧
        r.message.tradeStatus.succeeded = true ∧ e ∈ story db o ∧
        ∃ n, es = (story db o).take n := by
  cases r with
  | notifyUrl m =>
      rcases h with rfl | rfl
      · simp at he
      · exact .inr (.inl ⟨_, _, List.mem_singleton.1 he⟩)
  | returnUrl m =>
      rcases h with rfl | ⟨-, status, rfl⟩ | ⟨hv, hs, o, ho, hid, hunpaid, n, rfl⟩
      · simp at he
      · exact .inl ⟨_, _, List.mem_singleton.1 he⟩
      · exact .inr (.inr ⟨o, ho, hunpaid, hid, hv, hs, List.mem_of_mem_take he, n, rfl⟩)

theorem countP_story_le (o : PaymentTransaction) (n : Nat) (id : Int) :
    ((story db o).take n).countP (isChargeOf id) ≤ ((story db o).take n).countP (isPaidOf id) ∧
      ((story db o).take n).countP (isCreditOf id) ≤
        ((story db o).take n).countP (isPaidOf id) ∧
      ((story db o).take n).countP (isRecordOf id) ≤
        ((story db o).take n).countP (isPaidOf id) := by
  by_cases hid : (o.id : Int) = id <;> rcases n with _ | _ | _ | _ | _ | n <;>
    simp [story, isChargeOf, isPaidOf, isCreditOf, isRecordOf, hid]

theorem Told.countP_le (h : Told db r es) (id : Int) :
    es.countP (isChargeOf id) ≤ es.countP (isPaidOf id) ∧
      es.countP (isCreditOf id) ≤ es.countP (isPaidOf id) ∧
      es.countP (isRecordOf id) ≤ es.countP (isPaidOf id) := by
  cases r with
  | notifyUrl m => rcases h with rfl | rfl <;> simp [isChargeOf, isCreditOf, isRecordOf]
  | returnUrl m =>
      rcases h with rfl | ⟨-, status, rfl⟩ | ⟨-, -, o, -, -, -, n, rfl⟩
      · simp
      · simp [isChargeOf, isCreditOf, isRecordOf]
      · exact countP_story_le o n id

variable {strict : Prop} {reqs : ι → Request} {g : Shared ι Db Event}

theorem Inv.of_mem_log (h : Inv strict db reqs g) {e : Event} (he : e ∈ g.log) :
    ∃ i, e ∈ g.own i ∧ Told db (reqs i) (g.own i) := by
  obtain ⟨⟨i, e'⟩, hie, rfl⟩ := List.mem_map.1 he
  exact ⟨i, Shared.mem_own.2 hie, h.told i⟩

theorem Inv.countP_paid_le (h : Inv strict db reqs g) (id : Int) :
    g.log.countP (isPaidOf id) ≤ 1 := by
  by_contra hmany
  have hpos : 0 < g.log.countP (isPaidOf id) := by omega
  obtain ⟨e, he, hpaid⟩ := List.countP_pos_iff.1 hpos
  obtain ⟨i, hown, htold⟩ := h.of_mem_log he
  rcases htold.of_mem hown with ⟨_, _, rfl⟩ | ⟨_, _, rfl⟩ | ⟨o, ho, -, -, -, -, hstory, -⟩
  · simp [isPaidOf] at hpaid
  · simp [isPaidOf] at hpaid
  · have hid : (o.id : Int) = id := by
      simp only [story, List.mem_cons, List.not_mem_nil, or_false] at hstory
      rcases hstory with rfl | rfl | rfl | rfl | rfl <;> simp_all [isPaidOf]
    obtain ⟨o', ho', hsame⟩ := h.order_row ho
    obtain ⟨_, _, _, ⟨hcount, -⟩ | ⟨hcount, -, -⟩⟩ := h.orders o' ho' <;>
      rw [← hsame.id, hid] at hcount <;> omega

theorem Inv.of_credited (h : Inv strict db reqs g) {source : Source} {username : Str}
    {amount : Int} {rows : Nat} (he : Event.credited source username amount rows ∈ g.log) :
    ∃ o ∈ db.paymentTransactions.rows, o.status = some .UNPAID ∧
      Event.credited source username amount rows =
        .credited (.order o.id) o.username (bytes o.traffic)
          (db.countLogin (some o.username)) := by
  obtain ⟨i, hown, htold⟩ := h.of_mem_log he
  rcases htold.of_mem hown with ⟨_, _, heq⟩ | ⟨_, _, heq⟩ | ⟨o, ho, hunpaid, -, -, -, hstory, -⟩
  · simp at heq
  · simp at heq
  · exact ⟨o, ho, hunpaid, by simpa [story] using hstory⟩

theorem Inv.of_recorded (h : Inv strict db reqs g) {source : Source} {username : Str}
    {amount : Int} (he : Event.recorded source username amount ∈ g.log) :
    ∃ o ∈ db.paymentTransactions.rows, o.status = some .UNPAID ∧
      Event.recorded source username amount =
        .recorded (.order o.id) o.username (bytes o.traffic) := by
  obtain ⟨i, hown, htold⟩ := h.of_mem_log he
  rcases htold.of_mem hown with ⟨_, _, heq⟩ | ⟨_, _, heq⟩ | ⟨o, ho, hunpaid, -, -, -, hstory, -⟩
  · simp at heq
  · simp at heq
  · exact ⟨o, ho, hunpaid, by simpa [story] using hstory⟩

theorem Inv.of_chargeStarted (h : Inv strict db reqs g) {i : ι} {id : Int}
    (he : Event.chargeStarted id ∈ g.own i) :
    id = (reqs i).message.dingdan ∧ Completes (reqs i) (g.own i) := by
  rcases (h.told i).of_mem he with
    ⟨_, _, heq⟩ | ⟨_, _, heq⟩ | ⟨o, -, -, hid, hv, hs, hstory, n, hn⟩
  · simp at heq
  · simp at heq
  · have hidEq : id = o.id := by simpa [story] using hstory
    refine ⟨hidEq.trans hid, hv, hs, ?_⟩
    rw [hn] at he ⊢
    rw [← hid]
    rcases n with _ | _ | n <;> simp [story] at he ⊢

theorem Inv.creditedOnce (h : Inv strict db reqs g) : CreditedOnce db reqs g where
  charges id := le_trans
    (Shared.countP_log_le g _ _ fun i => ((h.told i).countP_le id).1) (h.countP_paid_le id)
  charged _ _ he := h.of_chargeStarted he
  credits id := le_trans
    (Shared.countP_log_le g _ _ fun i => ((h.told i).countP_le id).2.1) (h.countP_paid_le id)
  credited source username amount rows he := by
    obtain ⟨o, ho, hunpaid, heq⟩ := h.of_credited he
    obtain ⟨rfl, rfl, rfl, -⟩ := Event.credited.inj heq
    exact ⟨o, ho, hunpaid, rfl, rfl, bytes_eq _⟩
  records id := le_trans
    (Shared.countP_log_le g _ _ fun i => ((h.told i).countP_le id).2.2) (h.countP_paid_le id)
  recorded source username amount he := by
    obtain ⟨o, ho, hunpaid, heq⟩ := h.of_recorded he
    obtain ⟨rfl, rfl, rfl⟩ := Event.recorded.inj heq
    exact ⟨o, ho, hunpaid, rfl, rfl, bytes_eq _⟩
  login := h.login
  history := h.records

/-- **At most one credit per order.**  After every schedule of any requests the
state is as `CreditedOnce` says, and a further statement of a request changes
no table unless the request was verified with a success, read the order as
`UNPAID` and is the one that completed it. -/
theorem order_credited_once (db : Db) (reqs : ι → Request) (schedule : List (Turn ι Nat)) :
    CreditedOnce db reqs ((requests db reqs).run Db.tick schedule).toShared ∧
      ∀ i, (((requests db reqs).run Db.tick schedule).act Db.tick (.step i)).state =
          ((requests db reqs).run Db.tick schedule).state ∨
        Completes (reqs i)
          ((((requests db reqs).run Db.tick schedule).act Db.tick (.step i)).own i) := by
  have hadm : (requests db reqs).Admits Db.tick (contract False db reqs).admits schedule :=
    Config.admits_of_forall (fun _ _ _ h => h.elim) _ _
  obtain ⟨hinv, hgood⟩ := contract_run False db reqs schedule hadm
  refine ⟨hinv.creditedOnce, fun i => ?_⟩
  rcases Contract.run_step_guar hinv (hgood i) (fun h => h.elim) with hidle | hguar
  · exact .inl (congrArg (fun c => c.state) hidle)
  · exact hguar

end

end ParDiff.Payment
