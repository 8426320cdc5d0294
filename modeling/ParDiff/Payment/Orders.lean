import ParDiff.Lib.Interleave
import ParDiff.Payment.Transactions

/-!
# Orders under concurrent messages

Any number of `return_url.php` and `notify_url.php` requests, for any orders,
interleave their statements in any order and may stop between two of them.
The status a request reads is stale when it pays, so everything rests on the
conditional `UPDATE` of `pay_transaction`: it moves an order from `UNPAID` to
`PAID` at most once, and only the request that moved it goes on to `charge`.

`Inv` says this of every reachable state.  With `strict` it also covers the
notifications, for schedules whose actions all meet `Settled`.
-/

namespace ParDiff.Payment

open Lib Lib.Text

inductive Request
  | returnUrl (m : Message)
  | notifyUrl (m : Message)

def Request.script : Request → Sql Response
  | .returnUrl m => Payment.returnUrl m
  | .notifyUrl m => Payment.notifyUrl m

def Request.message : Request → Message
  | .returnUrl m => m
  | .notifyUrl m => m

def unpaid : Option (Option OrderStatus) := some (some .UNPAID)

/-- Everything the request that completes an order ever reports. -/
def story (db : Db) (o : PaymentTransaction) : List Event :=
  [.statusRead o.id unpaid, .orderPaid o.id, .chargeStarted o.id,
    .recorded (.order o.id) o.username (bytes o.traffic),
    .credited (.order o.id) o.username (bytes o.traffic) (db.countLogin (some o.username))]

/-- What a request may have reported so far. -/
def Told (db : Db) : Request → List Event → Prop
  | .notifyUrl m, es =>
      es = [] ∨ es = [.notifyAnswered m.dingdan m.tradeStatus.succeeded]
  | .returnUrl m, es =>
      es = [] ∨ (m.verifyResult = true ∧ ∃ status, es = [.statusRead m.dingdan status]) ∨
        (m.verifyResult = true ∧ m.tradeStatus.succeeded = true ∧
          ∃ o ∈ db.paymentTransactions.rows, (o.id : Int) = m.dingdan ∧
            o.status = some .UNPAID ∧ ∃ n, es = (story db o).take n)

def isChargeOf (id : Int) : Event → Bool
  | .chargeStarted k => k = id
  | _ => false

def isPaidOf (id : Int) : Event → Bool
  | .orderPaid k => k = id
  | _ => false

def isCreditOf (id : Int) : Event → Bool
  | .credited (.order k) _ _ _ => k = id
  | _ => false

def isRecordOf (id : Int) : Event → Bool
  | .recorded (.order k) _ _ => k = id
  | _ => false

/-- Credit and username of an inserted record. -/
def recordOf : Event → Option (Option Int × Str)
  | .recorded _ username amount => some (some amount, username)
  | _ => none

/-- The order as it was at the start and as it is now. -/
structure SameOrder (o₀ o : PaymentTransaction) : Prop where
  id : o₀.id = o.id
  traffic : o₀.traffic = o.traffic
  username : o₀.username = o.username

section

variable {ι : Type} [DecidableEq ι]

/-- The request has marked the order `PAID` and has yet to execute the
`UPDATE login` of its `charge`. -/
def pending (g : Shared ι Db Event) (i : ι) (id : Int) : Bool :=
  (g.own i).any (isPaidOf id) && !(g.own i).any (isCreditOf id)

structure Inv (strict : Prop) (db : Db) (reqs : ι → Request) (g : Shared ι Db Event) : Prop where
  ids : g.state.paymentTransactions.rows.map (·.id) = db.paymentTransactions.rows.map (·.id)
  orders : ∀ o ∈ g.state.paymentTransactions.rows, ∃ o₀ ∈ db.paymentTransactions.rows,
    SameOrder o₀ o ∧
      ((g.log.countP (isPaidOf o.id) = 0 ∧ o.status = o₀.status) ∨
        (g.log.countP (isPaidOf o.id) = 1 ∧ o₀.status = some .UNPAID ∧ o.status = some .PAID))
  told : ∀ i, Told db (reqs i) (g.own i)
  login : g.state.login.rows =
    db.login.rows.map fun u => u.addCredit (creditChange g.log u.username)
  records : g.state.transactionsRecords.map (fun t => (t.credit, t.username)) =
    db.transactionsRecords.map (fun t => (t.credit, t.username)) ++ g.log.filterMap recordOf
  notified : strict → ∀ o ∈ db.paymentTransactions.rows, o.status = some .UNPAID →
    Event.notifyAnswered o.id true ∈ g.log → g.log.any (isCreditOf o.id)

/-- A notification of success is answered only for an order that is `PAID` and
not pending. -/
def answerSettled (g : Shared ι Db Event) : Event → Bool
  | .notifyAnswered id true =>
      g.state.paymentTransactions.rows.all (fun o => !hasId id o || o.status == some .PAID) &&
        g.trace.all fun e => !pending g e.1 id
  | _ => true

/-- A request stops only when its order is not pending. -/
def stopSettled (g : Shared ι Db Event) (i : ι) : Event → Bool
  | .orderPaid id => !pending g i id
  | _ => true

/-- The actions under which no acknowledged payment is lost. -/
def Settled (g : Shared ι Db Event) : Turn ι Nat → List (ι × Event) → Prop
  | .stop i, _ => ∀ e ∈ g.own i, stopSettled g i e = true
  | _, es => ∀ e ∈ es, answerSettled g e.2 = true

instance (g : Shared ι Db Event) (a : Turn ι Nat) (es : List (ι × Event)) :
    Decidable (Settled g a es) :=
  match a with
  | .step _ => inferInstanceAs (Decidable (∀ e ∈ es, answerSettled g e.2 = true))
  | .stop i => inferInstanceAs (Decidable (∀ e ∈ g.own i, stopSettled g i e = true))
  | .tick _ => inferInstanceAs (Decidable (∀ e ∈ es, answerSettled g e.2 = true))

/-- From the events of a request: it was verified with a success, read the order
as `UNPAID`, and is the one that moved it to `PAID`. -/
def Completes (r : Request) (es : List Event) : Prop :=
  r.message.verifyResult = true ∧ r.message.tradeStatus.succeeded = true ∧
    Event.statusRead r.message.dingdan unpaid ∈ es ∧ Event.orderPaid r.message.dingdan ∈ es

def contract (strict : Prop) (db : Db) (reqs : ι → Request) : Contract ι Db Event Nat where
  env := Db.tick
  admits g a es := strict → Settled g a es
  inv := Inv strict db reqs
  guar i g g' := g'.state = g.state ∨ Completes (reqs i) (g'.own i)
  halted i g := strict → ∀ id, pending g i id = false

/-! ## What one statement does to the invariant -/

theorem notified_append {log es : List Event} (id : Int)
    (h : log.any (isCreditOf id) = true) : (log ++ es).any (isCreditOf id) = true := by
  simp [h]

/-- A statement whose event is neither a payment nor a change of credit nor a
record, and that leaves orders, accounts and records alone. -/
theorem Inv.frame {strict : Prop} {db : Db} {reqs : ι → Request} {g : Shared ι Db Event}
    (h : Inv strict db reqs g) (i : ι) {act : Db → Db × List Event}
    (horders : (act g.state).1.paymentTransactions = g.state.paymentTransactions)
    (hlogin : (act g.state).1.login = g.state.login)
    (hrecords : (act g.state).1.transactionsRecords = g.state.transactionsRecords)
    (hpaid : ∀ id, (act g.state).2.countP (isPaidOf id) = 0)
    (hchange : ∀ username, creditChange (act g.state).2 username = 0)
    (hrecord : (act g.state).2.filterMap recordOf = [])
    (htold : Told db (reqs i) (g.own i ++ (act g.state).2))
    (hnotified : strict → ∀ o ∈ db.paymentTransactions.rows, o.status = some .UNPAID →
      Event.notifyAnswered o.id true ∈ (act g.state).2 → g.log.any (isCreditOf o.id)) :
    Inv strict db reqs (g.exec i act) := by
  refine ⟨?_, ?_, Shared.forall_own_exec h.told i htold, ?_, ?_, ?_⟩
  · simpa [horders] using h.ids
  · simpa only [Shared.exec_state, Shared.log_exec, horders, List.countP_append, hpaid,
      Nat.add_zero] using h.orders
  · simpa only [Shared.exec_state, Shared.log_exec, hlogin, creditChange_append, hchange,
      Int.add_zero] using h.login
  · simpa only [Shared.exec_state, Shared.log_exec, hrecords, List.filterMap_append, hrecord,
      List.append_nil] using h.records
  · intro hs o ho hunpaid hmem
    rw [Shared.log_exec] at hmem ⊢
    rcases List.mem_append.1 hmem with hmem | hmem
    · exact notified_append o.id (h.notified hs o ho hunpaid hmem)
    · exact notified_append o.id (hnotified hs o ho hunpaid hmem)

theorem Inv.notified_exec {strict : Prop} {db : Db} {reqs : ι → Request}
    {g : Shared ι Db Event} (h : Inv strict db reqs g) (i : ι) {act : Db → Db × List Event}
    (hes : ∀ id, Event.notifyAnswered id true ∉ (act g.state).2) (hs : strict)
    (o : PaymentTransaction) (ho : o ∈ db.paymentTransactions.rows)
    (hunpaid : o.status = some .UNPAID)
    (hmem : Event.notifyAnswered o.id true ∈ (g.exec i act).log) :
    (g.exec i act).log.any (isCreditOf o.id) = true := by
  rw [Shared.log_exec] at hmem ⊢
  rcases List.mem_append.1 hmem with hmem | hmem
  · exact notified_append o.id (h.notified hs o ho hunpaid hmem)
  · exact absurd hmem (hes o.id)

theorem Inv.unpaid_order {strict : Prop} {db : Db} {reqs : ι → Request}
    {g : Shared ι Db Event} (h : Inv strict db reqs g) {o : PaymentTransaction}
    (ho : o ∈ g.state.paymentTransactions.rows) (hstatus : o.status = some .UNPAID) :
    ∃ o₀ ∈ db.paymentTransactions.rows, SameOrder o₀ o ∧ o₀.status = some .UNPAID ∧
      g.log.countP (isPaidOf o.id) = 0 := by
  obtain ⟨o₀, ho₀, hsame, ⟨hcount, hst⟩ | ⟨-, -, hst⟩⟩ := h.orders o ho
  · exact ⟨o₀, ho₀, hsame, hst.symm.trans hstatus, hcount⟩
  · rw [hst] at hstatus
    exact absurd hstatus (by decide)

theorem payable_iff {id : Int} {o : PaymentTransaction} :
    payable id o = true ↔ (o.id : Int) = id ∧ o.status = some .UNPAID := by
  simp [payable, hasId]

theorem Inv.paid {strict : Prop} {db : Db} {reqs : ι → Request} {g : Shared ι Db Event}
    (h : Inv strict db reqs g) (i : ι) {id : Int} {tn email : Str}
    {o : PaymentTransaction} (ho : o ∈ g.state.paymentTransactions.rows)
    (hpayable : payable id o = true) (htold : Told db (reqs i) (g.own i ++ [.orderPaid id])) :
    Inv strict db reqs (g.exec i fun s => (payOrder id tn email s, [.orderPaid id])) := by
  refine ⟨?_, ?_, Shared.forall_own_exec h.told i htold, ?_, ?_, h.notified_exec i (by simp)⟩
  · rw [← h.ids]
    exact map_updateAll (f := pay tn email) (fun _ _ => rfl) _
  · intro o' ho'
    obtain ⟨a, ha, rfl⟩ := mem_updateAll.1 ho'
    by_cases hpa : payable id a = true
    · obtain ⟨hid, hst⟩ := payable_iff.1 hpa
      obtain ⟨o₀, ho₀, hsame, hunpaid, hcount⟩ := h.unpaid_order ha hst
      rw [if_pos hpa]
      refine ⟨o₀, ho₀, ⟨hsame.id, hsame.traffic, hsame.username⟩, .inr ⟨?_, hunpaid, rfl⟩⟩
      rw [Shared.log_exec, List.countP_append, show (pay tn email a).id = a.id from rfl, hcount]
      simp [isPaidOf, hid]
    · rw [if_neg hpa]
      obtain ⟨o₀, ho₀, hsame, hcase⟩ := h.orders a ha
      have hother : [Event.orderPaid id].countP (isPaidOf (a.id : Int)) = 0 := by
        rw [List.countP_eq_zero]
        simp only [List.mem_singleton, forall_eq, isPaidOf, decide_eq_true_eq]
        intro hid
        -- the primary key makes `a` the row that was just paid
        have hao : a = o := g.state.paymentTransactions.eq_of_key_eq ha ho
          (by have := (payable_iff.1 hpayable).1; omega)
        exact hpa (hao ▸ hpayable)
      refine ⟨o₀, ho₀, hsame, ?_⟩
      rwa [Shared.log_exec, List.countP_append, hother, Nat.add_zero]
  · have hnone : ∀ username, creditChange [Event.orderPaid id] username = 0 := fun _ => rfl
    simpa only [Shared.exec_state, payOrder, Shared.log_exec, creditChange_append, hnone,
      Int.add_zero] using h.login
  · have hnone : [Event.orderPaid id].filterMap recordOf = [] := rfl
    simpa only [Shared.exec_state, payOrder, Shared.log_exec, List.filterMap_append, hnone,
      List.append_nil] using h.records

theorem Inv.record {strict : Prop} {db : Db} {reqs : ι → Request} {g : Shared ι Db Event}
    (h : Inv strict db reqs g) (i : ι) {id amount : Int} {username : Str}
    (hwidth : username.length ≤ 200) {operator : Str} {note : Option Str}
    (htold : Told db (reqs i) (g.own i ++ [.recorded (.order id) username amount])) :
    Inv strict db reqs (g.exec i fun s => (s.insertRecord amount operator username note,
      [.recorded (.order id) username amount])) := by
  refine ⟨h.ids, ?_, Shared.forall_own_exec h.told i htold, ?_, ?_, h.notified_exec i (by simp)⟩
  · simpa [List.countP_singleton, isPaidOf.eq_2] using h.orders
  · have hnone : ∀ name, creditChange [Event.recorded (.order id) username amount] name = 0 :=
      fun _ => rfl
    simpa only [Shared.exec_state, Db.insertRecord_login, Shared.log_exec, creditChange_append,
      hnone, Int.add_zero] using h.login
  · have htake : username.take 200 = username := List.take_of_length_le hwidth
    simp only [Shared.exec_state, Db.insertRecord, List.map_append, Shared.log_exec,
      List.filterMap_append, h.records, htake, List.append_assoc]
    rfl

theorem Inv.credit {strict : Prop} {db : Db} {reqs : ι → Request} {g : Shared ι Db Event}
    (h : Inv strict db reqs g) (i : ι) {id : Int} {username : Str} {amount : Int}
    (htold : Told db (reqs i) (g.own i ++ [.credited (.order id) username amount
      (g.state.countLogin (some username))])) :
    Inv strict db reqs (g.exec i fun s => (s.addCredit username amount,
      [.credited (.order id) username amount (s.countLogin (some username))])) := by
  refine ⟨h.ids, ?_, Shared.forall_own_exec h.told i htold, ?_, ?_, h.notified_exec i (by simp)⟩
  · simpa [List.countP_singleton, isPaidOf.eq_2] using h.orders
  · rw [Shared.log_exec]
    exact Db.addCredit_replay h.login fun _ => rfl
  · have hnone : [Event.credited (.order id) username amount
        (g.state.countLogin (some username))].filterMap recordOf = [] := rfl
    simpa only [Shared.exec_state, Db.addCredit_transactionsRecords, Shared.log_exec,
      List.filterMap_append, hnone, List.append_nil] using h.records

/-! ## The handlers meet the contract -/

/-- Request `i` has the right to complete the order `o`. -/
structure Completing (db : Db) (reqs : ι → Request) (i : ι) (m : Message)
    (o : PaymentTransaction) : Prop where
  request : reqs i = .returnUrl m
  verified : m.verifyResult = true
  succeeded : m.tradeStatus.succeeded = true
  mem : o ∈ db.paymentTransactions.rows
  id : (o.id : Int) = m.dingdan
  status : o.status = some .UNPAID

/-- Request `i` has reported the first `n` events of completing the order. -/
def Stage (db : Db) (i : ι) (o : PaymentTransaction) (n : Nat) (g : Shared ι Db Event) : Prop :=
  g.own i = (story db o).take n

section Stages

variable {strict : Prop} {db : Db} {reqs : ι → Request} {i : ι} {m : Message}
  {o : PaymentTransaction} {g : Shared ι Db Event}

theorem stage_stable (n : Nat) : (contract strict db reqs).Stable i (Stage db i o n) :=
  Contract.Stable.own fun es => es = (story db o).take n

omit [DecidableEq ι] in
theorem Completing.told (h : Completing db reqs i m o) (n : Nat) :
    Told db (reqs i) ((story db o).take n) := by
  rw [h.request]
  exact .inr (.inr ⟨h.verified, h.succeeded, o, h.mem, h.id, h.status, n, rfl⟩)

omit [DecidableEq ι] in
theorem Completing.completes (h : Completing db reqs i m o) (n : Nat) :
    Completes (reqs i) ((story db o).take (n + 2)) := by
  rw [h.request]
  refine ⟨h.verified, h.succeeded, ?_, ?_⟩ <;> simp [Request.message, story, ← h.id]

theorem Inv.countLogin_eq (h : Inv strict db reqs g) (username : Option Str) :
    g.state.countLogin username = db.countLogin username := by
  rw [Db.countLogin, h.login, List.countP_map]
  exact List.countP_congr fun u _ => by cases username <;> simp [Login.named]

theorem Inv.order_row (h : Inv strict db reqs g) (ho : o ∈ db.paymentTransactions.rows) :
    ∃ o' ∈ g.state.paymentTransactions.rows, SameOrder o o' := by
  have hid : o.id ∈ g.state.paymentTransactions.rows.map (·.id) := by
    rw [h.ids]
    exact List.mem_map_of_mem ho
  obtain ⟨o', ho', hid'⟩ := List.mem_map.1 hid
  obtain ⟨o₀, ho₀, hsame, -⟩ := h.orders o' ho'
  have heq : o₀ = o := db.paymentTransactions.eq_of_key_eq ho₀ ho (hsame.id.trans hid')
  exact ⟨o', ho', heq ▸ hsame⟩

theorem filter_hasId {t : Table PaymentTransaction PaymentTransaction.id}
    (ho : o ∈ t.rows) {id : Int} (hid : (o.id : Int) = id) :
    t.rows.filter (hasId id) = [o] := by
  refine t.filter_key_eq ho fun a => ?_
  simp only [hasId, decide_eq_true_eq]
  omega

theorem countP_payable {t : Table PaymentTransaction PaymentTransaction.id}
    (ho : o ∈ t.rows) {id : Int} (hpayable : payable id o = true) :
    t.rows.countP (payable id) = 1 := by
  obtain ⟨hid, hstatus⟩ := payable_iff.1 hpayable
  have hfilter : t.rows.filter (payable id) = [o] := by
    have hsplit : payable id = fun a => decide (a.status = some .UNPAID) && hasId id a := by
      funext a
      simp [payable, Bool.and_comm]
    rw [hsplit, ← List.filter_filter, filter_hasId ho hid]
    simp [hstatus]
  rw [List.countP_eq_length_filter, hfilter, List.length_singleton]

theorem valid_selectTrans (h : Completing db reqs i m o) :
    (contract strict db reqs).Valid i
      (fun trans g => (∃ tn email, trans = [⟨o.username, o.traffic, tn, email⟩]) ∧
        Stage db i o 3 g)
      (selectTrans m.dingdan) (Stage db i o 2) := by
  refine Contract.Valid.exec (fun _ => (Contract.Stable.const _).and (stage_stable 3)) ?_
  intro g hinv hstage _
  have hown : g.own i ++ [Event.chargeStarted m.dingdan] = (story db o).take 3 := by
    rw [hstage, ← h.id]
    rfl
  refine ⟨hinv.frame i rfl rfl rfl (fun _ => rfl) (fun _ => rfl) rfl ?_ (by simp),
    .inl rfl, ?_, ?_⟩
  · rw [hown]
    exact h.told 3
  · obtain ⟨o', ho', hsame⟩ := hinv.order_row h.mem
    have hid : (o'.id : Int) = m.dingdan := by rw [← hsame.id, h.id]
    rw [filter_hasId ho' hid]
    exact ⟨o'.alipayTradeNo, o'.alipayBuyerEmail, by
      rw [hsame.username, hsame.traffic, List.map_singleton]⟩
  · rw [Stage, Shared.own_exec_self, hown]

theorem valid_insertAlipayRecord (h : Completing db reqs i m o) (tn email : Option Str) :
    (contract strict db reqs).Valid i (fun _ => Stage db i o 4)
      (insertAlipayRecord m.dingdan ⟨o.username, o.traffic, tn, email⟩) (Stage db i o 3) := by
  refine Contract.Valid.exec (fun _ => stage_stable 4) ?_
  intro g hinv hstage _
  have hown : g.own i ++ [Event.recorded (.order m.dingdan) o.username (bytes o.traffic)] =
      (story db o).take 4 := by
    rw [hstage, ← h.id]
    rfl
  refine ⟨hinv.record i o.username_le (hown ▸ h.told 4), .inr ?_, ?_⟩
  · rw [Shared.own_exec_self, hown]
    exact h.completes 2
  · rw [Stage, Shared.own_exec_self, hown]

theorem valid_creditOwner (h : Completing db reqs i m o) (tn email : Option Str) :
    (contract strict db reqs).Valid i (fun _ => Stage db i o 5)
      (creditOwner m.dingdan ⟨o.username, o.traffic, tn, email⟩) (Stage db i o 4) := by
  refine Contract.Valid.exec (fun _ => stage_stable 5) ?_
  intro g hinv hstage _
  have hown : g.own i ++ [Event.credited (.order m.dingdan) o.username (bytes o.traffic)
      (g.state.countLogin (some o.username))] = (story db o).take 5 := by
    rw [hstage, ← h.id, hinv.countLogin_eq]
    rfl
  refine ⟨hinv.credit i (hown ▸ h.told 5), .inr ?_, ?_⟩
  · rw [Shared.own_exec_self, hown]
    exact h.completes 3
  · rw [Stage, Shared.own_exec_self, hown]

theorem valid_charge (h : Completing db reqs i m o) :
    (contract strict db reqs).Valid i (fun _ => Stage db i o 5) (charge m.dingdan)
      (Stage db i o 2) := by
  refine (valid_selectTrans h).bind fun trans => Contract.Valid.and_pre ?_
  rintro ⟨tn, email, rfl⟩
  exact ((valid_insertAlipayRecord h tn email).bind fun _ => valid_creditOwner h tn email).bind
    fun _ => Contract.Valid.done fun _ _ hstage => hstage

theorem not_pending_of_own {es : List Event} (hown : g.own i = es)
    (hes : ∀ id, (es.any (isPaidOf id) && !es.any (isCreditOf id)) = false) (id : Int) :
    pending g i id = false := by
  rw [pending, hown]
  exact hes id

theorem payOrder_of_none {db : Db} {id : Int} {tn email : Str}
    (h : ∀ o ∈ db.paymentTransactions.rows, payable id o = false) :
    payOrder id tn email db = db :=
  congrArg (fun t => { db with paymentTransactions := t }) (Table.update_of_forall_not h)

/-- `pay_transaction` is a compare-and-set. -/
theorem valid_payTransaction (hreq : reqs i = .returnUrl m) (hverified : m.verifyResult = true)
    (hsucceeded : m.tradeStatus.succeeded = true) (tn email : Str) :
    (contract strict db reqs).Valid i
      (fun paid g => if paid then ∃ o, Completing db reqs i m o ∧ Stage db i o 2 g
        else g.own i = [.statusRead m.dingdan unpaid])
      (payTransaction m.dingdan tn email) (fun g => g.own i = [.statusRead m.dingdan unpaid]) := by
  refine Contract.Valid.exec (fun paid => ?_) ?_
  · cases paid with
    | false => exact Contract.Stable.own fun es => es = [Event.statusRead m.dingdan unpaid]
    | true =>
        rintro g g' hinv ⟨o, hcompleting, hstage⟩ hrely hinv'
        exact ⟨o, hcompleting, stage_stable 2 g g' hinv hstage hrely hinv'⟩
  intro g hinv hown _
  by_cases hpayable : ∃ o ∈ g.state.paymentTransactions.rows, payable m.dingdan o = true
  · obtain ⟨o, ho, hpayable⟩ := hpayable
    obtain ⟨hid, hstatus⟩ := payable_iff.1 hpayable
    obtain ⟨o₀, ho₀, hsame, hunpaid, -⟩ := hinv.unpaid_order ho hstatus
    have hcompleting : Completing db reqs i m o₀ :=
      ⟨hreq, hverified, hsucceeded, ho₀, by rw [hsame.id, hid], hunpaid⟩
    have hstage : g.own i ++ [.orderPaid m.dingdan] = (story db o₀).take 2 := by
      rw [hown, ← hcompleting.id]
      rfl
    have hexec := Shared.exec_congr (g := g) (a := fun s => (payOrder m.dingdan tn email s,
        if s.paymentTransactions.rows.countP (payable m.dingdan) = 1
          then [Event.orderPaid m.dingdan] else []))
      (b := fun s => (payOrder m.dingdan tn email s, [.orderPaid m.dingdan]))
      (by simp [countP_payable ho hpayable]) i
    dsimp only
    rw [hexec, countP_payable ho hpayable]
    refine ⟨hinv.paid i ho hpayable (hstage ▸ hcompleting.told 2), .inr ?_, o₀, hcompleting, ?_⟩
    · rw [Shared.own_exec_self, hstage]
      exact hcompleting.completes 0
    · rw [Stage, Shared.own_exec_self, hstage]
  · -- the order was completed by another request since its status was read
    have hnone : ∀ o ∈ g.state.paymentTransactions.rows, payable m.dingdan o = false := by
      intro o ho
      by_contra hp
      exact hpayable ⟨o, ho, by simpa using hp⟩
    have hcount : g.state.paymentTransactions.rows.countP (payable m.dingdan) = 0 := by
      simpa [List.countP_eq_zero] using hnone
    have hexec := Shared.exec_congr (g := g) (a := fun s => (payOrder m.dingdan tn email s,
        if s.paymentTransactions.rows.countP (payable m.dingdan) = 1
          then [Event.orderPaid m.dingdan] else []))
      (b := fun s => (s, [])) (by simp [hcount, payOrder_of_none hnone]) i
    dsimp only
    rw [hexec, hcount]
    refine ⟨hinv.frame i rfl rfl rfl (fun _ => rfl) (fun _ => rfl) rfl ?_ (by simp), .inl rfl, ?_⟩
    · simpa using hinv.told i
    · simpa using hown

/-- What is left to a finished request: nothing pending. -/
def Quits (i : ι) (_ : Response) (g : Shared ι Db Event) : Prop :=
  ∀ id, pending g i id = false

theorem valid_getTransactionById (hreq : reqs i = .returnUrl m)
    (hverified : m.verifyResult = true) :
    (contract strict db reqs).Valid i (fun status g => g.own i = [.statusRead m.dingdan status])
      (getTransactionById m.dingdan) (fun g => g.own i = []) := by
  refine Contract.Valid.exec
    (fun status => Contract.Stable.own fun es => es = [Event.statusRead m.dingdan status]) ?_
  intro g hinv hown _
  refine ⟨hinv.frame i rfl rfl rfl (fun _ => rfl) (fun _ => rfl) rfl ?_ (by simp), .inl rfl, ?_⟩
  · rw [hown, hreq, List.nil_append]
    exact .inr (.inl ⟨hverified, _, rfl⟩)
  · rw [Shared.own_exec_self, hown, List.nil_append]

theorem valid_returnSucceeded (hreq : reqs i = .returnUrl m) (hverified : m.verifyResult = true)
    (hsucceeded : m.tradeStatus.succeeded = true) (status : Option (Option OrderStatus)) :
    (contract strict db reqs).Valid i (Quits i) (returnSucceeded m status)
      (fun g => g.own i = [.statusRead m.dingdan status]) := by
  have hfail : ∀ st, (contract strict db reqs).Valid i (Quits i)
      (.done (.echo "fail".toList)) (fun g => g.own i = [.statusRead m.dingdan st]) :=
    fun st => Contract.Valid.done fun g _ hown => not_pending_of_own hown fun _ => rfl
  unfold returnSucceeded
  split
  · next hunpaid =>
      subst hunpaid
      refine (valid_payTransaction hreq hverified hsucceeded _ _).bind fun paid => ?_
      cases paid with
      | false => exact hfail _
      | true =>
          refine Contract.Valid.exists_pre fun o => Contract.Valid.and_pre fun hcompleting => ?_
          refine (valid_charge hcompleting).bind fun _ => Contract.Valid.done fun g _ hstage => ?_
          refine not_pending_of_own hstage fun id => ?_
          by_cases hid : (o.id : Int) = id <;> simp [story, isPaidOf, isCreditOf, hid]
  · exact hfail _

theorem valid_returnUrl (hreq : reqs i = .returnUrl m) :
    (contract strict db reqs).Valid i (Quits i) (returnUrl m) (fun g => g.own i = []) := by
  unfold returnUrl
  split
  · next hverified =>
      refine (valid_getTransactionById hreq hverified).bind fun status => ?_
      cases htrade : m.tradeStatus with
      | other text =>
          exact Contract.Valid.done fun g _ hown => not_pending_of_own hown fun _ => rfl
      | TRADE_FINISHED =>
          exact valid_returnSucceeded hreq hverified (by rw [htrade]; rfl) status
      | TRADE_SUCCESS =>
          exact valid_returnSucceeded hreq hverified (by rw [htrade]; rfl) status
  · exact Contract.Valid.done fun g _ hown => not_pending_of_own hown fun _ => rfl

theorem Inv.credited_of_paid (h : Inv strict db reqs g) (ho : o ∈ db.paymentTransactions.rows)
    (hunpaid : o.status = some .UNPAID)
    (hpaid : ∀ o' ∈ g.state.paymentTransactions.rows, o'.id = o.id → o'.status = some .PAID)
    (hpending : ∀ e ∈ g.trace, pending g e.1 o.id = false) :
    g.log.any (isCreditOf o.id) = true := by
  obtain ⟨o', ho', hsame⟩ := h.order_row ho
  have hstatus := hpaid o' ho' hsame.id.symm
  obtain ⟨o₀, ho₀, hsame₀, hcase⟩ := h.orders o' ho'
  have heq : o₀ = o :=
    db.paymentTransactions.eq_of_key_eq ho₀ ho (hsame₀.id.trans hsame.id.symm)
  rcases hcase with ⟨-, hst⟩ | ⟨hcount, -, -⟩
  · rw [heq, hunpaid, hstatus] at hst
    exact absurd hst (by decide)
  · -- some request moved the order to `PAID`, and it is not pending
    have hpos : 0 < g.log.countP (isPaidOf o'.id) := by omega
    obtain ⟨e, he, hpaidOf⟩ := List.countP_pos_iff.1 hpos
    obtain ⟨⟨j, e'⟩, hje, rfl⟩ := List.mem_map.1 he
    have hown : (g.own j).any (isPaidOf o.id) = true :=
      List.any_eq_true.2 ⟨e', Shared.mem_own.2 hje, by rwa [← hsame.id] at hpaidOf⟩
    have hcredit : (g.own j).any (isCreditOf o.id) = true := by
      simpa [pending, hown] using hpending _ hje
    obtain ⟨e, he, hcreditOf⟩ := List.any_eq_true.1 hcredit
    exact List.any_eq_true.2 ⟨e, Shared.mem_log_of_mem_own he, hcreditOf⟩

theorem valid_notifyUrl (hreq : reqs i = .notifyUrl m) :
    (contract strict db reqs).Valid i (Quits i) (notifyUrl m) (fun g => g.own i = []) := by
  unfold notifyUrl
  split
  · refine Contract.Valid.bind (Q := fun _ g =>
      g.own i = [.notifyAnswered m.dingdan m.tradeStatus.succeeded])
      (Contract.Valid.exec (fun _ => Contract.Stable.own fun es =>
        es = [Event.notifyAnswered m.dingdan m.tradeStatus.succeeded]) ?_)
      fun _ => Contract.Valid.done fun g _ hown => not_pending_of_own hown fun _ => rfl
    intro g hinv hown hadm
    refine ⟨hinv.frame i rfl rfl rfl (fun _ => rfl) (fun _ => rfl) rfl ?_ ?_, .inl rfl, ?_⟩
    · rw [hown, hreq]
      exact .inr rfl
    · intro hs o ho hunpaid hmem
      have hsettled := hadm hs (i, _) (List.mem_map_of_mem hmem)
      simp only [answerSettled, Bool.and_eq_true, List.all_eq_true] at hsettled
      refine hinv.credited_of_paid ho hunpaid (fun o' ho' hid => ?_) fun e he => ?_
      · simpa [hasId, hid] using hsettled.1 o' ho'
      · simpa using hsettled.2 e he
    · rw [Shared.own_exec_self, hown, List.nil_append]
  · exact Contract.Valid.done fun g _ hown => not_pending_of_own hown fun _ => rfl

theorem valid_script (i : ι) :
    (contract strict db reqs).Valid i (Quits i) (reqs i).script (fun g => g.own i = []) := by
  cases hreq : reqs i with
  | returnUrl m => exact valid_returnUrl hreq
  | notifyUrl m => exact valid_notifyUrl hreq

end Stages

/-! ## Every schedule -/

/-- All requests at their first statement. -/
def requests (db : Db) (reqs : ι → Request) : Config ι Db Event Response :=
  .init db fun i => (reqs i).script

theorem contract_closed (strict : Prop) (db : Db) (reqs : ι → Request) :
    (contract strict db reqs).Closed where
  tick _ _ h := ⟨h.ids, h.orders, h.told, h.login, h.records, h.notified⟩
  stop i g _ hadm := by
    intro hs id
    by_contra hpending
    have hpending : pending g i id = true := by simpa using hpending
    have hpaid : (g.own i).any (isPaidOf id) = true := by
      simp only [pending, Bool.and_eq_true] at hpending
      exact hpending.1
    obtain ⟨e, he, hpaidOf⟩ := List.any_eq_true.1 hpaid
    have hsettled := hadm hs e he
    cases e <;> simp only [isPaidOf, decide_eq_true_eq, Bool.false_eq_true] at hpaidOf
    subst hpaidOf
    simp [stopSettled, hpending] at hsettled
  halted_stable i := Contract.Stable.own fun es =>
    strict → ∀ id, (es.any (isPaidOf id) && !es.any (isCreditOf id)) = false

theorem inv_init (strict : Prop) (db : Db) (reqs : ι → Request) :
    Inv strict db reqs ⟨db, []⟩ where
  ids := rfl
  orders o ho := ⟨o, ho, ⟨rfl, rfl, rfl⟩, .inl ⟨rfl, rfl⟩⟩
  told i := by
    cases reqs i with
    | returnUrl m => exact .inl rfl
    | notifyUrl m => exact .inl rfl
  login := by simp [Shared.log]
  records := by simp [Shared.log]
  notified _ _ _ _ hmem := by simp [Shared.log] at hmem

theorem contract_run (strict : Prop) (db : Db) (reqs : ι → Request)
    (schedule : List (Turn ι Nat))
    (hadm : (requests db reqs).Admits Db.tick (contract strict db reqs).admits schedule) :
    Inv strict db reqs ((requests db reqs).run Db.tick schedule).toShared ∧
      ∀ i, (contract strict db reqs).Good Quits i
        ((requests db reqs).run Db.tick schedule).toShared
        (((requests db reqs).run Db.tick schedule).proc i) :=
  Contract.init_run_sound (C := contract strict db reqs) (P := fun i g => g.own i = [])
    (contract_closed strict db reqs) (inv_init strict db reqs) (fun _ => rfl)
    (fun _ => Contract.Stable.own fun es => es = []) (fun i => valid_script i) schedule hadm

end

end ParDiff.Payment
