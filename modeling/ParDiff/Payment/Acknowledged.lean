import ParDiff.Payment.CreditedOnce

/-!
# Acknowledged payments

`notify_url.php` answers every verified notification with `success`, after
which Alipay never sends it again, but completes no order: the browser return
is the only message that does.  A payment is therefore lost when the
notification comes first and the return never comes, and when a return stops
between `pay_transaction` and the end of `charge`.  In schedules without these
two events (`Settled`) no acknowledged payment is lost.
-/

namespace ParDiff.Payment

open Lib Lib.Text

section

variable {ι : Type} [DecidableEq ι]

/-- The request has executed a statement and has another one to execute. -/
def InProgress (c : Config ι Db Event Response) (i : ι) : Prop :=
  c.own i ≠ [] ∧ ∃ act next, c.proc i = some (.stmt act next)

/-- Alipay was told that the order is done with, or the order says so itself. -/
def Acknowledged (reqs : ι → Request) (c : Config ι Db Event Response)
    (o : PaymentTransaction) : Prop :=
  Event.notifyAnswered o.id true ∈ c.log ∨
    (∃ o' ∈ c.state.paymentTransactions.rows, o'.id = o.id ∧ o'.status = some .PAID) ∧
      ∀ i, (reqs i).message.dingdan = o.id → ¬InProgress c i

/-- The order's traffic was added to the account of its owner, and the accounts
are what the log says. -/
def AddedToOwner (db : Db) (g : Shared ι Db Event) (o : PaymentTransaction) : Prop :=
  (∃ rows, rows ≠ 0 ∧
    Event.credited (.order o.id) o.username (o.traffic * 2 ^ 30) rows ∈ g.log) ∧
  g.state.login.rows = db.login.rows.map fun u => u.addCredit (creditChange g.log u.username)

/-- Every acknowledged order whose owner has an account with a balance was added
to that account. -/
def NoLostPayment (db : Db) (reqs : ι → Request) (c : Config ι Db Event Response) : Prop :=
  ∀ o ∈ db.paymentTransactions.rows, o.status = some .UNPAID →
    (∃ u ∈ db.login.rows, ciEq u.username o.username = true ∧ u.credit ≠ none) →
    Acknowledged reqs c o → AddedToOwner db c.toShared o

variable {strict : Prop} {db : Db} {reqs : ι → Request}

theorem Inv.addedToOwner {g : Shared ι Db Event} (h : Inv strict db reqs g)
    {o : PaymentTransaction} (ho : o ∈ db.paymentTransactions.rows) {u : Login}
    (hu : u ∈ db.login.rows) (hname : ciEq u.username o.username = true)
    (hcredit : g.log.any (isCreditOf o.id) = true) : AddedToOwner db g o := by
  refine ⟨?_, h.login⟩
  obtain ⟨e, he, hcreditOf⟩ := List.any_eq_true.1 hcredit
  unfold isCreditOf at hcreditOf
  split at hcreditOf
  · next id username amount rows =>
      obtain ⟨o', ho', -, heq⟩ := h.of_credited he
      obtain ⟨hid, rfl, rfl, rfl⟩ := Event.credited.inj heq
      rw [decide_eq_true_eq] at hcreditOf
      have hsame : o' = o := by
        refine db.paymentTransactions.eq_of_key_eq ho' ho ?_
        have := Source.order.inj hid
        omega
      subst hsame
      have hnamed : u.named (some o'.username) = true := hname
      refine ⟨_, Db.countLogin_ne_zero hu hnamed, ?_⟩
      rwa [← bytes_eq, ← hid]
  · exact absurd hcreditOf (by decide)

theorem not_pending_of_good {c : Config ι Db Event Response} {i : ι}
    (hinv : Inv True db reqs c.toShared)
    (hgood : (contract True db reqs).Good Quits i c.toShared (c.proc i))
    (hidle : ¬InProgress c i) (id : Int) : pending c.toShared i id = false := by
  match hp : c.proc i with
  | none =>
      rw [hp] at hgood
      exact hgood trivial id
  | some (.done response) =>
      rw [hp] at hgood
      obtain ⟨P, hP, -, hvalid⟩ := hgood
      exact hvalid _ hinv hP id
  | some (.stmt act next) =>
      have hown : c.own i = [] := by
        by_contra hne
        exact hidle ⟨hne, act, next, hp⟩
      exact not_pending_of_own hown (fun _ => rfl) id

theorem dingdan_of_pending {g : Shared ι Db Event} (h : Inv strict db reqs g) {i : ι} {id : Int}
    (hpending : pending g i id = true) : (reqs i).message.dingdan = id := by
  simp only [pending, Bool.and_eq_true] at hpending
  obtain ⟨e, he, hpaid⟩ := List.any_eq_true.1 hpending.1
  rcases (h.told i).of_mem he with
    ⟨_, _, rfl⟩ | ⟨_, _, rfl⟩ | ⟨o, -, -, hid, -, -, hstory, -⟩
  · simp [isPaidOf] at hpaid
  · simp [isPaidOf] at hpaid
  · simp only [story, List.mem_cons, List.not_mem_nil, or_false] at hstory
    rcases hstory with rfl | rfl | rfl | rfl | rfl <;>
      simp only [isPaidOf, decide_eq_true_eq, Bool.false_eq_true] at hpaid
    exact hid.symm.trans hpaid

/-- **No acknowledged payment is lost**, in every schedule in which no return
stops while its order is pending and every notification of success finds its
order `PAID` and not pending. -/
theorem no_lost_payment (db : Db) (reqs : ι → Request) (schedule : List (Turn ι Nat))
    (hsettled : (requests db reqs).Admits Db.tick Settled schedule) :
    NoLostPayment db reqs ((requests db reqs).run Db.tick schedule) := by
  have hadm : (requests db reqs).Admits Db.tick (contract True db reqs).admits schedule :=
    hsettled.mono fun _ _ _ h _ => h
  obtain ⟨hinv, hgood⟩ := contract_run True db reqs schedule hadm
  rintro o ho hunpaid ⟨u, hu, hname, -⟩ hack
  refine hinv.addedToOwner ho hu hname ?_
  rcases hack with hanswered | ⟨⟨o', ho', hid, hpaid⟩, hidle⟩
  · exact hinv.notified trivial o ho hunpaid hanswered
  · refine hinv.credited_of_paid ho hunpaid (fun o'' ho'' hid'' => ?_) fun e _ => ?_
    · rwa [Table.eq_of_key_eq _ ho'' ho' (hid''.trans hid.symm)]
    · by_contra hpending
      rw [Bool.not_eq_false] at hpending
      have hdingdan := dingdan_of_pending hinv hpending
      rw [not_pending_of_good hinv (hgood e.1) (hidle e.1 hdingdan)] at hpending
      exact absurd hpending (by decide)

end

/-! ## A notification without a return, and a return that stops -/

/-- One unpaid order of 2 GB, whose owner has an account. -/
def orderDb : Db :=
  { Db.empty 1 with
    paymentTransactions := Table.empty.insert
      (fun id => ⟨id, 2, "bob".toList, some .UNPAID, none, none, by decide⟩) fun _ => rfl
    login := .single (.holding "bob".toList 0) }

def successMessage : Message :=
  ⟨true, "1".toList, .TRADE_SUCCESS, "2010052100001".toList, "bob@example.com".toList⟩

/-- The browser return is `true`, the notification is `false`. -/
def bothMessages : Bool → Request
  | true => .returnUrl successMessage
  | false => .notifyUrl successMessage

theorem not_noLostPayment_orderDb {c : Config Bool Db Event Response}
    (hack : ∀ o ∈ orderDb.paymentTransactions.rows, Acknowledged bothMessages c o)
    (hlog : c.log.any (isCreditOf 1) = false) : ¬NoLostPayment orderDb bothMessages c := by
  intro h
  have hmem : (⟨1, 2, "bob".toList, some .UNPAID, none, none, by decide⟩ : PaymentTransaction) ∈
      orderDb.paymentTransactions.rows := List.mem_singleton.2 rfl
  obtain ⟨⟨rows, -, hcredited⟩, -⟩ := h _ hmem rfl
    ⟨_, List.mem_singleton.2 rfl, by decide, by decide⟩ (hack _ hmem)
  have hany : c.log.any (isCreditOf 1) = true := List.any_eq_true.2 ⟨_, hcredited, rfl⟩
  rw [hlog] at hany
  exact absurd hany (by decide)

/-- The notification is answered and nothing is credited; and a return that stops
after `pay_transaction` leaves the order `PAID` and not credited. -/
theorem payment_lost :
    ¬NoLostPayment orderDb bothMessages
        ((requests orderDb bothMessages).run Db.tick [.step false]) ∧
      ¬NoLostPayment orderDb bothMessages
        ((requests orderDb bothMessages).run Db.tick
          [.step true, .step true, .stop true]) := by
  refine ⟨not_noLostPayment_orderDb (fun o ho => ?_) (by decide),
    not_noLostPayment_orderDb (fun o ho => ?_) (by decide)⟩
  · obtain rfl := List.mem_singleton.1 ho
    exact .inl (by decide)
  · obtain rfl := List.mem_singleton.1 ho
    refine .inr ⟨⟨_, List.mem_singleton.2 rfl, rfl, rfl⟩, ?_⟩
    rintro (_ | _) - ⟨hown, act, next, hproc⟩
    · exact hown (by decide)
    · exact absurd hproc (by simp [Config.run, Config.act, requests, Config.init, bothMessages])

theorem no_lost_payment_return_first :
    NoLostPayment orderDb bothMessages
      ((requests orderDb bothMessages).run Db.tick
        (List.replicate 5 (.step true) ++ [.tick 60, .step false])) :=
  no_lost_payment orderDb bothMessages _ (by decide)

end ParDiff.Payment
