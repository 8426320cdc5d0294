import ParDiff.Accounts.Pages
import ParDiff.OpenVpn.Plugin
import ParDiff.Payment.Orders
import ParDiff.Vouchers.CardCheck

/-!
# Top-ups and admission

Credit is added in three places: by a coupon, by an administrator and by a paid
order.  Admission is decided in a fourth, the plugin of the OpenVPN server, which
asks for credit and for an `ACTIVE` account.  Two of the three top-ups set the
account `ACTIVE`; `charge` leaves the state as it is.
-/

namespace ParDiff.Accounts

open Lib Lib.Text OpenVpn

inductive TopUp
  /-- `coupon_credit.cgi`, without SQL errors. -/
  | coupon (card username : Str)
  /-- `main.cgi?op=onchangecredit`. -/
  | admin (r : ChangeCredit)
  /-- `return_url.php`. -/
  | order (m : Payment.Message)

namespace TopUp

/-- The database after the operation. -/
def after (db : Db) : TopUp → Db
  | .coupon card username => (Vouchers.couponCredit (Vouchers.request card username)).final db
  | .admin r => (onchangecredit r).final db
  | .order m => (Payment.returnUrl m).final db

/-- The operation succeeds: the page says so, or an administrator adds a positive
amount. -/
def Succeeds (db : Db) : TopUp → Prop
  | .coupon card username =>
      ((Vouchers.couponCredit (Vouchers.request card username)).run db).value = .success
  | .admin r => truthy r.admin = true ∧ 0 < numPrefix (r.delta.getD [])
  | .order m => ((Payment.returnUrl m).run db).value = .viewPage

instance (db : Db) : (op : TopUp) → Decidable (op.Succeeds db)
  | .coupon _ _ => inferInstanceAs (Decidable (_ = _))
  | .admin _ => inferInstanceAs (Decidable (_ ∧ _))
  | .order _ => inferInstanceAs (Decidable (_ = _))

/-- Name of the account it is for. -/
def username (db : Db) : TopUp → Option Str
  | .coupon _ username => some username
  | .admin r => r.username
  | .order m =>
      (db.paymentTransactions.rows.find? (Payment.hasId m.dingdan)).map (·.username)

/-- The operation is a paid order. -/
def isOrder : TopUp → Bool
  | .order _ => true
  | _ => false

end TopUp

/-! ## What the three do to the account -/

theorem login_onchangecredit {r : ChangeCredit} (hadmin : truthy r.admin = true) (db : Db) :
    ((onchangecredit r).final db).login.rows =
      updateAll (Login.named r.username) (changeCredit r.bytes) db.login.rows := by
  have hlogin : ((onchangecredit r).final db).login = (changeAccount r db).login := by
    simp only [onchangecredit, hadmin, if_true, Script.final, Script.bind_eq, Script.run_bind,
      Script.run_modify, Script.pure_eq_done, Script.run_done, recordChange]
    cases r.username <;> rfl
  rw [hlogin]
  exact updateFirst_eq_updateAll (named_pairwise db.login r.username)

theorem login_charge {db : Db} {o : PaymentTransaction} {id : Int}
    (ho : o ∈ db.paymentTransactions.rows) (hid : (o.id : Int) = id) :
    ((Payment.charge id).final db).login.rows =
      updateAll (Login.named (some o.username)) (Login.addCredit (Payment.bytes o.traffic))
        db.login.rows := by
  simp [Payment.charge, Payment.selectTrans, Payment.filter_hasId ho hid, Script.final,
    Script.forEach, Payment.insertAlipayRecord, Payment.creditOwner]

/-- A return that shows the order has paid and charged it. -/
theorem returnUrl_viewPage {m : Payment.Message} {db : Db}
    (h : ((Payment.returnUrl m).run db).value = .viewPage) :
    ∃ o, db.paymentTransactions.rows.find? (Payment.hasId m.dingdan) = some o ∧
      (Payment.returnUrl m).final db =
        (Payment.charge m.dingdan).final (Payment.payOrder m.dingdan m.tradeNo m.buyerEmail db) := by
  have hverify : m.verifyResult = true := by
    by_contra hfalse
    simp [Payment.returnUrl, hfalse] at h
  have hsucceeded : ∀ text, m.tradeStatus ≠ .other text := by
    intro text htext
    simp [Payment.returnUrl, hverify, htext] at h
  have hreturn : ∀ db, (Payment.returnUrl m).run db =
      ((Payment.getTransactionById m.dingdan).bind (Payment.returnSucceeded m)).run db := by
    intro db
    unfold Payment.returnUrl
    cases hstatus : m.tradeStatus with
    | other text => exact absurd hstatus (hsucceeded text)
    | TRADE_FINISHED => simp [hverify]
    | TRADE_SUCCESS => simp [hverify]
  rw [hreturn] at h
  simp only [Payment.getTransactionById, Script.run_bind, Script.run_exec] at h
  have hunpaid : (db.paymentTransactions.rows.find? (Payment.hasId m.dingdan)).map (·.status) =
      some (some .UNPAID) := by
    by_contra hne
    simp [Payment.returnSucceeded, hne] at h
  obtain ⟨o, ho, -⟩ := Option.map_eq_some_iff.1 hunpaid
  refine ⟨o, ho, ?_⟩
  rw [hunpaid] at h
  rw [Script.final, hreturn]
  simp only [Payment.getTransactionById, Script.run_bind, Script.run_exec, hunpaid]
  by_cases hpaid : db.paymentTransactions.rows.countP (Payment.payable m.dingdan) = 1
  · simp [Payment.returnSucceeded, Payment.payTransaction, hpaid, Script.final]
  · simp [Payment.returnSucceeded, Payment.payTransaction, hpaid] at h

theorem login_returnUrl {m : Payment.Message} {db : Db}
    (h : ((Payment.returnUrl m).run db).value = .viewPage) :
    ∃ o, db.paymentTransactions.rows.find? (Payment.hasId m.dingdan) = some o ∧
      ((Payment.returnUrl m).final db).login.rows =
        updateAll (Login.named (some o.username)) (Login.addCredit (Payment.bytes o.traffic))
          db.login.rows := by
  obtain ⟨o, ho, hfinal⟩ := returnUrl_viewPage h
  have hid : Payment.hasId m.dingdan o = true := List.find?_some ho
  simp only [Payment.hasId, decide_eq_true_eq] at hid
  -- the order is charged after it was marked as paid
  obtain ⟨o', ho', hid', hname, htraffic⟩ :
      ∃ o' ∈ (Payment.payOrder m.dingdan m.tradeNo m.buyerEmail db).paymentTransactions.rows,
        (o'.id : Int) = m.dingdan ∧ o'.username = o.username ∧ o'.traffic = o.traffic := by
    refine ⟨_, mem_updateAll.2 ⟨o, List.mem_of_find?_eq_some ho, rfl⟩, ?_⟩
    by_cases hp : Payment.payable m.dingdan o <;> simp [hp, Payment.pay, hid]
  refine ⟨o, ho, ?_⟩
  rw [hfinal, login_charge ho' hid', hname, htraffic]
  rfl

theorem login_coupon {db : Db} {card username : Str}
    (huser : db.countLogin (some username) ≠ 0)
    (h : ((Vouchers.couponCredit (Vouchers.request card username)).run db).value = .success) :
    ∃ amount expire,
      ((Vouchers.couponCredit (Vouchers.request card username)).final db).login.rows =
        updateAll (Login.named (some username)) (Vouchers.redeemed db.now amount expire)
          db.login.rows := by
  obtain ⟨k, f, -, -, -, hstate⟩ := Vouchers.couponCredit_success huser h
  rw [Script.final, hstate]
  exact ⟨f.credit, f.expire, rfl⟩

/-- Whatever the top-up, it updates the account it is for, and only a paid order
does not activate it. -/
theorem TopUp.updates {op : TopUp} {db : Db} {u : Login} (hu : u ∈ db.login.rows)
    (hnamed : u.named (op.username db) = true) (h : op.Succeeds db) :
    ∃ f : Login → Login, (∀ v, (f v).id = v.id) ∧
      (f u).accountState = (if op.isOrder then u.accountState else .ACTIVE) ∧
      (op.after db).login.rows = updateAll (Login.named (op.username db)) f db.login.rows := by
  cases op with
  | coupon card username =>
      obtain ⟨amount, expire, hrows⟩ := login_coupon (Db.countLogin_ne_zero hu hnamed) h
      exact ⟨Vouchers.redeemed db.now amount expire, fun _ => rfl, rfl, hrows⟩
  | admin r => exact ⟨changeCredit r.bytes, fun _ => rfl, rfl, login_onchangecredit h.1 db⟩
  | order m =>
      obtain ⟨o, ho, hrows⟩ := login_returnUrl h
      refine ⟨Login.addCredit (Payment.bytes o.traffic), fun _ => rfl, rfl, ?_⟩
      simpa [TopUp.username, ho, TopUp.after] using hrows

/-! ## Admission afterwards -/

theorem admits_stored_iff {db : Db} {u : Login} (hu : u ∈ db.login.rows)
    (hcredit : hasCredit u = true) (hname : asMysqlValidate (some u.username) = true)
    (hpass : asMysqlValidate (some u.password) = true) :
    Admits db u.username u.password ↔ u.accountState = .ACTIVE := by
  rw [admits_iff]
  constructor
  · rintro ⟨-, -, v, hv, hvu, -, -, hactive⟩
    obtain rfl : v = u := eq_of_nodup_map db.login.unique hv hu (congrArg fold hvu)
    exact hactive
  · intro hactive
    exact ⟨hname, hpass, u, hu, rfl, rfl, hcredit, hactive⟩

/-- **Top-ups and service.**  After a top-up that succeeded and left credit, the
plugin lets the user in with his stored, valid credentials exactly when the
top-up was not a paid order or the account was active before it. -/
theorem topUp_restores_iff (op : TopUp) (db : Db) (u u' : Login) (hu : u ∈ db.login.rows)
    (hnamed : u.named (op.username db) = true) (hsucceeds : op.Succeeds db)
    (hu' : u' ∈ (op.after db).login.rows) (hid : u'.id = u.id) (hcredit : hasCredit u' = true)
    (hname : asMysqlValidate (some u'.username) = true)
    (hpass : asMysqlValidate (some u'.password) = true) :
    Admits (op.after db) u'.username u'.password ↔
      op.isOrder = false ∨ u.accountState = .ACTIVE := by
  obtain ⟨f, hfid, hstate, hrows⟩ := op.updates hu hnamed hsucceeds
  rw [hrows] at hu'
  obtain ⟨v, hv, rfl⟩ := mem_updateAll.1 hu'
  have hvu : v.id = u.id := by
    by_cases hn : v.named (op.username db) <;> simpa [hn, hfid] using hid
  obtain rfl : v = u := db.login.eq_of_key_eq hv hu hvu
  rw [admits_stored_iff (hrows ▸ hu') hcredit hname hpass, if_pos hnamed, hstate]
  cases op.isOrder <;> simp

/-! ## A frozen account -/

def frozenAccount : Login :=
  { Login.holding "bob".toList 0 with password := "secret".toList, accountState := .DISABLED }

theorem length_bob_le : "bob".toList.length ≤ 200 := by decide

/-- bob is frozen and has ordered a gigabyte. -/
def frozenDb : Db :=
  { Db.empty 1 with
    login := .single frozenAccount
    paymentTransactions := .single ⟨1, 1, "bob".toList, some .UNPAID, none, none, length_bob_le⟩ }

def paidReturn : Payment.Message := ⟨true, "1".toList, .TRADE_SUCCESS, "20".toList, "b".toList⟩

/-- The order is paid and the gigabyte credited, and bob is still kept out. -/
theorem order_leaves_frozen :
    (TopUp.order paidReturn).Succeeds frozenDb ∧
      frozenAccount.named ((TopUp.order paidReturn).username frozenDb) = true ∧
      ∃ u' ∈ ((TopUp.order paidReturn).after frozenDb).login.rows,
        u'.id = frozenAccount.id ∧ hasCredit u' = true ∧
          asMysqlValidate (some u'.username) = true ∧
          asMysqlValidate (some u'.password) = true ∧
          ¬Admits ((TopUp.order paidReturn).after frozenDb) u'.username u'.password := by
  refine ⟨by decide, by decide, frozenAccount.addCredit (1024 * 1024 * 1024), by decide, rfl,
    by decide, by decide, by decide, ?_⟩
  intro h
  have hrefused : openvpnPluginFuncV1 (some ((TopUp.order paidReturn).after frozenDb))
      (credentials "bob".toList "secret".toList) = .ERROR := by decide
  have hadmitted := h _ (passes_credentials _ _)
  simp only [Login.addCredit, frozenAccount, Login.holding] at hadmitted
  exact absurd (hadmitted.symm.trans hrefused) (by decide)

def topUpByHand : ChangeCredit := ⟨some "root".toList, some "bob".toList, some "5".toList⟩

theorem topUp_restores_by_hand :
    Admits ((TopUp.admin topUpByHand).after frozenDb) "bob".toList "secret".toList :=
  (topUp_restores_iff (.admin topUpByHand) frozenDb frozenAccount
    (changeCredit topUpByHand.bytes frozenAccount) (by decide) (by decide)
    ⟨by decide, by decide +kernel⟩ (by decide +kernel) rfl (by decide +kernel) (by decide)
    (by decide)).2 (.inl rfl)

end ParDiff.Accounts
