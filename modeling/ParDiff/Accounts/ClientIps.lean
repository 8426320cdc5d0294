import ParDiff.Accounts.Addresses
import ParDiff.Lib.Interleave

/-!
# The numbering of client addresses

`get_client_ip` reads the address of the newest account, and a later statement inserts
the next address.  While nobody else adds an account between the two, account number
`n` has address number `n`.  A request that adds its account to rows it has not seen
takes an address that is already there.
-/

namespace ParDiff.Accounts

open Lib Lib.Text

/-- A request that may add an account. -/
inductive Registration
  | create (r : Create)
  | addUser (r : AddUser)

def Registration.script : Registration → Sql Page
  | .create r => Accounts.create r
  | .addUser r => Accounts.addUser r

/-- All requests at their first statement. -/
def registrations {ι : Type} (db : Db) (request : ι → Registration) : Config ι Db Event Page :=
  Config.init db fun i => (request i).script

/-- No two accounts share an address, and every address is a dotted quad. -/
def UniqueAddresses (db : Db) : Prop :=
  (db.login.rows.map (·.clientip)).Nodup ∧ ∀ u ∈ db.login.rows, dottedQuad u.clientip = true

instance (db : Db) : Decidable (UniqueAddresses db) :=
  inferInstanceAs (Decidable (_ ∧ _))

/-! ## What a request has seen -/

section Seen

variable {ι : Type} [DecidableEq ι]

/-- The login rows at the first statement of request `i`, which is its `get_client_ip`;
`first` has them for those that have begun. -/
def seenBy (first : ι → Option (List Login)) (c : Config ι Db Event Page) (i : ι) :
    List Login :=
  (first i).getD c.state.login.rows

def noteFirst (first : ι → Option (List Login)) (c : Config ι Db Event Page) :
    Turn ι Nat → ι → Option (List Login)
  | .step i => Function.update first i (some (seenBy first c i))
  | .stop _ => first
  | .tick _ => first

/-- A step that adds an account adds it to the rows its request has seen. -/
def AddsToSeen (first : ι → Option (List Login)) (c : Config ι Db Event Page) :
    Turn ι Nat → Prop
  | .step i =>
      (c.act Db.tick (.step i)).state.login.rows ≠ c.state.login.rows →
        c.state.login.rows = seenBy first c i
  | .stop _ => True
  | .tick _ => True

/-- No account is added between the `get_client_ip` of a request and the `INSERT` that
adds its own. -/
def Undisturbed :
    (ι → Option (List Login)) → Config ι Db Event Page → List (Turn ι Nat) → Prop
  | _, _, [] => True
  | first, c, a :: schedule =>
      AddsToSeen first c a ∧ Undisturbed (noteFirst first c a) (c.act Db.tick a) schedule

instance (first : ι → Option (List Login)) (c : Config ι Db Event Page) :
    (a : Turn ι Nat) → Decidable (AddsToSeen first c a)
  | .step _ => inferInstanceAs (Decidable (_ → _))
  | .stop _ => isTrue trivial
  | .tick _ => isTrue trivial

instance decidableUndisturbed :
    (first : ι → Option (List Login)) → (c : Config ι Db Event Page) →
      (schedule : List (Turn ι Nat)) → Decidable (Undisturbed first c schedule)
  | _, _, [] => isTrue trivial
  | first, c, a :: schedule =>
      have := decidableUndisturbed (noteFirst first c a) (c.act Db.tick a) schedule
      inferInstanceAs (Decidable (_ ∧ _))

end Seen

/-! ## The statements of a request -/

/-- The address that `get_client_ip` computes from the rows it reads. -/
def nextClientIp (rows : List Login) : Str :=
  match rows.argmax (·.id) with
  | some u => numToIp (ipToNum u.clientip + 1)
  | none => "0.0.0.0".toList

/-- The statement leaves the accounts alone or adds one with this address. -/
def Adds (ip : Str) (act : Db → Db × List Event) : Prop :=
  ∀ db : Db, (act db).1.login = db.login ∨
    ∃ u : Login, u.id = db.login.auto ∧ u.clientip = ip.take 15 ∧
      (act db).1.login.rows = db.login.rows ++ [u]

theorem adds_of_login {ip : Str} {act : Db → Db × List Event}
    (h : ∀ db, (act db).1.login = db.login) : Adds ip act :=
  fun db => .inl (h db)

theorem Adds.rows_prefix {ip : Str} {act : Db → Db × List Event} (h : Adds ip act) (db : Db) :
    db.login.rows <+: (act db).1.login.rows := by
  rcases h db with hkeep | ⟨u, -, -, hadd⟩
  · rw [hkeep]
  · rw [hadd]
    exact List.prefix_append _ _

theorem insertLogin_adds (username password ip : Str) (credit : Option Int) (email : Str)
    (expireAt : Db → Option Time) (emit : Db → List Event) :
    Adds ip fun db =>
      (insertLogin username password ip credit email (expireAt db) db, emit db) := by
  intro db
  simp only [insertLogin, UniqueTable.insert]
  split
  · exact .inl rfl
  · rename_i login hlogin
    split at hlogin
    · exact absurd hlogin (by simp)
    · obtain rfl := Option.some.inj hlogin
      exact .inr
        ⟨newLogin username password ip credit email (expireAt db) db.login.auto, rfl, rfl, rfl⟩

/-- The first statement is `get_client_ip`, and the others add at most an account with
the address it computed. -/
def AddsNext (script : Sql Page) : Prop :=
  (∃ page, script = .done page) ∨
    ∃ next, script = .stmt (fun db => (db, [])) next ∧
      ∀ db, (next db).Every (Adds (nextClientIp db.login.rows))

theorem createAccount_addsNext (r : Create) : AddsNext (createAccount r) := by
  refine .inr
    ⟨fun db => (insertAccount r (nextClientIp db.login.rows)).bind _, rfl, fun db => ?_⟩
  have hinsert := insertLogin_adds (r.username.getD []) (r.password.getD [])
    (nextClientIp db.login.rows) (some 0) (r.email.getD [])
    (fun db => dateAdd db.now 3) fun _ => []
  have hlog : ∀ event, (insertLog event).Every (Adds (nextClientIp db.login.rows)) :=
    fun event => Script.every_exec (adds_of_login fun _ => rfl)
  apply Script.Every.bind (Script.every_exec hinsert)
  intro inserted
  split_ifs
  · exact (hlog _).bind fun _ => trivial
  · trivial

theorem create_addsNext (r : Create) : AddsNext (create r) := by
  rw [create]
  split_ifs
  · exact .inl ⟨_, rfl⟩
  · exact .inl ⟨_, rfl⟩
  · exact .inl ⟨_, rfl⟩
  · exact .inl ⟨_, rfl⟩
  · exact createAccount_addsNext r

theorem addUser_addsNext (r : AddUser) : AddsNext (addUser r) := by
  rw [addUser]
  by_cases hadmin : truthy r.admin = true
  · rw [if_pos hadmin]
    refine .inr ⟨_, rfl, fun db => ?_⟩
    have hknown : (existUsername (r.username.getD [])).Every
        (Adds (nextClientIp db.login.rows)) :=
      Script.every_exec (adds_of_login fun _ => rfl)
    have hinsert := insertLogin_adds (r.username.getD []) (r.password.getD [])
      (nextClientIp db.login.rows) r.loginCredit (r.email.getD []) (fun _ => none) fun _ => []
    have hrecord : ∀ credit operator username,
        (Script.modify (fun db : Db => db.insertRecord credit operator username adminNote)
          fun _ => ([] : List Event)).Every (Adds (nextClientIp db.login.rows)) :=
      fun credit operator username => Script.every_exec (adds_of_login fun _ => rfl)
    simp only [Script.done_bind]
    split_ifs
    · apply hknown.bind
      intro known
      split_ifs
      · trivial
      · apply Script.Every.bind (Script.every_exec hinsert)
        intro _
        exact (hrecord _ _ _).bind fun _ => trivial
    · trivial
  · rw [if_neg hadmin]
    exact .inl ⟨_, rfl⟩

theorem Registration.script_addsNext (r : Registration) : AddsNext r.script := by
  cases r with
  | create r => exact create_addsNext r
  | addUser r => exact addUser_addsNext r

/-! ## Numbered accounts -/

/-- The newest row is the last one, and account number `n` has address number `n`. -/
structure Numbered (rows : List Login) : Prop where
  ascending : rows.Pairwise fun a b => a.id < b.id
  clientips : rows.map (·.clientip) = (List.range rows.length).map numToIp

theorem length_numToIp_le {n : Nat} (h : n < 2 ^ 32) : (numToIp n).length ≤ 15 := by
  have hthree : ∀ k, k < 256 → (dec k).length ≤ 3 :=
    fun k hk => length_dec_le (by decide) (hk.trans (by decide))
  have hfirst := hthree (n / (256 * 256 * 256)) (by omega)
  have hsecond := hthree (n / (256 * 256) % 256) (by omega)
  have hthird := hthree (n / 256 % 256) (by omega)
  have hfourth := hthree (n % 256) (by omega)
  simp only [numToIp, List.length_append, List.length_cons]
  omega

theorem argmax_id_concat {rows : List Login} {u : Login}
    (h : (rows ++ [u]).Pairwise fun a b => a.id < b.id) :
    (rows ++ [u]).argmax (·.id) = some u := by
  rw [List.argmax_concat]
  cases hmax : rows.argmax (·.id) with
  | none => rfl
  | some v =>
      have hlt : v.id < u.id := (List.pairwise_append.1 h).2.2 v (List.argmax_mem hmax) u (by simp)
      simp [hlt]

/-- The next address is the one of the next account. -/
theorem Numbered.nextClientIp_eq {rows : List Login} (h : Numbered rows) :
    nextClientIp rows = numToIp rows.length := by
  induction rows using List.reverseRecOn with
  | nil => rfl
  | append_singleton rows u _ =>
      have hlast : u.clientip = numToIp rows.length := by
        have hips := h.clientips
        rw [List.length_append, List.length_singleton, List.range_succ, List.map_append,
          List.map_append] at hips
        simpa using (List.append_inj' hips rfl).2
      rw [nextClientIp, argmax_id_concat h.ascending]
      simp [hlast, ipToNum_numToIp]

theorem Numbered.concat {rows : List Login} {u : Login} (h : Numbered rows)
    (hnewest : ∀ v ∈ rows, v.id < u.id) (hip : u.clientip = numToIp rows.length) :
    Numbered (rows ++ [u]) where
  ascending := by
    refine List.pairwise_append.2 ⟨h.ascending, List.pairwise_singleton _ _, ?_⟩
    simpa using hnewest
  clientips := by
    rw [List.length_append, List.length_singleton, List.range_succ, List.map_append,
      List.map_append, h.clientips]
    simp [hip]

theorem Numbered.uniqueAddresses {db : Db} (h : Numbered db.login.rows)
    (hfew : db.login.rows.length < 2 ^ 32) : UniqueAddresses db := by
  constructor
  · rw [h.clientips]
    exact List.nodup_range.map numToIp_injective
  · intro u hu
    have hmem : u.clientip ∈ (List.range db.login.rows.length).map numToIp := by
      rw [← h.clientips]
      exact List.mem_map_of_mem hu
    obtain ⟨n, hn, hip⟩ := List.mem_map.1 hmem
    rw [← hip]
    exact dottedQuad_numToIp ((List.mem_range.1 hn).trans hfew)

/-- An address below the number of accounts is taken. -/
theorem Numbered.not_nodup_concat {rows : List Login} {u : Login} {n : Nat} (h : Numbered rows)
    (hn : n < rows.length) (hip : u.clientip = numToIp n) :
    ¬((rows ++ [u]).map (·.clientip)).Nodup := by
  intro hnodup
  have hmem : u.clientip ∈ rows.map (·.clientip) := by
    rw [h.clientips, hip]
    exact List.mem_map_of_mem (List.mem_range.2 hn)
  rw [List.map_append, List.nodup_append] at hnodup
  exact hnodup.2.2 _ hmem _ (by simp) rfl

/-! ## One step -/

section Runs

variable {ι : Type} {request : ι → Registration}
  {first : ι → Option (List Login)} {c : Config ι Db Event Page}

theorem registrations_grow (db : Db) (request : ι → Registration) :
    (registrations db request).Each fun _ act =>
      ∀ db, db.login.rows <+: (act db).1.login.rows := by
  refine Config.each_init (fun i => ?_) db
  rcases (request i).script_addsNext with ⟨page, hdone⟩ | ⟨next, hstmt, hevery⟩
  · rw [hdone]
    trivial
  · rw [hstmt]
    exact ⟨fun db => List.prefix_refl _, fun db => (hevery db).mono fun act => Adds.rows_prefix⟩

/-- The accounts are numbered, and what every request may still do depends on the rows
it has seen. -/
structure Numbering (request : ι → Registration) (first : ι → Option (List Login))
    (c : Config ι Db Event Page) : Prop where
  numbered : Numbered c.state.login.rows
  seen_prefix : ∀ i seen, first i = some seen → seen <+: c.state.login.rows
  fresh : ∀ i script, c.proc i = some script → first i = none → script = (request i).script
  begun : ∀ i script seen, c.proc i = some script → first i = some seen →
    script.Every (Adds (numToIp seen.length))

theorem numbering_init {db : Db} (hempty : db.login.rows = []) :
    Numbering request (fun _ => none) (registrations db request) where
  numbered := by
    rw [show (registrations db request).state.login.rows = [] from hempty]
    exact ⟨.nil, rfl⟩
  seen_prefix := fun i seen h => absurd h (by simp)
  fresh := fun i script hproc _ => (Option.some.inj hproc).symm
  begun := fun i script seen _ h => absurd h (by simp)

theorem Numbering.seenBy_prefix (h : Numbering request first c) (i : ι) :
    seenBy first c i <+: c.state.login.rows := by
  cases hfirst : first i with
  | none => simp [seenBy, hfirst]
  | some seen => simpa [seenBy, hfirst] using h.seen_prefix i seen hfirst

/-- The next statement of a request, and all that follow it. -/
theorem Numbering.next_statement (h : Numbering request first c) {i : ι}
    {act : Db → Db × List Event} {next : Db → Sql Page}
    (hproc : c.proc i = some (.stmt act next)) :
    Adds (numToIp (seenBy first c i).length) act ∧
      (next c.state).Every (Adds (numToIp (seenBy first c i).length)) := by
  cases hfirst : first i with
  | none =>
      have hscript := h.fresh i _ hproc hfirst
      rcases (request i).script_addsNext with ⟨page, hdone⟩ | ⟨next', hstmt, hevery⟩
      · exact absurd (hscript.trans hdone) (by simp)
      · obtain ⟨rfl, rfl⟩ := Script.stmt.inj (hscript.trans hstmt)
        have hnext := hevery c.state
        rw [h.numbered.nextClientIp_eq] at hnext
        simp only [seenBy, hfirst, Option.getD_none]
        exact ⟨adds_of_login fun _ => rfl, hnext⟩
  | some seen =>
      have hevery := h.begun i _ seen hproc hfirst
      simp only [seenBy, hfirst, Option.getD_some]
      exact ⟨hevery.1, hevery.2 _⟩

/-- The rows after a statement that adds to what its request has seen. -/
theorem Numbering.numbered_statement (h : Numbering request first c)
    (hfew : c.state.login.rows.length < 2 ^ 32) {i : ι} {act : Db → Db × List Event}
    (hadds : Adds (numToIp (seenBy first c i).length) act)
    (hseen : (act c.state).1.login.rows ≠ c.state.login.rows →
      c.state.login.rows = seenBy first c i) : Numbered (act c.state).1.login.rows := by
  rcases hadds c.state with hkeep | ⟨u, hid, hip, hadd⟩
  · rw [hkeep]
    exact h.numbered
  · have hrows := hseen (by simp [hadd])
    rw [← hrows, List.take_of_length_le (length_numToIp_le hfew)] at hip
    rw [hadd]
    refine h.numbered.concat (fun v hv => ?_) hip
    rw [hid]
    exact c.state.login.lt_auto v hv

variable [DecidableEq ι]

/-- Request `i` has moved on, and perhaps added an account. -/
theorem Numbering.note {c' : Config ι Db Event Page} (h : Numbering request first c) {i : ι}
    (hnumbered : Numbered c'.state.login.rows)
    (hgrow : c.state.login.rows <+: c'.state.login.rows)
    (hothers : ∀ j, j ≠ i → c'.proc j = c.proc j)
    (hself : ∀ script, c'.proc i = some script →
      script.Every (Adds (numToIp (seenBy first c i).length))) :
    Numbering request (Function.update first i (some (seenBy first c i))) c' where
  numbered := hnumbered
  seen_prefix := by
    intro j seen hseen
    by_cases hj : j = i
    · subst hj
      rw [Function.update_self, Option.some.injEq] at hseen
      exact hseen ▸ (h.seenBy_prefix j).trans hgrow
    · rw [Function.update_of_ne hj] at hseen
      exact (h.seen_prefix j seen hseen).trans hgrow
  fresh := by
    intro j script hproc hfirst
    by_cases hj : j = i
    · subst hj
      exact absurd hfirst (by simp)
    · rw [Function.update_of_ne hj] at hfirst
      exact h.fresh j script (hothers j hj ▸ hproc) hfirst
  begun := by
    intro j script seen hproc hseen
    by_cases hj : j = i
    · subst hj
      rw [Function.update_self, Option.some.injEq] at hseen
      exact hseen ▸ hself script hproc
    · rw [Function.update_of_ne hj] at hseen
      exact h.begun j script seen (hothers j hj ▸ hproc) hseen

theorem Numbering.act (h : Numbering request first c)
    (hfew : c.state.login.rows.length < 2 ^ 32) (a : Turn ι Nat)
    (hseen : AddsToSeen first c a) :
    Numbering request (noteFirst first c a) (c.act Db.tick a) := by
  cases a with
  | step i =>
      cases hproc : c.proc i with
      | none =>
          have hidle : c.act Db.tick (.step i) = c := by simp [Config.act, hproc]
          rw [hidle]
          exact h.note h.numbered (List.prefix_refl _) (fun _ _ => rfl) (by simp [hproc])
      | some script =>
          cases script with
          | done page =>
              have hidle : c.act Db.tick (.step i) = c := by simp [Config.act, hproc]
              rw [hidle]
              refine h.note h.numbered (List.prefix_refl _) (fun _ _ => rfl) ?_
              rw [hproc]
              rintro _ ⟨⟩
              trivial
          | stmt act next =>
              obtain ⟨hadds, hnext⟩ := h.next_statement hproc
              have hact : c.act Db.tick (.step i) = ⟨c.toShared.exec i act,
                Function.update c.proc i (some (next c.state))⟩ := by simp [Config.act, hproc]
              rw [AddsToSeen, hact] at hseen
              rw [hact]
              refine h.note (h.numbered_statement hfew hadds hseen) (hadds.rows_prefix _)
                (fun j hj => Function.update_of_ne hj _ _) fun script hscript => ?_
              obtain rfl : next c.state = script := by simpa using hscript
              exact hnext
  | stop i =>
      have hothers : ∀ j script, (c.act Db.tick (.stop i)).proc j = some script →
          c.proc j = some script := by
        intro j script hproc
        by_cases hj : j = i
        · simp [Config.act, hj] at hproc
        · simpa [Config.act, hj] using hproc
      exact ⟨h.numbered, h.seen_prefix,
        fun j script hproc => h.fresh j script (hothers j script hproc),
        fun j script seen hproc => h.begun j script seen (hothers j script hproc)⟩
  | tick t => exact ⟨h.numbered, h.seen_prefix, h.fresh, h.begun⟩

/-- Whoever adds to other rows than it has seen takes an address twice. -/
theorem Numbering.not_uniqueAddresses (h : Numbering request first c)
    (hfew : c.state.login.rows.length < 2 ^ 32) {a : Turn ι Nat}
    (hseen : ¬AddsToSeen first c a) : ¬UniqueAddresses (c.act Db.tick a).state := by
  cases a with
  | step i =>
      obtain ⟨hgrown, hother⟩ := Classical.not_imp.1 hseen
      rcases c.act_step_cases Db.tick i with ⟨hidle, -⟩ | ⟨act, next, hproc, hact, -⟩
      · exact absurd (by rw [hidle]) hgrown
      · rw [hact] at hgrown ⊢
        rcases (h.next_statement hproc).1 c.state with hkeep | ⟨u, -, hip, hadd⟩
        · exact absurd (congrArg (·.rows) hkeep) hgrown
        · have hbegin := h.seenBy_prefix i
          have hlt : (seenBy first c i).length < c.state.login.rows.length := by
            refine lt_of_le_of_ne hbegin.length_le fun hlen => hother ?_
            exact (hbegin.eq_of_length hlen).symm
          rw [List.take_of_length_le (length_numToIp_le (hlt.trans hfew))] at hip
          intro hunique
          refine h.numbered.not_nodup_concat hlt hip ?_
          rw [← hadd]
          exact hunique.1
  | stop i => exact absurd trivial hseen
  | tick t => exact absurd trivial hseen

/-! ## Runs -/

theorem Numbering.run_iff (h : Numbering request first c)
    (hgrow : c.Each fun _ act => ∀ db, db.login.rows <+: (act db).1.login.rows)
    (schedule : List (Turn ι Nat))
    (hfew : (c.run Db.tick schedule).state.login.rows.length < 2 ^ 32) :
    (∀ pre, pre <+: schedule → UniqueAddresses (c.run Db.tick pre).state) ↔
      Undisturbed first c schedule := by
  induction schedule generalizing first c with
  | nil =>
      refine iff_of_true (fun pre hpre => ?_) trivial
      rw [List.prefix_nil.1 hpre]
      exact h.numbered.uniqueAddresses hfew
  | cons a schedule ih =>
      have htick : ∀ (t : Nat) (db : Db), db.login.rows <+: (db.tick t).login.rows :=
        fun t db => List.prefix_refl _
      have hrows : c.state.login.rows <+: (c.run Db.tick (a :: schedule)).state.login.rows :=
        hgrow.run_rel (R := fun db db' : Db => db.login.rows <+: db'.login.rows)
          (fun _ => List.prefix_refl _) List.IsPrefix.trans htick _
      have hnow := hrows.length_le.trans_lt hfew
      have hrest := fun hseen => ih (h.act hnow a hseen) (hgrow.act Db.tick a) hfew
      constructor
      · intro hunique
        have hseen : AddsToSeen first c a := by
          by_contra hseen
          refine h.not_uniqueAddresses hnow hseen (hunique [a] ?_)
          exact List.prefix_append [a] schedule
        refine ⟨hseen, (hrest hseen).1 fun pre hpre => hunique (a :: pre) ?_⟩
        exact (List.prefix_cons_inj a).2 hpre
      · rintro ⟨hseen, hlater⟩ pre hpre
        cases pre with
        | nil => exact h.numbered.uniqueAddresses hnow
        | cons b pre =>
            obtain ⟨rfl, htail⟩ := List.cons_prefix_cons.1 hpre
            exact (hrest hseen).2 hlater pre htail

/-- **Client addresses.**  In every state of a run that starts without accounts the
addresses are unique dotted quads, if and only if no account is added between the
`get_client_ip` of a request and its `INSERT`. -/
theorem uniqueAddresses_iff {db : Db} (hempty : db.login.rows = []) (request : ι → Registration)
    (schedule : List (Turn ι Nat))
    (hfew : ((registrations db request).run Db.tick schedule).state.login.rows.length < 2 ^ 32) :
    (∀ pre, pre <+: schedule →
        UniqueAddresses ((registrations db request).run Db.tick pre).state) ↔
      Undisturbed (fun _ => none) (registrations db request) schedule :=
  (numbering_init hempty).run_iff (registrations_grow db request) schedule hfew

end Runs

/-- One request of each page. -/
def annAndBob : Bool → Registration
  | true => .create
      ⟨true, true, some "ann".toList, some "sesame".toList, some "sesame".toList,
        some "ann@example.com".toList⟩
  | false => .addUser
      ⟨some "root".toList, some "bob".toList, some "secret".toList, some "secret".toList,
        some "bob@example.com".toList, some "0".toList⟩

/-- Ann's request begins when Bob's has added its account and has not ended yet. -/
def inTurn : List (Turn Bool Nat) :=
  [.step false, .step false, .step false, .step true, .tick 5, .step true, .step false, .step true]

theorem uniqueAddresses_inTurn :
    UniqueAddresses ((registrations (Db.empty 1) annAndBob).run Db.tick inTurn).state :=
  (uniqueAddresses_iff rfl annAndBob inTurn (by decide +kernel)).2 (by decide +kernel) inTurn
    (List.prefix_refl _)

/-- Both requests read before either of them inserts. -/
def sameTime : List (Turn Bool Nat) :=
  [.step true, .step false, .step true, .step false, .step false]

theorem addresses_race :
    ((registrations (Db.empty 1) annAndBob).run Db.tick sameTime).state.login.rows.map
        (fun u => (u.username, u.clientip)) =
      [("ann".toList, "0.0.0.0".toList), ("bob".toList, "0.0.0.0".toList)] ∧
    ¬UniqueAddresses ((registrations (Db.empty 1) annAndBob).run Db.tick sameTime).state := by
  constructor
  · decide +kernel
  · decide +kernel

end ParDiff.Accounts
