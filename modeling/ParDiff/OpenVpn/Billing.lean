import ParDiff.OpenVpn.Run
import ParDiff.OpenVpn.Server

/-!
# Whose traffic it is

The plugin knows the account by its own name, the script by the common name that the
server has made of it.
-/

namespace ParDiff.OpenVpn

open Lib Lib.Text

theorem isPrint_of_isValidChar {c : Char} (h : isValidChar c = true) : isPrint c = true := by
  simp only [isValidChar, Bool.or_eq_true, Bool.and_eq_true, decide_eq_true_eq, beq_iff_eq] at h
  simp only [isPrint, Bool.and_eq_true, decide_eq_true_eq]
  rcases h with (((((((h | h) | h) | rfl) | rfl) | rfl) | rfl) | rfl) | rfl
  · exact ⟨Char.le_trans (by decide) h.1, Char.le_trans h.2 (by decide)⟩
  · exact ⟨Char.le_trans (by decide) h.1, Char.le_trans h.2 (by decide)⟩
  · exact ⟨Char.le_trans (by decide) h.1, Char.le_trans h.2 (by decide)⟩
  all_goals decide

/-- The plugin takes two characters that have no place in a common name. -/
theorem isCommonNameChar_of_isValidChar {c : Char} (h : isValidChar c = true) (hblank : c ≠ ' ')
    (hcolon : c ≠ ':') : isCommonNameChar c = true := by
  simp only [isValidChar, Bool.or_eq_true, beq_iff_eq] at h
  simp only [isCommonNameChar, Bool.or_eq_true, beq_iff_eq]
  tauto

theorem fold_of_noBlank {s : Str} (h : ∀ c ∈ s, c.toLower ≠ ' ') : fold s = lower s := by
  rw [fold, List.rdropWhile_eq_self_iff]
  intro hs
  obtain ⟨c, hc, hlast⟩ := List.mem_map.1 (List.getLast_mem hs)
  rw [← hlast]
  simpa using h c hc

theorem toLower_ne_blank {c : Char} (h : isCommonNameChar c = true) : c.toLower ≠ ' ' := by
  intro hlower
  unfold Char.toLower at hlower
  split at hlower
  · rename_i hupper
    have hval := congrArg (fun d => d.val.toNat) hlower
    have hlo : 65 ≤ c.toNat := UInt32.le_iff_toNat_le.1 hupper.1
    have hhi : c.toNat ≤ 90 := UInt32.le_iff_toNat_le.1 hupper.2
    simp [UInt32.toNat_add] at hval
    omega
  · subst hlower
    exact absurd h (by decide)

/-- A name that is changed is changed for the database too. -/
theorem fold_stringModSslname {opt : SslOptions} {username : Str}
    (hvalid : asMysqlValidate (some username) = true) :
    fold username = fold (stringModSslname opt username) ↔
      opt.noNameRemapping = true ∨ ' ' ∉ username ∧ ':' ∉ username := by
  have hchars : ∀ c ∈ username, isValidChar c = true := by
    simp only [asMysqlValidate, Bool.and_eq_true, List.all_eq_true] at hvalid
    exact hvalid.2
  unfold stringModSslname
  cases opt.noNameRemapping with
  | true => simp [stringMod_of_all fun c hc => isPrint_of_isValidChar (hchars c hc)]
  | false =>
      simp only [Bool.false_eq_true, if_false, false_or]
      constructor
      · intro h
        have hmod : fold (stringMod isCommonNameChar username) =
            lower (stringMod isCommonNameChar username) :=
          fold_of_noBlank fun c hc => toLower_ne_blank (mem_stringMod (by decide) hc)
        have hlength : (fold username).length = (lower username).length := by
          rw [h, hmod]
          simp [lower, stringMod]
        have hsame : lower username = lower (stringMod isCommonNameChar username) := by
          rw [← hmod, ← h]
          exact ((List.rdropWhile_prefix (p := (· = ' ')) (lower username)).eq_of_length
            hlength).symm
        simp only [lower, stringMod, List.map_map, List.map_inj_left, Function.comp] at hsame
        exact ⟨fun hc => absurd (hsame _ hc) (by decide), fun hc => absurd (hsame _ hc) (by decide)⟩
      · rintro ⟨hblank, hcolon⟩
        rw [stringMod_of_all]
        intro c hc
        apply isCommonNameChar_of_isValidChar (hchars c hc)
        · rintro rfl
          exact hblank hc
        · rintro rfl
          exact hcolon hc

/-- The row of a client under a common name is billed to one account exactly if that is
the account the name folds to. -/
theorem filter_named_newRow {l : LoginTable} {u : Login} (hu : u ∈ l.rows) {c : Client}
    (hname : c.name.length < tlsCnLen) (ip port : Str) (id : Nat) :
    l.rows.filter (Login.named (some (newRow c ip port id).username)) = [u] ↔
      fold u.username = fold c.name := by
  have hrow : (newRow c ip port id).username = c.name :=
    List.take_of_length_le (by unfold tlsCnLen at hname; omega)
  rw [hrow]
  constructor
  · intro h
    have hmem : u ∈ l.rows.filter (Login.named (some c.name)) := by simp [h]
    simpa [Login.named] using (List.mem_filter.1 hmem).2
  · intro h
    apply filter_eq_singleton l.unique hu
    intro v _
    simp [Login.named, h]

/-- What stands in the status is the locked name, unless there is a certificate. -/
theorem tlsCommonName_cases {opt : SslOptions} {events : List TlsEvent} {multi : TlsMulti}
    (h : multi.Sound opt events) (hcert : ∀ i cn, TlsEvent.certificate i cn ∉ events) :
    multi.tlsCommonName = "UNDEF".toList ∨ multi.lockedUsername = some multi.tlsCommonName := by
  unfold TlsMulti.tlsCommonName
  cases hcn : (multi.session .active).commonName with
  | none => exact .inl rfl
  | some n =>
      cases n with
      | nil => exact .inl rfl
      | cons c cn =>
          rcases (h.session .active).name _ hcn with hnil | hlocked | ⟨i, n, hmem, -⟩
          · simp at hnil
          · exact .inr hlocked
          · exact absurd hmem (hcert i n)

/-- **Whose traffic it is.**  Without certificates, the name in the status of the server is
the one an account logged in with, and the traffic of the client that is read off it is
billed to that account and to no other: unless the server had to change the name. -/
theorem billed_to_the_account {opt : SslOptions} (hopt : opt.usernameAsCommonName = true)
    {events : List TlsEvent} (hcert : ∀ i cn, TlsEvent.certificate i cn ∉ events)
    (hname : (tlsRun opt .init events).tlsCommonName ≠ "UNDEF".toList) :
    ∃ i a u, TlsEvent.exchange i a ∈ events ∧ LogsIn opt a u ∧
      ∀ l : LoginTable, u ∈ l.rows → ∀ c ip port id,
        Client.name c = (tlsRun opt .init events).tlsCommonName →
          (l.rows.filter (Login.named (some (newRow c ip port id).username)) = [u] ↔
            opt.noNameRemapping = true ∨ ' ' ∉ u.username ∧ ':' ∉ u.username) := by
  have hsound := sound_tlsRun hopt events
  have hlocked := (tlsCommonName_cases hsound hcert).resolve_left hname
  obtain ⟨hlength, i, a, u, hmem, hu, hn⟩ := hsound.locked _ hlocked
  refine ⟨i, a, u, hmem, hu, fun l hul c ip port id hc => ?_⟩
  rw [filter_named_newRow hul (hc ▸ hlength), hc, hn]
  exact fold_stringModSslname hu.valid

/-- `mr bob` is let in, and the traffic goes to an account `mr_bob`. -/
def mrBobsLogin : Attempt :=
  .from "mr bob".toList "secret".toList
    { Db.empty 1 with
      login := .single { Login.holding "mr bob".toList 5 with password := "secret".toList } }

theorem mr_bob_is_not_billed :
    ∃ i a u, TlsEvent.exchange i a ∈ [TlsEvent.exchange .active mrBobsLogin] ∧
      LogsIn serverOptions a u ∧
      ∀ l : LoginTable, u ∈ l.rows → ∀ c ip port id,
        Client.name c =
            (tlsRun serverOptions .init [.exchange .active mrBobsLogin]).tlsCommonName →
          (l.rows.filter (Login.named (some (newRow c ip port id).username)) = [u] ↔
            serverOptions.noNameRemapping = true ∨ ' ' ∉ u.username ∧ ':' ∉ u.username) :=
  billed_to_the_account (by decide) (by simp) (by decide)

end ParDiff.OpenVpn
