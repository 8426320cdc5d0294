import Mathlib.Data.List.Infix

/-!
# Block ciphers, block by block

A text is padded to whole blocks, with bytes that say how many they are, and every block
is encrypted by itself.  Then a text is in front of another one exactly if it is so under
the cipher.
-/

namespace ParDiff.Lib.BlockCipher

variable {α : Type} {n : Nat}

/-! ## Whole blocks -/

/-- Apply `f` to each block of `n`; a rest that is no block is left out. -/
def blockwise (n : Nat) (f : List α → List α) (s : List α) : List α :=
  if 0 < n ∧ n ≤ s.length then f (s.take n) ++ blockwise n f (s.drop n) else []
termination_by s.length
decreasing_by simp only [List.length_drop]; omega

theorem blockwise_nil (hn : 0 < n) (f : List α → List α) : blockwise n f [] = [] := by
  rw [blockwise, if_neg (by simp; omega)]

theorem blockwise_cons (hn : 0 < n) (f : List α → List α) {b : List α} (hb : b.length = n)
    (s : List α) : blockwise n f (b ++ s) = f b ++ blockwise n f s := by
  rw [blockwise, if_pos ⟨hn, by simp [hb]⟩, List.take_left' hb, List.drop_left' hb]

/-- Induction over the blocks of a text. -/
@[elab_as_elim]
theorem block_induction (hn : 0 < n) {P : (s : List α) → n ∣ s.length → Prop}
    (nil : P [] (Nat.dvd_zero n))
    (cons : ∀ b s (hb : b.length = n) (hs : n ∣ s.length), P s hs →
      P (b ++ s) (by simpa [hb] using hs)) (s : List α) (hs : n ∣ s.length) : P s hs := by
  induction hlength : s.length using Nat.strong_induction_on generalizing s with
  | _ m ih =>
      subst hlength
      by_cases hnil : s = []
      · subst hnil
        exact nil
      · have hpos : 0 < s.length := List.length_pos_iff.2 hnil
        have hle : n ≤ s.length := Nat.le_of_dvd hpos hs
        have hdrop : n ∣ (s.drop n).length := by
          rw [List.length_drop]
          exact Nat.dvd_sub hs (Nat.dvd_refl n)
        have hrest := ih (s.drop n).length (by simp only [List.length_drop]; omega) _ hdrop rfl
        have htake : (s.take n).length = n := by rw [List.length_take, Nat.min_eq_left hle]
        have hs' := cons (s.take n) (s.drop n) htake hdrop hrest
        simpa only [List.take_append_drop] using hs'

/-- `f` makes blocks of blocks, and `g` takes it back. -/
def Inverts (n : Nat) (g f : List α → List α) : Prop :=
  ∀ b, b.length = n → (f b).length = n ∧ g (f b) = b

variable {f g : List α → List α}

theorem length_blockwise (hn : 0 < n) (h : Inverts n g f) {s : List α} (hs : n ∣ s.length) :
    (blockwise n f s).length = s.length := by
  induction s, hs using block_induction hn with
  | nil => rw [blockwise_nil hn]
  | cons b s hb _ ih =>
      rw [blockwise_cons hn f hb, List.length_append, List.length_append, ih, (h b hb).1, hb]

theorem blockwise_append (hn : 0 < n) {s : List α} (hs : n ∣ s.length) (t : List α) :
    blockwise n f (s ++ t) = blockwise n f s ++ blockwise n f t := by
  induction s, hs using block_induction hn with
  | nil => rw [blockwise_nil hn, List.nil_append, List.nil_append]
  | cons b s hb _ ih =>
      rw [List.append_assoc, blockwise_cons hn f hb, ih, blockwise_cons hn f hb, List.append_assoc]

theorem blockwise_blockwise (hn : 0 < n) (h : Inverts n g f) {s : List α} (hs : n ∣ s.length) :
    blockwise n g (blockwise n f s) = s := by
  induction s, hs using block_induction hn with
  | nil => rw [blockwise_nil hn, blockwise_nil hn]
  | cons b s hb _ ih =>
      rw [blockwise_cons hn f hb, blockwise_cons hn g (h b hb).1, ih, (h b hb).2]

/-- Encryption block by block keeps what is in front of what. -/
theorem blockwise_prefix_iff (hn : 0 < n) (h : Inverts n g f) {s t : List α} (hs : n ∣ s.length)
    (ht : n ∣ t.length) : blockwise n f s <+: blockwise n f t ↔ s <+: t := by
  constructor
  · rintro ⟨r, hr⟩
    have hlength : n ∣ (blockwise n f s).length := by rwa [length_blockwise hn h hs]
    refine ⟨blockwise n g r, ?_⟩
    calc s ++ blockwise n g r
        = blockwise n g (blockwise n f s) ++ blockwise n g r := by
          rw [blockwise_blockwise hn h hs]
      _ = blockwise n g (blockwise n f s ++ r) := (blockwise_append hn hlength r).symm
      _ = t := by rw [hr, blockwise_blockwise hn h ht]
  · rintro ⟨r, rfl⟩
    rw [blockwise_append hn hs]
    exact List.prefix_append _ _

/-- And so it is with what goes on behind it. -/
theorem exists_continuation_iff (hn : 0 < n) (h : Inverts n g f) {s t : List α}
    (hs : n ∣ s.length) (ht : n ∣ t.length) (Q : List α → Prop) :
    (∃ r, r ≠ [] ∧ blockwise n f s = blockwise n f t ++ r ∧ Q r) ↔
      ∃ rest, rest ≠ [] ∧ s = t ++ rest ∧ Q (blockwise n f rest) := by
  constructor
  · rintro ⟨r, hr, heq, hQ⟩
    obtain ⟨rest, rfl⟩ := (blockwise_prefix_iff hn h ht hs).1 ⟨r, heq.symm⟩
    rw [blockwise_append hn ht, List.append_cancel_left_eq] at heq
    subst heq
    refine ⟨rest, ?_, rfl, hQ⟩
    rintro rfl
    exact hr (blockwise_nil hn f)
  · rintro ⟨rest, hrest, rfl, hQ⟩
    refine ⟨blockwise n f rest, ?_, blockwise_append hn ht rest, hQ⟩
    intro hnil
    have hlength : n ∣ rest.length := by
      rw [List.length_append] at hs
      exact (Nat.dvd_add_right ht).1 hs
    have hzero := length_blockwise hn h hlength
    rw [hnil] at hzero
    exact hrest (List.eq_nil_of_length_eq_zero hzero.symm)

/-! ## Padding -/

/-- The bytes that make `s` whole blocks; each of them is their number. -/
def padding (n : Nat) (s : List UInt8) : List UInt8 :=
  List.replicate (n - s.length % n) (UInt8.ofNat (n - s.length % n))

def pad (n : Nat) (s : List UInt8) : List UInt8 := s ++ padding n s

/-- Take the padding off, if it is one. -/
def unpad (n : Nat) (s : List UInt8) : Option (List UInt8) :=
  match s.getLast? with
  | none => none
  | some x =>
      if 0 < x.toNat ∧ x.toNat ≤ n ∧ List.replicate x.toNat x <:+ s then
        some (s.take (s.length - x.toNat))
      else none

theorem length_pad (hn : 0 < n) (s : List UInt8) :
    (pad n s).length = (s.length / n + 1) * n := by
  have hlt := Nat.mod_lt s.length hn
  have hdiv := Nat.div_add_mod s.length n
  rw [pad, padding, List.length_append, List.length_replicate, Nat.add_mul, Nat.mul_comm _ n]
  omega

theorem dvd_length_pad (hn : 0 < n) (s : List UInt8) : n ∣ (pad n s).length := by
  rw [length_pad hn]
  exact Nat.dvd_mul_left _ _

theorem unpad_pad (hn : 0 < n) (hn' : n < 256) (s : List UInt8) : unpad n (pad n s) = some s := by
  have hlt := Nat.mod_lt s.length hn
  have hx : (UInt8.ofNat (n - s.length % n)).toNat = n - s.length % n :=
    UInt8.toNat_ofNat_of_lt' (by simp only [UInt8.size]; omega)
  have hlast : (pad n s).getLast? = some (UInt8.ofNat (n - s.length % n)) := by
    rw [pad, padding, List.getLast?_append, List.getLast?_replicate, if_neg (by omega)]
    rfl
  rw [unpad, hlast]
  simp only [hx]
  rw [if_pos ⟨by omega, by omega, List.suffix_append _ _⟩]
  simp [pad, padding]

theorem pad_injective (hn : 0 < n) (hn' : n < 256) {s t : List UInt8} (h : pad n s = pad n t) :
    s = t := by
  have hunpad := congrArg (unpad n) h
  rw [unpad_pad hn hn', unpad_pad hn hn'] at hunpad
  exact Option.some.inj hunpad

/-- A padded text is in front of another one if the texts are the same, or if it is in
front of the other text itself. -/
theorem pad_prefix_iff (hn : 0 < n) (hn' : n < 256) {s t : List UInt8} :
    pad n s <+: pad n t ↔ t = s ∨ pad n s <+: t := by
  constructor
  · intro h
    by_cases hlength : (pad n s).length = (pad n t).length
    · exact .inl (pad_injective hn hn' (h.eq_of_length hlength).symm)
    · have hle := h.length_le
      refine .inr (List.prefix_of_prefix_length_le h (List.prefix_append _ _) ?_)
      obtain ⟨i, hi⟩ := dvd_length_pad hn s
      obtain ⟨j, hj⟩ := dvd_length_pad hn t
      have hij : i < j := by
        by_contra hge
        have := Nat.mul_le_mul_left n (Nat.le_of_not_lt hge)
        omega
      have hnext : n * i + n ≤ n * j := by
        rw [← Nat.mul_succ]
        exact Nat.mul_le_mul_left n hij
      have hpadding : (pad n t).length = t.length + (n - t.length % n) := by
        simp [pad, padding]
      omega
  · rintro (rfl | h)
    · exact List.prefix_rfl
    · exact h.trans (List.prefix_append _ _)

end ParDiff.Lib.BlockCipher
