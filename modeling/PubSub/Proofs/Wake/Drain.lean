import PubSub.Proofs.Wake.Bits

/-!
# Listing the pending slots

`drain` goes through the words and takes the lowest bit off each of them until none is left.  A step
removes that bit and no other (`getLsbD_and_pred`), so that the positions come out in ascending order.
Over all words, the list holds exactly the indices of the set (`mem_drain`), each of them once and in
ascending order (`pairwise_drain`).
-/

namespace PubSub.Wake.Bits

/-! ## Taking the lowest bit off a word -/

/-- All bits of a number but the lowest one are left by this step. -/
theorem testBit_and_pred {n : Nat} (hn : n ≠ 0) (i : Nat) :
    (n &&& (n - 1)).testBit i = true ↔ n.testBit i = true ∧ ∃ j < i, n.testBit j = true := by
  induction i generalizing n with
  | zero =>
    simp [Nat.testBit_zero]
    omega
  | succ i ih =>
    rw [Nat.testBit_succ, Nat.and_div_two, Nat.testBit_succ]
    rcases Nat.mod_two_eq_zero_or_one n with heven | hodd
    · -- the lowest bit is further up
      have hhalf : (n - 1) / 2 = n / 2 - 1 := by omega
      rw [hhalf, ih (by omega)]
      refine and_congr_right fun _ => ⟨?_, ?_⟩
      · rintro ⟨j, hj, hbit⟩
        exact ⟨j + 1, by omega, by rwa [Nat.testBit_succ]⟩
      · rintro ⟨j, hj, hbit⟩
        cases j with
        | zero => simp [Nat.testBit_zero, heven] at hbit
        | succ j => exact ⟨j, by omega, by rwa [Nat.testBit_succ] at hbit⟩
    · -- the lowest bit is bit 0, and the half does not change
      have hhalf : (n - 1) / 2 = n / 2 := by omega
      rw [hhalf, Nat.and_self]
      exact ⟨fun hbit => ⟨hbit, 0, by omega, by simp [Nat.testBit_zero, hodd]⟩, And.left⟩

section

variable {word : UInt64}

theorem getLsbD_lowestBit (h : word ≠ 0) : word.toBitVec.getLsbD (lowestBit word) = true := by
  apply BitVec.getLsbD_true_ctz_of_ne_zero
  intro hzero
  exact h (UInt64.toBitVec_inj.1 hzero)

theorem lowestBit_le {i : Nat} (h : word.toBitVec.getLsbD i = true) : lowestBit word ≤ i := by
  refine Nat.not_lt.1 fun hlt => ?_
  rw [BitVec.getLsbD_false_of_lt_ctz hlt] at h
  cases h

/-- Only the lowest bit is taken off. -/
theorem getLsbD_and_pred (h : word ≠ 0) (i : Nat) :
    (word &&& (word - 1)).toBitVec.getLsbD i = true ↔
      word.toBitVec.getLsbD i = true ∧ i ≠ lowestBit word := by
  have hpos : word.toNat ≠ 0 := fun hzero => h (UInt64.toNat_inj.1 (by simpa using hzero))
  have hpred : (word - 1).toNat = word.toNat - 1 := by
    apply UInt64.toNat_sub_of_le
    rw [UInt64.le_iff_toNat_le, UInt64.toNat_one]
    omega
  have hnat : (word &&& (word - 1)).toBitVec.getLsbD i =
      (word.toNat &&& (word.toNat - 1)).testBit i := by
    rw [← hpred, ← UInt64.toNat_and]
    rfl
  rw [hnat, testBit_and_pred hpos]
  refine and_congr_right fun hbit => ⟨?_, fun hne => ?_⟩
  · rintro ⟨j, hj, hlower⟩ rfl
    exact absurd (lowestBit_le hlower) (Nat.not_le.2 hj)
  · exact ⟨lowestBit word, Nat.lt_of_le_of_ne (lowestBit_le hbit) hne.symm, getLsbD_lowestBit h⟩

theorem mem_wordIndices {base i : Nat} :
    i ∈ wordIndices base word ↔ ∃ k, word.toBitVec.getLsbD k = true ∧ i = base + k := by
  fun_induction wordIndices base word with
  | case1 => simp
  | case2 word hne ih =>
    rw [List.mem_cons, ih]
    constructor
    · rintro (rfl | ⟨k, hbit, rfl⟩)
      · exact ⟨_, getLsbD_lowestBit hne, rfl⟩
      · exact ⟨k, ((getLsbD_and_pred hne k).1 hbit).1, rfl⟩
    · rintro ⟨k, hbit, rfl⟩
      by_cases hlowest : k = lowestBit word
      · exact Or.inl (by rw [hlowest])
      · exact Or.inr ⟨k, (getLsbD_and_pred hne k).2 ⟨hbit, hlowest⟩, rfl⟩

theorem pairwise_wordIndices (base : Nat) (word : UInt64) :
    (wordIndices base word).Pairwise (· < ·) := by
  fun_induction wordIndices base word with
  | case1 => exact List.Pairwise.nil
  | case2 word hne ih =>
    refine List.Pairwise.cons ?_ ih
    intro i hi
    obtain ⟨k, hbit, rfl⟩ := mem_wordIndices.1 hi
    obtain ⟨hbit, hlowest⟩ := (getLsbD_and_pred hne k).1 hbit
    have hle := lowestBit_le hbit
    omega

/-- The positions of a word, counted through all words. -/
theorem mem_wordIndices_iff_div {k i : Nat} :
    i ∈ wordIndices (k * wordSize) word ↔
      i / 64 = k ∧ word.toBitVec.getLsbD (i % 64) = true := by
  rw [mem_wordIndices]
  simp only [wordSize]
  constructor
  · rintro ⟨j, hbit, rfl⟩
    have hj : j < 64 := by
      refine Nat.not_le.1 fun hle => ?_
      rw [BitVec.getLsbD_of_ge _ _ hle] at hbit
      cases hbit
    have hmod : (k * 64 + j) % 64 = j := by omega
    exact ⟨by omega, by rwa [hmod]⟩
  · rintro ⟨rfl, hbit⟩
    exact ⟨i % 64, hbit, by omega⟩

end

/-! ## All words -/

theorem mem_indicesFrom {words : List UInt64} {k i : Nat} :
    i ∈ indicesFrom k words ↔
      k ≤ i / 64 ∧ (words.getD (i / 64 - k) 0).toBitVec.getLsbD (i % 64) = true := by
  induction words generalizing k with
  | nil => simp [indicesFrom]
  | cons word words ih =>
    rw [indicesFrom, List.mem_append, mem_wordIndices_iff_div, ih]
    rcases Nat.lt_trichotomy (i / 64) k with hlt | rfl | hgt
    · constructor
      · rintro (⟨heq, -⟩ | ⟨hle, -⟩) <;> omega
      · rintro ⟨hle, -⟩
        omega
    · simp only [Nat.sub_self, List.getD_cons_zero, Nat.le_refl, true_and, or_iff_left_iff_imp]
      rintro ⟨hle, -⟩
      omega
    · have hindex : i / 64 - k = i / 64 - (k + 1) + 1 := by omega
      rw [hindex, List.getD_cons_succ]
      constructor
      · rintro (⟨heq, -⟩ | ⟨-, hbit⟩)
        · omega
        · exact ⟨by omega, hbit⟩
      · rintro ⟨-, hbit⟩
        exact Or.inr ⟨by omega, hbit⟩

theorem pairwise_indicesFrom (k : Nat) (words : List UInt64) :
    (indicesFrom k words).Pairwise (· < ·) := by
  induction words generalizing k with
  | nil => exact List.Pairwise.nil
  | cons word words ih =>
    rw [indicesFrom, List.pairwise_append]
    refine ⟨pairwise_wordIndices _ _, ih (k + 1), ?_⟩
    intro i hi j hj
    have hi := (mem_wordIndices_iff_div.1 hi).1
    have hj := (mem_indicesFrom.1 hj).1
    omega

/-- The indices listed are those of the set. -/
theorem mem_drain {bits : Bits} {i : Nat} : i ∈ bits.drain.1 ↔ bits.contains i = true := by
  unfold drain
  rw [List.mem_filter, mem_indicesFrom, contains_iff, decide_eq_true_iff]
  simp [test, and_comm]

theorem pairwise_drain (bits : Bits) : bits.drain.1.Pairwise (· < ·) :=
  (pairwise_indicesFrom 0 bits.words).filter _

theorem contains_drain (bits : Bits) (i : Nat) : bits.drain.2.contains i = false :=
  contains_empty bits.size i

end PubSub.Wake.Bits
