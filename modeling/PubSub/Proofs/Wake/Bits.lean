import PubSub.Wake.Bits

/-!
# Pending slots as a set of indices

`Bits` stores a set of indices as bits of words.  This file says what an update does to the set, one
index at a time: `mark` adds one, `clear` removes one, and `takeWord`, the step from which a drain is
made up, removes the indices of one word.  Each is said of the bits in the words (`test`) first, and
then of the indices in range (`contains`).
-/

namespace PubSub.Wake.Bits

/-! ## Bits of words -/

theorem toBitVec_bit (index : Nat) : (bit index).toBitVec = BitVec.twoPow 64 (index % 64) := by
  unfold bit
  rw [UInt64.toBitVec_shiftLeft]
  simp only [wordSize, UInt64.toBitVec_ofNat', BitVec.twoPow_eq]
  simp

/-- A word has the bit of an index. -/
theorem and_bit_ne_zero_iff (word : UInt64) (index : Nat) :
    word &&& bit index ≠ 0 ↔ word.toBitVec.getLsbD (index % 64) = true := by
  rw [ne_eq, ← UInt64.toBitVec_inj, UInt64.toBitVec_and, toBitVec_bit, BitVec.and_twoPow]
  have hlt : index % 64 < 64 := Nat.mod_lt _ (by decide)
  split
  · next hbit =>
    simp only [hbit, iff_true]
    intro hzero
    have h := congrArg (·.getLsbD (index % 64)) hzero
    simp [hlt] at h
  · next hbit => simp [hbit]

/-- The bit of an index in the words. -/
def test (bits : Bits) (index : Nat) : Bool :=
  (bits.words.getD (index / 64) 0).toBitVec.getLsbD (index % 64)

theorem contains_iff {bits : Bits} {index : Nat} :
    bits.contains index = true ↔ index < bits.size ∧ bits.test index = true := by
  unfold contains test
  rw [Bool.and_eq_true, decide_eq_true_eq, bne_iff_ne, and_bit_ne_zero_iff]
  rfl

/-- An index below the size has a word. -/
theorem div_lt_length {bits : Bits} {index : Nat} (h : index < bits.size) :
    index / 64 < bits.words.length := by
  rw [bits.length_words]
  simp only [wordSize]
  omega

theorem test_modifyWord (bits : Bits) {index : Nat} (h : index < bits.size)
    (f : UInt64 → UInt64) (j : Nat) :
    (bits.modifyWord index f).test j =
      if j / 64 = index / 64 then
        (f (bits.words.getD (index / 64) 0)).toBitVec.getLsbD (j % 64)
      else bits.test j := by
  unfold test modifyWord
  simp only [wordSize, List.getD_eq_getElem?_getD, List.getElem?_modify]
  by_cases hj : j / 64 = index / 64
  · rw [if_pos hj, hj, List.getElem?_eq_getElem (div_lt_length h)]
    simp
  · rw [if_neg hj]
    simp only [if_neg (Ne.symm hj)]
    cases bits.words[j / 64]? <;> rfl

/-! ## Updates -/

theorem test_mark (bits : Bits) (index j : Nat) :
    (bits.mark index).2.test j = true ↔ bits.test j = true ∨ j = index ∧ index < bits.size := by
  unfold mark
  split
  · next hle => simp [Nat.not_lt.2 hle]
  · next hlt =>
    have hlt : index < bits.size := Nat.lt_of_not_le hlt
    simp only [test_modifyWord bits hlt]
    by_cases hword : j / 64 = index / 64
    · have hbit : index % 64 = j % 64 ↔ j = index := by omega
      have hmod : index % 64 < 64 := Nat.mod_lt _ (by decide)
      rw [if_pos hword, UInt64.toBitVec_or, toBitVec_bit, BitVec.getLsbD_or,
        BitVec.getLsbD_twoPow, test, hword]
      simp only [Bool.or_eq_true, Bool.and_eq_true, decide_eq_true_eq, hmod, true_and, hbit, hlt,
        and_true]
    · rw [if_neg hword]
      have hne : j ≠ index := fun h => hword (by rw [h])
      simp [hne]

theorem contains_mark (bits : Bits) (index j : Nat) :
    (bits.mark index).2.contains j = true ↔
      bits.contains j = true ∨ j = index ∧ index < bits.size := by
  rw [contains_iff, contains_iff, size_mark, test_mark, and_or_left]
  refine or_congr_right ⟨And.right, ?_⟩
  rintro ⟨rfl, hlt⟩
  exact ⟨hlt, rfl, hlt⟩

/-- A mark is old exactly if the index was there, or is out of range. -/
theorem fst_mark (bits : Bits) (index : Nat) :
    (bits.mark index).1 = true ↔ bits.size ≤ index ∨ bits.contains index = true := by
  unfold mark
  split
  · next hle => simp [hle]
  · next hlt => simp [hlt]

theorem test_clear (bits : Bits) (index j : Nat) :
    (bits.clear index).test j = true ↔ bits.test j = true ∧ ¬ (j = index ∧ index < bits.size) := by
  unfold clear
  split
  · next hle => simp [Nat.not_lt.2 hle]
  · next hlt =>
    have hlt : index < bits.size := Nat.lt_of_not_le hlt
    simp only [test_modifyWord bits hlt]
    by_cases hword : j / 64 = index / 64
    · have hbit : index % 64 = j % 64 ↔ j = index := by omega
      have hmod : index % 64 < 64 := Nat.mod_lt _ (by decide)
      have hmod' : j % 64 < 64 := Nat.mod_lt _ (by decide)
      rw [if_pos hword, UInt64.toBitVec_and, UInt64.toBitVec_not, toBitVec_bit,
        BitVec.getLsbD_and, BitVec.getLsbD_not, BitVec.getLsbD_twoPow, test, hword]
      simp only [Bool.and_eq_true, Bool.not_eq_true', hmod, hmod', true_and,
        Bool.and_eq_false_imp, decide_eq_false_iff_not, hbit, decide_true, forall_const, hlt,
        and_true]
    · rw [if_neg hword]
      have hne : j ≠ index := fun h => hword (by rw [h])
      simp [hne]

theorem contains_clear (bits : Bits) (index j : Nat) :
    (bits.clear index).contains j = true ↔ bits.contains j = true ∧ j ≠ index := by
  rw [contains_iff, contains_iff, size_clear, test_clear, ← and_assoc]
  refine and_congr_right fun h => not_congr ⟨And.left, ?_⟩
  rintro rfl
  exact ⟨rfl, h.1⟩

@[simp] theorem test_empty (size j : Nat) : (empty size).test j = false := by
  unfold test
  simp only [empty, List.getD_eq_getElem?_getD, List.getElem?_replicate]
  split <;> simp

theorem contains_empty (size j : Nat) : (empty size).contains j = false := by
  rw [← Bool.not_eq_true, contains_iff]
  simp

/-! ## Drains, word by word -/

/-- Empties one word. -/
def takeWord (bits : Bits) (k : Nat) : Bits where
  size := bits.size
  words := bits.words.set k 0
  length_words := by rw [List.length_set]; exact bits.length_words

@[simp] theorem length_takeWord (bits : Bits) (k : Nat) :
    (bits.takeWord k).words.length = bits.words.length := List.length_set

theorem contains_takeWord (bits : Bits) (k j : Nat) :
    (bits.takeWord k).contains j = true ↔ bits.contains j = true ∧ j / 64 ≠ k := by
  simp only [contains_iff, test, takeWord, List.getD_eq_getElem?_getD, List.getElem?_set]
  by_cases hk : k = j / 64
  · rw [if_pos hk]
    split <;> simp [hk]
  · rw [if_neg hk]
    simp [Ne.symm hk]

theorem getD_takeWord (bits : Bits) (k j : Nat) :
    (bits.takeWord k).words.getD j 0 = if j = k then 0 else bits.words.getD j 0 := by
  simp only [takeWord, List.getD_eq_getElem?_getD, List.getElem?_set]
  by_cases hk : k = j
  · rw [if_pos hk, if_pos hk.symm]
    split <;> rfl
  · rw [if_neg hk, if_neg (Ne.symm hk)]

/-- The words before this one are taken. -/
def TakenTo (bits : Bits) (k : Nat) : Prop := ∀ j < k, bits.words.getD j 0 = 0

theorem takenTo_zero (bits : Bits) : bits.TakenTo 0 := fun j hj => absurd hj (Nat.not_lt_zero j)

theorem TakenTo.takeWord {bits : Bits} {k : Nat} (h : bits.TakenTo k) :
    (bits.takeWord k).TakenTo (k + 1) := by
  intro j hj
  rw [getD_takeWord]
  split
  · rfl
  · exact h j (by omega)

/-- Once all words are taken, the set is the empty one. -/
theorem TakenTo.eq_empty {bits : Bits} {k : Nat} (h : bits.TakenTo k)
    (hle : bits.words.length ≤ k) : bits = empty bits.size := by
  have hwords : bits.words = List.replicate ((bits.size + (wordSize - 1)) / wordSize) 0 := by
    refine List.eq_replicate_iff.2 ⟨bits.length_words, fun word hword => ?_⟩
    obtain ⟨j, hj, rfl⟩ := List.getElem_of_mem hword
    have hzero := h j (Nat.lt_of_lt_of_le hj hle)
    rwa [List.getD_eq_getElem?_getD, List.getElem?_eq_getElem hj] at hzero
  cases bits
  unfold empty
  simp only [mk.injEq, true_and]
  exact hwords

end PubSub.Wake.Bits
