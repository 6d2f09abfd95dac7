import PubSub.Text.Character

/-!
# Lower case among the ASCII characters

The Unicode mapping of `lower` reaches the characters below `128` through a single run, that of the
capital letters, and none of its special cases applies to them.  A word that is a name in letters of
either case (`Spells`) is therefore mapped to that name, provided that the name is ASCII
(`lower_of_spells`).
-/

namespace PubSub.Text

/-- The word is this name, but for the case of its ASCII letters. -/
def Spells (word name : String) : Prop :=
  word.toList.map Char.toLower = name.toList

instance (word name : String) : Decidable (Spells word name) :=
  inferInstanceAs (Decidable (_ = _))

/-- All characters are ASCII. -/
def IsAscii (cs : List Char) : Prop := ∀ c ∈ cs, c.toNat < 128

instance (cs : List Char) : Decidable (IsAscii cs) := List.decidableBAll _ cs

/-! ## Single characters -/

theorem toLower_of_capital {c : Char} (h : 65 ≤ c.toNat ∧ c.toNat ≤ 90) :
    c.toLower = Char.ofNat (c.toNat + 32) := by
  have hrange : c.val ≥ 'A'.val ∧ c.val ≤ 'Z'.val := h
  have htoNat : c.toLower.toNat = c.toNat + 32 := by
    rw [show c.toLower = _ from dif_pos hrange]
    show (c.val + ('a'.val - 'A'.val)).toNat = c.val.toNat + 32
    rw [UInt32.toNat_add]
    have hsmall : c.val.toNat ≤ 90 := h.2
    show (c.val.toNat + 32) % 4294967296 = _
    omega
  rw [← htoNat, Char.ofNat_toNat]

theorem toLower_of_not_capital {c : Char} (h : ¬ (65 ≤ c.toNat ∧ c.toNat ≤ 90)) :
    c.toLower = c :=
  dif_neg h

/-- What becomes an ASCII character is one. -/
theorem toNat_lt_of_toLower {c : Char} (h : c.toLower.toNat < 128) : c.toNat < 128 := by
  by_cases hcapital : 65 ≤ c.toNat ∧ c.toNat ≤ 90
  · omega
  · rwa [toLower_of_not_capital hcapital] at h

/-- Only the first run concerns ASCII characters. -/
theorem find?_lowerRuns {n : Nat} (h : n < 128) :
    lowerRuns.find? (·.covers n) =
      if 65 ≤ n ∧ n ≤ 90 then some ⟨0x41, 0x5A, 1, 32⟩ else none := by
  have hrest : ∀ run ∈ lowerRuns.tail, 128 ≤ run.first := by decide +kernel
  have hnone : lowerRuns.tail.find? (·.covers n) = none := by
    refine List.find?_eq_none.2 fun run hrun => ?_
    have hfirst := hrest run hrun
    simp only [CaseRun.covers, Bool.and_eq_true, decide_eq_true_eq]
    omega
  rw [show lowerRuns = ⟨0x41, 0x5A, 1, 32⟩ :: lowerRuns.tail from rfl, List.find?_cons, hnone]
  by_cases hcapital : 65 ≤ n ∧ n ≤ 90
  · simp [CaseRun.covers, hcapital, Nat.mod_one]
  · have hnot : CaseRun.covers ⟨0x41, 0x5A, 1, 32⟩ n = false := by
      simp only [CaseRun.covers, Bool.and_eq_false_iff, decide_eq_false_iff_not]
      omega
    rw [hnot, if_neg hcapital]

theorem lowerChar_of_ascii {c : Char} (h : c.toNat < 128) : lowerChar c = [c.toLower] := by
  unfold lowerChar
  rw [if_neg (by rintro rfl; revert h; decide), find?_lowerRuns h]
  by_cases hcapital : 65 ≤ c.toNat ∧ c.toNat ≤ 90
  · rw [if_pos hcapital, toLower_of_capital hcapital]
    rfl
  · rw [if_neg hcapital, toLower_of_not_capital hcapital]

/-! ## Words -/

/-- The context of a character does not matter, since there is no sigma. -/
theorem lowerAfter_of_ascii {cs : List Char} (h : IsAscii cs) (before : List Char) :
    lowerAfter before cs = cs.map Char.toLower := by
  induction cs generalizing before with
  | nil => rfl
  | cons c rest ih =>
    have hc : c.toNat < 128 := h c List.mem_cons_self
    have hrest : IsAscii rest := fun c' hmem => h c' (List.mem_cons_of_mem c hmem)
    rw [lowerAfter, if_neg (by rintro rfl; revert hc; decide), lowerChar_of_ascii hc, ih hrest]
    rfl

theorem IsAscii.of_map_toLower {cs : List Char} (h : IsAscii (cs.map Char.toLower)) :
    IsAscii cs :=
  fun _ hmem => toNat_lt_of_toLower (h _ (List.mem_map_of_mem hmem))

/-- A name in letters of either case is mapped to the name. -/
theorem lower_of_spells {word name : String} (hname : IsAscii name.toList)
    (h : Spells word name) : lower word = name := by
  have hword : IsAscii word.toList := .of_map_toLower (by rw [h]; exact hname)
  rw [lower, lowerAfter_of_ascii hword, h, String.ofList_toList]

end PubSub.Text
