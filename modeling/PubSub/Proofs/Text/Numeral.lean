import Mathlib.Data.Nat.Digits.Defs
import PubSub.Text.Numeral

/-!
# Which texts are numerals

A decimal numeral is a nonempty run of the digits `0` to `9`, perhaps with a plus sign before it, and
denotes the number with these digits (`Denotes`).  `unsigned?` reads exactly the numerals that denote
a number within its limit, leading zeros included (`unsigned?_eq_some_iff`).
-/

namespace PubSub.Text

/-- The value of a decimal digit. -/
def digitOf (c : Char) : Nat := c.toNat - '0'.toNat

/-- The characters are decimal digits, at least one, and are those of the number `n`, most significant
first. -/
structure Digits (cs : List Char) (n : Nat) : Prop where
  nonempty : cs ≠ []
  isDigit : ∀ c ∈ cs, c.isDigit = true
  value : Nat.ofDigits 10 (cs.reverse.map digitOf) = n

/-- The text is a decimal numeral for `n`, with or without a plus sign. -/
def Denotes (cs : List Char) (n : Nat) : Prop :=
  Digits cs n ∨ ∃ digits, cs = '+' :: digits ∧ Digits digits n

/-- In radix ten no letter is a digit. -/
theorem digitValue?_ten_eq_some_iff {c : Char} {d : Nat} :
    digitValue? 10 c = some d ↔ c.isDigit = true ∧ digitOf c = d := by
  have hdigit : c.isDigit = true ↔ '0' ≤ c ∧ c ≤ '9' := by
    simp only [Char.isDigit, Bool.and_eq_true, decide_eq_true_eq]
    exact Iff.rfl
  have hle (a b : Char) : a ≤ b ↔ a.toNat ≤ b.toNat := Iff.rfl
  rw [hdigit]
  simp only [digitValue?, digitOf, hle, Char.reduceToNat]
  split_ifs <;> simp <;> omega

theorem digitsFrom?_ten_eq_some_iff {acc n : Nat} {cs : List Char} :
    digitsFrom? 10 acc cs = some n ↔ (∀ c ∈ cs, c.isDigit = true) ∧
      acc * 10 ^ cs.length + Nat.ofDigits 10 (cs.reverse.map digitOf) = n := by
  induction cs generalizing acc with
  | nil => simp [digitsFrom?]
  | cons c rest ih =>
    have hvalue : acc * 10 ^ (c :: rest).length + Nat.ofDigits 10 ((c :: rest).reverse.map digitOf) =
        (10 * acc + digitOf c) * 10 ^ rest.length + Nat.ofDigits 10 (rest.reverse.map digitOf) := by
      rw [List.reverse_cons, List.map_append, Nat.ofDigits_append, List.length_map,
        List.length_reverse, List.length_cons, Nat.pow_succ, List.map_singleton,
        Nat.ofDigits_singleton]
      ring
    rw [digitsFrom?, hvalue, List.forall_mem_cons]
    constructor
    · intro h
      obtain ⟨d, hd, hrest⟩ := Option.bind_eq_some_iff.1 h
      obtain ⟨hc, rfl⟩ := digitValue?_ten_eq_some_iff.1 hd
      obtain ⟨hall, heq⟩ := ih.1 hrest
      exact ⟨⟨hc, hall⟩, heq⟩
    · rintro ⟨⟨hc, hall⟩, heq⟩
      exact Option.bind_eq_some_iff.2
        ⟨digitOf c, digitValue?_ten_eq_some_iff.2 ⟨hc, rfl⟩, ih.2 ⟨hall, heq⟩⟩

theorem numeral?_ten_eq_some_iff {cs : List Char} {n : Nat} :
    numeral? 10 cs = some n ↔ Digits cs n := by
  cases cs with
  | nil => exact ⟨nofun, fun h => absurd rfl h.nonempty⟩
  | cons c rest =>
    rw [numeral?, if_neg (by simp), digitsFrom?_ten_eq_some_iff, Nat.zero_mul, Nat.zero_add]
    exact ⟨fun ⟨hall, heq⟩ => ⟨by simp, hall, heq⟩, fun h => ⟨h.isDigit, h.value⟩⟩

/-- The sign of a numeral can be dropped; there is no sign among digits. -/
theorem digits_dropPlus_iff {cs : List Char} {n : Nat} : Digits (dropPlus cs) n ↔ Denotes cs n := by
  by_cases hplus : ∃ digits, cs = '+' :: digits
  · obtain ⟨digits, rfl⟩ := hplus
    constructor
    · exact fun h => .inr ⟨digits, rfl, h⟩
    · rintro (h | ⟨digits', heq, h⟩)
      · have hsign := h.isDigit '+' List.mem_cons_self
        exact absurd hsign (by decide)
      · cases heq
        exact h
  · have hdrop : dropPlus cs = cs := by
      unfold dropPlus
      split
      · exact absurd ⟨_, rfl⟩ hplus
      · rfl
    rw [hdrop]
    exact ⟨.inl, fun h => h.resolve_right fun ⟨digits, heq, _⟩ => hplus ⟨digits, heq⟩⟩

/-- The numerals that are read are those that denote a number within the limit. -/
theorem unsigned?_eq_some_iff {limit n : Nat} {cs : List Char} :
    unsigned? limit cs = some n ↔ Denotes cs n ∧ n ≤ limit := by
  rw [unsigned?, Option.filter_eq_some_iff, numeral?_ten_eq_some_iff, digits_dropPlus_iff,
    decide_eq_true_eq]

/-- A sign and leading zeros make no difference. -/
example : unsigned? 232 "+0042".toList = some 42 := by decide

end PubSub.Text
