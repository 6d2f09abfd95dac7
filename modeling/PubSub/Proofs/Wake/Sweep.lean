import PubSub.Proofs.Wake.Drain

/-!
# Draining one step at a time

`drain` says at once what the loop over the words finds and leaves.  A `Sweep` is that loop with its
state: a word is exchanged for zero, and then its lowest bit is taken off until none is left.  A step
takes up a word, takes off a bit or puts a word away, so that the loop stops after two steps for each
word and one for each bit, with the list and the words of `drain` (`stops_start`).
-/

namespace PubSub.Wake.Bits

/-- A drain under way. -/
structure Sweep where
  /-- The set, with zeros for the words taken so far. -/
  bits : Bits
  /-- The number of the word in hand or, between two words, of the next one. -/
  number : Nat
  /-- What is left of the word in hand. -/
  inHand : Option UInt64
  found : List Nat

namespace Sweep

/-- Before the first word. -/
def start (bits : Bits) : Sweep := ⟨bits, 0, none, []⟩

/-- One step: a word is taken, a word is done with, or the lowest bit is taken off and its index
listed, unless it is out of range.  There is none once the words are used up. -/
def next? (sweep : Sweep) : Option Sweep :=
  match sweep.inHand with
  | none =>
    if h : sweep.number < sweep.bits.words.length then
      some { sweep with
        bits := sweep.bits.takeWord sweep.number
        inHand := some sweep.bits.words[sweep.number] }
    else none
  | some word =>
    if word = 0 then some { sweep with number := sweep.number + 1, inHand := none }
    else
      let index := sweep.number * wordSize + lowestBit word
      some { sweep with
        inHand := some (word &&& (word - 1))
        found := if index < sweep.bits.size then sweep.found ++ [index] else sweep.found }

/-- The loop stops after this number of steps, in this state. -/
inductive Stops : Sweep → Nat → Sweep → Prop
  | stop {sweep : Sweep} : sweep.next? = none → Stops sweep 0 sweep
  | step {sweep sweep' last : Sweep} {n : Nat} :
      sweep.next? = some sweep' → Stops sweep' n last → Stops sweep (n + 1) last

/-- An index that is listed unless it is out of range is the first of those that pass the filter. -/
theorem keep_append (size index : Nat) (found indices : List Nat) :
    (if index < size then found ++ [index] else found) ++ indices.filter (· < size) =
      found ++ (index :: indices).filter (· < size) := by
  rw [List.filter_cons]
  split <;> simp_all

section

variable {bits : Bits} {number n : Nat} {found : List Nat} {last : Sweep}

/-- A word in hand takes a step for each of its bits, and one more to be done with. -/
theorem stops_inHand (word : UInt64)
    (h : Stops ⟨bits, number + 1, none,
      found ++ (wordIndices (number * wordSize) word).filter (· < bits.size)⟩ n last) :
    Stops ⟨bits, number, some word, found⟩
      ((wordIndices (number * wordSize) word).length + 1 + n) last := by
  -- the indices are counted from the same base while the word loses its bits
  generalize hbase : number * wordSize = base at h ⊢
  fun_induction wordIndices base word generalizing found with
  | case1 =>
    rw [List.filter_nil, List.append_nil] at h
    rw [List.length_nil, Nat.zero_add, Nat.add_comm]
    exact .step (by simp [next?]) h
  | case2 word hne ih =>
    subst hbase
    have hsum : ∀ k, k + 1 + 1 + n = k + 1 + n + 1 := by omega
    rw [List.length_cons, hsum]
    rw [← keep_append] at h
    exact .step (by simp only [next?, if_neg hne]) (ih h)

/-- The words from the next one on take two steps each, and one for each of their bits. -/
theorem stops_between (words : List UInt64) (hwords : bits.words.drop number = words)
    (hle : number ≤ bits.words.length) (htaken : bits.TakenTo number) :
    Stops ⟨bits, number, none, found⟩ (2 * words.length + (indicesFrom number words).length)
      ⟨empty bits.size, bits.words.length, none,
        found ++ (indicesFrom number words).filter (· < bits.size)⟩ := by
  induction words generalizing bits number found with
  | nil =>
    have hall : number = bits.words.length := Nat.le_antisymm hle (List.drop_eq_nil_iff.1 hwords)
    rw [← htaken.eq_empty (Nat.le_of_eq hall.symm), ← hall, indicesFrom, List.filter_nil,
      List.append_nil]
    exact .stop (by simp [next?, hall])
  | cons word words ih =>
    have hlt : number < bits.words.length := by
      rw [← Nat.not_le, ← List.drop_eq_nil_iff, hwords]
      exact List.cons_ne_nil word words
    rw [List.drop_eq_getElem_cons hlt] at hwords
    obtain ⟨hword, hrest⟩ := List.cons.inj hwords
    have hrest' : (bits.takeWord number).words.drop (number + 1) = words := by
      rw [← hrest]
      exact List.drop_set_of_lt (Nat.lt_succ_self number)
    -- the words after this one are swept with the indices of this one listed already
    have hlater : Stops ⟨bits.takeWord number, number + 1, none,
        found ++ (wordIndices (number * wordSize) word).filter (· < bits.size)⟩ _ _ :=
      ih hrest' (by rw [length_takeWord]; omega) htaken.takeWord
    rw [length_takeWord] at hlater
    have hsteps : 2 * (word :: words).length + (indicesFrom number (word :: words)).length =
        (wordIndices (number * wordSize) word).length + 1 +
          (2 * words.length + (indicesFrom (number + 1) words).length) + 1 := by
      rw [indicesFrom, List.length_append, List.length_cons]
      omega
    rw [hsteps, indicesFrom, List.filter_append, ← List.append_assoc]
    refine .step ?_ (stops_inHand word hlater)
    simp only [next?, dif_pos hlt, hword]

end

/-- The loop stops with what `drain` finds and leaves. -/
theorem stops_start (bits : Bits) :
    (start bits).Stops (2 * bits.words.length + (indicesFrom 0 bits.words).length)
      ⟨bits.drain.2, bits.words.length, none, bits.drain.1⟩ :=
  stops_between bits.words List.drop_zero (Nat.zero_le _) bits.takenTo_zero

end Sweep

end PubSub.Wake.Bits
