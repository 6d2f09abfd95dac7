import Mathlib.Data.Finset.Sort
import PubSub.Proofs.Wake.Course
import PubSub.Proofs.Wake.Sweep

/-!
# Words of bits as a set of indices

`members` reads the words of `Bits` as a set, whether or not an index is in range.  From the empty set
on, no bit is set from the size on (`Confined`), which is what the unused part of the last word could
break; then `mark`, `clear` and `drain` do to the words what `performSet` does to a set, and answer
alike (`Confined.perform`).  A run of operations on the words is thus one on a set (`run_refines`).
-/

namespace PubSub.Wake

namespace Bits

/-! ## The set of bits -/

/-- The indices whose bit is set. -/
def members (bits : Bits) : Finset Nat :=
  (Finset.range (bits.words.length * 64)).filter fun index => bits.test index = true

@[simp] theorem mem_members {bits : Bits} {index : Nat} :
    index ∈ bits.members ↔ bits.test index = true := by
  rw [members, Finset.mem_filter, Finset.mem_range, and_iff_right_iff_imp]
  intro htest
  by_contra hout
  have hword : bits.words.length ≤ index / 64 := by omega
  rw [test, List.getD_eq_getElem?_getD, List.getElem?_eq_none hword] at htest
  simp at htest

/-- No bit is set out of range. -/
def Confined (bits : Bits) : Prop := ∀ index ∈ bits.members, index < bits.size

@[simp] theorem members_empty (size : Nat) : (empty size).members = ∅ := by
  ext index
  simp

theorem members_mark (bits : Bits) (index : Nat) : (bits.mark index).2.members =
    if index < bits.size then insert index bits.members else bits.members := by
  ext j
  rw [mem_members, test_mark]
  split <;> simp [or_comm, *]

/-- An index that is out of range is marked already, and stays out of the set. -/
theorem mark_of_le {bits : Bits} {index : Nat} (h : bits.size ≤ index) :
    bits.mark index = (true, bits) := by
  unfold mark
  rw [if_pos h]

@[simp] theorem members_drain (bits : Bits) : bits.drain.2.members = ∅ := members_empty bits.size

/-- A sweep comes upon each member once. -/
theorem length_indicesFrom (bits : Bits) :
    (indicesFrom 0 bits.words).length = bits.members.card := by
  have hnodup : (indicesFrom 0 bits.words).Nodup :=
    (pairwise_indicesFrom 0 bits.words).imp fun h => Nat.ne_of_lt h
  rw [← List.toFinset_card_of_nodup hnodup]
  congr 1
  ext index
  rw [List.mem_toFinset, mem_indicesFrom, mem_members]
  simp [test]

namespace Confined

variable {bits : Bits}

theorem contains_iff (h : bits.Confined) {index : Nat} :
    bits.contains index = true ↔ index ∈ bits.members := by
  rw [Bits.contains_iff, ← mem_members, and_iff_right_iff_imp]
  exact h index

theorem empty (size : Nat) : (Bits.empty size).Confined := by
  intro index hmem
  rw [members_empty] at hmem
  exact absurd hmem (Finset.notMem_empty index)

theorem mark (h : bits.Confined) (index : Nat) : (bits.mark index).2.Confined := by
  intro j hmem
  rw [size_mark]
  rw [mem_members, test_mark] at hmem
  rcases hmem with hmem | ⟨rfl, hlt⟩
  · exact h j (mem_members.2 hmem)
  · exact hlt

theorem clear (h : bits.Confined) (index : Nat) : (bits.clear index).Confined := by
  intro j hmem
  rw [size_clear]
  rw [mem_members, test_clear] at hmem
  exact h j (mem_members.2 hmem.1)

theorem fst_mark (h : bits.Confined) (index : Nat) :
    (bits.mark index).1 = true ↔ bits.size ≤ index ∨ index ∈ bits.members := by
  rw [Bits.fst_mark, h.contains_iff]

/-- An index out of range is not there to be removed. -/
theorem members_clear (h : bits.Confined) (index : Nat) :
    (bits.clear index).members = bits.members.erase index := by
  ext j
  rw [mem_members, test_clear, ← mem_members, Finset.mem_erase, and_comm]
  refine and_congr_left fun hmem => not_congr ⟨And.left, ?_⟩
  rintro rfl
  exact ⟨rfl, h j hmem⟩

theorem mem_drain (h : bits.Confined) {index : Nat} :
    index ∈ bits.drain.1 ↔ index ∈ bits.members := by
  rw [Bits.mem_drain, h.contains_iff]

theorem fst_drain (h : bits.Confined) : bits.drain.1 = bits.members.sort (· ≤ ·) := by
  refine (pairwise_drain bits).sortedLT.eq_of_mem_iff bits.members.sortedLT_sort fun index => ?_
  rw [h.mem_drain, Finset.mem_sort]

end Confined

/-! ## Operations -/

/-- An operation on a set of indices. -/
inductive Call
  | mark (index : Nat)
  | clear (index : Nat)
  | drain
deriving DecidableEq, Repr

/-- What an operation answers. -/
inductive Answer
  /-- Whether there was nothing to be marked. -/
  | marked (old : Bool)
  | cleared
  | drained (indices : List Nat)
deriving DecidableEq, Repr

/-- An operation on the words. -/
def perform (bits : Bits) : Call → Answer × Bits
  | .mark index => (.marked (bits.mark index).1, (bits.mark index).2)
  | .clear index => (.cleared, bits.clear index)
  | .drain => (.drained bits.drain.1, bits.drain.2)

/-- The operation on a set of indices below `size`. -/
def performSet (size : Nat) (set : Finset Nat) : Call → Answer × Finset Nat
  | .mark index =>
    (.marked (size ≤ index ∨ index ∈ set), if index < size then insert index set else set)
  | .clear index => (.cleared, set.erase index)
  | .drain => (.drained (set.sort (· ≤ ·)), ∅)

/-- The answers to some operations, one after the other, and what they lead to. -/
def run {State : Type} (perform : State → Call → Answer × State) (state : State) :
    List Call → List Answer × State
  | [] => ([], state)
  | call :: calls =>
    let (answer, next) := perform state call
    let (answers, last) := run perform next calls
    (answer :: answers, last)

theorem snd_run_concat {State : Type} (perform : State → Call → Answer × State) (state : State)
    (calls : List Call) (call : Call) :
    (run perform state (calls ++ [call])).2 = (perform (run perform state calls).2 call).2 := by
  induction calls generalizing state with
  | nil => rfl
  | cons first calls ih => exact ih (perform state first).2

/-! ## The refinement -/

/-- The operations do to the words what they should do to the set of their bits. -/
structure ActsAsSet (bits : Bits) : Prop where
  lt_size : ∀ index ∈ bits.members, index < bits.size
  fst_mark : ∀ index, (bits.mark index).1 = true ↔ bits.size ≤ index ∨ index ∈ bits.members
  members_mark : ∀ index < bits.size, (bits.mark index).2.members = insert index bits.members
  /-- An index out of range changes no word. -/
  mark_of_le : ∀ index, bits.size ≤ index → bits.mark index = (true, bits)
  members_clear : ∀ index, (bits.clear index).members = bits.members.erase index
  /-- The loop of a drain ends, after so many steps, with the list and the words of `drain`. -/
  stops : (Sweep.start bits).Stops (2 * bits.words.length + bits.members.card)
    ⟨bits.drain.2, bits.words.length, none, bits.drain.1⟩
  mem_drain : ∀ index, index ∈ bits.drain.1 ↔ index ∈ bits.members
  pairwise_drain : bits.drain.1.Pairwise (· < ·)
  members_drain : bits.drain.2.members = ∅

namespace Confined

variable {bits : Bits}

theorem actsAsSet (h : bits.Confined) : bits.ActsAsSet where
  lt_size := h
  fst_mark := h.fst_mark
  members_mark index hlt := by rw [members_mark, if_pos hlt]
  mark_of_le _ := mark_of_le
  members_clear := h.members_clear
  stops := by
    rw [← length_indicesFrom]
    exact Sweep.stops_start bits
  mem_drain _ := h.mem_drain
  pairwise_drain := pairwise_drain bits
  members_drain := members_drain bits

/-- An operation on the words is the operation on the set, and keeps the bits in range. -/
theorem perform (h : bits.Confined) (call : Call) :
    performSet bits.size bits.members call =
        ((bits.perform call).1, (bits.perform call).2.members) ∧
      (bits.perform call).2.Confined ∧ (bits.perform call).2.size = bits.size := by
  cases call with
  | mark index =>
    have hold : (bits.mark index).1 = decide (bits.size ≤ index ∨ index ∈ bits.members) := by
      rw [Bool.eq_iff_iff, h.fst_mark, decide_eq_true_iff]
    refine ⟨?_, h.mark index, size_mark bits index⟩
    rw [performSet, Bits.perform, hold, members_mark]
  | clear index =>
    refine ⟨?_, h.clear index, size_clear bits index⟩
    rw [performSet, Bits.perform, h.members_clear]
  | drain =>
    refine ⟨?_, Confined.empty bits.size, rfl⟩
    rw [performSet, Bits.perform, h.fst_drain, members_drain]

/-- So it is with a run of operations. -/
theorem run (h : bits.Confined) (calls : List Call) :
    Bits.run (performSet bits.size) bits.members calls =
        ((Bits.run Bits.perform bits calls).1, (Bits.run Bits.perform bits calls).2.members) ∧
      (Bits.run Bits.perform bits calls).2.Confined ∧
      (Bits.run Bits.perform bits calls).2.size = bits.size := by
  induction calls generalizing bits with
  | nil => exact ⟨rfl, h, rfl⟩
  | cons call calls ih =>
    obtain ⟨hstep, hconfined, hsize⟩ := h.perform call
    obtain ⟨hrest, hconfined', hsize'⟩ := ih hconfined
    refine ⟨?_, hconfined', hsize'.trans hsize⟩
    rw [hsize] at hrest
    simp only [Bits.run, hstep, hrest]

end Confined

/-- Whatever was done to an empty set of any size, the words have answered as a set of indices would,
their bits are that set, and the next operation will do the same again. -/
theorem run_refines (size : Nat) (calls : List Call) :
    ∃ answers bits, run perform (empty size) calls = (answers, bits) ∧
      run (performSet size) ∅ calls = (answers, bits.members) ∧
      bits.size = size ∧ bits.ActsAsSet := by
  obtain ⟨hrun, hconfined, hsize⟩ := (Confined.empty size).run calls
  rw [members_empty] at hrun
  exact ⟨_, _, rfl, hrun, hsize, hconfined.actsAsSet⟩

/-- Seventy indices take two words, the second of which is used in part.  The index after the last is
neither marked nor cleared, and to drain takes two steps for each word and one for each of the three
indices that are left. -/
theorem exists_run_refines :
    let calls : List Call := [.mark 69, .mark 3, .mark 70, .mark 69, .clear 70, .mark 0, .clear 0,
      .mark 64]
    let answers : List Answer := [.marked false, .marked false, .marked true, .marked true, .cleared,
      .marked false, .cleared, .marked false]
    ∃ bits, run perform (empty 70) calls = (answers, bits) ∧ bits.members = {3, 64, 69} ∧
      (Sweep.start bits).Stops 7 ⟨empty 70, 2, none, [3, 64, 69]⟩ := by
  intro calls answers
  obtain ⟨given, bits, hrun, hset, hsize, hacts⟩ := run_refines 70 calls
  have hvalue : run (performSet 70) ∅ calls = (answers, {3, 64, 69}) := by decide +kernel
  rw [hvalue] at hset
  obtain ⟨rfl, hmembers⟩ := Prod.mk.inj hset
  have hdrain : bits.drain.1 = [3, 64, 69] := by
    refine hacts.pairwise_drain.sortedLT.eq_of_mem_iff (by decide) fun index => ?_
    rw [hacts.mem_drain, ← hmembers]
    simp
  have hempty : bits.drain.2 = empty 70 := by
    rw [← hsize]
    rfl
  have hstops := hacts.stops
  rw [bits.length_words, hsize, ← hmembers, hdrain, hempty] at hstops
  exact ⟨bits, hrun, hmembers.symm, hstops⟩

end Bits

/-! ## Pending slots -/

namespace Driver.Course

variable {capacity : Nat} {acts : List Act} {driver : Driver}

/-- What a driver does to its pending slots is to mark, clear and drain them. -/
theorem exists_run (h : Course capacity acts driver) :
    ∃ calls, (Bits.run Bits.perform (.empty capacity) calls).2 = driver.pending := by
  induction h with
  | start => exact ⟨[], rfl⟩
  | register h hregister ih =>
    obtain ⟨slots, -, rfl⟩ := register_eq_ok hregister
    exact ih
  | refuse h hregister ih => exact ih
  | @release acts driver registration h ih =>
    cases howns : driver.slots.owns registration with
    | false =>
      rw [release_of_not_owns howns]
      exact ih
    | true =>
      obtain ⟨calls, hcalls⟩ := ih
      refine ⟨calls ++ [.clear registration.slot], ?_⟩
      rw [Bits.snd_run_concat, hcalls, release_of_owns howns]
      rfl
  | @signal acts driver registration h hgiven ih =>
    obtain ⟨calls, hcalls⟩ := ih
    refine ⟨calls ++ [.mark registration.slot], ?_⟩
    rw [Bits.snd_run_concat, hcalls, pending_signal]
    rfl
  | wake h hpolls hwait ih =>
    obtain ⟨-, -, rfl⟩ := wait_eq_woken hpolls hwait
    obtain ⟨calls, hcalls⟩ := ih
    refine ⟨calls ++ [.drain], ?_⟩
    rw [Bits.snd_run_concat, hcalls]
    rfl
  | timeOut h hpolls hwait ih =>
    obtain ⟨-, rfl⟩ := wait_eq_timeout hpolls hwait
    exact ih

/-- So the pending slots of a driver are at all times a set of slots below its capacity. -/
theorem pending_actsAsSet (h : Course capacity acts driver) :
    driver.pending.size = capacity ∧ driver.pending.ActsAsSet := by
  obtain ⟨calls, hcalls⟩ := h.exists_run
  obtain ⟨-, hconfined, hsize⟩ := (Bits.Confined.empty capacity).run calls
  rw [hcalls] at hconfined hsize
  exact ⟨hsize, hconfined.actsAsSet⟩

end Driver.Course

end PubSub.Wake
