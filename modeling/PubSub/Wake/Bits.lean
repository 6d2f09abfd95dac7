/-!
# Pending slots as bits of words

`Bits` is a set of indices below a fixed size, stored as the bits of 64-bit words. `mark` adds an
index and tells whether it was there, `clear` removes one, and `drain` empties the set and lists it
in ascending order, taking the lowest set bit off each word until none is left.
-/

namespace PubSub.Wake

/-- The number of bits of a word. -/
def wordSize : Nat := 64

/-- A set of indices below `size`. -/
structure Bits where
  size : Nat
  words : List UInt64
  length_words : words.length = (size + (wordSize - 1)) / wordSize

namespace Bits

/-- The word with the one bit of an index. -/
def bit (index : Nat) : UInt64 :=
  1 <<< UInt64.ofNat (index % wordSize)

/-- The empty set. -/
def empty (size : Nat) : Bits where
  size
  words := List.replicate ((size + (wordSize - 1)) / wordSize) 0
  length_words := by simp

/-- The index is in the set. -/
def contains (bits : Bits) (index : Nat) : Bool :=
  index < bits.size && bits.words.getD (index / wordSize) 0 &&& bit index != 0

/-- Changes the word that holds an index. -/
def modifyWord (bits : Bits) (index : Nat) (f : UInt64 → UInt64) : Bits where
  size := bits.size
  words := bits.words.modify (index / wordSize) f
  length_words := by simp [bits.length_words]

/-- Whether the index was in the set, and the set with it. An index out of range changes nothing and
counts as present. -/
def mark (bits : Bits) (index : Nat) : Bool × Bits :=
  if bits.size ≤ index then (true, bits)
  else (bits.contains index, bits.modifyWord index (· ||| bit index))

/-- The set without an index. -/
def clear (bits : Bits) (index : Nat) : Bits :=
  if bits.size ≤ index then bits else bits.modifyWord index (· &&& ~~~(bit index))

/-- The position of the lowest set bit. -/
def lowestBit (word : UInt64) : Nat :=
  word.toBitVec.ctz.toNat

theorem toNat_and_pred_lt {word : UInt64} (h : word ≠ 0) :
    (word &&& (word - 1)).toNat < word.toNat := by
  have h0 : word.toNat ≠ 0 := fun h' => h (UInt64.toNat_inj.1 (by simpa using h'))
  have h1 : (word - 1).toNat = word.toNat - 1 := by
    rw [UInt64.toNat_sub_of_le _ _ (by rw [UInt64.le_iff_toNat_le, UInt64.toNat_one]; omega),
      UInt64.toNat_one]
  have h2 : (word &&& (word - 1)).toNat ≤ (word - 1).toNat := by
    rw [UInt64.toNat_and]
    exact Nat.and_le_right
  omega

/-- The positions of the set bits of a word, counted from `base`, in ascending order. -/
def wordIndices (base : Nat) (word : UInt64) : List Nat :=
  if _h : word = 0 then []
  else (base + lowestBit word) :: wordIndices base (word &&& (word - 1))
termination_by word.toNat
decreasing_by exact toNat_and_pred_lt _h

/-- The indices in the words, of which the first is the word with this number. -/
def indicesFrom : Nat → List UInt64 → List Nat
  | _, [] => []
  | k, word :: words => wordIndices (k * wordSize) word ++ indicesFrom (k + 1) words

/-- The indices in ascending order, and the empty set. -/
def drain (bits : Bits) : List Nat × Bits :=
  ((indicesFrom 0 bits.words).filter (· < bits.size), empty bits.size)

@[simp] theorem size_empty (size : Nat) : (empty size).size = size := rfl

@[simp] theorem size_mark (bits : Bits) (index : Nat) : (bits.mark index).2.size = bits.size := by
  unfold mark
  split <;> rfl

@[simp] theorem size_clear (bits : Bits) (index : Nat) : (bits.clear index).size = bits.size := by
  unfold clear
  split <;> rfl

@[simp] theorem size_drain (bits : Bits) : bits.drain.2.size = bits.size := rfl

end Bits

end PubSub.Wake
