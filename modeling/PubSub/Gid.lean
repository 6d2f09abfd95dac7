import PubSub.Text.Numeral

/-!
# Global identifiers

A `Gid` is twenty-four bytes, ordered byte by byte. Identifiers minted in this process hold three
big-endian numbers: the process, the instance of the context and a counter, so that they ascend in
the order in which a context mints them.
-/

namespace PubSub

/-- The last `width` base-256 digits of `n`, most significant first. -/
def bigEndian : Nat → Nat → List UInt8
  | 0, _ => []
  | width + 1, n => bigEndian width (n / 256) ++ [UInt8.ofNat n]

@[simp] theorem length_bigEndian (width n : Nat) : (bigEndian width n).length = width := by
  induction width generalizing n with
  | zero => rfl
  | succ width ih => simp [bigEndian, ih]

/-- The number of bytes of an identifier. -/
def gidSize : Nat := 24

/-- Identifier of a node or an endpoint. -/
structure Gid where
  bytes : List UInt8
  length_bytes : bytes.length = gidSize
deriving DecidableEq

namespace Gid

@[ext] theorem ext {a b : Gid} (h : a.bytes = b.bytes) : a = b := by
  cases a; cases b; simp_all

instance : LT Gid := ⟨fun a b => a.bytes < b.bytes⟩
instance : LE Gid := ⟨fun a b => a.bytes ≤ b.bytes⟩

instance : DecidableLT Gid := fun a b => inferInstanceAs (Decidable (a.bytes < b.bytes))
instance : DecidableLE Gid := fun a b => inferInstanceAs (Decidable (a.bytes ≤ b.bytes))

theorem lt_def {a b : Gid} : a < b ↔ a.bytes < b.bytes := Iff.rfl

/-- The identifier whose bytes are all zero. -/
def zero : Gid := ⟨List.replicate gidSize 0, by simp⟩

instance : Inhabited Gid := ⟨zero⟩

/-- The identifier with these bytes, if there are as many as an identifier has. -/
def ofBytes? (bytes : List UInt8) : Option Gid :=
  if h : bytes.length = gidSize then some ⟨bytes, h⟩ else none

/-- The identifier of the entity number `entity` of a context of this process. -/
def mint (process instanceId : UInt32) (entity : UInt64) : Gid where
  bytes := bigEndian 4 process.toNat ++ bigEndian 4 instanceId.toNat ++ bigEndian 8 entity.toNat ++
    List.replicate 8 0
  length_bytes := by simp [gidSize]

/-- All bytes in hexadecimal. -/
def hex (gid : Gid) : String :=
  String.ofList (Text.hexBytes gid.bytes)

/-- The written form: the first sixteen bytes in hexadecimal, in four groups set apart by points. -/
def text (gid : Gid) : String :=
  let group (k : Nat) := String.ofList (Text.hexBytes ((gid.bytes.drop (4 * k)).take 4))
  ".".intercalate [group 0, group 1, group 2, group 3]

end Gid

/-- The identifiers that a context hands out. -/
structure GidSource where
  process : UInt32
  instanceId : UInt32
  next : UInt64
deriving DecidableEq

namespace GidSource

/-- A context counts its entities from one. -/
def start (process instanceId : UInt32) : GidSource :=
  ⟨process, instanceId, 1⟩

/-- The next identifier, and the source without it. -/
def mint (source : GidSource) : Gid × GidSource :=
  (Gid.mint source.process source.instanceId source.next, { source with next := source.next + 1 })

end GidSource

end PubSub
