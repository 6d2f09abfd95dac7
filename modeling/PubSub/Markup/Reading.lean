import PubSub.Markup.Node
import PubSub.Text.Numeral

/-!
# Reading typed values off nodes

Each reader takes a node, or the node to which it refers, as a value of a certain type, and fails if
it is of another one. Nothing written counts as an empty mapping and as an absent value. References
make it possible that a short text stands for a large tree; so the number of references that are
followed is limited, by the length of the text.
-/

namespace PubSub.Markup

/-- A reading, which may fail. It counts how many references may still be followed. -/
abbrev Reading (α : Type) : Type := StateT Nat Option α

namespace Tree

/-- The tag of absent values. -/
def nullTag : String := "tag:yaml.org,2002:null"

/-- The tag of integers. -/
def intTag : String := "tag:yaml.org,2002:int"

/-- The tag of truth values. -/
def boolTag : String := "tag:yaml.org,2002:bool"

/-- The text is a spelling of the absent value. -/
def isNull (text : String) : Bool :=
  text = "null" || text = "Null" || text = "NULL" || text = "~"

variable (tree : Tree)

/-- The number of references that may be followed: a hundred for each mark of the text. -/
def referenceLimit : Nat := 100 * tree.top.marks

/-- The result of a reading that starts at the root. -/
def read {α : Type} (reading : Node → Reading α) : Option α :=
  (reading tree.top).run' tree.referenceLimit

/-- The node itself, or the one to which it refers. -/
def follow : Node → Reading Node
  | .reference number => do
    match ← get with
    | 0 => failure
    | left + 1 =>
      set left
      tree.anchors.node? number
  | node => return node

/-- The entries of a mapping. -/
def entries (node : Node) : Reading (List (Node × Node)) := do
  match ← tree.follow node with
  | .mapping entries => return entries
  | .scalar _ .plain "" => return []
  | _ => failure

/-- The text of a scalar, however it is written. -/
def text (node : Node) : Reading String := do
  match ← tree.follow node with
  | .scalar _ _ text => return text
  | _ => failure

/-- The node counts as a present value. A tag that demands an absent value is an error on any other
text. -/
def isPresent : Node → Option Bool
  | .scalar tag .plain text =>
    match tag with
    | none => some (!text.isEmpty && !isNull text)
    | some tag => if tag = nullTag then if isNull text then some false else none else some true
  | _ => some true

/-- A value that may be absent. -/
def optional {α : Type} (read : Node → Reading α) (node : Node) : Reading (Option α) := do
  let node ← tree.follow node
  if ← isPresent node then return some (← read node) else return none

/-- The text of a scalar that is read by its form: a plain one, or a literal block with this tag. -/
def formText (tag : String) (node : Node) : Reading String := do
  match ← tree.follow node with
  | .scalar _ .plain text => return text
  | .scalar (some given) .literal text => if given = tag then return text else failure
  | _ => failure

/-- The digits of a numeral after the mark of its radix. -/
def radixDigits : List Char → Nat × List Char
  | '0' :: 'x' :: rest => (16, rest)
  | '0' :: 'o' :: rest => (8, rest)
  | '0' :: 'b' :: rest => (2, rest)
  | digits => (10, digits)

/-- The value of an unsigned numeral below two to the sixty-fourth. A decimal numeral of several
digits does not start with zero. -/
def unsignedValue? (text : String) : Option Nat :=
  let (radix, digits) := radixDigits (Text.dropPlus text.toList)
  if radix = 10 && digits.head? = some '0' && 1 < digits.length then none
  else (Text.numeral? radix digits).filter (· < UInt64.size)

/-- An unsigned number. -/
def unsigned (node : Node) : Reading Nat := do
  unsignedValue? (← tree.formText intTag node)

/-- A truth value. -/
def flag (node : Node) : Reading Bool := do
  match ← tree.formText boolTag node with
  | "true" | "True" | "TRUE" => return true
  | "false" | "False" | "FALSE" => return false
  | _ => failure

/-- The values of a mapping by their keys, which have to be scalars. -/
def byKey (node : Node) : Reading (List (String × Node)) := do
  (← tree.entries node).mapM fun (key, value) => do return (← tree.text key, value)

/-- The values of the known keys of a mapping. A known key may be given once; others are ignored. -/
def fields (known : List String) (node : Node) : Reading (String → Option Node) := do
  let values ← tree.byKey node
  if known.any fun key => 1 < (values.filter (·.1 = key)).length then failure
  else return fun key => values.lookup key

/-- An optional value of a key that may be missing. -/
def optionalField {α : Type} (read : Node → Reading α) (fields : String → Option Node)
    (key : String) : Reading (Option α) :=
  match fields key with
  | some node => tree.optional read node
  | none => return none

end Tree

end PubSub.Markup
