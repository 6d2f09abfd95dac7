import PubSub.Markup.Token

/-!
# Nodes

The tree that a marked-up text stands for: scalars, sequences, mappings, and references to nodes that
carry an anchor.
-/

namespace PubSub.Markup

/-- A node. References give the number of an anchor. -/
inductive Node
  | scalar (tag : Option String) (style : ScalarStyle) (text : String)
  | sequence (items : List Node)
  | mapping (entries : List (Node × Node))
  | reference (anchor : Nat)

namespace Node

/-- The node that stands where nothing is written. -/
def missing : Node := .scalar none .plain ""

mutual

/-- The number of marks that a node takes: one for a scalar or a reference, and two for the ends of a
collection besides those of its parts. -/
def marks : Node → Nat
  | .scalar .. => 1
  | .reference _ => 1
  | .sequence items => itemMarks items + 2
  | .mapping entries => entryMarks entries + 2

/-- The number of marks of the items of a sequence. -/
def itemMarks : List Node → Nat
  | [] => 0
  | item :: rest => item.marks + itemMarks rest

/-- The number of marks of the entries of a mapping. -/
def entryMarks : List (Node × Node) → Nat
  | [] => 0
  | (key, value) :: rest => key.marks + value.marks + entryMarks rest

end

end Node

/-- The anchored nodes of a text. Anchors are numbered by how many names were in use before. -/
structure Anchors where
  /-- The number of each name in use. -/
  numbers : List (String × Nat) := []
  /-- The anchor numbers of the anchored nodes in the order of their starts, with the nodes once they
  are complete. -/
  nodes : Array (Nat × Option Node) := #[]

namespace Anchors

/-- The number of a name in use. -/
def number? (anchors : Anchors) (name : String) : Option Nat :=
  anchors.numbers.lookup name

/-- Starts a node with an anchor: the place of the node, and the anchors with its name in use. -/
def start (anchors : Anchors) (name : String) : Nat × Anchors :=
  let number := anchors.numbers.length
  (anchors.nodes.size,
    { numbers := (name, number) :: anchors.numbers.filter (·.1 ≠ name)
      nodes := anchors.nodes.push (number, none) })

/-- Completes the node at a place. -/
def finish (anchors : Anchors) (place : Nat) (node : Node) : Anchors :=
  { anchors with nodes := anchors.nodes.modify place fun e => (e.1, some node) }

/-- The node for a number: of those that share it, the one that starts last. -/
def node? (anchors : Anchors) (number : Nat) : Option Node :=
  (anchors.nodes.toList.reverse.find? (·.1 = number)).bind (·.2)

end Anchors

/-- A text as a tree: its root, unless it is empty, and the nodes that references stand for. -/
structure Tree where
  root : Option Node
  anchors : Anchors

/-- The root of the tree. -/
def Tree.top (tree : Tree) : Node := tree.root.getD .missing

end PubSub.Markup
