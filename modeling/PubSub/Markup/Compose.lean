import PubSub.Markup.Node
import PubSub.Markup.Token.Scan

/-!
# From tokens to nodes

`compose` reads the one document of a text. The readers below take the tokens that are left and
return those after what they read; `fuel` bounds how often they call each other and is computed from
the number of tokens.
-/

namespace PubSub.Markup

/-- What the readers have to know besides the tokens. -/
structure Composer where
  tokens : List Token
  anchors : Anchors := {}
  /-- The starts of tags for which handles stand. -/
  handles : List (String × String)

namespace Composer

def head? (s : Composer) : Option Token := s.tokens.head?

/-- Past one token. -/
def drop (s : Composer) : Composer := { s with tokens := s.tokens.drop 1 }

/-- The next token is one of these. -/
def isAt (s : Composer) (tokens : List Token) : Bool := s.tokens.head?.any tokens.contains

/-- The properties in front of a node. -/
structure Properties where
  anchor : Option String := none
  tag : Option String := none

/-- A text up to the character that ends all texts of tags. -/
def uptoNull (text : String) : String :=
  String.ofList (text.toList.takeWhile (· ≠ '\x00'))

/-- The tag in full. An unknown handle is an error. -/
def fullTag (s : Composer) (handle suffix : String) : Option String :=
  if handle.isEmpty then some (uptoNull suffix)
  else (s.handles.lookup handle).map fun stem => uptoNull stem ++ uptoNull suffix

/-- An anchor and a tag, in either order. -/
def properties (s : Composer) : Option (Properties × Composer) :=
  match s.tokens with
  | .anchor name :: .tag handle suffix :: rest | .tag handle suffix :: .anchor name :: rest => do
    return (⟨some name, some (← s.fullTag handle suffix)⟩, { s with tokens := rest })
  | .anchor name :: rest => some (⟨some name, none⟩, { s with tokens := rest })
  | .tag handle suffix :: rest => do
    return (⟨none, some (← s.fullTag handle suffix)⟩, { s with tokens := rest })
  | _ => some ({}, s)

/-- Starts a node: its place among the anchored nodes, if it is one. -/
def start (s : Composer) (anchor : Option String) : Option Nat × Composer :=
  match anchor with
  | some name =>
    let (place, anchors) := s.anchors.start name
    (some place, { s with anchors })
  | none => (none, s)

/-- Completes a node. -/
def finish (s : Composer) (place : Option Nat) (node : Node) : Composer :=
  match place with
  | some place => { s with anchors := s.anchors.finish place node }
  | none => s

mutual

/-- A node. `block` allows block collections, and `dashes` a sequence that is not indented further
than the mapping around it. -/
def node (fuel : Nat) (block dashes : Bool) (s : Composer) : Option (Node × Composer) :=
  match fuel with
  | 0 => none
  | fuel + 1 =>
    match s.tokens with
    | .alias name :: rest => do
      return (.reference (← s.anchors.number? name), { s with tokens := rest })
    | _ => do
      let (properties, s) ← s.properties
      let hasProperties := properties.anchor.isSome || properties.tag.isSome
      let (place, t) := s.start properties.anchor
      let (node, t) ←
        match t.tokens with
        | .scalar style text :: rest =>
          some (.scalar properties.tag style text, { t with tokens := rest })
        | .flowSequenceStart :: rest => do
          let (items, t) ← flowItems fuel true [] { t with tokens := rest }
          some (.sequence items, t)
        | .flowMappingStart :: rest => do
          let (entries, t) ← flowEntries fuel true [] { t with tokens := rest }
          some (.mapping entries, t)
        | .blockEntry :: _ =>
          if dashes then do
            let (items, t) ← dashItems fuel [] t
            some (.sequence items, t)
          else if hasProperties then some (.scalar properties.tag .plain "", t)
          else none
        | .blockSequenceStart :: rest =>
          if block then do
            let (items, t) ← blockItems fuel [] { t with tokens := rest }
            some (.sequence items, t)
          else if hasProperties then some (.scalar properties.tag .plain "", t)
          else none
        | .blockMappingStart :: rest =>
          if block then do
            let (entries, t) ← blockEntries fuel [] { t with tokens := rest }
            some (.mapping entries, t)
          else if hasProperties then some (.scalar properties.tag .plain "", t)
          else none
        | _ => if hasProperties then some (.scalar properties.tag .plain "", t) else none
      return (node, t.finish place node)

/-- A node, or nothing where one of these tokens follows. -/
def nodeUnless (fuel : Nat) (block dashes : Bool) (ends : List Token) (s : Composer) :
    Option (Node × Composer) :=
  match fuel with
  | 0 => none
  | fuel + 1 => if s.isAt ends then some (.missing, s) else node fuel block dashes s

/-- The items of a block sequence, with its end. -/
def blockItems (fuel : Nat) (items : List Node) (s : Composer) : Option (List Node × Composer) :=
  match fuel with
  | 0 => none
  | fuel + 1 =>
    match s.head? with
    | some .blockEntry => do
      let (item, s) ← nodeUnless fuel true false [.blockEntry, .blockEnd] s.drop
      blockItems fuel (items ++ [item]) s
    | some .blockEnd => some (items, s.drop)
    | _ => none

/-- The items of a sequence that has no end of its own. -/
def dashItems (fuel : Nat) (items : List Node) (s : Composer) : Option (List Node × Composer) :=
  match fuel with
  | 0 => none
  | fuel + 1 =>
    match s.head? with
    | some .blockEntry => do
      let (item, s) ← nodeUnless fuel true false [.blockEntry, .key, .value, .blockEnd] s.drop
      dashItems fuel (items ++ [item]) s
    | _ => some (items, s)

/-- The entries of a block mapping, with its end. -/
def blockEntries (fuel : Nat) (entries : List (Node × Node)) (s : Composer) :
    Option (List (Node × Node) × Composer) :=
  match fuel with
  | 0 => none
  | fuel + 1 =>
    match s.head? with
    | some .blockEnd => some (entries, s.drop)
    | some .key => do
      let (key, s) ← nodeUnless fuel true true [.key, .value, .blockEnd] s.drop
      let (value, s) ← blockValue fuel s
      blockEntries fuel (entries ++ [(key, value)]) s
    | some .value => none
    | _ => none

/-- The value of an entry of a block mapping. -/
def blockValue (fuel : Nat) (s : Composer) : Option (Node × Composer) :=
  match fuel with
  | 0 => none
  | fuel + 1 =>
    if s.isAt [.value] then nodeUnless fuel true true [.key, .value, .blockEnd] s.drop
    else some (.missing, s)

/-- The items of a flow sequence, with its end. A key among them is a mapping of one entry. -/
def flowItems (fuel : Nat) (first : Bool) (items : List Node) (s : Composer) :
    Option (List Node × Composer) :=
  match fuel with
  | 0 => none
  | fuel + 1 =>
    if s.isAt [.flowSequenceEnd] then some (items, s.drop)
    else if !first && !s.isAt [.flowEntry] then none
    else
      let s := if first then s else s.drop
      if s.isAt [.flowSequenceEnd] && !first then some (items, s.drop)
      else if s.isAt [.key] then do
        let (key, s) ← flowPairKey fuel s.drop
        let (value, s) ← flowValue fuel [.flowEntry, .flowSequenceEnd] s
        flowItems fuel false (items ++ [.mapping [(key, value)]]) s
      else do
        let (item, s) ← node fuel false false s
        flowItems fuel false (items ++ [item]) s

/-- The key of a mapping of one entry. Where it is missing, the token in its place is passed over. -/
def flowPairKey (fuel : Nat) (s : Composer) : Option (Node × Composer) :=
  match fuel with
  | 0 => none
  | fuel + 1 =>
    if s.isAt [.value, .flowEntry, .flowSequenceEnd] then some (.missing, s.drop)
    else node fuel false false s

/-- The value after a key in a flow collection, or nothing. -/
def flowValue (fuel : Nat) (ends : List Token) (s : Composer) : Option (Node × Composer) :=
  match fuel with
  | 0 => none
  | fuel + 1 =>
    if s.isAt [.value] then nodeUnless fuel false false ends s.drop else some (.missing, s)

/-- The entries of a flow mapping, with its end. -/
def flowEntries (fuel : Nat) (first : Bool) (entries : List (Node × Node)) (s : Composer) :
    Option (List (Node × Node) × Composer) :=
  match fuel with
  | 0 => none
  | fuel + 1 =>
    if s.isAt [.flowMappingEnd] then some (entries, s.drop)
    else if !first && !s.isAt [.flowEntry] then none
    else
      let s := if first then s else s.drop
      if s.isAt [.flowMappingEnd] && !first then some (entries, s.drop)
      else if s.isAt [.key] then do
        let (key, s) ← nodeUnless fuel false false [.value, .flowEntry, .flowMappingEnd] s.drop
        let (value, s) ← flowValue fuel [.flowEntry, .flowMappingEnd] s
        flowEntries fuel false (entries ++ [(key, value)]) s
      else do
        let (key, s) ← node fuel false false s
        flowEntries fuel false (entries ++ [(key, .missing)]) s

end

/-- The handles that are known without a directive. -/
def standardHandles : List (String × String) :=
  [("!", "!"), ("!!", "tag:yaml.org,2002:")]

/-- The directives of a document. `declared` are the handles declared so far. A version may be given
once, and has to be a known one; a handle may be declared once. -/
def directives (versioned : Bool) (declared : List (String × String)) :
    List Token → Option (Bool × List (String × String) × List Token)
  | .version major minor :: rest =>
    if versioned || major ≠ 1 || (minor ≠ 1 && minor ≠ 2) then none
    else (directives true declared rest).map fun (_, result) => (true, result)
  | .tagHandle handle stem :: rest =>
    if (declared.lookup handle).isSome then none
    else (directives versioned (declared ++ [(handle, stem)]) rest).map fun (_, result) =>
      (true, result)
  | rest => some (false, declared ++ standardHandles, rest)

/-- The root of the document. An explicit document may be empty. -/
def root (fuel : Nat) (explicit : Bool) (s : Composer) : Option (Node × Composer) :=
  let isEmpty := match s.head? with
    | some (.version ..) | some (.tagHandle ..) | some .documentStart | some .documentEnd
    | some .streamEnd => true
    | _ => false
  if explicit && isEmpty then some (.missing, s) else node fuel true false s

end Composer

/-- The tree of a text with at most one document. -/
def compose (tokens : List Token) : Option Tree := do
  if tokens = [.streamEnd] then return ⟨none, {}⟩
  else
    let (declares, handles, rest) ← Composer.directives false [] tokens
    let explicit := rest.head? = some .documentStart
    if declares && !explicit then none
    else
      let rest := if explicit then rest.drop 1 else rest
      let fuel := 4 * tokens.length + 8
      let (root, s) ← Composer.root fuel explicit { tokens := rest, handles }
      if (s.tokens.dropWhile (· = .documentEnd)) = [.streamEnd] then return ⟨some root, s.anchors⟩
      else none

/-- The tree of a text, unless the text is malformed. -/
def parse (text : String) : Option Tree := do
  compose (← scan text.toList).toList

end PubSub.Markup
