import PubSub.Markup.Token

/-!
# Block scalars

A block scalar is an indented text after a header. Its first line fixes the indentation unless the
header does. A literal block keeps its lines, a folded one joins lines that are not indented further;
the header also says which of the line breaks at the end count.
-/

namespace PubSub.Markup.Block

/-- Which line breaks at the end of a block count. -/
inductive Chomping
  | strip
  /-- The break of the last line. -/
  | clip
  | keep
deriving DecidableEq

/-- What the header of a block says. -/
structure Header where
  chomping : Chomping := .clip
  /-- The indentation relative to the surrounding block. -/
  increment : Option Nat := none

/-- The chomping that an indicator asks for. -/
def chomping? : List Char → Option Chomping
  | '+' :: _ => some .keep
  | '-' :: _ => some .strip
  | _ => none

/-- The indentation that an indicator asks for. Zero is refused. -/
def increment? : List Char → Option (Option Nat)
  | x :: _ =>
    if x = '0' then none
    else if x.isDigit then some (some (x.toNat - '0'.toNat))
    else some none
  | [] => some none

/-- The indicators of a header, in either order, and the cursor after them. -/
def header (c : Cursor) : Option (Header × Cursor) :=
  match chomping? c.rest with
  | some chomping => do
    let increment ← increment? (c.skip 1).rest
    return (⟨chomping, increment⟩, c.skip (if increment.isSome then 2 else 1))
  | none => do
    match ← increment? c.rest with
    | none => return ({}, c)
    | some n =>
      match chomping? (c.skip 1).rest with
      | some chomping => return (⟨chomping, some n⟩, c.skip 2)
      | none => return (⟨.clip, some n⟩, c.skip 1)

/-- Past the indentation of a line: spaces, up to the column where the block begins if that is
known. -/
def skipIndent (indent : Option Nat) (c : Cursor) : Cursor :=
  let spaces := (c.rest.takeWhile (· = ' ')).length
  match indent with
  | none => c.skip spaces
  | some indent => c.skip (min spaces (indent - c.column))

/-- Reads empty lines after `breaks`. The result holds the greatest indentation met. A tab in the
place of indentation is an error. -/
def emptyLines (indent : Option Nat) (breaks : List Char) (deepest : Nat) (c : Cursor) :
    Option (List Char × Nat × Cursor) :=
  let next := skipIndent indent c
  let deepest := max deepest next.column
  if indent.all (next.column < ·) && next.isAt '\t' then none
  else if next.testAt 0 isBreak then
    let (text, after) := next.takeBreak
    if after.rest.length < c.rest.length then emptyLines indent (breaks ++ text) deepest after
    else none
  else some (breaks, deepest, next)
termination_by c.rest.length

/-- The text that joins two lines of a folded block: both have to start at the block's indentation. -/
def joint (folds spaced : Bool) (lineBreak emptyBreaks : List Char) : List Char :=
  if folds && lineBreak.head? = some '\n' && !spaced then
    if emptyBreaks.isEmpty then [' '] else emptyBreaks
  else lineBreak ++ emptyBreaks

/-- Reads the lines of the block. `spaced` says whether the line before started with a gap,
`lineBreak` is the break that ended it, and `emptyBreaks` those of the empty lines after it. -/
def lines (folds : Bool) (indent : Nat) (text : List Char) (spaced : Bool)
    (lineBreak emptyBreaks : List Char) (c : Cursor) :
    Option (List Char × List Char × List Char × Cursor) :=
  if c.column = indent && !c.rest.isEmpty then
    let starts := c.testAt 0 isGap
    let text := text ++ joint folds (spaced || starts) lineBreak emptyBreaks
    let (line, next) := c.takeWhile (!isBreak ·)
    let (lineBreak, next) := next.takeBreak
    match emptyLines (some indent) [] 0 next with
    | none => none
    | some (emptyBreaks, _, after) =>
      if after.rest.length < c.rest.length then
        lines folds indent (text ++ line) starts lineBreak emptyBreaks after
      else none
  else some (text, lineBreak, emptyBreaks, c)
termination_by c.rest.length

/-- The block scalar whose indicator stands at the cursor, in a block of indentation `parent`; minus
one is the indentation of the text as a whole. -/
def scan (style : ScalarStyle) (parent : Int) (c : Cursor) : Option (Token × Cursor) := do
  let (header, next) ← header (c.skip 1)
  let next := next.skipGaps.skipComment
  if !next.atLineEnd then none
  else
    let next := next.takeBreak.2
    let given := header.increment.map fun n => if 0 ≤ parent then parent.toNat + n else n
    let (emptyBreaks, deepest, next) ← emptyLines given [] 0 next
    let indent := given.getD (max deepest (max (parent + 1).toNat 1))
    let (text, lineBreak, emptyBreaks, next) ←
      lines (style = .folded) indent [] false [] emptyBreaks next
    let text := match header.chomping with
      | .strip => text
      | .clip => text ++ lineBreak
      | .keep => text ++ lineBreak ++ emptyBreaks
    return (.scalar style (String.ofList text), next)

end PubSub.Markup.Block
