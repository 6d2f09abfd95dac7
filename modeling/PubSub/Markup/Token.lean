/-!
# Tokens and positions

A marked-up text is cut into tokens. Blocks are made explicit: their starts and ends, which the text
shows by indentation, are tokens as well.

A `Cursor` is the rest of the text together with the number of octets and lines before it. Beside it
stands which characters separate words and which break lines.
-/

namespace PubSub.Markup

/-- How a scalar is written. -/
inductive ScalarStyle
  | plain
  | singleQuoted
  | doubleQuoted
  /-- A block in which lines are kept. -/
  | literal
  /-- A block in which lines are joined. -/
  | folded
deriving DecidableEq, Repr

/-- A piece of a marked-up text. -/
inductive Token
  | version (major minor : Nat)
  /-- Declares that a handle stands for the start of a tag. -/
  | tagHandle (handle : String) (stem : String)
  | documentStart
  | documentEnd
  | blockSequenceStart
  | blockMappingStart
  | blockEnd
  | flowSequenceStart
  | flowSequenceEnd
  | flowMappingStart
  | flowMappingEnd
  | blockEntry
  | flowEntry
  | key
  | value
  | alias (name : String)
  | anchor (name : String)
  | tag (handle suffix : String)
  | scalar (style : ScalarStyle) (text : String)
  | streamEnd
deriving DecidableEq, Repr

/-! ### Characters -/

/-- The character ends a line. -/
def isBreak (c : Char) : Bool :=
  c = '\n' || c = '\r' || c = '\u0085' || c = '\u2028' || c = '\u2029'

/-- The character separates words on a line. -/
def isGap (c : Char) : Bool :=
  c = ' ' || c = '\t'

/-- The character is neither a gap nor a break. -/
def isInk (c : Char) : Bool :=
  !isGap c && !isBreak c

/-- The character may stand in the name of an anchor, a directive or a tag handle. -/
def isNameChar (c : Char) : Bool :=
  c.isAlphanum || c = '_' || c = '-'

/-- The character may occur in a text at all. -/
def isAllowed (c : Char) : Bool :=
  let n := c.toNat
  n = 0x09 || n = 0x0A || n = 0x0D || (0x20 ≤ n && n ≤ 0x7E) || n = 0x85 ||
    (0xA0 ≤ n && n ≤ 0xFFFD) || 0x10000 ≤ n

/-- The number of octets that a text takes in UTF-8. -/
def octetLength : List Char → Nat
  | [] => 0
  | c :: rest => c.utf8Size + octetLength rest

/-! ### Positions -/

/-- What is left to read, and where it stands. -/
structure Cursor where
  rest : List Char
  /-- The number of octets before it. -/
  offset : Nat
  line : Nat
  /-- The number of characters of its line before it. -/
  column : Nat

namespace Cursor

/-- The start of a text. -/
def start (text : List Char) : Cursor := ⟨text, 0, 0, 0⟩

/-- The next character. -/
def head? (c : Cursor) : Option Char := c.rest.head?

/-- The next character is this one. -/
def isAt (c : Cursor) (x : Char) : Bool := c.rest.head? = some x

/-- The character after the next `n` satisfies the test. -/
def testAt (c : Cursor) (n : Nat) (p : Char → Bool) : Bool := c.rest[n]?.any p

/-- No word goes on after the next `n` characters: a gap, a break or the end follows them. -/
def endsAt (c : Cursor) (n : Nat) : Bool := !c.testAt n isInk

/-- Past `n` characters of the line. -/
def skip (c : Cursor) (n : Nat) : Cursor :=
  ⟨c.rest.drop n, c.offset + octetLength (c.rest.take n), c.line, c.column + n⟩

/-- The next line break as it counts in a text, and the cursor after it; nothing at the end. -/
def takeBreak (c : Cursor) : List Char × Cursor :=
  match c.rest with
  | '\r' :: '\n' :: rest => (['\n'], ⟨rest, c.offset + 2, c.line + 1, 0⟩)
  | x :: rest =>
    if isBreak x then
      let text := if x = '\u2028' || x = '\u2029' then x else '\n'
      ([text], ⟨rest, c.offset + x.utf8Size, c.line + 1, 0⟩)
    else ([], c)
  | [] => ([], c)

/-- The longest run of characters that satisfy the test, and the cursor after it. The test has to
refuse line breaks. -/
def takeWhile (c : Cursor) (p : Char → Bool) : List Char × Cursor :=
  let run := c.rest.takeWhile p
  (run, c.skip run.length)

/-- Past the gaps. -/
def skipGaps (c : Cursor) : Cursor := (c.takeWhile isGap).2

/-- To the end of the line. -/
def skipLine (c : Cursor) : Cursor := (c.takeWhile (!isBreak ·)).2

/-- Past a comment, if there is one. -/
def skipComment (c : Cursor) : Cursor := if c.isAt '#' then c.skipLine else c

/-- The line is over: a break or the end follows. -/
def atLineEnd (c : Cursor) : Bool := !c.testAt 0 (!isBreak ·)

/-- A marker between documents stands here, at the start of a line. -/
def atDocumentMarker (c : Cursor) : Bool :=
  c.column = 0 && c.endsAt 3 &&
    (c.rest.take 3 = ['-', '-', '-'] || c.rest.take 3 = ['.', '.', '.'])

theorem length_skip (c : Cursor) (n : Nat) : (c.skip n).rest.length = c.rest.length - n :=
  List.length_drop

end Cursor

end PubSub.Markup
