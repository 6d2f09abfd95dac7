import PubSub.Markup.Token.Block
import PubSub.Markup.Token.Name
import PubSub.Markup.Token.Scalar

/-!
# From text to tokens

`scan` cuts a text into tokens. Two things make this more than splitting: the indentation of a line
opens and closes blocks, and a word turns out to be a key only when the colon after it is met. For
the latter the place of a possible key is remembered, one for each level of flow collections, and its
token is inserted afterwards.
-/

namespace PubSub.Markup

/-- A place where a key may turn out to start. -/
structure PossibleKey where
  /-- The number of tokens before it. -/
  position : Nat
  /-- It stands where only a key of the current block may. -/
  required : Bool
  offset : Nat
  line : Nat
  column : Nat

/-- The tokens so far, and what decides on the next ones. -/
structure Scanner where
  cursor : Cursor
  tokens : Array Token := #[]
  /-- The indentation of the current block; minus one outside of all blocks. -/
  indent : Int := -1
  /-- The indentations of the surrounding blocks, innermost first. -/
  outer : List Int := []
  flowLevel : Nat := 0
  /-- A key may start here without an indicator. -/
  keyAllowed : Bool := true
  /-- The possible keys of the flow levels, innermost first. -/
  keys : List (Option PossibleKey) := [none]

namespace Scanner

def push (s : Scanner) (token : Token) : Scanner :=
  { s with tokens := s.tokens.push token }

def insert (s : Scanner) (position : Nat) (token : Token) : Scanner :=
  { s with tokens := s.tokens.insertIdxIfInBounds position token }

def allowKey (s : Scanner) (allowed : Bool) : Scanner := { s with keyAllowed := allowed }

/-- Past `n` characters. -/
def skip (s : Scanner) (n : Nat) : Scanner := { s with cursor := s.cursor.skip n }

/-- Past the gaps and the comment of a line. Tabs count as gaps where no key may start. -/
def lineGap (s : Scanner) : Cursor :=
  let c := if s.cursor.column = 0 && s.cursor.isAt '\ufeff' then s.cursor.skip 1 else s.cursor
  let tabs := 0 < s.flowLevel || !s.keyAllowed
  (c.takeWhile fun x => x = ' ' || (tabs && x = '\t')).2.skipComment

/-- Past gaps, comments and line breaks. A line break outside of flow collections allows a key. -/
def toNextToken (s : Scanner) : Scanner :=
  if s.lineGap.testAt 0 isBreak then
    if s.lineGap.takeBreak.2.rest.length < s.cursor.rest.length then
      toNextToken
        { s with cursor := s.lineGap.takeBreak.2, keyAllowed := s.keyAllowed || s.flowLevel = 0 }
    else s
  else { s with cursor := s.lineGap }
termination_by s.cursor.rest.length

/-- A possible key has to end on its line and within 1024 octets. -/
def isStale (c : Cursor) (key : PossibleKey) : Bool :=
  key.line < c.line || key.offset + 1024 < c.offset

/-- Gives up possible keys that went on for too long; it is an error if one was required. -/
def dropStaleKeys (s : Scanner) : Option Scanner :=
  if s.keys.any (·.any fun key => key.required && isStale s.cursor key) then none
  else some { s with keys := s.keys.map (·.filter (!isStale s.cursor ·)) }

/-- Gives up the possible key of this level; it is an error if it was required. -/
def dropKey (s : Scanner) : Option Scanner :=
  match s.keys with
  | some key :: outer => if key.required then none else some { s with keys := none :: outer }
  | _ => some s

/-- Remembers that a key may start here. -/
def saveKey (s : Scanner) : Option Scanner :=
  if s.keyAllowed then do
    let s ← s.dropKey
    let key : PossibleKey :=
      { position := s.tokens.size
        required := s.flowLevel = 0 && s.indent = s.cursor.column
        offset := s.cursor.offset
        line := s.cursor.line
        column := s.cursor.column }
    return { s with keys := some key :: s.keys.drop 1 }
  else some s

/-- Opens a block at a column that lies further in, before the token at `position`. -/
def openBlock (s : Scanner) (column position : Nat) (token : Token) : Scanner :=
  if s.flowLevel = 0 && s.indent < column then
    { s.insert position token with indent := column, outer := s.indent :: s.outer }
  else s

/-- Closes the blocks that lie further in than a column. -/
def closeBlocks (column : Int) (s : Scanner) : Scanner :=
  let closed := ((s.indent :: s.outer).takeWhile (column < ·)).length
  if s.flowLevel = 0 && 0 < closed then
    let left := (s.indent :: s.outer).drop closed
    { s with
      tokens := s.tokens ++ Array.replicate closed Token.blockEnd
      indent := left.headD (-1)
      outer := left.drop 1 }
  else s

/-- Reads a directive or a marker between documents, which closes all blocks. -/
def fetchOutside (s : Scanner) (read : Cursor → Option (Token × Cursor)) : Option Scanner := do
  let s ← (s.closeBlocks (-1)).dropKey
  let (token, next) ← read s.cursor
  return { s with cursor := next, keyAllowed := false }.push token

/-- The opening bracket of a flow collection. -/
def fetchFlowStart (s : Scanner) (token : Token) : Option Scanner := do
  let s ← s.saveKey
  let inner := { s with keys := none :: s.keys, flowLevel := s.flowLevel + 1, keyAllowed := true }
  return (inner.push token).skip 1

/-- The closing bracket of a flow collection. -/
def fetchFlowEnd (s : Scanner) (token : Token) : Option Scanner := do
  let s ← s.dropKey
  let s :=
    if 0 < s.flowLevel then { s with keys := s.keys.drop 1, flowLevel := s.flowLevel - 1 } else s
  return ((s.allowKey false).push token).skip 1

/-- A comma in a flow collection. -/
def fetchFlowEntry (s : Scanner) : Option Scanner := do
  let s ← s.dropKey
  return ((s.allowKey true).push .flowEntry).skip 1

/-- The dash before an item of a block sequence. -/
def fetchBlockEntry (s : Scanner) : Option Scanner := do
  if s.flowLevel = 0 && !s.keyAllowed then none
  else
    let s := s.openBlock s.cursor.column s.tokens.size .blockSequenceStart
    let s ← s.dropKey
    return ((s.allowKey true).push .blockEntry).skip 1

/-- The question mark before a key. -/
def fetchKey (s : Scanner) : Option Scanner := do
  if s.flowLevel = 0 && !s.keyAllowed then none
  else
    let s := s.openBlock s.cursor.column s.tokens.size .blockMappingStart
    let s ← s.dropKey
    return ((s.allowKey (s.flowLevel = 0)).push .key).skip 1

/-- The colon before a value, which may turn a word into a key. -/
def fetchValue (s : Scanner) : Option Scanner :=
  match s.keys with
  | some key :: outer =>
    let s := s.insert key.position .key
    let s := s.openBlock key.column key.position .blockMappingStart
    some (({ s with keys := none :: outer, keyAllowed := false }.push .value).skip 1)
  | _ =>
    if s.flowLevel = 0 && !s.keyAllowed then none
    else
      let s := s.openBlock s.cursor.column s.tokens.size .blockMappingStart
      some (((s.allowKey (s.flowLevel = 0)).push .value).skip 1)

/-- A token with which a key may start. -/
def fetchWord (s : Scanner) (read : Cursor → Option (Token × Cursor)) : Option Scanner := do
  let s ← s.saveKey
  let (token, next) ← read s.cursor
  return { s with cursor := next, keyAllowed := false }.push token

/-- A plain scalar. A line break after it allows another key. -/
def fetchPlain (s : Scanner) : Option Scanner := do
  let s ← s.saveKey
  let (token, broken, next) ← Plain.scan (0 < s.flowLevel) (s.indent + 1).toNat s.cursor
  return { s with cursor := next, keyAllowed := broken }.push token

/-- A block scalar. -/
def fetchBlock (s : Scanner) (style : ScalarStyle) : Option Scanner := do
  let s ← s.dropKey
  let (token, next) ← Block.scan style s.indent s.cursor
  return { s with cursor := next, keyAllowed := true }.push token

/-- The end of the text, which closes all blocks. -/
def fetchEnd (s : Scanner) : Option Scanner := do
  let s ← (s.closeBlocks (-1)).dropKey
  return (s.allowKey false).push .streamEnd

/-- The character is an indicator with which no plain scalar starts. -/
def isIndicator (x : Char) : Bool :=
  "-?:,[]{}#&*!|>'\"%@\x60".toList.contains x

/-- A plain scalar may start here. -/
def startsPlain (s : Scanner) (x : Char) : Bool :=
  (isInk x && !isIndicator x) || (x = '-' && !s.cursor.testAt 1 isGap) ||
    (s.flowLevel = 0 && (x = '?' || x = ':') && !s.cursor.endsAt 1)

/-- The token that starts with this character. -/
def fetchAt (s : Scanner) (x : Char) : Option Scanner :=
  let c := s.cursor
  let inFlow := 0 < s.flowLevel
  if c.column = 0 && x = '%' then s.fetchOutside scanDirective
  else if c.atDocumentMarker then
    let token := if x = '-' then Token.documentStart else .documentEnd
    s.fetchOutside fun c => some (token, c.skip 3)
  else if x = '[' then s.fetchFlowStart .flowSequenceStart
  else if x = '{' then s.fetchFlowStart .flowMappingStart
  else if x = ']' then s.fetchFlowEnd .flowSequenceEnd
  else if x = '}' then s.fetchFlowEnd .flowMappingEnd
  else if x = ',' then s.fetchFlowEntry
  else if x = '-' && c.endsAt 1 then s.fetchBlockEntry
  else if x = '?' && (inFlow || c.endsAt 1) then s.fetchKey
  else if x = ':' && (inFlow || c.endsAt 1) then s.fetchValue
  else if x = '*' then s.fetchWord fun c => (scanAnchor c).map fun (n, c) => (.alias n, c)
  else if x = '&' then s.fetchWord fun c => (scanAnchor c).map fun (n, c) => (.anchor n, c)
  else if x = '!' then s.fetchWord (scanTag inFlow)
  else if x = '|' && !inFlow then s.fetchBlock .literal
  else if x = '>' && !inFlow then s.fetchBlock .folded
  else if x = '\'' then s.fetchWord (Quoted.scan true)
  else if x = '"' then s.fetchWord (Quoted.scan false)
  else if s.startsPlain x then s.fetchPlain
  else none

/-- Reads all tokens that are left. -/
def run (s : Scanner) : Option (Array Token) := do
  let s' ← s.toNextToken.dropStaleKeys
  match s'.cursor.head? with
  | none => return (← (s'.closeBlocks s'.cursor.column).fetchEnd).tokens
  | some x =>
    let next ← (s'.closeBlocks s'.cursor.column).fetchAt x
    if next.cursor.rest.length < s.cursor.rest.length then run next else none
termination_by s.cursor.rest.length

end Scanner

/-- The tokens of a text, unless it is malformed. -/
def scan (text : List Char) : Option (Array Token) :=
  if text.all isAllowed then ({ cursor := .start text } : Scanner).run else none

end PubSub.Markup
