import PubSub.Markup.Token
import PubSub.Text.Numeral

/-!
# Scalars

The gaps and line breaks between two words of a scalar are folded: a single line break counts as a
space, and of several the first one is dropped; gaps beside a line break do not count.

A plain scalar, without quotes, goes on, over several lines if they are indented, until an indicator
ends it. Between single quotes only the quote itself is special and is written twice. Between double
quotes a backslash introduces an escape, or joins two lines.
-/

namespace PubSub.Markup

/-! ### Folding lines -/

/-- What lies between two words. -/
structure Gap where
  /-- The gaps on the line of the first word, as long as no break follows. -/
  spaces : List Char := []
  /-- There was a line break. -/
  broken : Bool := false
  firstBreak : List Char := []
  laterBreaks : List Char := []

namespace Gap

/-- No gap. -/
def empty : Gap := {}

/-- The text for which a break followed by further ones stands. -/
def foldBreaks (firstBreak laterBreaks : List Char) : List Char :=
  match firstBreak with
  | '\n' :: _ => if laterBreaks.isEmpty then [' '] else laterBreaks
  | _ => firstBreak ++ laterBreaks

/-- The text for which the gap stands. -/
def folded (gap : Gap) : List Char :=
  if gap.broken then foldBreaks gap.firstBreak gap.laterBreaks else gap.spaces

/-- Reads gaps and breaks, after those in `gap`. A tab that indents a line by less than `limit` is an
error. -/
def read (limit : Nat) (gap : Gap) (c : Cursor) : Option (Gap × Cursor) :=
  match _h : c.rest with
  | [] => some (gap, c)
  | x :: _ =>
    if isGap x then
      if gap.broken && x = '\t' && c.column < limit then none
      else read limit (if gap.broken then gap else { gap with spaces := gap.spaces ++ [x] }) (c.skip 1)
    else if isBreak x then
      let (text, next) := c.takeBreak
      if next.rest.length < c.rest.length then
        read limit
          (if gap.broken then { gap with laterBreaks := gap.laterBreaks ++ text }
            else { gap with spaces := [], broken := true, firstBreak := text })
          next
      else none
    else some (gap, c)
termination_by c.rest.length
decreasing_by
  · rw [Cursor.length_skip, _h]; simp
  · assumption

end Gap

/-! ### Plain scalars -/

namespace Plain

/-- The character is an indicator inside flow collections. -/
def isFlowIndicator (x : Char) : Bool :=
  x = ',' || x = '[' || x = ']' || x = '{' || x = '}'

/-- The longest run of characters of a plain scalar. In a flow collection a colon may not stand
before an indicator. -/
def word (flow : Bool) : List Char → Option (List Char)
  | [] => some []
  | x :: rest =>
    if !isInk x then some []
    else if flow && x = ':' && rest.head?.any (fun y => isFlowIndicator y || y = '?') then none
    else if x = ':' && !rest.head?.any isInk then some []
    else if flow && isFlowIndicator x then some []
    else (word flow rest).map (x :: ·)

/-- Reads on after a text and a gap. `indent` is the least indentation of further lines. The result
tells whether the scalar is followed by a line break. -/
def scanFrom (flow : Bool) (indent : Nat) (text : List Char) (gap : Gap) (c : Cursor) :
    Option (List Char × Bool × Cursor) :=
  if c.atDocumentMarker || c.isAt '#' then some (text, gap.broken, c)
  else
    match word flow c.rest with
    | none => none
    | some w =>
      let next := c.skip w.length
      let text' := if w.isEmpty then text else text ++ gap.folded ++ w
      let broken := if w.isEmpty then gap.broken else false
      if next.testAt 0 (!isInk ·) then
        match Gap.read indent .empty next with
        | none => none
        | some (gap', after) =>
          if !flow && after.column < indent then some (text', gap'.broken || broken, after)
          else if after.rest.length < c.rest.length then scanFrom flow indent text' gap' after
          else none
      else some (text', broken, next)
termination_by c.rest.length

/-- The plain scalar at the cursor, whether it is followed by a line break, and what comes then. -/
def scan (flow : Bool) (indent : Nat) (c : Cursor) : Option (Token × Bool × Cursor) := do
  let (text, broken, next) ← scanFrom flow indent [] .empty c
  return (.scalar .plain (String.ofList text), broken, next)

end Plain

/-! ### Quoted scalars -/

namespace Quoted

/-- The character for a hexadecimal number, if there is one. -/
def charOfHex? (digits : List Char) : Option Char := do
  let n ← Text.numeral? 16 digits
  if h : n.isValidChar then some (Char.ofNatAux n h) else none

/-- The character of an escape whose backslash is followed by this text, and the number of characters
that the escape takes after the backslash. -/
def escape? : List Char → Option (Char × Nat)
  | '0' :: _ => some ('\x00', 1)
  | 'a' :: _ => some ('\x07', 1)
  | 'b' :: _ => some ('\x08', 1)
  | 't' :: _ | '\t' :: _ => some ('\t', 1)
  | 'n' :: _ => some ('\n', 1)
  | 'v' :: _ => some ('\x0B', 1)
  | 'f' :: _ => some ('\x0C', 1)
  | 'r' :: _ => some ('\r', 1)
  | 'e' :: _ => some ('\x1B', 1)
  | ' ' :: _ => some (' ', 1)
  | '"' :: _ => some ('"', 1)
  | '/' :: _ => some ('/', 1)
  | '\\' :: _ => some ('\\', 1)
  | 'N' :: _ => some ('\u0085', 1)
  | '_' :: _ => some ('\u00A0', 1)
  | 'L' :: _ => some ('\u2028', 1)
  | 'P' :: _ => some ('\u2029', 1)
  | 'x' :: rest => hex 2 rest
  | 'u' :: rest => hex 4 rest
  | 'U' :: rest => hex 8 rest
  | _ => none
where
  hex (n : Nat) (rest : List Char) : Option (Char × Nat) :=
    if (rest.take n).length = n then (charOfHex? (rest.take n)).map (·, n + 1) else none

/-- The characters up to the next gap, break or closing quote. The result tells whether the run ends
with a line break that was escaped. -/
def run (single : Bool) (text : List Char) (c : Cursor) : Option (List Char × Bool × Cursor) :=
  match _h : c.rest with
  | [] => some (text, false, c)
  | x :: rest =>
    if !isInk x then some (text, false, c)
    else if single then
      if x = '\'' then
        if rest.head? = some '\'' then run single (text ++ ['\'']) (c.skip 2)
        else some (text, false, c)
      else run single (text ++ [x]) (c.skip 1)
    else if x = '"' then some (text, false, c)
    else if x = '\\' then
      if rest.head?.any isBreak then some (text, true, (c.skip 1).takeBreak.2)
      else match escape? rest with
        | some (y, n) => run single (text ++ [y]) (c.skip (n + 1))
        | none => none
    else run single (text ++ [x]) (c.skip 1)
termination_by c.rest.length
decreasing_by all_goals (rw [Cursor.length_skip, _h, List.length_cons]; omega)

/-- Reads on after a text, up to and including the closing quote. -/
def scanFrom (single : Bool) (text : List Char) (c : Cursor) : Option (List Char × Cursor) :=
  if c.atDocumentMarker then none
  else
    match run single text c with
    | none => none
    | some (text', escaped, next) =>
      if next.isAt (if single then '\'' else '"') then some (text', next.skip 1)
      else
        match Gap.read 0 { broken := escaped } next with
        | none => none
        | some (gap, after) =>
          if after.rest.length < c.rest.length then scanFrom single (text' ++ gap.folded) after
          else none
termination_by c.rest.length

/-- The quoted scalar whose opening quote stands at the cursor. -/
def scan (single : Bool) (c : Cursor) : Option (Token × Cursor) := do
  let (text, next) ← scanFrom single [] (c.skip 1)
  let style := if single then ScalarStyle.singleQuoted else .doubleQuoted
  return (.scalar style (String.ofList text), next)

end Quoted

end PubSub.Markup
