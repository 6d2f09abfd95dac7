import PubSub.Markup.Token
import PubSub.Text.Numeral

/-!
# Anchors, tags and directives

Tokens that are made of names: anchors and aliases, tags with or without a handle, and the
directives at the start of a document.
-/

namespace PubSub.Markup

/-- The name of an anchor or an alias, whose indicator stands at the cursor. -/
def scanAnchor (c : Cursor) : Option (String × Cursor) :=
  let (name, next) := (c.skip 1).takeWhile isNameChar
  let ends := next.endsAt 0 || next.testAt 0 fun x =>
    x = '?' || x = ':' || x = ',' || x = ']' || x = '}' || x = '%' || x = '@' || x = '\x60'
  if name.isEmpty || !ends then none else some (String.ofList name, next)

/-- The character may stand in a tag; commas and brackets only in one that is written in full. -/
def isTagChar (full : Bool) (x : Char) : Bool :=
  isNameChar x || x = ';' || x = '/' || x = '?' || x = ':' || x = '@' || x = '&' || x = '=' ||
    x = '+' || x = '$' || x = '.' || x = '%' || x = '!' || x = '~' || x = '*' || x = '\'' ||
    x = '(' || x = ')' || (full && (x = ',' || x = '[' || x = ']'))

/-- The octet of an escape that stands at the start of the text. -/
def escapedOctet? : List Char → Option Nat
  | '%' :: a :: b :: _ => do return 16 * (← Text.digitValue? 16 a) + (← Text.digitValue? 16 b)
  | _ => none

/-- The number of octets of a character, by its first one. -/
def octetCount? (octet : Nat) : Option Nat :=
  if octet < 0x80 then some 1
  else if 0xC0 ≤ octet ∧ octet < 0xE0 then some 2
  else if 0xE0 ≤ octet ∧ octet < 0xF0 then some 3
  else if 0xF0 ≤ octet ∧ octet < 0xF8 then some 4
  else none

/-- Escaped octets that go on with a character. -/
def continues : Nat → List Char → Bool
  | 0, _ => true
  | n + 1, cs =>
    match escapedOctet? cs with
    | some octet => 0x80 ≤ octet && octet < 0xC0 && continues n (cs.drop 3)
    | none => false

/-- The character written by escapes at the start of the text, and the number of escapes. One of
several octets stands for a character that no known tag holds. -/
def escapedChar? (cs : List Char) : Option (Char × Nat) := do
  let octet ← escapedOctet? cs
  let count ← octetCount? octet
  if continues (count - 1) (cs.drop 3) then
    return (if octet < 0x80 then Char.ofNat octet else '\ufffd', count)
  else none

/-- The characters of a tag, and the cursor after them. -/
def tagText (full : Bool) (text : List Char) (c : Cursor) : Option (List Char × Cursor) :=
  match _h : c.rest with
  | [] => some (text, c)
  | x :: rest =>
    if !isTagChar full x then some (text, c)
    else if x = '%' then
      match escapedChar? (x :: rest) with
      | some (y, count) =>
        let next := c.skip (3 * count)
        if next.rest.length < c.rest.length then tagText full (text ++ [y]) next else none
      | none => none
    else tagText full (text ++ [x]) (c.skip 1)
termination_by c.rest.length
decreasing_by
  · assumption
  · rw [Cursor.length_skip, _h]; simp

/-- A handle: an exclamation mark, and if more of the name follows, perhaps another one. -/
def tagHandle (c : Cursor) : Option (List Char × Cursor) :=
  if c.isAt '!' then
    let (name, next) := (c.skip 1).takeWhile isNameChar
    if next.isAt '!' then some ('!' :: name ++ ['!'], next.skip 1) else some ('!' :: name, next)
  else none

/-- The tag whose exclamation mark stands at the cursor. A tag in full has no handle, and nor has an
exclamation mark alone, or before the character that ends all texts of tags. -/
def scanTag (flow : Bool) (c : Cursor) : Option (Token × Cursor) := do
  let (handle, suffix, next) ←
    if c.testAt 1 (· = '<') then do
      let (suffix, next) ← tagText true [] (c.skip 2)
      if suffix.isEmpty || !next.isAt '>' then none else some ([], suffix, next.skip 1)
    else do
      let (handle, next) ← tagHandle c
      if 1 < handle.length && handle.getLast? = some '!' then
        let (suffix, next) ← tagText false [] next
        if suffix.isEmpty then none else some (handle, suffix, next)
      else
        let (suffix, next) ← tagText false (handle.drop 1) next
        if suffix.head?.all (· = '\x00') then some ([], ['!'], next)
        else some (['!'], suffix, next)
  if next.endsAt 0 || (flow && next.isAt ',') then
    return (.tag (String.ofList handle) (String.ofList suffix), next)
  else none

/-- A number of at most nine digits. -/
def versionNumber (c : Cursor) : Option (Nat × Cursor) :=
  let (digits, next) := c.takeWhile Char.isDigit
  if digits.isEmpty || 9 < digits.length then none
  else some (digits.foldl (fun n d => 10 * n + (d.toNat - '0'.toNat)) 0, next)

/-- The version that a directive declares. -/
def versionDirective (c : Cursor) : Option (Token × Cursor) := do
  let (major, next) ← versionNumber c.skipGaps
  if !next.isAt '.' then none
  else
    let (minor, next) ← versionNumber (next.skip 1)
    return (.version major minor, next)

/-- The handle that a directive declares. -/
def tagDirective (c : Cursor) : Option (Token × Cursor) := do
  let (handle, next) ← tagHandle c.skipGaps
  if handle ≠ ['!'] && (handle.length < 2 || handle.getLast? ≠ some '!') then none
  else if !next.testAt 0 isGap then none
  else
    let (stem, next) ← tagText true [] next.skipGaps
    if stem.isEmpty || !next.endsAt 0 then none
    else return (.tagHandle (String.ofList handle) (String.ofList stem), next)

/-- The directive whose percent sign stands at the cursor, with the rest of its line. -/
def scanDirective (c : Cursor) : Option (Token × Cursor) := do
  let (name, next) := (c.skip 1).takeWhile isNameChar
  if name.isEmpty || !next.endsAt 0 then none
  else
    let (token, next) ←
      if name = "YAML".toList then versionDirective next
      else if name = "TAG".toList then tagDirective next
      else none
    let next := next.skipGaps.skipComment
    if next.atLineEnd then return (token, next.takeBreak.2) else none

end PubSub.Markup
