import PubSub.Text.CaseTable
import PubSub.Text.PrintTable

/-!
# Text by the character classes of the Unicode standard

A character class is a list of inclusive ranges of code points, and `covers` is membership in it.
Three operations on texts rest on such classes.

* White space is dropped at both ends by `trim`. `fields` reads a separated list: it splits at the
  separator, trims each field and leaves out the empty ones.
* `lower` maps to lower case: character by character, except that `İ` becomes two characters and that
  a capital sigma at the end of a word becomes the final form `ς`.
* `quote` writes a text between double quotes on one line: quotes, backslashes and the common controls
  get a backslash, and a character without a printed form is shown by its code point.
-/

namespace PubSub.Text

/-- Some range of the list holds the code point of `c`. -/
def covers (ranges : List (Nat × Nat)) (c : Char) : Bool :=
  ranges.any fun r => r.1 ≤ c.toNat && c.toNat ≤ r.2

/-! ### Blank characters and trimmed text -/

/-- The ranges of the property `White_Space`. -/
def blankRanges : List (Nat × Nat) :=
  [(0x09, 0x0D), (0x20, 0x20), (0x85, 0x85), (0xA0, 0xA0), (0x1680, 0x1680), (0x2000, 0x200A),
    (0x2028, 0x2029), (0x202F, 0x202F), (0x205F, 0x205F), (0x3000, 0x3000)]

/-- The character is white space. -/
def isBlank (c : Char) : Bool :=
  covers blankRanges c

/-- The text without the blanks at its start. -/
def trimStart (cs : List Char) : List Char :=
  cs.dropWhile isBlank

/-- The text without the blanks at its end. -/
def trimEnd (cs : List Char) : List Char :=
  (cs.reverse.dropWhile isBlank).reverse

/-- The text without the blanks at either end. -/
def trim (cs : List Char) : List Char :=
  trimEnd (trimStart cs)

/-- The string without the blanks at either end. -/
def trimmed (s : String) : String :=
  String.ofList (trim s.toList)

/-- The string holds nothing but blanks. -/
def isBlankText (s : String) : Bool :=
  s.toList.all isBlank

/-- The nonempty trimmed fields of a list whose items are separated by `separator`. -/
def fields (separator : Char) (cs : List Char) : List (List Char) :=
  ((cs.splitOn separator).map trim).filter (!·.isEmpty)

@[simp] theorem trim_nil : trim [] = [] := rfl

/-! ### Lower-case text -/

/-- The lower-case form of a character taken on its own. -/
def lowerChar (c : Char) : List Char :=
  if c = 'İ' then ['i', '\u0307']
  else match lowerRuns.find? (·.covers c.toNat) with
    | some run => [Char.ofNat (run.target c.toNat)]
    | none => [c]

/-- The next character, looking through those without a case of their own, is a letter with case. -/
def meetsCased (cs : List Char) : Bool :=
  match cs.dropWhile (covers caseIgnorableRanges) with
  | c :: _ => covers casedRanges c
  | [] => false

/-- The lower-case form of the rest of a text whose earlier characters, last first, are `before`.
A capital sigma is final when a letter stands before it and none after it. -/
def lowerAfter (before : List Char) : List Char → List Char
  | [] => []
  | c :: rest =>
    (if c = 'Σ' then
      if meetsCased before && !meetsCased rest then ['ς'] else ['σ']
    else lowerChar c) ++ lowerAfter (c :: before) rest

/-- The lower-case form of a string. -/
def lower (s : String) : String :=
  String.ofList (lowerAfter [] s.toList)

/-! ### Quoted text -/

/-- A character as it stands inside a quoted text. -/
def quoteChar (c : Char) : List Char :=
  match c with
  | '"' => ['\\', '"']
  | '\\' => ['\\', '\\']
  | '\n' => ['\\', 'n']
  | '\r' => ['\\', 'r']
  | '\t' => ['\\', 't']
  | '\x00' => ['\\', '0']
  | c =>
    if covers unprintableRanges c then ['\\', 'u', '\x7b'] ++ Nat.toDigits 16 c.toNat ++ ['\x7d']
    else [c]

/-- The text between double quotes. -/
def quote (s : String) : String :=
  String.ofList ('"' :: s.toList.flatMap quoteChar ++ ['"'])

end PubSub.Text
