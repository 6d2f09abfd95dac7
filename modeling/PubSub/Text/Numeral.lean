/-!
# Numerals and hexadecimal text

`numeral? radix` reads a nonempty run of digits of a radix up to sixteen, `unsigned? limit` a decimal
numeral with an optional plus sign whose value is at most `limit`.

Bytes are written as pairs of hexadecimal digits: `hexBytes` writes them in lower case, and `unhex?`
reads digits of either case. Reading what was written gives the bytes back (`unhex?_hexBytes`).
-/

namespace PubSub.Text

/-! ### Numerals -/

/-- The value of a digit, if it is one in this radix. -/
def digitValue? (radix : Nat) (c : Char) : Option Nat :=
  let value :=
    if '0' ≤ c ∧ c ≤ '9' then some (c.toNat - '0'.toNat)
    else if 'a' ≤ c ∧ c ≤ 'z' then some (c.toNat - 'a'.toNat + 10)
    else if 'A' ≤ c ∧ c ≤ 'Z' then some (c.toNat - 'A'.toNat + 10)
    else none
  value.filter (· < radix)

/-- The value of a run of digits that follows digits worth `acc`. -/
def digitsFrom? (radix : Nat) (acc : Nat) : List Char → Option Nat
  | [] => some acc
  | c :: rest => do
    let d ← digitValue? radix c
    digitsFrom? radix (radix * acc + d) rest

/-- The value of a nonempty run of digits. -/
def numeral? (radix : Nat) (cs : List Char) : Option Nat :=
  if cs.isEmpty then none else digitsFrom? radix 0 cs

/-- The text after a leading plus sign, or the whole text. -/
def dropPlus : List Char → List Char
  | '+' :: rest => rest
  | cs => cs

/-- The value, at most `limit`, of a decimal numeral with an optional plus sign. -/
def unsigned? (limit : Nat) (cs : List Char) : Option Nat :=
  (numeral? 10 (dropPlus cs)).filter (· ≤ limit)

theorem unsigned?_le {limit n : Nat} {cs : List Char} (h : unsigned? limit cs = some n) :
    n ≤ limit := by
  simpa using (Option.filter_eq_some_iff.1 h).2

/-! ### Bytes -/

/-- The lower-case hexadecimal digit of a value below sixteen. -/
def hexDigit (n : Nat) : Char :=
  "0123456789abcdef".toList.getD n '0'

/-- The two digits of a byte. -/
def hexByte (b : UInt8) : List Char :=
  [hexDigit (b.toNat / 16), hexDigit (b.toNat % 16)]

/-- Two digits for each byte. -/
def hexBytes (bytes : List UInt8) : List Char :=
  bytes.flatMap hexByte

/-- The bytes for which pairs of digits stand. -/
def unhex? : List Char → Option (List UInt8)
  | [] => some []
  | [_] => none
  | a :: b :: rest => do
    return UInt8.ofNat (16 * (← digitValue? 16 a) + (← digitValue? 16 b)) :: (← unhex? rest)

theorem digitValue?_hexDigit {n : Nat} (h : n < 16) : digitValue? 16 (hexDigit n) = some n := by
  revert n
  decide

@[simp] theorem unhex?_hexBytes (bytes : List UInt8) : unhex? (hexBytes bytes) = some bytes := by
  induction bytes with
  | nil => rfl
  | cons b bytes ih =>
    have bound : b.toNat < 256 := b.toNat_lt
    have whole : 16 * (b.toNat / 16) + b.toNat % 16 = b.toNat := by omega
    have written : hexBytes (b :: bytes) =
        hexDigit (b.toNat / 16) :: hexDigit (b.toNat % 16) :: hexBytes bytes := rfl
    rw [written, unhex?, digitValue?_hexDigit (by omega), digitValue?_hexDigit (by omega), ih]
    show some (UInt8.ofNat (16 * (b.toNat / 16) + b.toNat % 16) :: bytes) = some (b :: bytes)
    rw [whole, UInt8.ofNat_toNat]

end PubSub.Text
