import HttpGateway.Text.Utf8

/-!
# Percent encoding

A percent sign and two hexadecimal digits stand for one octet. Reading replaces each such triple
and keeps every other octet, a stray percent sign included; it runs once, so text that it brings
to light is not read again.
-/

namespace HttpGateway.Text.Percent

/-- The value of an ASCII hexadecimal digit. -/
def hexValue (b : UInt8) : Option Nat :=
  let n := b.toNat
  if 0x30 ≤ n ∧ n ≤ 0x39 then some (n - 0x30)
  else if 0x41 ≤ n ∧ n ≤ 0x46 then some (n - 0x37)
  else if 0x61 ≤ n ∧ n ≤ 0x66 then some (n - 0x57)
  else none

/-- The upper-case hexadecimal digit of a value below sixteen. -/
def hexDigit (n : Nat) : Char := Char.ofNat (if n < 10 then 0x30 + n else 0x37 + n)

/-- The octets that percent-encoded octets stand for. -/
def decode : List UInt8 → List UInt8
  | [] => []
  | b :: rest =>
    if b = 0x25 then
      match rest with
      | h :: l :: tail =>
        match hexValue h, hexValue l with
        | some high, some low => Utf8.octet (high * 16 + low) :: decode tail
        | _, _ => b :: decode (h :: l :: tail)
      | short => b :: short
    else b :: decode rest

/-- Whether an octet is written as itself: an ASCII letter or digit. -/
def isPlain (b : UInt8) : Bool :=
  let n := b.toNat
  (0x30 ≤ n && n ≤ 0x39) || (0x41 ≤ n && n ≤ 0x5A) || (0x61 ≤ n && n ≤ 0x7A)

/-- An octet as a letter or digit, or as a percent sign and two digits. -/
def encodeOctet (b : UInt8) : List Char :=
  if isPlain b then [Char.ofNat b.toNat]
  else ['%', hexDigit (b.toNat / 16), hexDigit (b.toNat % 16)]

/-- The percent-encoded form of a list of characters. -/
def encodeChars (l : List Char) : List Char := (Utf8.encodeChars l).flatMap encodeOctet

/-- The characters that percent-encoded characters stand for; octets that are not UTF-8 show as
U+FFFD. -/
def decodeChars (l : List Char) : List Char :=
  Utf8.decodeCharsLossy (decode (Utf8.encodeChars l))

end HttpGateway.Text.Percent
