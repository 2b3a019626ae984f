/-!
# Bytes and Their Hexadecimal Text

Payloads travel through connections as lists of bytes, so that a queue is
consumed from the front and extended at the back by list operations alone.

Outside the program a payload is written in hexadecimal: two lower-case
digits per byte, high half first, and nothing for the empty payload. Reading
is more lenient than writing, since it also takes upper-case digits, but a
text of odd length or with any other character is refused.

## Main definitions

* `Bytes`: A payload.
* `Bytes.toHex`: The text of a payload.
* `Bytes.ofHex?`: The payload a text stands for, if it stands for one.
* `Bytes.repeated`: A payload a number of times over.
* `Bytes.ramp`: The test pattern that counts modulo 251.

## Theorems

* `hexDigit?_hexChar`: A digit reads back as its value.
* `Bytes.ofHexDigits_flatMap`: What was written reads back.
-/

namespace ReadNotify

/-- A payload: the bytes in the order they travel. -/
abbrev Bytes := List UInt8

/-- The lower-case digit of a value below sixteen. -/
def hexChar (n : Nat) : Char :=
  if n < 10 then Char.ofNat (48 + n) else Char.ofNat (87 + n)

/-- The value of one hexadecimal digit of either case. -/
def hexDigit? (c : Char) : Option Nat :=
  if '0' ≤ c ∧ c ≤ '9' then some (c.toNat - 48)
  else if 'a' ≤ c ∧ c ≤ 'f' then some (c.toNat - 87)
  else if 'A' ≤ c ∧ c ≤ 'F' then some (c.toNat - 55)
  else none

/-- A digit reads back as its value. -/
theorem hexDigit?_hexChar (n : Fin 16) : hexDigit? (hexChar n) = some n.val := by
  revert n
  decide

namespace Bytes

/-- The two digits of one byte, high half first. -/
def hexPair (b : UInt8) : List Char :=
  [hexChar (b.toNat / 16), hexChar (b.toNat % 16)]

/-- The lower-case hexadecimal text of a payload. -/
def toHex (data : Bytes) : String :=
  String.ofList (data.flatMap hexPair)

/-- The payload a list of digits stands for, if every pair is one byte. -/
def ofHexDigits : List Char → Option Bytes
  | [] => some []
  | [_] => none
  | hi :: lo :: rest => do
      let h ← hexDigit? hi
      let l ← hexDigit? lo
      let data ← ofHexDigits rest
      return UInt8.ofNat (16 * h + l) :: data

/-- The payload a hexadecimal text stands for. -/
def ofHex? (text : String) : Option Bytes :=
  ofHexDigits text.toList

/-- A payload `k` times over. -/
def repeated (data : Bytes) (k : Nat) : Bytes :=
  (List.replicate k data).flatten

/-- The first `n` bytes of the pattern that counts modulo 251. The period is
    prime, so a misplaced block of any round size shows. -/
def ramp (n : Nat) : Bytes :=
  (List.range n).map fun i => UInt8.ofNat (i % 251)

/-- Writing a payload in digits and reading the digits gives it back. -/
theorem ofHexDigits_flatMap (data : Bytes) :
    ofHexDigits (data.flatMap hexPair) = some data := by
  induction data with
  | nil => rfl
  | cons b rest ih =>
      have hlt := b.toNat_lt
      have hi := hexDigit?_hexChar ⟨b.toNat / 16, by omega⟩
      have lo := hexDigit?_hexChar ⟨b.toNat % 16, by omega⟩
      have hb : 16 * (b.toNat / 16) + b.toNat % 16 = b.toNat := by omega
      simp only [List.flatMap_cons, hexPair, List.cons_append, List.nil_append,
        ofHexDigits, hi, lo, ih, bind, pure, Option.bind]
      rw [hb, UInt8.ofNat_toNat]

end Bytes

end ReadNotify
