import ReadNotify.Text.Bytes
/-!
# Internet Addresses

Addresses of both internet families, their usual texts, and the relation that
decides which listener an address reaches.

An address of the older family is its four bytes, one of the newer its eight
groups. The newer family contains the older one under the marker `::ffff:`;
such an address is *mapped*. It denotes the same host as the address inside,
but it is a different address and is written with the marker.

The text of a newer address replaces its longest run of zero groups by a
double colon, the first of two equally long runs, and leaves a single zero
group alone.

## Main definitions

* `IpAddress`: An address of either family.
* `IpAddress.text`, `IpAddress.ofText?`: Writing and reading.
* `IpAddress.ofNumbers?`: Reading the older, looser texts of the older family.
* `IpAddress.covers`: Whether an address to listen on takes in another one.
* `Address`: An address with a port.
-/

namespace ReadNotify

/-- An internet address of either family. -/
inductive IpAddress where
  | v4 (a b c d : UInt8)
  | v6 (groups : List UInt16)
  deriving DecidableEq, Repr

namespace IpAddress

/-- The loopback address of the older family. -/
def loopback : IpAddress := v4 127 0 0 1

/-- The loopback address of the newer family. -/
def loopback6 : IpAddress := v6 [0, 0, 0, 0, 0, 0, 0, 1]

/-- All interfaces, in the older family. -/
def anywhere : IpAddress := v4 0 0 0 0

/-- All interfaces, in the newer family. -/
def anywhere6 : IpAddress := v6 [0, 0, 0, 0, 0, 0, 0, 0]

/-- Whether an address is of the newer family. -/
def isV6 : IpAddress → Bool
  | v4 .. => false
  | v6 _ => true

/-- The address of the older family inside the newer one. -/
def mapped : IpAddress → IpAddress
  | v4 a b c d =>
      v6 [0, 0, 0, 0, 0, 0xffff, a.toUInt16 * 256 + b.toUInt16,
        c.toUInt16 * 256 + d.toUInt16]
  | ip => ip

/-- The address of the older family a mapped address stands for. -/
def unmapped : IpAddress → IpAddress
  | v6 [0, 0, 0, 0, 0, 0xffff, hi, lo] =>
      v4 (hi / 256).toUInt8 (hi % 256).toUInt8 (lo / 256).toUInt8 (lo % 256).toUInt8
  | ip => ip

/-- Whether an address stands for the loopback interface, or for all. -/
def isLocal (ip : IpAddress) : Bool :=
  match ip.unmapped with
  | v4 a _ _ _ => a == 127 || ip.unmapped == anywhere
  | v6 groups => v6 groups == loopback6 || v6 groups == anywhere6

/-- Whether an address of the newer family stands for a group of machines. -/
def isGroup6 : IpAddress → Bool
  | v6 (g :: _) => g / 256 == 0xff
  | _ => false

/-- Whether an address of the newer family means nothing without the name of an
    interface. -/
def isLinkLocal6 : IpAddress → Bool
  | v6 (g :: _) => g / 64 == 0xfe80 / 64
  | _ => false

/-- Where a connection to an address goes: one to all interfaces goes to the
    loopback interface. -/
def target (ip : IpAddress) : IpAddress :=
  if ip = anywhere then loopback
  else if ip = anywhere.mapped then loopback.mapped
  else if ip = anywhere6 then loopback6
  else ip

/-- Whether a socket listening on `self` is reached under `ip`. All interfaces
    of the newer family take in both families. -/
def covers (self ip : IpAddress) : Bool :=
  self == anywhere6 || self.unmapped == ip.unmapped ||
    (self.unmapped == anywhere && !ip.unmapped.isV6)

/-- Whether two addresses to listen on have an address in common. -/
def overlaps (a b : IpAddress) : Bool :=
  a.covers b || b.covers a

/-- The lower-case hexadecimal text of a group, without leading zeros. -/
def groupText (g : UInt16) : String :=
  String.ofList (Nat.toDigits 16 g.toNat)

/-- The length of the run of zero groups at the front. -/
def zeroRun (groups : List UInt16) : Nat :=
  (groups.takeWhile (· == 0)).length

/-- The place and the length of the longest run of zero groups, the first of
    equally long ones. -/
def longestRun : List UInt16 → Nat × Nat
  | [] => (0, 0)
  | g :: rest =>
      let here := zeroRun (g :: rest)
      let (place, length) := longestRun rest
      -- The first of equally long ones is kept.
      if length ≤ here then (0, here) else (place + 1, length)

/-- Four bytes in decimal with points between them. -/
def dotted (a b c d : UInt8) : String :=
  ".".intercalate ([a, b, c, d].map fun byte => toString byte.toNat)

/-- The text of an address. -/
def text : IpAddress → String
  | v4 a b c d => dotted a b c d
  | v6 groups =>
      match (v6 groups).unmapped with
      | v4 a b c d => "::ffff:" ++ dotted a b c d
      | v6 _ =>
        let (place, length) := longestRun groups
        -- A single zero group is written out.
        if length < 2 then ":".intercalate (groups.map groupText)
        else
          ":".intercalate ((groups.take place).map groupText) ++ "::" ++
            ":".intercalate ((groups.drop (place + length)).map groupText)

/-- The number of a decimal text without a sign and without leading zeros, if
    it is no more than `limit`. -/
def decimal? (limit : Nat) (s : String) : Option Nat :=
  let cs := s.toList
  if cs.isEmpty || !cs.all Char.isDigit || (cs.length > 1 && cs.head? == some '0') then none
  else
    let n := cs.foldl (fun n c => n * 10 + (c.toNat - 48)) 0
    if n ≤ limit then some n else none

/-- The number of a hexadecimal text of one to four digits. -/
def group? (s : String) : Option UInt16 :=
  let cs := s.toList
  if cs.isEmpty || cs.length > 4 then none
  else
    (cs.foldlM (fun (n : Nat) (c : Char) =>
      if c.isDigit then some (n * 16 + (c.toNat - 48))
      else if 'a' ≤ c ∧ c ≤ 'f' then some (n * 16 + (c.toNat - 87))
      else if 'A' ≤ c ∧ c ≤ 'F' then some (n * 16 + (c.toNat - 55))
      else none) 0).map Nat.toUInt16

/-- The address of a text of four decimal bytes. -/
def ofDotted? (s : String) : Option IpAddress :=
  match (s.splitOn ".").map (decimal? 255) with
  | [some a, some b, some c, some d] =>
      some (v4 a.toUInt8 b.toUInt8 c.toUInt8 d.toUInt8)
  | _ => none

/-- The groups of one side of a double colon; the last of them may be an
    address of the older family. -/
def groups? (s : String) : Option (List UInt16) :=
  if s = "" then some []
  else go (s.splitOn ":")
where
  /-- The groups of a list of texts. -/
  go : List String → Option (List UInt16)
    | [] => some []
    | [last] =>
        match ofDotted? last with
        | some (v4 a b c d) =>
            some [a.toUInt16 * 256 + b.toUInt16, c.toUInt16 * 256 + d.toUInt16]
        | _ => (group? last).map fun g => [g]
    | g :: rest => do
        let value ← group? g
        let more ← go rest
        return value :: more

/-- The address of a text of either family. -/
def ofText? (s : String) : Option IpAddress :=
  match ofDotted? s with
  | some ip => some ip
  | none =>
    match s.splitOn "::" with
    | [whole] =>
        match groups? whole with
        | some groups => if groups.length = 8 then some (v6 groups) else none
        | none => none
    | [front, back] =>
        match groups? front, groups? back with
        | some a, some b =>
            -- The gap stands for one group at least, and points may only stand at the very end.
            if a.length + b.length < 8 ∧ !front.toList.contains '.' then
              some (v6 (a ++ List.replicate (8 - a.length - b.length) 0 ++ b))
            else none
        | _, _ => none
    | _ => none

/-- The number of a list of digits in some base, unless there is no digit or
    one that is not below the base. -/
def numeral? (base : Nat) (digits : List Char) : Option Nat :=
  if digits.isEmpty then none
  else
    digits.foldlM (fun n c =>
      match hexDigit? c with
      | some d => if d < base then some (n * base + d) else none
      | none => none) 0

/-- The number of a text in base sixteen behind `0x`, in base eight behind a
    zero, and in base ten otherwise. -/
def based? (s : String) : Option Nat :=
  match s.toList with
  | '0' :: 'x' :: digits | '0' :: 'X' :: digits => numeral? 16 digits
  | '0' :: digits => numeral? 8 ('0' :: digits)
  | digits => numeral? 10 digits

/-- The address of a text of one to four numbers with points between them, of
    which the last stands for all the bytes that are left. -/
def ofNumbers? (s : String) : Option IpAddress := do
  let numbers ← (s.splitOn ".").mapM based?
  let front := numbers.dropLast
  let last ← numbers.getLast?
  if numbers.length ≤ 4 && front.all (· < 256) && last < Nat.pow 256 (4 - front.length) then
    let n := front.foldl (fun n b => n * 256 + b) 0 * Nat.pow 256 (4 - front.length) + last
    -- The number is cut into its four bytes.
    return v4 (n / 0x1000000).toUInt8 (n / 0x10000).toUInt8 (n / 0x100).toUInt8 n.toUInt8
  else none

end IpAddress

/-- An address with a port. -/
structure Address where
  ip : IpAddress
  port : Nat
  deriving DecidableEq, Repr

namespace Address

/-- The text of an address with its port left open. -/
def maskedText (a : Address) : String :=
  if a.ip.isV6 then "[" ++ a.ip.text ++ "]:_" else a.ip.text ++ ":_"

end Address

end ReadNotify
