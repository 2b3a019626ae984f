import ReadNotify.Text.Record
/-!
# Identities of Connections

A connection is identified by a serial number and by the descriptor number it
was created for. Serials are never used again, so two connections differ even
when the second was given the descriptor number of the first after its end.
The serial therefore decides the order as well; the descriptor number only
comes second.

A descriptor number that was left to the system says nothing to a reader, and
the log leaves it open.

## Main definitions

* `ConnId`: Serial and descriptor number.
* `ConnId.compare`: Their order.
* `ConnId.text`, `ConnId.record`: How an identity is printed.
* `ConnLabel`: How an identity appears in the log.
-/

namespace ReadNotify

/-- The identity of a connection. -/
structure ConnId where
  serial : Nat
  raw : Nat
  deriving DecidableEq, Repr

namespace ConnId

/-- Serials first, descriptor numbers second. -/
def compare (a b : ConnId) : Ordering :=
  (Ord.compare a.serial b.serial).then (Ord.compare a.raw b.raw)

/-- The short text of an identity. -/
def text (i : ConnId) : String :=
  "conn#" ++ toString i.serial ++ "(fd=" ++ toString i.raw ++ ")"

/-- An identity as a record. -/
def record (i : ConnId) : Record :=
  .fields "ConnectionId" [("serial", .number i.serial), ("raw", .number i.raw)]

/-- A connection of this identity as a record. -/
def connectionRecord (i : ConnId) (connected : Bool) : Record :=
  .fields "Connection" [("id", i.record), ("connected", .flag connected)]

end ConnId

/-- An identity as the log shows it, the descriptor number possibly open. -/
structure ConnLabel where
  serial : Nat
  raw : Option Nat
  deriving DecidableEq, Repr

namespace ConnLabel

/-- The text of a label. -/
def text (l : ConnLabel) : String :=
  let raw := match l.raw with
    | some n => toString n
    | none => "_"
  "conn#" ++ toString l.serial ++ "(fd=" ++ raw ++ ")"

end ConnLabel

end ReadNotify
