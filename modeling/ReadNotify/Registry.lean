import ReadNotify.Connection.Id
/-!
# The Registry

The connections that have a callback with one notifier, in the order in which
they were registered. The registry owns none of them: an entry is only a
reference, and the connection behind it may have died without being
unregistered. Such an entry is dropped the next time a scan reaches it.

A scan can be interrupted at any point and taken up again, because its
position is kept here and not by whoever scans. The position is the number of
entries behind it; removing one of those moves it back by one, so that it
keeps standing before the same next entry.

Which connections are alive is not known here. The operations that need it
take it as an argument.

## Main definitions

* `Registry`: Order, references and the position of the scan.
* `Registry.append`, `Registry.remove`, `Registry.get?`: Entries by identity.
* `Registry.next`: One step of the scan.
* `Registry.take`: At most so many steps.
* `Registry.fillWindow`: The next window, the scan rewound behind the last.
* `Registry.drain`: Empties the registry.
-/

namespace ReadNotify

/-- The number of a connection in the system. -/
abbrev ConnKey := Nat

/-- Connections in the order of their registration, the reference of each, and
    the position of the scan. -/
structure Registry where
  order : List ConnId
  refs : List (ConnId × ConnKey)
  cursor : Nat
  deriving DecidableEq, Repr

/-- How one step of a scan ended. -/
inductive Scan where
  | found (id : ConnId) (conn : ConnKey)
  | finished
  /-- The step did not end. No registry that was built up by the operations
      of this module gets here. -/
  | stuck
  deriving DecidableEq, Repr

namespace Registry

/-- A registry without entries. -/
def empty : Registry := ⟨[], [], 0⟩

/-- The reference of an entry. -/
def ref? (r : Registry) (id : ConnId) : Option ConnKey :=
  (r.refs.find? fun e => e.1 == id).map Prod.snd

/-- How many entries there are, dead ones included. -/
def size (r : Registry) : Nat := r.order.length

/-- Whether the scan is behind the last entry. -/
def exhausted (r : Registry) : Bool := r.order.length ≤ r.cursor

/-- Adds an entry at the end and answers whether it was absent before. -/
def append (id : ConnId) (conn : ConnKey) (r : Registry) : Registry × Bool :=
  match r.ref? id with
  | some _ => (r, false)
  | none => ({ r with order := r.order ++ [id], refs := r.refs ++ [(id, conn)] }, true)

/-- Removes an entry and answers whether it was present before. The scan keeps
    standing before the same next entry. -/
def remove (id : ConnId) (r : Registry) : Registry × Bool :=
  match r.ref? id with
  | none => (r, false)
  | some _ =>
    let refs := r.refs.filter fun e => e.1 != id
    if id ∈ r.order then
      let place := r.order.idxOf id
      ({ order := r.order.eraseIdx place, refs,
         cursor := if place < r.cursor then r.cursor - 1 else r.cursor }, true)
    else ({ r with refs }, true)

/-- The connection of an entry, if the connection is still alive. -/
def get? (alive : ConnKey → Bool) (id : ConnId) (r : Registry) : Option ConnKey :=
  (r.ref? id).filter alive

/-- Puts the scan back before the first entry. -/
def rewind (r : Registry) : Registry := { r with cursor := 0 }

/-- Looks for the next live entry, dropping dead ones, in so many rounds. -/
def scan (alive : ConnKey → Bool) : Nat → Registry → Registry × Scan
  | 0, r => (r, .stuck)
  | n + 1, r =>
    match r.order[r.cursor]? with
    | none => (r, .finished)
    | some id =>
      match r.get? alive id with
      | some conn => ({ r with cursor := r.cursor + 1 }, .found id conn)
      | none => scan alive n (r.remove id).1

/-- One step of the scan: the next live entry, the dead ones before it
    dropped. Every round that does not end the step drops an entry, so one
    round more than there are entries is enough. -/
def next (alive : ConnKey → Bool) (r : Registry) : Registry × Scan :=
  scan alive (r.order.length + 1) r

/-- At most `n` steps of the scan, ending at the first that finds nothing. -/
def take (alive : ConnKey → Bool) : Nat → Registry → Registry × List ConnId
  | 0, r => (r, [])
  | n + 1, r =>
    match r.next alive with
    | (r, .found id _) =>
        let (r, more) := take alive n r
        (r, id :: more)
    | (r, _) => (r, [])

/-- The next window of at most `n` entries. Once the scan has passed the last
    entry it starts again from the first. -/
def fillWindow (alive : ConnKey → Bool) (n : Nat) (r : Registry) : Registry × List ConnId :=
  let (r, window) := r.take alive n
  (if r.exhausted then r.rewind else r, window)

/-- Empties the registry and answers the connections that were still alive. -/
def drain (alive : ConnKey → Bool) (r : Registry) : Registry × List ConnKey :=
  (empty, (r.refs.map Prod.snd).filter alive)

end Registry

end ReadNotify
