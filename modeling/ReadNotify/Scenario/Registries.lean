import ReadNotify.Scenario.Calls
/-!
# Steps on Registries and Single Dispatches

The program may look into its registries directly: enter connections without
a callback, scan, rewind, and empty them. It may also dispatch a single
connection into a buffer of its own. A buffer that is in use is out of reach
for the steps nested inside that dispatch.

## Main definitions

* `Act.append`, `Act.remove`, `Act.entry`, `Act.iterate`, `Act.drain`: Entries.
* `Act.scratch`, `Act.dispatchStep`: Buffers and dispatching.
-/

namespace ReadNotify

namespace Act

/-- The name of the connection of an identity. -/
def nameOfId (id : ConnId) : Act String := do
  match (← sys).find? id with
  | some c => return (← desk).nameOf c
  | none => return ""

/-- Enters a connection in a registry. -/
def append (c : Arg String) (reg : Nat) : Act Answer := do
  let c ← handle c
  let r ← registry reg
  return .flag (← callSys fun s => s.enlist c r)

/-- Strikes a connection from a registry. -/
def remove (c : Arg String) (reg : Nat) : Act Answer := do
  let r ← registry reg
  let c ← known c
  return .flag (← callSys fun s => s.strike c r)

/-- Looks a connection up in a registry. -/
def entry (c : Arg String) (reg : Nat) : Act Answer := do
  let r ← registry reg
  let c ← known c
  let id ← idOf c
  let s ← sys
  match (s.registry r).get? s.alive id with
  | some found => return .name ((← desk).nameOf found)
  | none => return .absent

/-- Takes steps of the scan: so many, or until it finds nothing. -/
def iterate (reg : Nat) (n : Option Nat) : Act Answer := do
  let r ← registry reg
  let s ← sys
  let count := n.getD ((s.registry r).size + 1)
  let ids ← callSys fun s => s.onRegistry r (Registry.take s.alive count)
  return .names (← ids.mapM nameOfId)

/-- Puts the scan back to the first entry. -/
def rewind (reg : Nat) : Act Answer := do
  let r ← registry reg
  callSys fun s => s.onRegistry r fun x => (x.rewind, ())
  return .ok

/-- How many entries a registry has. -/
def size (reg : Nat) : Act Answer := do
  let r ← registry reg
  return .count ((← sys).registry r).size

/-- Whether the scan of a registry is behind its last entry. -/
def exhausted (reg : Nat) : Act Answer := do
  let r ← registry reg
  return .flag ((← sys).registry r).exhausted

/-- Empties a registry and names what was alive, in the order of the
    identities. -/
def drain (reg : Nat) : Act Answer := do
  let r ← registry reg
  let conns ← callSys fun s => s.drain r
  let ids ← conns.mapM idOf
  let sorted := ids.mergeSort fun x y => (x.compare y).isLE
  return .names (← sorted.mapM nameOfId)

/-- A buffer of some size. -/
def scratch (name : Arg String) (size : Arg Nat) : Act Answer := do
  let name ← need name
  let size ← need size
  if maxBuffer < size then throw (.panicked overflowText)
  onDesk fun d => { d with scratches := d.scratches.insert name size }
  return .count size

/-- Dispatches one connection into a buffer. -/
def dispatchStep (perform : Step → Act Answer) (c scratch : Arg String) : Act Answer := do
  let c ← handle c
  let name ← need scratch
  let size ← orRefuse ((← desk).scratches.find? name) .noScratch
  onDesk fun d => { d with scratches := d.scratches.erase name }
  let outcome ← callWorld fun w => w.dispatch (handler perform) c size
  onDesk fun d => { d with scratches := d.scratches.insert name size }
  return .outcome outcome

end Act

end ReadNotify
