import ReadNotify.Scenario.Program
/-!
# Steps on Connections

Creating connections, moving bytes, closing, and the callback slot. Each
definition performs one kind of step: it looks its arguments up in a fixed
order, so that the first that is missing decides the refusal, and only then
does anything.

Steps that wait are performed as if what they wait for came as soon as it
can: workers get their turns first, and a step that would still wait says so
or goes on with what is there.

## Main definitions

* `Act.pair`, `Act.write`, `Act.read`, `Act.close`, …: Steps on a connection.
* `Act.attachStep`, `Act.takeStep`, `Act.restoreStep`, …: Steps on its slot.
-/

namespace ReadNotify

namespace Act

/-- The answer of something that succeeds or fails. -/
def done {α : Type} : Except IoError α → Answer
  | .ok _ => .ok
  | .error e => .failed e

/-- Two connected connections. The numbers of their descriptors are given, or
    the next in order, or left to the system. -/
def pair (a b : Arg String) (fdA fdB : Option Nat) (auto : Bool) : Act Answer := do
  let a ← freshName a
  let b ← freshName b
  if a = b then refuse (.nameTaken b)
  if auto then
    match ← callSys System.freshPair with
    | .error e => return .failed e
    | .ok _ =>
      giveName (some a)
      giveName (some b)
      return .ok
  else
    let next := (← desk).nextFd
    let chosenA := fdA.getD next
    let afterA := if fdA.isSome then next else next + 1
    let chosenB := fdB.getD afterA
    let afterB := if fdB.isSome then afterA else afterA + 1
    let kernel := (← sys).kernel
    if kernel.uses chosenA then refuse (.handleInUse chosenA)
    if kernel.uses chosenB || chosenA == chosenB then refuse (.handleInUse chosenB)
    if kernel.starved then return .failed (.os IoError.descriptorLimit)
    onDesk fun d => { d with nextFd := afterB }
    let _ ← callSys fun s =>
      let (s, ca, cb) := s.pair chosenA chosenB
      (s, ca, cb)
    giveName (some a)
    giveName (some b)
    return .ok

/-- Writes to a connection. -/
def write (c : Arg String) (data : Arg Bytes) : Act Answer := do
  let c ← handle c
  let data ← need data
  return done (← callSys fun s => s.write c data)

/-- Writes the bytes that the running callback was called with. -/
def echo (c : Arg String) : Act Answer := do
  let c ← handle c
  match (← desk).frame with
  | none => refuse .noData
  | some frame => return done (← callSys fun s => s.write c frame.data)

/-- Reads from a connection, unless that would wait. -/
def read (perform : Step → Act Answer) (c : Arg String) (n : Arg Nat) (wait : Bool) :
    Act Answer := do
  let c ← handle c
  let n ← need n
  if wait then settleHere perform
  if (← sys).canRead c then return .data (← callSys fun s => s.receive c n)
  else return .wouldBlock

/-- Reads until so many bytes came, the stream ended, or nothing more comes. -/
def readFully (perform : Step → Act Answer) (c : ConnKey) : Nat → Nat → Act Bytes
  | 0, _ => return []
  | _, 0 => return []
  | fuel + 1, n + 1 => do
    if !(← sys).canRead c then settleHere perform
    if !(← sys).canRead c then return []
    let data ← callSys fun s => s.receive c (n + 1)
    if data.isEmpty then return []
    let more ← readFully perform c fuel (n + 1 - data.length)
    return data ++ more

/-- Reads exactly so many bytes, or what there is before the end. -/
def readExact (perform : Step → Act Answer) (c : Arg String) (n : Arg Nat) : Act Answer := do
  let c ← handle c
  let n ← need n
  return .data (← readFully perform c n n)

/-- Reads what is there without waiting. -/
def recv (c : Arg String) (n : Arg Nat) : Act Answer := do
  let c ← handle c
  let n ← need n
  return .data (← callSys fun s => s.receive c n)

/-- Closes a connection. -/
def close (c : Arg String) : Act Answer := do
  let c ← handle c
  onSys fun s => s.close c
  return .ok

/-- Gives the program's handle up. -/
def drop (c : Arg String) : Act Answer := do
  let name ← need c
  match (← desk).named? name with
  | none => return .flag false
  | some c => return .flag (← callSys fun s => s.dropHandle c)

/-- What can be asked of a connection. -/
def state (c : Arg String) : Act Answer := do
  let c ← handle c
  let s ← sys
  let last := ((s.conn? c).bind Connection.lastError).map IoError.os
  return .state (s.isConnected c) (s.hasCallback c) last

/-- The identity of a connection. -/
def identify (c : Arg String) : Act Answer := do
  let c ← handle c
  return .identity (← idOf c) ((← sys).isConnected c)

/-- The order of two identities. -/
def compare (a b : Arg String) : Act Answer := do
  let a ← idOf (← known a)
  let b ← idOf (← known b)
  return .order (a.compare b) (a == b)

/-- Names in the order of the identities. -/
def sort (names : Arg (List String)) : Act Answer := do
  let names ← need names
  let conns ← names.mapM fun name => known (.ok name)
  let ids ← conns.mapM idOf
  let sorted := (names.zip ids).mergeSort fun x y => (x.2.compare y.2).isLE
  return .names (sorted.map Prod.fst)

/-- Reads in one thread while another closes the connection. Closing ends a
    call that waits, and only a connection without bytes makes it wait; a
    listener answers with an error at once. -/
def blockedRead (c : Arg String) (n : Arg Nat) : Act Answer := do
  let c ← handle c
  let n ← need n
  let s ← sys
  let listening := ((s.socket? c).bind s.kernel.socket?).any Socket.listening
  let data ← if s.canRead c || listening then callSys fun s => s.receive c n else pure []
  onSys fun s => s.close c
  return .count data.length

/-- Accepts in one thread while another closes the connection, and answers
    whether accepting failed. Closing wakes a call that waits. -/
def blockedAccept (c : Arg String) : Act Answer := do
  let c ← handle c
  let s ← sys
  let waits := ((s.socket? c).bind s.kernel.socket?).any fun x => x.backlog == some []
  if waits then
    onSys fun s => (s.close c).record c (.os IoError.invalidArgument)
    return .flag true
  else
    match ← callSys fun s => s.accept c false with
    | .error _ =>
      onSys fun s => s.close c
      return .flag true
    | .ok (peer, _) =>
      giveName none
      onSys fun s => (s.dropHandle peer).1
      onSys fun s => s.close c
      return .flag false

/-- Reads while signals arrive, until a peer writes, which takes a while. A
    connection that can be read is read before the peer writes. -/
def interruptedRead (perform : Step → Act Answer) (c peer : Arg String) (data : Arg Bytes)
    (n : Arg Nat) : Act Answer := do
  let c ← handle c
  let peer ← handle peer
  let data ← need data
  let n ← need n
  if !(← sys).canRead c then meanwhile perform
  if (← sys).canRead c then
    let got ← callSys fun s => s.receive c n
    let _ ← callSys fun s => s.write peer data
    return .data got
  else
    let _ ← callSys fun s => s.write peer data
    return .data (← callSys fun s => s.receive c n)

/-- Accepts while a signal arrives. What was accepted is closed again. -/
def interruptedAccept (c : Arg String) : Act Answer := do
  let c ← handle c
  match ← callSys fun s => s.accept c true with
  | .error e => return .failed e
  | .ok (peer, _) =>
    giveName none
    onSys fun s => (s.dropHandle peer).1
    return .ok

/-- Writes a long pattern while another thread reads as much at the other end,
    or up to its end. -/
def bigWrite (perform : Step → Act Answer) (c peer : Arg String) (n : Arg Nat) :
    Act Answer := do
  let c ← handle c
  let peer ← handle peer
  let n ← need n
  let pattern := Bytes.ramp n
  let written ← callSys fun s => s.write c pattern
  let got ← readFully perform peer n n
  return .bulk written got.length (got == pattern)

/-- Registers a callback with a registry. -/
def attachStep (c : Arg String) (reg : Nat) (cb : Except Refusal (CallbackSpec Step)) :
    Act Answer := do
  let c ← handle c
  let r ← registry reg
  let k ← callback cb
  return .flag (← callSys fun s => s.attach c r k)

/-- Clears a registration. -/
def detachStep (c : Arg String) : Act Answer := do
  let c ← handle c
  return .flag (← callSys fun s => s.detach c)

/-- Clears a registration with one registry. -/
def detachFromStep (c : Arg String) (reg : Nat) : Act Answer := do
  let c ← handle c
  let r ← registry reg
  return .flag (← callSys fun s => s.detachFrom c r)

/-- Clears a registration of one count. -/
def detachGenerationStep (c : Arg String) (generation : Arg Nat) : Act Answer := do
  let c ← handle c
  let generation ← need generation
  return .flag (← callSys fun s => s.detachGeneration c generation.toUInt64)

/-- Takes a callback out of its slot under a name. -/
def takeStep (c into : Arg String) : Act Answer := do
  let c ← handle c
  let into ← need into
  if (← desk).taken.contains into then refuse .heldTaken
  match ← callSys fun s => s.take c false with
  | none => return .absent
  | some t =>
    onDesk fun d => { d with taken := d.taken.insert into t }
    return .count t.generation.toNat

/-- The callback that is out of its slot under a name, which loses it. -/
def takenUnder (source : Arg String) : Act (String × Taken) := do
  let name ← need source
  let t ← orRefuse ((← desk).taken.find? name) .notHeld
  return (name, t)

/-- Calls a callback that is out of its slot. While it runs nobody else has
    it. -/
def invoke (perform : Step → Act Answer) (source : Arg String) (data : Arg Bytes) :
    Act Answer := do
  let (name, t) ← takenUnder source
  let data ← need data
  onDesk fun d => { d with taken := d.taken.erase name }
  let exit ← callWorld (handler perform t.callback data)
  match (← desk).taken.find? name with
  | some other => onSys fun s => s.forget other
  | none => pure ()
  onDesk fun d => { d with taken := d.taken.insert name t }
  return .returned (exit == .returned)

/-- Puts a callback back into its slot, or destroys it. -/
def restoreStep (source : Arg String) (generation : Option Nat) : Act Answer := do
  let (name, t) ← takenUnder source
  onDesk fun d => { d with taken := d.taken.erase name }
  let t := match generation with
    | some g => { t with generation := g.toUInt64 }
    | none => t
  return .flag (← callSys fun s => s.putBack t)

/-- Destroys a callback that is out of its slot. -/
def forgetStep (source : Arg String) : Act Answer := do
  let name ← need source
  match (← desk).taken.find? name with
  | none => return .flag false
  | some t =>
    onDesk fun d => { d with taken := d.taken.erase name }
    onSys fun s => s.forget t
    return .flag true

end Act

end ReadNotify
