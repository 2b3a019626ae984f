import ReadNotify.IoError
import ReadNotify.Net.Address
import ReadNotify.Table
import ReadNotify.Text.Bytes
/-!
# Sockets and Descriptor Numbers

The open files of one process as the system below keeps them: sockets, the
interest sets of its readiness facility, and whatever else the program has
open. A file is a row of a table and keeps its identity for good, whereas the
descriptor number it is reached by is free again once it is closed and may
then belong to another file, of any sort. Everything that depends on telling
the two apart, stale readiness interests above all, is decided by
`Kernel.at?`: the open file that a number denotes *now*.

A connected socket knows its peer and holds the bytes that have arrived and
were not read yet. What else can be observed of its peer's end is kept as
three marks: nothing more will arrive, writing fails, and an error is waiting
to be reported once. A listening socket holds the connections nobody has
accepted yet; those have no descriptor number.

An interest set remembers the number and the file of each entry, so an entry
never outlives its file and never passes to a later file of the same number.
Its entries are in the order in which they get their turns: an entry that has
been noticed as ready is *queued* and keeps its place until it is looked at.

The library opens sockets and interest sets only. The files of the third sort
are the program's: the ends of pipes, counters, timers, and plain files, of
which all that is ever asked is whether they can be read and whether an
interest set can watch them. They matter because they too get numbers that
closed sockets had.

## Main definitions

* `Socket`, `InterestSet`, `OtherFile`, `Kernel`: The three sorts of files and
  the state of the system.
* `OpenFile`: A file of any sort.
* `Kernel.at?`: The open file behind a descriptor number.
* `Kernel.freshFd`: The lowest number nobody uses.
* `Socket.readable`, `OtherFile.ready`: Whether reading would not have to wait.
* `Kernel.pollable`: Whether an interest set can watch a file.

## Theorems

* `Kernel.socket?_addSocket`, `Kernel.socket?_updateSocket`: What a look-up
  finds afterwards.
-/

namespace ReadNotify

/-- The identity of a socket, independent of its descriptor number. -/
abbrev SocketKey := Nat

/-- The identity of an interest set. -/
abbrev InterestKey := Nat

/-- The identity of a file that is neither. -/
abbrev OtherKey := Nat

/-- Which kind of stream a socket carries. -/
inductive Domain where
  | unix
  | internet
  deriving DecidableEq, Repr

/-- One socket. -/
structure Socket where
  domain : Domain
  /-- The descriptor number; a connection nobody has accepted has none. -/
  fd : Option Nat
  isOpen : Bool := true
  /-- The connections that wait to be accepted, if the socket listens. -/
  backlog : Option (List SocketKey) := none
  peer : Option SocketKey := none
  /-- The bytes that have arrived and were not read yet. -/
  inbox : Bytes := []
  /-- Nothing will arrive behind the inbox. -/
  ended : Bool := false
  /-- Writing fails. -/
  broken : Bool := false
  /-- An error that is reported once. -/
  pendingError : Option Int := none
  localAddr : Option Address := none
  peerAddr : Option Address := none
  /-- Another socket may listen on the same port once this one does not. -/
  reusable : Bool := false

/-- An open file of any sort. -/
inductive OpenFile where
  | socket (s : SocketKey)
  | interests (e : InterestKey)
  | other (o : OtherKey)
  deriving DecidableEq, Repr

/-- One entry of an interest set: a descriptor number with the file it denoted
    when it was added. -/
structure Interest where
  fd : Nat
  file : OpenFile
  /-- It was noticed as ready and has not been looked at since. -/
  queued : Bool
  deriving DecidableEq, Repr

/-- One interest set. Its entries are in the order of their turns. -/
structure InterestSet where
  fd : Nat
  isOpen : Bool := true
  entries : List Interest := []

/-- A file that the program has open besides: the end of a pipe, a counter, a
    timer, or a plain file. -/
structure OtherFile where
  fd : Nat
  isOpen : Bool := true
  /-- An interest set can watch it, which a plain file does not let it do. -/
  pollable : Bool
  /-- There is something to read. -/
  readable : Bool := false

/-- The open files of one process. -/
structure Kernel where
  sockets : Table Socket
  interests : Table InterestSet
  others : Table OtherFile
  /-- The process may open no further descriptor. -/
  starved : Bool
  /-- What the process is answered when it asks for another thread, unless it gets one. -/
  threadError : Option Int
  /-- The loopback interface is up, so its addresses can be reached. -/
  loopbackUp : Bool
  /-- The next port the system hands out. -/
  nextPort : Nat

namespace Socket

/-- Whether the socket listens. -/
def listening (s : Socket) : Bool := s.backlog.isSome

/-- Whether reading, or accepting, would not have to wait: there are bytes, or
    the end of the stream, or an error, or a connection to accept. -/
def readable (s : Socket) : Bool :=
  !s.inbox.isEmpty || s.ended || s.pendingError.isSome ||
    (match s.backlog with
     | some waiting => !waiting.isEmpty
     | none => false)

end Socket

namespace OtherFile

/-- Whether reading would not have to wait. Reading a plain file never does. -/
def ready (x : OtherFile) : Bool := x.readable || !x.pollable

end OtherFile

namespace Kernel

/-- A process without open files of its own, on a machine that has not brought
    its interfaces up. -/
def init : Kernel where
  sockets := .empty
  interests := .empty
  others := .empty
  starved := false
  threadError := none
  loopbackUp := false
  nextPort := 40000

/-- The socket of an identity, open or not. -/
def socket? (k : Kernel) (s : SocketKey) : Option Socket := k.sockets.get? s

/-- Rewrites one socket. -/
def updateSocket (k : Kernel) (s : SocketKey) (f : Socket → Socket) : Kernel :=
  { k with sockets := k.sockets.update s f }

/-- Rewrites one interest set. -/
def updateInterests (k : Kernel) (e : InterestKey) (f : InterestSet → InterestSet) : Kernel :=
  { k with interests := k.interests.update e f }

/-- The entries of an interest set. -/
def entries (k : Kernel) (e : InterestKey) : List Interest :=
  match k.interests.get? e with
  | some x => x.entries
  | none => []

/-- Rewrites one file that is neither. -/
def updateOther (k : Kernel) (o : OtherKey) (f : OtherFile → OtherFile) : Kernel :=
  { k with others := k.others.update o f }

/-- The open file a descriptor number denotes. -/
def at? (k : Kernel) (fd : Nat) : Option OpenFile :=
  match k.sockets.find? fun s => s.isOpen && s.fd == some fd with
  | some s => some (.socket s)
  -- A number denotes one open file, so the order of looking does not matter.
  | none =>
    match k.interests.find? fun e => e.isOpen && e.fd == fd with
    | some e => some (.interests e)
    | none => (k.others.find? fun o => o.isOpen && o.fd == fd).map .other

/-- Whether a socket is open. -/
def isOpen (k : Kernel) (s : SocketKey) : Bool :=
  match k.socket? s with
  | some sock => sock.isOpen
  | none => false

/-- Whether reading from a socket would not have to wait. -/
def readable (k : Kernel) (s : SocketKey) : Bool :=
  match k.socket? s with
  | some sock => sock.readable
  | none => false

/-- Whether an interest set can watch a file. -/
def pollable (k : Kernel) : OpenFile → Bool
  | .other o => (k.others.get? o).any OtherFile.pollable
  | _ => true

/-- How many numbers the process uses for its standard streams. -/
def standardFds : Nat := 3

/-- Whether a descriptor number is used, by a file or by a standard stream. -/
def uses (k : Kernel) (fd : Nat) : Bool := fd < standardFds || (k.at? fd).isSome

/-- The lowest number nobody uses and that is not to be avoided, behind the
    three standard ones. Among one candidate more than there are files and
    numbers to avoid, one is free. -/
def freshFdExcept (k : Kernel) (avoid : List Nat) : Nat :=
  let count := k.sockets.size + k.interests.size + k.others.size + avoid.length + 1
  let candidates := (List.range count).map (· + standardFds)
  -- The last resort is never needed.
  (candidates.find? fun fd => !k.uses fd && !avoid.contains fd).getD standardFds

/-- The lowest number nobody uses. -/
def freshFd (k : Kernel) : Nat := k.freshFdExcept []

/-- Adds a socket and returns its identity. -/
def addSocket (k : Kernel) (s : Socket) : Kernel × SocketKey :=
  ({ k with sockets := k.sockets.add s }, k.sockets.size)

/-- A look-up after a new socket finds it under its identity and every earlier
    socket where it was. -/
theorem socket?_addSocket (k : Kernel) (sock : Socket) (s : SocketKey) :
    (k.addSocket sock).1.socket? s =
      if s = k.sockets.size then some sock else k.socket? s := by
  simp only [addSocket, socket?, Table.get?_add]

/-- A look-up after a rewriting finds the new socket under that identity and
    every other socket unchanged. -/
theorem socket?_updateSocket (k : Kernel) (s : SocketKey) (f : Socket → Socket) (t : SocketKey) :
    (k.updateSocket s f).socket? t = if t = s then (k.socket? s).map f else k.socket? t := by
  simp only [updateSocket, socket?, Table.get?_update]

/-- Two connected sockets of the Unix domain under given numbers. -/
def openPair (k : Kernel) (fdA fdB : Nat) : Kernel × SocketKey × SocketKey :=
  let a := k.sockets.size
  let b := a + 1
  let (k, _) := k.addSocket { domain := .unix, fd := some fdA, peer := some b }
  let (k, _) := k.addSocket { domain := .unix, fd := some fdB, peer := some a }
  (k, a, b)

end Kernel

end ReadNotify
