import ReadNotify.Registry
import ReadNotify.System.Log
import ReadNotify.Table
/-!
# The State of the System

Connections, callbacks, registries and notifiers refer to each other in both
directions: a connection knows its callback and its registry, a registry lists
connections, a callback may keep a connection open, and a notifier's worker
serves a registry. All of them are therefore rows of tables in one state, and
refer to each other by row number.

A connection has one *slot* for a callback. The slot names the registry the
connection is registered with, counts the changes of the registration, and
holds the callback, except while somebody has taken the callback out to call
it. Whoever has one out is listed in `out` together with the count at the time.

A callback is known here only by what it keeps open, which may be any number
of connections. What it does when called is not part of this state.

Code that runs on behalf of a caller acquires locks: the slot of a connection
and the state of a notifier. `held` lists the locks acquired and not yet
released, and destroying a callback records them, since the destructor of a
callback is code of the caller as well. The lock of a registry is never held
across anything but one operation on that registry and is not listed.

## Main definitions

* `Slot`, `Connection`, `Callback`, `Taken`: A connection and its callback.
* `PollLoop`, `Worker`, `Notifier`: Who serves registered connections.
* `System`: The tables, the locks held, the thread that is running, the log.
* `System.acquire`, `System.release`: Bookkeeping of locks.
* `System.onRegistry`, `System.updateSlot`: Changing one row.

## Theorems

* `System.conn?_updateConn`, `System.conn?_updateSlot`: What a look-up finds
  after one row was changed.
* `System.conn?_onRegistry`: Registries do not disturb connections.
-/

namespace ReadNotify

/-- The number of a callback. -/
abbrev CallbackKey := Nat

/-- The number of a registry. -/
abbrev RegistryKey := Nat

/-- The number of a set of counters. -/
abbrev CountersKey := Nat

/-- The number of a worker. -/
abbrev WorkerKey := Nat

/-- The number of a notifier. -/
abbrev NotifierKey := Nat

/-- The locks that are held across more than one operation. -/
inductive Lock where
  | slot (conn : ConnKey)
  | state (notifier : NotifierKey)
  deriving DecidableEq, Repr

/-- Who is running. -/
inductive Thread where
  | caller
  | worker (key : WorkerKey)
  deriving DecidableEq, Repr

/-- The registration of a connection. -/
structure Slot where
  callback : Option CallbackKey
  registry : Option RegistryKey
  /-- Counts the changes of the registration, around the end of the words. -/
  generation : UInt64
  deriving DecidableEq, Repr

/-- A connection. -/
structure Connection where
  id : ConnId
  /-- The socket, until it is released. -/
  socket : Option SocketKey
  connected : Bool
  /-- The number of the last failed read, write or accept. -/
  lastError : Option Int
  slot : Slot
  /-- The program keeps a handle. -/
  owned : Bool
  /-- The descriptor number was chosen by the program and says something. -/
  numbered : Bool
  deriving DecidableEq, Repr

/-- A callback: the connections it keeps handles of, and, once it is destroyed,
    the locks that were held at that moment. -/
structure Callback where
  /-- One connection for each handle, in the order in which it lets go of them. -/
  holds : List ConnKey
  ended : Option (List Lock)
  deriving DecidableEq, Repr

/-- A callback that is out of its slot. -/
structure Taken where
  callback : CallbackKey
  conn : ConnKey
  /-- The count of the slot when the callback was taken. -/
  generation : UInt64
  /-- The connection is being dispatched and stays alive until that is over. -/
  pinned : Bool
  deriving DecidableEq, Repr

/-- What serves one registry: how many connections it looks at in one cycle,
    how much it reads from each, and how long it waits. -/
structure PollLoop where
  registry : RegistryKey
  capacity : Nat
  bufferSize : Nat
  timeout : Duration
  counters : CountersKey

/-- A thread that runs cycles until it is told to stop. -/
structure Worker where
  loop : PollLoop
  poller : Poller
  /-- A stop message was sent to it. -/
  told : Bool
  /-- It has left its loop. -/
  finished : Bool
  /-- Somebody has waited for its end. -/
  joined : Bool

/-- The worker of a notifier that is running, with its registry. -/
structure Running where
  registry : RegistryKey
  worker : WorkerKey
  deriving DecidableEq, Repr

/-- A notifier. -/
structure Notifier where
  config : Config
  running : Option Running
  /-- A worker that was told to stop from its own thread and that nobody has
      waited for yet. -/
  detached : Option WorkerKey
  counters : CountersKey
  deriving DecidableEq

/-- The whole state. -/
structure System where
  kernel : Kernel
  connections : Table Connection
  callbacks : Table Callback
  registries : Table Registry
  counters : Table Stats
  notifiers : Table Notifier
  workers : Table Worker
  /-- The callbacks that are out of their slots, the latest first. -/
  out : List Taken
  /-- The locks held, the latest first. -/
  held : List Lock
  thread : Thread
  /-- The callbacks destroyed and not yet reported, the latest first. -/
  unreported : List CallbackKey
  /-- The log, the latest record first. -/
  log : List LogRecord

namespace Slot

/-- A slot without a registration. -/
def empty : Slot := ⟨none, none, 0⟩

end Slot

namespace System

/-- A system in which nothing has happened, with some number of registries. -/
def init (registries : Nat) : System where
  kernel := .init
  connections := .empty
  callbacks := .empty
  registries := ⟨(List.replicate registries Registry.empty).toArray⟩
  counters := .empty
  notifiers := .empty
  workers := .empty
  out := []
  held := []
  thread := .caller
  unreported := []
  log := []

/-- The connection of a number. -/
def conn? (s : System) (c : ConnKey) : Option Connection := s.connections.get? c

/-- The slot of a connection, empty if there is no such connection. -/
def slot (s : System) (c : ConnKey) : Slot :=
  match s.conn? c with
  | some conn => conn.slot
  | none => .empty

/-- The registry of a number, empty if there is none. -/
def registry (s : System) (r : RegistryKey) : Registry :=
  (s.registries.get? r).getD .empty

/-- Rewrites one connection. -/
def updateConn (s : System) (c : ConnKey) (f : Connection → Connection) : System :=
  { s with connections := s.connections.update c f }

/-- Rewrites the slot of one connection. -/
def updateSlot (s : System) (c : ConnKey) (f : Slot → Slot) : System :=
  s.updateConn c fun conn => { conn with slot := f conn.slot }

/-- Applies one operation to one registry. -/
def onRegistry {α : Type} (s : System) (r : RegistryKey) (f : Registry → Registry × α) :
    System × α :=
  let (reg, answer) := f (s.registry r)
  ({ s with registries := s.registries.update r fun _ => reg }, answer)

/-- A look-up after a rewriting finds the new connection under that number and
    every other connection unchanged. -/
theorem conn?_updateConn (s : System) (c : ConnKey) (f : Connection → Connection) (d : ConnKey) :
    (s.updateConn c f).conn? d = if d = c then (s.conn? c).map f else s.conn? d := by
  simp only [updateConn, conn?, Table.get?_update]

/-- A rewriting of a slot changes nothing of its connection but the slot, and
    nothing of any other connection. -/
theorem conn?_updateSlot (s : System) (c : ConnKey) (f : Slot → Slot) (d : ConnKey) :
    (s.updateSlot c f).conn? d =
      if d = c then (s.conn? c).map fun conn => { conn with slot := f conn.slot }
      else s.conn? d := by
  simp only [updateSlot, conn?_updateConn]

/-- An operation on a registry leaves every connection as it was. -/
theorem conn?_onRegistry {α : Type} (s : System) (r : RegistryKey)
    (f : Registry → Registry × α) (c : ConnKey) :
    (s.onRegistry r f).1.conn? c = s.conn? c := rfl

/-- Adds a record to the log. -/
def note (s : System) (record : LogRecord) : System :=
  { s with log := record :: s.log }

/-- How a connection appears in the log. -/
def label (s : System) (c : ConnKey) : ConnLabel :=
  match s.conn? c with
  | some conn => ⟨conn.id.serial, if conn.numbered then some conn.id.raw else none⟩
  | none => ⟨0, none⟩

/-- The connection of an identity. -/
def find? (s : System) (id : ConnId) : Option ConnKey :=
  s.connections.find? fun conn => conn.id == id

/-- How an identity appears in the log. -/
def labelOf (s : System) (id : ConnId) : ConnLabel :=
  match s.find? id with
  | some c => s.label c
  | none => ⟨id.serial, some id.raw⟩

/-- Acquires a lock. -/
def acquire (s : System) (l : Lock) : System := { s with held := l :: s.held }

/-- Releases a lock. -/
def release (s : System) (l : Lock) : System := { s with held := s.held.erase l }

/-- Whether a connection has not been closed. -/
def isConnected (s : System) (c : ConnKey) : Bool :=
  match s.conn? c with
  | some conn => conn.connected
  | none => false

/-- Whether a callback is registered for a connection. -/
def hasCallback (s : System) (c : ConnKey) : Bool := (s.slot c).registry.isSome

/-- Whether a callback has not been destroyed. -/
def isLive (s : System) (k : CallbackKey) : Bool :=
  match s.callbacks.get? k with
  | some cb => cb.ended.isNone
  | none => false

/-- Whether a handle of a connection exists, kept by the program or by a
    callback. -/
def isHeld (s : System) (c : ConnKey) : Bool :=
  (match s.conn? c with
   | some conn => conn.owned
   | none => false) ||
    s.callbacks.any fun cb => cb.holds.contains c

/-- Whether a registry finds a connection alive: a handle of it exists, or it
    is just being dispatched. -/
def alive (s : System) (c : ConnKey) : Bool :=
  s.isHeld c || s.out.any fun t => t.pinned && t.conn == c

/-- A new callback that keeps a handle of a connection, or of none. -/
def addCallback (s : System) (hold : Option ConnKey) : System × CallbackKey :=
  ({ s with callbacks := s.callbacks.add ⟨hold.toList, none⟩ }, s.callbacks.size)

/-- Makes a connection of a socket. Serials count from one, and the program
    gets the first handle. -/
def adopt (s : System) (socket : SocketKey) (numbered : Bool) : System × ConnKey :=
  let raw := ((s.kernel.socket? socket).bind fun x => x.fd).getD 0
  let conn : Connection :=
    { id := ⟨s.connections.size + 1, raw⟩, socket := some socket, connected := true,
      lastError := none, slot := .empty, owned := true, numbered }
  ({ s with connections := s.connections.add conn }, s.connections.size)

end System

end ReadNotify
