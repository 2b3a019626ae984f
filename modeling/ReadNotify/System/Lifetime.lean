import ReadNotify.Kernel.Listen
import ReadNotify.System.Basic
/-!
# Closing Connections and Destroying Callbacks

A connection is closed when somebody asks for it or when its last handle goes.
Closing clears the registration first, which destroys the callback that was in
the slot; then the connection is marked closed and its socket released.
Destroying a callback in turn releases the handles it kept, one after the
other, and each of them may have been the last one of another connection, which
is then closed as well before the next handle is released. The chain ends
because every link of it destroys a callback for good.

Inside the chain the inner closes come first: a connection is not yet marked
closed while its callback is being destroyed. A callback may have kept the
last handle of its own connection, in which case the inner close is the one
that releases the socket and the outer one finds nothing left to do.

The slot's lock is held while the registration is cleared and no longer when
the callback is destroyed.

## Main definitions

* `System.clearSlot`: Clears a registration and hands out the callback.
* `System.markClosed`, `System.releaseSocket`: The two further steps of a close.
* `System.closeUnheld`: Closes what nobody has a handle of any more.
* `System.destroy`: Destroys a callback, with all that follows.
* `System.detach`, `System.close`, `System.dropHandle`: What destroys callbacks
  and closes connections from outside.
-/

namespace ReadNotify

namespace System

/-- Clears the registration of a connection under the slot's lock: the entry
    leaves its registry, and the callback is handed out if it was in the
    slot. Nothing happens without a registration. -/
def clearSlot (c : ConnKey) (s : System) : System × Option (Option CallbackKey) :=
  match s.conn? c with
  | none => (s, none)
  | some conn =>
    match conn.slot.registry with
    | none => (s, none)
    | some r =>
      let s := s.acquire (.slot c)
      let s := s.updateSlot c fun x => ⟨none, none, x.generation + 1⟩
      -- The entry leaves under the lock too, so nobody finds one without the other.
      let (s, _) := s.onRegistry r (Registry.remove conn.id)
      (s.release (.slot c), some conn.slot.callback)

/-- Marks a connection closed and answers whether it was open before. -/
def markClosed (c : ConnKey) (s : System) : System × Bool :=
  if s.isConnected c then (s.updateConn c fun conn => { conn with connected := false }, true)
  else (s, false)

/-- Releases the socket of a connection, which closes it in both directions. -/
def releaseSocket (c : ConnKey) (s : System) : System :=
  match (s.conn? c).bind Connection.socket with
  | none => s
  | some socket =>
    { s.updateConn c fun conn => { conn with socket := none } with
      kernel := s.kernel.close socket }

/-- The part of a close that follows the registration: marks the connection
    closed and releases its socket, unless that was done before. -/
def disconnect (c : ConnKey) (s : System) : System :=
  match s.markClosed c with
  -- Somebody else has closed it.
  | (s, false) => s
  | (s, true) =>
    let s := s.releaseSocket c
    s.note (.connectionClosed (s.label c))

/-- Marks a callback destroyed, under the locks held. -/
def endCallback (k : CallbackKey) (s : System) : System :=
  { s with
    -- The locks held now are those under which what it keeps is released.
    callbacks := s.callbacks.update k fun cb => { cb with ended := some s.held },
    unreported := k :: s.unreported }

/-- A callback that is being destroyed lets go of one handle. -/
def letGo (k : CallbackKey) (h : ConnKey) (s : System) : System :=
  { s with
    callbacks := s.callbacks.update k fun cb => { cb with holds := cb.holds.erase h } }

/-- Closes a connection that lost a handle, if it was the last one. What
    destroys the callback in its slot is given. -/
def closeUnheld (destroy : CallbackKey → System → System) (h : ConnKey) (s : System) : System :=
  -- Another handle is left.
  if s.isHeld h then s
  else
    match s.clearSlot h with
    | (s, some (some inner)) => (destroy inner s).disconnect h
    | (s, _) => s.disconnect h

/-- Destroys a callback: the handles it kept are released one after the other,
    and if one was the last one of its connection the connection is closed. The
    first argument bounds the length of the chain. -/
def destroyWithin : Nat → CallbackKey → System → System
  | 0, _, s => s
  | n + 1, k, s =>
    match s.callbacks.get? k with
    | none => s
    | some cb =>
      -- A chain that comes back to a callback finds it destroyed.
      if cb.ended.isSome then s
      else
        cb.holds.foldl (fun s h => closeUnheld (destroyWithin n) h (s.letGo k h))
          (s.endCallback k)

/-- Destroys a callback and closes every connection that loses its last handle
    by it. No chain is longer than there are callbacks. -/
def destroy (k : CallbackKey) (s : System) : System :=
  destroyWithin (s.callbacks.size + 1) k s

/-- Destroys a callback if there is one. -/
def destroyAny (k : Option CallbackKey) (s : System) : System :=
  match k with
  | some k => s.destroy k
  | none => s

/-- Clears the registration of a connection and destroys the callback that was
    in the slot. Answers whether there was a registration. -/
def detach (c : ConnKey) (s : System) : System × Bool :=
  match s.clearSlot c with
  | (s, none) => (s, false)
  | (s, some callback) => (s.destroyAny callback, true)

/-- Clears the registration of a connection if it is with one registry. -/
def detachFrom (c : ConnKey) (r : RegistryKey) (s : System) : System × Bool :=
  if (s.slot c).registry = some r then s.detach c else (s, false)

/-- Clears the registration of a connection if nothing changed it since a count
    was taken. -/
def detachGeneration (c : ConnKey) (generation : UInt64) (s : System) : System × Bool :=
  if (s.slot c).generation = generation then s.detach c else (s, false)

/-- Closes a connection. A connection that is closed already only loses a
    registration, should it have one. -/
def close (c : ConnKey) (s : System) : System :=
  (s.detach c).1.disconnect c

/-- Gives up the program's handle of a connection, and closes the connection if
    it was the last. Answers whether there was a handle. -/
def dropHandle (c : ConnKey) (s : System) : System × Bool :=
  match s.conn? c with
  | none => (s, false)
  | some conn =>
    if conn.owned then
      let s := s.updateConn c fun x => { x with owned := false }
      -- Callbacks may keep handles of it as well.
      (if s.isHeld c then s else s.close c, true)
    else (s, false)

end System

end ReadNotify
