import ReadNotify.System.Lifetime
/-!
# Registering, Taking and Putting Back

The slot of a connection changes in four ways besides being cleared. A
callback is *attached*, which registers the connection or moves its
registration and replaces a callback that was there. It is *taken* out to be
called. Afterwards it is *put back*, if the registration is still the one it
was taken from and nobody has filled the slot; otherwise it is destroyed. If
it panicked it is *given up*: the registration it was taken from is cleared,
and the callback is destroyed.

Whether the registration is still the same is decided by the count in the
slot, which every attaching and every clearing raises.

A slot's lock is held while the slot and the registries are changed, the
registries' own locks inside it, and it is released before a callback is
destroyed.

## Main definitions

* `System.install`, `System.attach`: Attaching, without and with the
  destruction of the callback that was replaced.
* `System.take`: Taking a callback out.
* `System.restore`, `System.putBack`: Putting it back, or destroying it.
* `System.giveUp`: What happens after a panic.
* `System.forget`: Destroying a callback that is out.
-/

namespace ReadNotify

namespace System

/-- Enters a connection in a registry and answers whether it was absent. -/
def enlist (c : ConnKey) (r : RegistryKey) (s : System) : System × Bool :=
  match s.conn? c with
  | none => (s, false)
  | some conn => s.onRegistry r (Registry.append conn.id c)

/-- Strikes a connection from a registry and answers whether it was present. -/
def strike (c : ConnKey) (r : RegistryKey) (s : System) : System × Bool :=
  match s.conn? c with
  | none => (s, false)
  | some conn => s.onRegistry r (Registry.remove conn.id)

/-- Puts a callback into the slot under the slot's lock and moves the
    registration to a registry. Hands out the callback that was in the slot
    and answers whether the connection was appended to the registry. -/
def install (c : ConnKey) (r : RegistryKey) (k : CallbackKey) (s : System) :
    System × Option CallbackKey × Bool :=
  let old := s.slot c
  let s := s.acquire (.slot c)
  let (s, appended) :=
    -- The entry moves only if it was in another registry.
    match old.registry with
    | some current =>
        if current = r then (s, false) else (s.strike c current).1.enlist c r
    | none => s.enlist c r
  -- Every registration is told apart by its count, a replacement as well.
  let s := s.updateSlot c fun x => ⟨some k, some r, x.generation + 1⟩
  (s.release (.slot c), old.callback, appended)

/-- Registers a callback for a connection with a registry. The callback that
    was in the slot is destroyed. Answers whether the connection was appended
    to the registry. -/
def attach (c : ConnKey) (r : RegistryKey) (k : CallbackKey) (s : System) : System × Bool :=
  match s.install c r k with
  -- The slot's lock is free when the old callback is destroyed.
  | (s, replaced, appended) => (s.destroyAny replaced, appended)

/-- Takes the callback out of a slot, if there is one. -/
def take (c : ConnKey) (pinned : Bool) (s : System) : System × Option Taken :=
  match (s.slot c).callback with
  | none => (s, none)
  | some k =>
    -- The count tells later whether the registration still is the one it was.
    let t : Taken := ⟨k, c, (s.slot c).generation, pinned⟩
    ({ s.updateSlot c fun x => { x with callback := none } with out := t :: s.out }, some t)

/-- Strikes a callback from the list of those that are out. -/
def settleTaken (k : CallbackKey) (s : System) : System :=
  { s with out := s.out.filter fun t => t.callback != k }

/-- Whether a callback may go back: the registration is the one it was taken
    from, it still stands, and the slot is free. -/
def mayReturn (t : Taken) (s : System) : Bool :=
  let x := s.slot t.conn
  x.generation == t.generation && x.registry.isSome && x.callback.isNone

/-- Puts a callback back into the slot it was taken from, if it may go there,
    and answers whether it did. -/
def restore (t : Taken) (s : System) : System × Bool :=
  if s.mayReturn t then
    (s.updateSlot t.conn fun x => { x with callback := some t.callback }, true)
  else (s, false)

/-- Puts a callback back, or destroys it if it may not go back. -/
def putBack (t : Taken) (s : System) : System × Bool :=
  match s.restore t with
  | (s, true) => (s.settleTaken t.callback, true)
  -- The registration was changed meanwhile, so the callback has no place to go to.
  | (s, false) => ((s.destroy t.callback).settleTaken t.callback, false)

/-- Clears the registration a callback was taken from, if it is still the same,
    and destroys the callback. -/
def giveUp (t : Taken) (s : System) : System :=
  let s := s.note (.callbackPanicked (s.label t.conn))
  -- A registration that replaced this one during the call is left alone.
  let s := (s.detachGeneration t.conn t.generation).1
  (s.destroy t.callback).settleTaken t.callback

/-- Destroys a callback that is out. -/
def forget (t : Taken) (s : System) : System :=
  (s.destroy t.callback).settleTaken t.callback

end System

end ReadNotify
