import ReadNotify.Connection.Id
import ReadNotify.Kernel.Interest
/-!
# Readiness by an Interest Set

The second backend keeps an interest set in the kernel and brings it in line
with each window before it waits: numbers that left the window are deleted,
new ones are added, and a number that now belongs to another connection is
armed again.

What is in the kernel is known here only from memory. The map `watched` says
for which connection each number was last armed, and the kernel may have
dropped the entry since, because the socket was closed. Arming therefore
tries the control that memory suggests first and falls back to the other one
if the kernel disagrees. A deletion that finds nothing is no fault. One that
fails for another reason is reported and not tried again: then the number has
gone to a file that cannot be watched, and the entry went with the old one.

Entries are reported by descriptor number, so the answer is read off the
window: its members whose numbers were reported, in the order of the window.

## Main definitions

* `Epoll`: An interest set, what it is believed to hold, and its capacity.
* `Epoll.arm`: One number armed, by either control.
* `Epoll.drop`: One number forgotten and deleted.
* `Epoll.sync`: The interest set brought in line with a window.
* `Epoll.wait`: The ready members of a window.
-/

namespace ReadNotify

/-- The backend that keeps an interest set. -/
structure Epoll where
  set : InterestKey
  /-- For which connection each number was last armed. -/
  watched : List (Nat × ConnId)
  capacity : Nat
  deriving DecidableEq, Repr

/-- A member the kernel did not take, with the error it gave. -/
structure Rejection where
  id : ConnId
  cause : IoError
  deriving DecidableEq, Repr

/-- A number the kernel did not delete, with the error it gave. -/
structure Leftover where
  fd : Nat
  cause : IoError
  deriving DecidableEq, Repr

/-- What an answer to a deletion leaves undone. One that finds nothing is no
    fault. -/
def Leftover.ofReply? (fd : Nat) : Except Int Unit → Option Leftover
  | .ok () => none
  | .error code => if (IoError.os code).isForgotten then none else some ⟨fd, .os code⟩

namespace Epoll

/-- The backend on a fresh interest set. -/
def ofSet (set : InterestKey) (capacity : Nat) : Epoll := ⟨set, [], capacity⟩

/-- The connection a number is believed to be armed for. -/
def watches? (e : Epoll) (fd : Nat) : Option ConnId :=
  (e.watched.find? fun x => x.1 == fd).map Prod.snd

/-- Remembers a number as armed for a connection. -/
def watch (e : Epoll) (fd : Nat) (id : ConnId) : Epoll :=
  { e with watched := (e.watched.filter fun x => x.1 != fd) ++ [(fd, id)] }

/-- Forgets a number. -/
def unwatch (e : Epoll) (fd : Nat) : Epoll :=
  { e with watched := e.watched.filter fun x => x.1 != fd }

/-- Arms a number. A number believed to be in the set is changed, one believed
    to be absent is added, and if the kernel knows better the other control is
    tried. -/
def arm (e : Epoll) (k : Kernel) (fd : Nat) (known : Bool) : Kernel × Except Int Unit :=
  let (first, fallback, retryOn) :=
    if known then (InterestControl.modify, InterestControl.add, IoError.noEntry)
    else (InterestControl.add, InterestControl.modify, IoError.entryExists)
  match k.control e.set first fd with
  | (k, .error code) =>
      -- Any other error is not one of belief.
      if code = retryOn then k.control e.set fallback fd else (k, .error code)
  | done => done

/-- Forgets a number and deletes it from the set. -/
def drop (e : Epoll) (k : Kernel) (fd : Nat) : Epoll × Kernel × Option Leftover :=
  let (k, reply) := k.control e.set .delete fd
  (e.unwatch fd, k, Leftover.ofReply? fd reply)

/-- Drops numbers in order and collects those that the kernel did not delete. -/
def dropAll : List Nat → Epoll → Kernel → Epoll × Kernel × List Leftover
  | [], e, k => (e, k, [])
  | fd :: rest, e, k =>
      let (e, k, leftover) := e.drop k fd
      let (e, k, more) := dropAll rest e k
      (e, k, leftover.toList ++ more)

/-- The numbers that are remembered and that no member of a window has. -/
def stale (window : List ConnId) (e : Epoll) : List Nat :=
  -- A number counts as in use whatever connection of the window has it now.
  (e.watched.map Prod.fst).filter fun fd => !window.any fun id => id.raw == fd

/-- Arms one member of the window, unless it is believed to be armed. -/
def armMember (e : Epoll) (k : Kernel) (id : ConnId) : Epoll × Kernel × Option Rejection :=
  if e.watches? id.raw = some id then (e, k, none)
  else
    match e.arm k id.raw (e.watches? id.raw).isSome with
    | (k, .ok ()) => (e.watch id.raw id, k, none)
    -- It is tried anew when its next window comes.
    | (k, .error code) => (e.unwatch id.raw, k, some ⟨id, .os code⟩)

/-- Arms the members of a window in order and collects those the kernel did
    not take. -/
def armAll : List ConnId → Epoll → Kernel → Epoll × Kernel × List Rejection
  | [], e, k => (e, k, [])
  | id :: rest, e, k =>
      let (e, k, rejected) := e.armMember k id
      let (e, k, more) := armAll rest e k
      (e, k, rejected.toList ++ more)

/-- Brings the interest set in line with a window: drops what no member has, then
    arms the members. -/
def sync (window : List ConnId) (e : Epoll) (k : Kernel) :
    Epoll × Kernel × List Leftover × List Rejection :=
  let (e, k, leftovers) := dropAll (e.stale window) e k
  let (e, k, rejected) := armAll window e k
  (e, k, leftovers, rejected)

/-- How many entries one call to wait can report. -/
def room (e : Epoll) : Nat := max e.capacity 1

/-- Waits and answers the members of a window whose numbers were reported. -/
def wait (window : List ConnId) (e : Epoll) (k : Kernel) : Kernel × List ConnId :=
  let (k, hits) := k.wait e.set e.room
  -- The answer is in the order of the window, and holds members only.
  (k, window.filter fun id => hits.contains id.raw)

end Epoll

end ReadNotify
