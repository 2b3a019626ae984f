import ReadNotify.Config
import ReadNotify.Readiness.Epoll
import ReadNotify.Readiness.PollSet
/-!
# Readiness Backends

Both backends behind one interface: they are opened for windows of some size,
and then asked about one window after the other. The answer holds the ready
members in the order of the window and what was noticed on the way. An empty
window is answered without waiting, but the interest set is brought in line
with it all the same.

Opening can fail in two ways. The system may have no descriptor left, which is
an ordinary error. And a size may be so large that no buffer can have it,
which is a fault the caller cannot catch as an error.

## Main definitions

* `Poller`: One of the two backends.
* `Poller.create`, `Poller.release`: The life of a backend.
* `Poller.check`: The ready members of a window.
* `StartFault`: Why something could not be set up.
-/

namespace ReadNotify

/-- Why something could not be set up: an error of the system, or a fault that
    ends the calling code. -/
inductive StartFault where
  | io (e : IoError)
  | panic (text : String)
  deriving DecidableEq, Repr

/-- The most bytes one buffer can have. -/
def maxBuffer : Nat := 0x7fffffffffffffff

/-- What asking for more bytes than a buffer can have ends with. -/
def overflowText : String := "capacity overflow"

/-- One of the two backends. -/
inductive Poller where
  | pollSet (p : PollSet)
  | epoll (e : Epoll)
  deriving DecidableEq, Repr

/-- Something a backend noticed about a member of a window, or about a number that
    no member has. -/
inductive PollNote where
  | invalid (id : ConnId)
  | rejected (r : Rejection)
  | left (x : Leftover)
  deriving DecidableEq, Repr

namespace Poller

/-- The largest window a backend takes in one call. -/
def capacity : Poller → Nat
  | pollSet p => p.capacity
  | epoll e => e.capacity

/-- Bytes per member of the stateless backend's buffer. -/
def pollEntrySize : Nat := 8

/-- Bytes per member of the interest set's buffer. -/
def epollEntrySize : Nat := 12

/-- Opens a backend for windows of up to `capacity` members. The interest set
    is opened before its buffer, so a full descriptor table is found first.
    The tables of its memory are sized by `capacity` as well, behind the buffer.
    Their own limit lies where the buffer would already take all memory there can
    be, so they are left out here. -/
def create (kind : BackendKind) (capacity : Nat) (k : Kernel) :
    Kernel × Except StartFault Poller :=
  match kind with
  | .poll =>
      if maxBuffer < pollEntrySize * capacity then (k, .error (.panic overflowText))
      else (k, .ok (.pollSet ⟨capacity⟩))
  | .epoll =>
      match k.openInterest with
      | (k, .error code) => (k, .error (.io (.os code)))
      | (k, .ok set) =>
        if maxBuffer < epollEntrySize * max capacity 1 then
          -- The set is closed again while the fault goes up.
          (k.closeInterest set, .error (.panic overflowText))
        else (k, .ok (.epoll (.ofSet set capacity)))

/-- Gives back what a backend holds of the system. -/
def release (p : Poller) (k : Kernel) : Kernel :=
  match p with
  | pollSet _ => k
  | epoll e => k.closeInterest e.set

/-- The ready members of a window, and what was noticed on the way. -/
def check (window : List ConnId) (p : Poller) (k : Kernel) :
    Poller × Kernel × List ConnId × List PollNote :=
  match p with
  | pollSet q =>
      (pollSet q, PollSet.examine k window, PollSet.ready k window,
        (PollSet.skipped k window).map .invalid)
  | epoll e =>
      let (e, k, leftovers, rejected) := e.sync window k
      -- Nothing is asked about nobody, but what was watched is dropped.
      let (k, ready) := if window = [] then (k, []) else e.wait window k
      (epoll e, k, ready, leftovers.map .left ++ rejected.map .rejected)

end Poller

end ReadNotify
