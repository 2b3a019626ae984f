import ReadNotify.Connection.Id
import ReadNotify.Kernel.Wake
/-!
# Stateless Readiness

The simple backend asks the kernel anew about every member of every window
and keeps nothing between two calls. A member is asked about by its
descriptor number. If the number is in use, what counts is the file that uses
it now, of whatever sort; if nobody uses it, the member is skipped.

## Main definitions

* `PollSet.isValid`: Whether anybody uses a member's descriptor number.
* `PollSet.ready`: The members that are ready, in the order of the window.
* `PollSet.skipped`: The members whose number nobody uses.
* `PollSet.examine`: What asking does to the files.
-/

namespace ReadNotify

/-- The stateless backend, sized for windows of some number of members. -/
structure PollSet where
  capacity : Nat
  deriving DecidableEq, Repr

namespace PollSet

/-- Whether anybody uses the descriptor number of a member. -/
def isValid (k : Kernel) (id : ConnId) : Bool := (k.at? id.raw).isSome

/-- Whether the file behind a member's descriptor number is ready. -/
def isReady (k : Kernel) (id : ConnId) : Bool :=
  match k.at? id.raw with
  | some f => k.ready f
  | none => false

/-- The ready members of a window. -/
def ready (k : Kernel) (window : List ConnId) : List ConnId :=
  window.filter (isReady k)

/-- The files behind the members of a window are looked at in turn. -/
def examine (k : Kernel) (window : List ConnId) : Kernel :=
  (window.filterMap fun id => k.at? id.raw).foldl Kernel.examine k

/-- The members of a window that are skipped. -/
def skipped (k : Kernel) (window : List ConnId) : List ConnId :=
  window.filter fun id => !isValid k id

end PollSet

end ReadNotify
