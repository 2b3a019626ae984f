import ReadNotify.Exit
import ReadNotify.System.Registration
import ReadNotify.System.Traffic
/-!
# Dispatching

Dispatching a connection reads what is there and hands it to the connection's
callback. The callback is out of its slot while it runs, so it may register,
replace or clear callbacks, its own included, without getting in its own way;
what it left behind decides afterwards whether it goes back. A callback that
panics is unregistered and destroyed, and the panic goes no further.

A callback is code of the program. It may do anything the program can do, and
it may change state of the program's own, which this library knows nothing of.
Whatever runs callbacks is therefore stated for every kind of own state, the
*desk*, and every handler: a function that says what calling a callback with
some bytes does to the system and the desk, and whether the call returned.

## Main definitions

* `World`: The system together with the program's own state.
* `Handler`: What calling a callback does.
* `World.dispatch`: One delivery.
* `Outcome`: What became of it.
-/

namespace ReadNotify

/-- The system and the program's own state. -/
structure World (δ : Type) where
  sys : System
  desk : δ

/-- What became of a dispatch. -/
inductive Outcome where
  /-- The callback ran with this many bytes. -/
  | delivered (bytes : Nat)
  /-- No callback was in the slot. -/
  | skipped
  /-- The callback panicked and was unregistered. -/
  | panicked
  deriving DecidableEq, Repr

/-- What calling a callback with some bytes does, and how the call ended. -/
abbrev Handler (δ : Type) := CallbackKey → Bytes → World δ → World δ × Exit

namespace World

variable {δ : Type}

/-- Changes the system alone. -/
def onSys (w : World δ) (f : System → System) : World δ := { w with sys := f w.sys }

/-- Reads at most `size` bytes of a connection and hands them to its callback.
    The callback is taken out before anything is read, so a connection without
    one in its slot keeps its bytes. -/
def dispatch (call : Handler δ) (c : ConnKey) (size : Nat) (w : World δ) :
    World δ × Outcome :=
  match w.sys.take c true with
  | (_, none) => (w, .skipped)
  | (s, some t) =>
    let (s, data) := s.receive c size
    let s := s.note (.dispatching (s.label c) data.length)
    match call t.callback data { w with sys := s } with
    | (w, .returned) => (w.onSys fun s => (s.putBack t).1, .delivered data.length)
    | (w, .panicked) => (w.onSys fun s => s.giveUp t, .panicked)

end World

end ReadNotify
