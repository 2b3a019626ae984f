import ReadNotify.Exit
/-!
# Guarded Values

The locks shared between caller threads and worker threads, as far as a
single thread can tell: what is under a lock, and what happens to it when a
thread panics while holding the guard. The lock is released by the panic, and
it is not poisoned: what the thread had written stays, and the next thread
finds it like any other value.

Two guarded values are kept side by side, one under a mutex and one under a
reader-writer lock, both starting at zero.

## Main definitions

* `Guarded`: A value under a lock.
* `Guarded.holding`: A section of code that runs under the guard and ends by
  returning or by a panic.
* `LockPair`, `LockStep`, `LockPair.step`: The two values and what is done to
  them.
-/

namespace ReadNotify

/-- A value under a lock. -/
structure Guarded (α : Type) where
  value : α
  deriving Repr

namespace Guarded

/-- Runs a section under the guard. The lock is free again afterwards however
    the section ended, and holds what the section left there. -/
def holding {α : Type} (g : Guarded α) (body : α → α × Exit) : Guarded α × Exit :=
  let (value, exit) := body g.value
  (⟨value⟩, exit)

end Guarded

/-- A number under a mutex and a number under a reader-writer lock. -/
structure LockPair where
  mutex : Guarded Int64
  shared : Guarded Int64
  deriving Repr

/-- What a thread does to the two numbers. -/
inductive LockStep where
  | add (n : Int64) (exit : Exit)
  | write (n : Int64) (exit : Exit)
  | read (exit : Exit)
  deriving Repr

/-- What can be seen after a step: whether the thread panicked, the number
    under the mutex, and the sum of two readers that hold the other lock at
    the same time. -/
structure LockView where
  exit : Exit
  mutex : Int64
  doubled : Int64

namespace LockPair

/-- Both numbers at zero. -/
def init : LockPair := ⟨⟨0⟩, ⟨0⟩⟩

/-- One step and what is seen after it. -/
def step (p : LockPair) : LockStep → LockPair × LockView
  | .add n exit =>
      let (mutex, ended) := p.mutex.holding fun v => (v + n, exit)
      ({ p with mutex }, ⟨ended, mutex.value, p.shared.value + p.shared.value⟩)
  | .write n exit =>
      let (shared, ended) := p.shared.holding fun _ => (n, exit)
      ({ p with shared }, ⟨ended, p.mutex.value, shared.value + shared.value⟩)
  | .read exit =>
      let (shared, ended) := p.shared.holding fun v => (v, exit)
      ({ p with shared }, ⟨ended, p.mutex.value, shared.value + shared.value⟩)

/-- The views after each of a list of steps. -/
def run (p : LockPair) : List LockStep → List LockView
  | [] => []
  | s :: rest =>
      let (p', view) := p.step s
      view :: run p' rest

end LockPair

end ReadNotify
