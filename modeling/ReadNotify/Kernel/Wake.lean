import ReadNotify.Kernel.Socket
/-!
# Ready Files and Their Watchers

When a file becomes ready, every interest set that watches it takes notice:
the entry is queued behind all entries that are queued already, unless it is
one of them. Taking notice is not the same as being ready. An entry stays
queued when somebody reads what made it ready, and then keeps its place in
case more arrives before it is looked at.

An interest set can be watched like a socket. It is ready when one of its
entries is, and whoever watches it takes notice whenever it takes notice of
something itself. Finding out whether it is ready means looking at its queued
entries in turn until one is ready; those that are not lose their places. No
interest set contains itself through others, so there are no more levels than
interest sets.

## Main definitions

* `Kernel.ready`: Whether a file is ready.
* `Kernel.contains`: Whether an interest set is among what a file watches.
* `Kernel.examine`: Somebody finds out whether a file is ready.
* `Kernel.wake`: The watchers of a file take notice of it.
* `Kernel.forget`: A file leaves every interest set.

## Theorems

* `Kernel.sockets_examine`, `Kernel.sockets_wake`: Watching leaves sockets as they are.
-/

namespace ReadNotify

namespace Interest

/-- The entry with a place in the queue. -/
def queue (i : Interest) : Interest := { i with queued := true }

/-- The entry without a place in the queue. -/
def unqueue (i : Interest) : Interest := { i with queued := false }

end Interest

namespace InterestSet

/-- Queues the entry of a file behind all others, unless it is queued. -/
def queue (f : OpenFile) (x : InterestSet) : InterestSet :=
  let (noticed, others) := x.entries.partition fun i => i.file == f && !i.queued
  { x with entries := others ++ noticed.map Interest.queue }

/-- Whether some entry watches a file. -/
def watches (f : OpenFile) (x : InterestSet) : Bool :=
  x.entries.any fun i => i.file == f

end InterestSet

namespace Kernel

/-- Whether a file is ready, looking through so many levels of interest
    sets. -/
def readyWithin (k : Kernel) : Nat → OpenFile → Bool
  | _, .socket s => k.readable s
  | _, .other o => (k.others.get? o).any OtherFile.ready
  | 0, .interests _ => false
  | n + 1, .interests e => (k.entries e).any fun i => k.readyWithin n i.file

/-- Whether a file is ready: a socket or another file that can be read, or an
    interest set with an entry that is ready. -/
def ready (k : Kernel) (f : OpenFile) : Bool := k.readyWithin k.interests.size f

/-- Whether a file is an interest set, or watches it through so many levels. -/
def containsWithin (k : Kernel) (e : InterestKey) : Nat → OpenFile → Bool
  | _, .socket _ => false
  | _, .other _ => false
  | 0, .interests d => d == e
  | n + 1, .interests d => d == e || (k.entries d).any fun i => k.containsWithin e n i.file

/-- Whether a file is an interest set, or watches it directly or through
    others. -/
def contains (k : Kernel) (e : InterestKey) (f : OpenFile) : Bool :=
  k.containsWithin e k.interests.size f

/-- Finds out whether a file is ready, looking through so many levels: the
    queued entries of an interest set that come before the first ready one lose
    their places. -/
def examineWithin : Nat → OpenFile → Kernel → Kernel
  | 0, _, k => k
  | _ + 1, .socket _, k => k
  | _ + 1, .other _, k => k
  | n + 1, .interests e, k =>
      let (passed, rest) := (k.entries e).span fun i => !k.ready i.file
      -- Looking stops at the first entry that is ready. What has no place is not looked at.
      let looked := (passed ++ rest.take 1).filter Interest.queued
      let k := looked.foldl (fun k i => examineWithin n i.file k) k
      k.updateInterests e fun x => { x with entries := passed.map Interest.unqueue ++ rest }

/-- Finds out whether a file is ready. -/
def examine (k : Kernel) (f : OpenFile) : Kernel := examineWithin k.interests.size f k

/-- The interest sets that watch a file. -/
def watchers (k : Kernel) (f : OpenFile) : List InterestKey :=
  (List.range k.interests.size).filter fun e => (k.interests.get? e).any (InterestSet.watches f)

/-- The watchers of a file take notice of it, through so many levels. -/
def wakeWithin : Nat → OpenFile → Kernel → Kernel
  | 0, _, k => k
  | n + 1, f, k =>
      (k.watchers f).foldl
        -- A set that was noticed is itself noticed by those that watch it.
        (fun k e => wakeWithin n (.interests e) (k.updateInterests e (InterestSet.queue f))) k

/-- The watchers of a file take notice of it. -/
def wake (k : Kernel) (f : OpenFile) : Kernel := wakeWithin k.interests.size f k

/-- Takes a file out of every interest set. -/
def forget (k : Kernel) (f : OpenFile) : Kernel :=
  { k with
    interests :=
      ⟨k.interests.rows.map fun x => { x with entries := x.entries.filter fun i => i.file != f }⟩ }

/-- Finding out whether a file is ready, at any depth, changes no socket. -/
theorem sockets_examineWithin (n : Nat) (f : OpenFile) (k : Kernel) :
    (examineWithin n f k).sockets = k.sockets := by
  induction n generalizing f k with
  | zero => rfl
  | succ n ih =>
      cases f with
      | socket s => rfl
      | other o => rfl
      | interests e =>
          -- Each entry looked at leaves the sockets alone, and so does the fold.
          have hfold : ∀ (is : List Interest) (k : Kernel),
              (is.foldl (fun k i => examineWithin n i.file k) k).sockets = k.sockets := by
            intro is
            induction is with
            | nil => intro k; rfl
            | cons i rest step => intro k; rw [List.foldl_cons, step, ih]
          exact hfold _ k

/-- Finding out whether a file is ready changes no socket. -/
theorem sockets_examine (k : Kernel) (f : OpenFile) : (k.examine f).sockets = k.sockets :=
  sockets_examineWithin k.interests.size f k

/-- Taking notice, through any number of levels, changes no socket. -/
theorem sockets_wakeWithin (n : Nat) (f : OpenFile) (k : Kernel) :
    (wakeWithin n f k).sockets = k.sockets := by
  induction n generalizing f k with
  | zero => rfl
  | succ n ih =>
      unfold wakeWithin
      -- Each watcher in turn leaves the sockets alone, and so does the fold.
      generalize k.watchers f = es
      induction es generalizing k with
      | nil => rfl
      | cons e rest step =>
          rw [List.foldl_cons, step, ih]
          rfl

/-- Taking notice changes no socket. -/
theorem sockets_wake (k : Kernel) (f : OpenFile) : (k.wake f).sockets = k.sockets :=
  sockets_wakeWithin k.interests.size f k

end Kernel

end ReadNotify
