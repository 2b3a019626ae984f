import ReadNotify.Kernel.Wake
/-!
# Interest Sets

The kernel's side of a level-triggered readiness facility. An interest set is
opened once and then kept up to date by three controls, each of which names a
descriptor number and acts on the open file behind it. Adding an entry that
is there, and changing or deleting one that is not, fail with different
errors, and a number nobody uses fails with a third; callers tell these apart.
A set takes no control on a file that cannot be watched or on itself, and none
that would make it contain itself.

Waiting looks at the entries in the order of their turns until it has as many
ready ones as the caller has room for. Those that were reported get their next
turn behind all others, and those that were not reached come first. So when
there are more ready entries than room, every one of them is reported in the
end.

## Main definitions

* `InterestControl`: The three controls.
* `Kernel.openInterest`, `Kernel.closeInterest`: The life of an interest set.
* `Kernel.control`: One control on one descriptor number.
* `Interest.serve`, `Kernel.wait`: The turns of the entries.

## Theorems

* `Interest.perm_serve`: Serving neither adds nor loses an entry.
-/

namespace ReadNotify

/-- What is done to an entry of an interest set. -/
inductive InterestControl where
  | add
  | modify
  | delete
  deriving DecidableEq, Repr

namespace Interest

/-- Goes through entries in the order of their turns until so many were ready.
    Answers those that were, those that were not, and those not reached. -/
def serve (ready : OpenFile → Bool) :
    Nat → List Interest → List Interest × List Interest × List Interest
  | 0, rest => ([], [], rest)
  | _, [] => ([], [], [])
  | room + 1, i :: rest =>
      if ready i.file then
        let (hits, passed, unreached) := serve ready room rest
        (i :: hits, passed, unreached)
      else
        let (hits, passed, unreached) := serve ready (room + 1) rest
        (hits, i :: passed, unreached)

/-- Whether a list has an entry for a number and a file, queued or not. -/
def listed (entries : List Interest) (fd : Nat) (f : OpenFile) : Bool :=
  entries.any fun i => i.fd == fd && i.file == f

/-- Serving neither adds nor loses an entry. -/
theorem perm_serve (ready : OpenFile → Bool) (room : Nat) (entries : List Interest) :
    ((serve ready room entries).1 ++ ((serve ready room entries).2.1 ++
      (serve ready room entries).2.2)).Perm entries := by
  induction entries generalizing room with
  | nil => cases room <;> exact List.Perm.refl []
  | cons i rest ih =>
      cases room with
      | zero => exact List.Perm.refl _
      | succ room =>
          unfold serve
          split
          · exact (ih room).cons i
          · exact List.perm_middle.trans ((ih (room + 1)).cons i)

end Interest

namespace Kernel

open IoError (noEntry entryExists badDescriptor descriptorLimit invalidArgument nestedLoop
  notPermitted)

/-- Opens an empty interest set. -/
def openInterest (k : Kernel) : Kernel × Except Int InterestKey :=
  if k.starved then (k, .error descriptorLimit)
  else ({ k with interests := k.interests.add { fd := k.freshFd } }, .ok k.interests.size)

/-- Closes an interest set, which leaves those that watch it. -/
def closeInterest (k : Kernel) (e : InterestKey) : Kernel :=
  (k.updateInterests e fun x => { x with isOpen := false, entries := [] }).forget (.interests e)

/-- Queues the entry of a file if that turns out to be ready, and tells the
    watchers of the set. -/
def notice (k : Kernel) (e : InterestKey) (f : OpenFile) : Kernel :=
  let k := k.examine f
  -- A file that was noticed already keeps its place in the queue.
  if k.ready f && (k.entries e).any fun i => i.file == f && !i.queued then
    (k.updateInterests e (InterestSet.queue f)).wake (.interests e)
  else k

/-- Applies one control to the open file behind a descriptor number. -/
def control (k : Kernel) (e : InterestKey) (op : InterestControl) (fd : Nat) :
    Kernel × Except Int Unit :=
  match k.at? fd with
  | none => (k, .error badDescriptor)
  | some f =>
    let present := Interest.listed (k.entries e) fd f
    -- What cannot be watched at all is refused before the entries are looked at.
    if !k.pollable f then (k, .error notPermitted)
    else if f = .interests e then (k, .error invalidArgument)
    else
      match op with
      | .add =>
          if k.contains e f then (k, .error nestedLoop)
          else if present then (k, .error entryExists)
          else
            -- A new entry is behind all others, and has a place once it is ready.
            let k := k.updateInterests e fun x =>
              { x with entries := x.entries ++ [⟨fd, f, false⟩] }
            (k.notice e f, .ok ())
      | .modify => if present then (k.notice e f, .ok ()) else (k, .error noEntry)
      | .delete =>
          if present then
            (k.updateInterests e fun x =>
              { x with entries := x.entries.filter fun i => !(i.fd == fd && i.file == f) }, .ok ())
          else (k, .error noEntry)

/-- Reports the numbers of ready entries, at most `room`, and gives these their
    next turns behind all others. Entries that were looked at and not ready lose
    their places. -/
def wait (k : Kernel) (e : InterestKey) (room : Nat) : Kernel × List Nat :=
  let (hits, passed, unreached) := Interest.serve k.ready room (k.entries e)
  let looked := (hits ++ passed).filter Interest.queued
  let k := looked.foldl (fun k i => k.examine i.file) k
  -- Those not reached keep their turn, those reported wait for all others.
  let entries := passed.map Interest.unqueue ++ unreached ++ hits.map Interest.queue
  (k.updateInterests e fun x => { x with entries }, hits.map Interest.fd)

end Kernel

end ReadNotify
