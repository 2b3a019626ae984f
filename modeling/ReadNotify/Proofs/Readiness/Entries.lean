import ReadNotify.Kernel.Stream
import ReadNotify.Kernel.Interest
import Mathlib.Data.List.TakeDrop
import Mathlib.Tactic.Common

/-!
# What Interest Sets Watch

An interest set watches files, and much of what is done to it concerns only the
order in which its entries get their turns. Taking notice of a file and finding
out whether one is ready queue entries and move them about, through any number
of levels, and no set watches anything else afterwards. A file that leaves all
interest sets is the one exception among the operations that are not meant for
one particular set.

## Main definitions

* `Kernel.targets`: The numbers and files that an interest set watches.
* `Kernel.shape?`: The number of an interest set, and whether it is open.
* `Kernel.Reordered`: Interest sets watch what they watched.

## Theorems

* `reordered_examine`, `reordered_wake`: Looking and taking notice reorder.
* `targets_forget`, `shape?_forget`: What is left when a file leaves.
-/

namespace ReadNotify

/-- What an entry is about. -/
def Interest.target (i : Interest) : Nat × OpenFile := (i.fd, i.file)

namespace Kernel

variable {k k' k'' : Kernel} {e : InterestKey}

/-- What an interest set watches, in the order of the turns. -/
def targets (k : Kernel) (e : InterestKey) : List (Nat × OpenFile) :=
  (k.entries e).map Interest.target

/-- The number of an interest set, and whether it is open. -/
def shape? (k : Kernel) (e : InterestKey) : Option (Nat × Bool) :=
  (k.interests.get? e).map fun x => (x.fd, x.isOpen)

theorem entries_of_get? {x : InterestSet} (h : k.interests.get? e = some x) :
    k.entries e = x.entries := by
  simp only [entries, h]

/-- The entries of every interest set after one was rewritten. -/
theorem entries_updateInterests (f : InterestSet → InterestSet) (k : Kernel) (e d : InterestKey) :
    (k.updateInterests e f).entries d =
      if d = e then ((k.interests.get? e).map fun x => (f x).entries).getD [] else k.entries d := by
  simp only [entries, updateInterests, Table.get?_update]
  by_cases hd : d = e
  · rw [if_pos hd, if_pos hd]
    cases k.interests.get? e with
    | none => rfl
    | some x => rfl
  · rw [if_neg hd, if_neg hd]

/-- Interest sets watch what they watched, in some order. -/
structure Reordered (k k' : Kernel) : Prop where
  frame : ∃ interests, k' = { k with interests }
  size : k'.interests.size = k.interests.size
  shape : ∀ e, k'.shape? e = k.shape? e
  targets : ∀ e, (k'.targets e).Perm (k.targets e)

theorem reordered_refl (k : Kernel) : Reordered k k :=
  ⟨⟨k.interests, rfl⟩, rfl, fun _ => rfl, fun _ => List.Perm.refl _⟩

theorem reordered_trans (h : Reordered k k') (h' : Reordered k' k'') : Reordered k k'' := by
  refine ⟨?_, h'.size.trans h.size, fun e => (h'.shape e).trans (h.shape e),
    fun e => (h'.targets e).trans (h.targets e)⟩
  -- Both rewrite the entries of interest sets and nothing else.
  rcases h.frame with ⟨_, rfl⟩
  rcases h'.frame with ⟨interests, rfl⟩
  exact ⟨interests, rfl⟩

/-- Rewriting one interest set so that it watches what it watched before. -/
theorem Reordered.update (h : Reordered k k') {f : InterestSet → InterestSet}
    (hfd : ∀ x, (f x).fd = x.fd) (hopen : ∀ x, (f x).isOpen = x.isOpen)
    (hentries : ∀ x, k'.interests.get? e = some x →
      ((f x).entries.map Interest.target).Perm (k.targets e)) :
    Reordered k (k'.updateInterests e f) := by
  refine ⟨?_, (Table.size_update _ _ _).trans h.size, fun d => ?_, fun d => ?_⟩
  · rcases h.frame with ⟨interests, rfl⟩
    exact ⟨interests.update e f, rfl⟩
  · rw [← h.shape, shape?, shape?, updateInterests, Table.get?_update]
    by_cases hd : d = e
    · rw [if_pos hd, hd, Option.map_map]
      refine congrArg (Option.map · _) (funext fun x => ?_)
      rw [Function.comp_apply, hfd, hopen]
    · rw [if_neg hd]
  · rw [Kernel.targets, entries_updateInterests]
    by_cases hd : d = e
    · rw [if_pos hd, hd]
      rcases hx : k'.interests.get? e with _ | x
      · -- A set that does not exist watches nothing.
        have hnone := h.targets e
        rwa [Kernel.targets, entries, hx] at hnone
      · exact hentries x hx
    · rw [if_neg hd]
      exact h.targets d

/-- What is queued and what is not, put one behind the other. -/
theorem perm_queue (f : OpenFile) (x : InterestSet) :
    ((x.queue f).entries.map Interest.target).Perm (x.entries.map Interest.target) := by
  have htarget : Interest.target ∘ Interest.queue = Interest.target := rfl
  have hsplit := List.filter_append_perm (fun i : Interest => i.file == f && !i.queued) x.entries
  simp only [InterestSet.queue, List.partition_eq_filter_filter, List.map_append, List.map_map,
    htarget]
  rw [← List.map_append]
  refine List.Perm.map _ (List.perm_append_comm.trans ?_)
  exact hsplit

theorem reordered_queue (f : OpenFile) (k : Kernel) (e : InterestKey) :
    Reordered k (k.updateInterests e (InterestSet.queue f)) := by
  refine (reordered_refl k).update (fun _ => rfl) (fun _ => rfl) fun x hx => ?_
  rw [targets, entries_of_get? hx]
  exact perm_queue f x

/-- Taking notice reorders, through any number of levels. -/
theorem reordered_wakeWithin (n : Nat) (f : OpenFile) (k : Kernel) :
    Reordered k (wakeWithin n f k) := by
  induction n generalizing f k with
  | zero => exact reordered_refl k
  | succ n ih =>
      unfold wakeWithin
      generalize k.watchers f = es
      induction es generalizing k with
      | nil => exact reordered_refl k
      | cons e rest step =>
          rw [List.foldl_cons]
          exact reordered_trans (reordered_trans (reordered_queue f k e) (ih _ _)) (step _)

theorem reordered_wake (k : Kernel) (f : OpenFile) : Reordered k (k.wake f) :=
  reordered_wakeWithin k.interests.size f k

/-- Looking at entries one after the other reorders if looking at each does. -/
theorem reordered_foldl {look : Interest → Kernel → Kernel} (hlook : ∀ i k, Reordered k (look i k))
    (is : List Interest) (k : Kernel) : Reordered k (is.foldl (fun k i => look i k) k) := by
  induction is generalizing k with
  | nil => exact reordered_refl k
  | cons i rest ih => exact reordered_trans (hlook i k) (ih (look i k))

/-- Finding out whether a file is ready reorders, through any number of levels. -/
theorem reordered_examineWithin (n : Nat) (f : OpenFile) (k : Kernel) :
    Reordered k (examineWithin n f k) := by
  induction n generalizing f k with
  | zero => exact reordered_refl k
  | succ n ih =>
      cases f with
      | socket q => exact reordered_refl k
      | other o => exact reordered_refl k
      | interests e =>
          -- Whatever happens to the set meanwhile, its entries are put together
          -- of those that it had.
          simp only [examineWithin, List.span_eq_takeWhile_dropWhile]
          refine (reordered_foldl (fun i k => ih i.file k) _ k).update (fun _ => rfl)
            (fun _ => rfl) fun x _ => ?_
          have htarget : Interest.target ∘ Interest.unqueue = Interest.target := rfl
          rw [List.map_append, List.map_map, htarget, ← List.map_append,
            List.takeWhile_append_dropWhile]
          exact List.Perm.refl _

theorem reordered_examine (k : Kernel) (f : OpenFile) : Reordered k (k.examine f) :=
  reordered_examineWithin k.interests.size f k

/-! ### Files that leave -/

theorem get?_forget (k : Kernel) (f : OpenFile) (e : InterestKey) :
    (k.forget f).interests.get? e = (k.interests.get? e).map fun x =>
      { x with entries := x.entries.filter fun i => i.file != f } := by
  rw [forget, Table.get?, Table.get?, Array.getElem?_map]

/-- A file that leaves is watched by nobody, and all else is watched still. -/
theorem targets_forget (k : Kernel) (f : OpenFile) (e : InterestKey) :
    (k.forget f).targets e = (k.targets e).filter fun t => t.2 != f := by
  rw [targets, targets, entries, entries, get?_forget]
  rcases k.interests.get? e with _ | x
  · rfl
  · rw [Option.map_some, List.filter_map]
    rfl

theorem shape?_forget (k : Kernel) (f : OpenFile) (e : InterestKey) :
    (k.forget f).shape? e = k.shape? e := by
  rw [shape?, shape?, get?_forget, Option.map_map]
  rfl

theorem size_forget (k : Kernel) (f : OpenFile) :
    (k.forget f).interests.size = k.interests.size := by
  rw [forget, Table.size, Table.size, Array.size_map]

end Kernel

end ReadNotify
