import ReadNotify.Proofs.Readiness.Entries
import ReadNotify.Proofs.Streams.Sockets
import Mathlib.Data.List.Nodup
import Mathlib.Data.List.Perm.Subperm

/-!
# Whose Number It Is

An open file with a descriptor number holds it, and no two open files hold one
number. The system gives out numbers that nobody holds, and a file has the number
it got for good. Entries of interest sets are about open files under the numbers
these hold, since a file that is closed leaves all interest sets.

## Main definitions

* `Kernel.Holds`: An open file and its number.
* `Kernel.Tidy`: Numbers and entries are in order.

## Theorems

* `Tidy.at?_eq_some_iff`: A number denotes the file that holds it.
* `at?_freshFdExcept`: Nobody holds a number that is given out.
-/

namespace ReadNotify

namespace Kernel

variable {k : Kernel} {fd : Nat} {f : OpenFile}

/-- The number of a socket, open or not. -/
def number? (k : Kernel) (q : SocketKey) : Option Nat := (k.socket? q).bind Socket.fd

/-- The number of a file that is neither socket nor interest set, and whether it
    is open. -/
def otherShape? (k : Kernel) (o : OtherKey) : Option (Nat × Bool) :=
  (k.others.get? o).map fun x => (x.fd, x.isOpen)

/-- An open file holds a number. -/
def Holds (k : Kernel) (fd : Nat) : OpenFile → Prop
  | .socket q => k.isOpen q = true ∧ k.number? q = some fd
  | .interests e => k.shape? e = some (fd, true)
  | .other o => k.otherShape? o = some (fd, true)

/-- No two open files hold one number, entries are about open files that can be
    watched, under the numbers that these hold, each file once, and what waits to
    be accepted has no number yet. -/
structure Tidy (k : Kernel) : Prop where
  unique : ∀ fd f g, k.Holds fd f → k.Holds fd g → f = g
  held : ∀ e, ∀ t ∈ k.targets e, k.Holds t.1 t.2
  pollable : ∀ e, ∀ t ∈ k.targets e, k.pollable t.2 = true
  once : ∀ e, (k.targets e).Nodup
  waiting : ∀ l w, k.backlog? l = some w → ∀ q ∈ w, k.number? q = none

/-! ### What a number denotes -/

theorem find?_eq_some {α : Type} {t : Table α} {p : α → Bool} {i : Nat} (h : t.find? p = some i) :
    ∃ a, t.get? i = some a ∧ p a = true := by
  rcases Array.findIdx?_eq_some_iff_getElem.mp h with ⟨hi, hp, -⟩
  exact ⟨t.rows[i], Array.getElem?_eq_getElem hi, hp⟩

theorem find?_isSome {α : Type} {t : Table α} {p : α → Bool} {i : Nat} {a : α}
    (hi : t.get? i = some a) (hp : p a = true) : (t.find? p).isSome = true := by
  rcases Array.getElem?_eq_some_iff.mp hi with ⟨hlt, rfl⟩
  rw [Table.find?, Array.findIdx?_isSome]
  exact Array.any_eq_true.mpr ⟨i, hlt, hp⟩

/-- What a number denotes holds it. -/
theorem holds_of_at? (h : k.at? fd = some f) : k.Holds fd f := by
  unfold at? at h
  -- Sockets are looked for first, then interest sets, then other files.
  rcases hsocket : k.sockets.find? fun s => s.isOpen && s.fd == some fd with _ | q
  · rw [hsocket] at h
    rcases hset : k.interests.find? fun e => e.isOpen && e.fd == fd with _ | e
    · rw [hset] at h
      rcases Option.map_eq_some_iff.mp h with ⟨o, ho, rfl⟩
      rcases find?_eq_some ho with ⟨x, hx, hp⟩
      rw [Bool.and_eq_true, beq_iff_eq] at hp
      rw [Holds, otherShape?, hx, Option.map_some, hp.1, hp.2]
    · rw [hset] at h
      rcases find?_eq_some hset with ⟨x, hx, hp⟩
      rw [Bool.and_eq_true, beq_iff_eq] at hp
      rw [← Option.some.inj h, Holds, shape?, hx, Option.map_some, hp.1, hp.2]
  · rw [hsocket] at h
    rcases find?_eq_some hsocket with ⟨x, hx, hp⟩
    rw [Bool.and_eq_true, beq_iff_eq] at hp
    have hq : k.socket? q = some x := hx
    rw [← Option.some.inj h]
    exact ⟨by rw [isOpen, hq]; exact hp.1, by rw [number?, hq]; exact hp.2⟩

/-- A socket that is open under a number is found in the table. -/
theorem isSome_find?_socket {q : SocketKey} (h : k.Holds fd (.socket q)) :
    (k.sockets.find? fun s => s.isOpen && s.fd == some fd).isSome = true := by
  rcases hq : k.socket? q with _ | x
  · rw [Holds, isOpen, hq] at h
    exact absurd h.1 Bool.false_ne_true
  · have hopen : x.isOpen = true := by have := h.1; rwa [isOpen, hq] at this
    have hfd : x.fd = some fd := by have := h.2; rwa [number?, hq] at this
    exact find?_isSome hq (by rw [hopen, hfd, beq_self_eq_true, Bool.and_self])

/-- A number that somebody holds denotes something. -/
theorem isSome_at? (h : k.Holds fd f) : (k.at? fd).isSome = true := by
  unfold at?
  rcases hsocket : k.sockets.find? fun s => s.isOpen && s.fd == some fd with _ | q
  · rcases hset : k.interests.find? fun e => e.isOpen && e.fd == fd with _ | e
    · -- Whoever holds it is in one of the three tables, and was not found in two.
      cases f with
      | socket q =>
          have hfound := isSome_find?_socket h
          rw [hsocket] at hfound
          exact absurd hfound Bool.false_ne_true
      | interests e =>
          rcases Option.map_eq_some_iff.mp h with ⟨x, hx, hshape⟩
          rcases Prod.mk.injEq .. ▸ hshape with ⟨hfd, hopen⟩
          have hfound := find?_isSome (p := fun e => e.isOpen && e.fd == fd) hx
            (by rw [hopen, hfd, beq_self_eq_true, Bool.and_self])
          rw [hset] at hfound
          exact absurd hfound Bool.false_ne_true
      | other o =>
          rcases Option.map_eq_some_iff.mp h with ⟨x, hx, hshape⟩
          rcases Prod.mk.injEq .. ▸ hshape with ⟨hfd, hopen⟩
          have hfound := find?_isSome (p := fun o => o.isOpen && o.fd == fd) hx
            (by rw [hopen, hfd, beq_self_eq_true, Bool.and_self])
          dsimp only
          rw [Option.isSome_map]
          exact hfound
    · rfl
  · rfl

/-- A number denotes the file that holds it. -/
theorem Tidy.at?_eq_some_iff (h : k.Tidy) : k.at? fd = some f ↔ k.Holds fd f := by
  refine ⟨holds_of_at?, fun hf => ?_⟩
  rcases Option.isSome_iff_exists.mp (isSome_at? hf) with ⟨g, hg⟩
  rw [hg, h.unique fd g f (holds_of_at? hg) hf]

/-- Nobody holds a number that denotes nothing. -/
theorem at?_eq_none_iff : k.at? fd = none ↔ ∀ f, ¬ k.Holds fd f := by
  constructor
  · intro hnone f hf
    have hsome := isSome_at? hf
    rw [hnone] at hsome
    exact Bool.false_ne_true hsome
  · intro hnobody
    refine Option.eq_none_iff_forall_ne_some.mpr fun f hf => hnobody f (holds_of_at? hf)

/-- The numbers of all files, open or not. -/
def numbers (k : Kernel) : List Nat :=
  (List.range k.sockets.size).filterMap k.number? ++
    ((List.range k.interests.size).filterMap (fun e => (k.shape? e).map Prod.fst) ++
      (List.range k.others.size).filterMap fun o => (k.otherShape? o).map Prod.fst)

/-- A number that somebody holds is one of them. -/
theorem mem_numbers (h : k.Holds fd f) : fd ∈ k.numbers := by
  rw [numbers, List.mem_append, List.mem_append]
  cases f with
  | socket q =>
      refine Or.inl (List.mem_filterMap.mpr ⟨q, List.mem_range.mpr ?_, h.2⟩)
      -- Beyond the last one there is none with a number.
      by_contra hsize
      have hnone : k.socket? q = none := Array.getElem?_eq_none (Nat.le_of_not_lt hsize)
      have hnumber := h.2
      rw [number?, hnone] at hnumber
      exact absurd hnumber (by simp only [Option.bind_none, reduceCtorEq, not_false_eq_true])
  | interests e =>
      have hshape : k.shape? e = some (fd, true) := h
      refine Or.inr (Or.inl (List.mem_filterMap.mpr
        ⟨e, List.mem_range.mpr ?_, by rw [hshape]; rfl⟩))
      by_contra hsize
      have hnone : k.interests.get? e = none := Array.getElem?_eq_none (Nat.le_of_not_lt hsize)
      rw [shape?, hnone] at hshape
      exact absurd hshape (by simp only [Option.map_none, reduceCtorEq, not_false_eq_true])
  | other o =>
      have hshape : k.otherShape? o = some (fd, true) := h
      refine Or.inr (Or.inr (List.mem_filterMap.mpr
        ⟨o, List.mem_range.mpr ?_, by rw [hshape]; rfl⟩))
      by_contra hsize
      have hnone : k.others.get? o = none := Array.getElem?_eq_none (Nat.le_of_not_lt hsize)
      rw [otherShape?, hnone] at hshape
      exact absurd hshape (by simp only [Option.map_none, reduceCtorEq, not_false_eq_true])

/-- A number that is given out is held by nobody and not to be avoided. One of
    the candidates is, because there are more of them than files and numbers to
    avoid. -/
theorem at?_freshFdExcept (k : Kernel) (avoid : List Nat) :
    k.at? (k.freshFdExcept avoid) = none ∧ k.freshFdExcept avoid ∉ avoid := by
  unfold freshFdExcept
  generalize hcount : k.sockets.size + k.interests.size + k.others.size + avoid.length + 1 = count
  dsimp only
  rcases hfind : ((List.range count).map (· + standardFds)).find?
    (fun fd => !k.uses fd && !avoid.contains fd) with _ | fd
  · -- If every candidate were taken, there would not be more of them.
    have htaken : ((List.range count).map (· + standardFds)) ⊆ k.numbers ++ avoid := by
      intro fd hfd
      rcases List.mem_map.mp hfd with ⟨i, -, rfl⟩
      have hused := List.find?_eq_none.mp hfind _ hfd
      rw [Bool.and_eq_true, Bool.not_eq_true', Bool.not_eq_true', not_and_or, Bool.not_eq_false,
        Bool.not_eq_false] at hused
      rcases hused with hused | havoid
      · rw [uses, Bool.or_eq_true, decide_eq_true_eq] at hused
        rcases hused with hlow | hsome
        · omega
        · rcases Option.isSome_iff_exists.mp hsome with ⟨f, hf⟩
          exact List.mem_append_left _ (mem_numbers (holds_of_at? hf))
      · exact List.mem_append_right _ (List.contains_iff_mem.mp havoid)
    have hnodup : ((List.range count).map (· + standardFds)).Nodup :=
      List.Nodup.map (fun i j h => Nat.add_right_cancel h) List.nodup_range
    have hlength := (hnodup.subperm htaken).length_le
    have hsockets := List.length_filterMap_le k.number? (List.range k.sockets.size)
    have hinterests := List.length_filterMap_le (fun e => (k.shape? e).map Prod.fst)
      (List.range k.interests.size)
    have hothers := List.length_filterMap_le (fun o => (k.otherShape? o).map Prod.fst)
      (List.range k.others.size)
    rw [List.length_range] at hsockets hinterests hothers
    rw [List.length_map, List.length_range, List.length_append, numbers,
      List.length_append, List.length_append] at hlength
    omega
  · have hfree := List.find?_some hfind
    rw [Bool.and_eq_true, Bool.not_eq_true', Bool.not_eq_true', uses, Bool.or_eq_false_iff] at hfree
    rw [Option.getD_some]
    refine ⟨Option.not_isSome_iff_eq_none.mp (Bool.eq_false_iff.mp hfree.1.2), fun hmem => ?_⟩
    exact Bool.false_ne_true (hfree.2.symm.trans (List.contains_iff_mem.mpr hmem))

theorem at?_freshFd (k : Kernel) : k.at? k.freshFd = none := (at?_freshFdExcept k []).1

end Kernel

end ReadNotify
