import ReadNotify.Proofs.Registry.Refinement
import Mathlib.Order.Nat

/-!
# The Scan Ends

A step of the scan is a loop. A round of it looks at the entry that the scan stands
before, and either ends the step or removes that entry and goes on. How many rounds
there are is not known beforehand. It depends on which connections have died, even on
those that die while the loop runs.

What makes it end is that a round that goes on leaves fewer entries ahead. This
depends on the two places where an entry is kept. The order says which identity comes
next, but whether there is something to remove is decided by the references. If they
had none for that identity, the removal would change nothing, and the next round
would find what this one found.

So the loop is told here without a bound on its rounds, as what so many of them leave.
`Sound.rounds_midway` is the induction: the order and the references stay in step
through all rounds that go on, and each of them has taken one entry from those ahead,
so no more of them go on than there are entries. `rounds_of_unlisted` is the other
side of it.

## Main definitions

* `Registry.round`, `Registry.rounds`: One round of a step, and so many of them.
* `Registry.Drops`: What a round that goes on does.
* `Registry.Dying`: Connections die from round to round, and stay dead.

## Theorems

* `scan_eq_rounds`: The scan is its rounds, as many as it is given.
* `Sound.drops_round`: A round that goes on drops one entry.
* `Sound.exists_last_round`: Some round ends the step.
* `rounds_of_unlisted`: Without a reference no round does.
* `next_eq_of_dying`: Deaths between the rounds might have come before the step.
* `scan_ends`: Every step of the scan ends.
-/

namespace ReadNotify

namespace Registry

/-- One round of a step of the scan: the answer with which it ends the step, or none
    if it goes on without the entry that the scan stood before. -/
def round (alive : Living) (r : Registry) : Registry × Option Scan :=
  match r.order[r.cursor]? with
  | none => (r, some .finished)
  | some id =>
    match r.get? alive id with
    | some conn => ({ r with cursor := r.cursor + 1 }, some (.found id conn))
    | none => ((r.remove id).1, none)

/-- So many rounds of a step of the scan, unless one of them ends it. At each of them
    other connections may be alive. -/
def rounds (alives : Nat → Living) : Nat → Registry → Registry × Option Scan
  | 0, r => (r, none)
  | n + 1, r =>
    match rounds alives n r with
    | (r, none) => r.round (alives n)
    | (r, some answer) => (r, some answer)

/-- No connection is alive in a round that was dead in an earlier one. -/
def Dying (alives : Nat → Living) : Prop :=
  ∀ m n conn, m ≤ n → alives n conn = true → alives m conn = true

/-- What a round that goes on does: it removes the entry that the scan stands before,
    which is listed and dead. -/
structure Drops (alive : Living) (r r' : Registry) : Prop where
  entry : ∃ id conn, r.order[r.cursor]? = some id ∧ (id, conn) ∈ r.refs ∧
    alive conn = false ∧ r.remove id = (r', true)
  order : r'.order = r.order.eraseIdx r.cursor
  length : r'.order.length + 1 = r.order.length
  cursor : r'.cursor = r.cursor

variable {alive : Living} {alives : Nat → Living} {r r' : Registry} {id : ConnId}
  {answer : Scan} {n : Nat}

/-! ### Rounds -/

/-- Everything a round can do: nothing is ahead, or the entry the scan stands before is
    found, or it is not found and removed. -/
theorem round_cases (alive : Living) (r : Registry) :
    (r.order[r.cursor]? = none ∧ r.round alive = (r, some .finished)) ∨
      (∃ id conn, r.order[r.cursor]? = some id ∧ r.get? alive id = some conn ∧
        r.round alive = ({ r with cursor := r.cursor + 1 }, some (.found id conn))) ∨
      ∃ id, r.order[r.cursor]? = some id ∧ r.get? alive id = none ∧
        r.round alive = ((r.remove id).1, none) := by
  rcases hstands : r.order[r.cursor]? with _ | id
  · exact Or.inl ⟨rfl, by rw [round, hstands]⟩
  · rcases hget : r.get? alive id with _ | conn
    · exact Or.inr (Or.inr ⟨id, rfl, hget, by simp only [round, hstands, hget]⟩)
    · exact Or.inr (Or.inl ⟨id, conn, rfl, hget, by simp only [round, hstands, hget]⟩)

/-- A round that goes on has not found the entry that the scan stands before. -/
theorem round_of_goesOn (h : (r.round alive).2 = none) :
    ∃ id, r.order[r.cursor]? = some id ∧ r.get? alive id = none ∧
      r.round alive = ((r.remove id).1, none) := by
  rcases r.round_cases alive with ⟨-, heq⟩ | ⟨id, conn, -, -, heq⟩ | hdead
  · rw [heq] at h
    exact absurd h (Option.some_ne_none _)
  · rw [heq] at h
    exact absurd h (Option.some_ne_none _)
  · exact hdead

theorem ne_stuck_of_round (h : r.round alive = (r', some answer)) : answer ≠ .stuck := by
  rintro rfl
  rcases r.round_cases alive with ⟨-, heq⟩ | ⟨id, conn, -, -, heq⟩ | ⟨id, -, -, heq⟩
  · rw [heq] at h
    cases h
  · rw [heq] at h
    cases h
  · rw [heq] at h
    cases h

theorem rounds_succ (h : (r.rounds alives n).2 = none) :
    r.rounds alives (n + 1) = (r.rounds alives n).1.round (alives n) := by
  rcases hn : r.rounds alives n with ⟨s, _ | answer⟩
  · rw [rounds, hn]
  · rw [hn] at h
    exact absurd h (Option.some_ne_none answer)

/-- A step that has ended is not taken up again. -/
theorem rounds_of_ended (h : r.rounds alives n = (r', some answer)) {k : Nat} (hk : n ≤ k) :
    r.rounds alives k = (r', some answer) := by
  induction k, hk using Nat.le_induction with
  | base => exact h
  | succ k _ ih => rw [rounds, ih]

/-- Rounds that go on were preceded by such rounds only. -/
theorem rounds_of_goesOn (h : (r.rounds alives n).2 = none) {k : Nat} (hk : k ≤ n) :
    (r.rounds alives k).2 = none := by
  rcases hanswer : (r.rounds alives k).2 with _ | answer
  · rfl
  · rw [rounds_of_ended (Prod.ext rfl hanswer) hk] at h
    exact absurd h (Option.some_ne_none answer)

/-- If the first of some rounds goes on, the others are those of what it leaves. -/
theorem rounds_first (alive : Living) (h : (r.round alive).2 = none) (n : Nat) :
    r.rounds (fun _ => alive) (n + 1) = (r.round alive).1.rounds (fun _ => alive) n := by
  induction n with
  | zero => exact Prod.ext rfl h
  | succ n ih => rw [rounds, ih, rounds]

theorem scan_succ (alive : Living) (n : Nat) (r : Registry) :
    scan alive (n + 1) r =
      match r.round alive with
      | (r, none) => scan alive n r
      | (r, some answer) => (r, answer) := by
  rcases r.round_cases alive with ⟨hstands, hround⟩ | ⟨id, conn, hstands, hget, hround⟩ |
    ⟨id, hstands, hget, hround⟩
  · simp only [scan, hstands, hround]
  · simp only [scan, hstands, hget, hround]
  · simp only [scan, hstands, hget, hround]

/-- The scan is its rounds, as many as it is given, and it is stuck if none of them
    ends the step. -/
theorem scan_eq_rounds (alive : Living) (n : Nat) (r : Registry) :
    scan alive n r = ((r.rounds (fun _ => alive) n).1,
      (r.rounds (fun _ => alive) n).2.getD .stuck) := by
  induction n generalizing r with
  | zero => rfl
  | succ n ih =>
      rw [scan_succ]
      rcases hround : r.round alive with ⟨s, _ | answer⟩
      · rw [rounds_first alive (by rw [hround]), hround]
        exact ih s
      · have hone : r.rounds (fun _ => alive) 1 = (s, some answer) := hround
        rw [rounds_of_ended hone (Nat.le_add_left 1 n)]
        rfl

/-! ### What a round does -/

/-- A listed identity has a reference. -/
theorem Sound.exists_ref? (h : r.Sound) (hid : id ∈ r.order) : ∃ conn, r.ref? id = some conn := by
  rcases h with ⟨l, rfl⟩
  exact Lineup.exists_ref? l id hid

/-- The entry that the scan stands before can be removed, and this leaves the scan where
    it is. -/
theorem Sound.remove_standing (h : r.Sound) (hstands : r.order[r.cursor]? = some id) :
    (r.remove id).2 = true ∧ (r.remove id).1.order = r.order.eraseIdx r.cursor ∧
      (r.remove id).1.cursor = r.cursor := by
  have hmem : id ∈ r.order := List.mem_of_getElem? hstands
  have hplace : r.order.idxOf id = r.cursor := by
    rcases List.getElem?_eq_some_iff.mp hstands with ⟨hlt, rfl⟩
    exact h.nodup_order.idxOf_getElem r.cursor hlt
  rcases h.exists_ref? hmem with ⟨conn, hconn⟩
  simp only [Registry.remove, hconn, if_pos hmem, hplace, Nat.lt_irrefl, if_false, and_self]

/-- A round that goes on has met a dead entry, and there is a reference to remove. -/
theorem Sound.drops_round (h : r.Sound) (hround : (r.round alive).2 = none) :
    Drops alive r (r.round alive).1 := by
  rcases round_of_goesOn hround with ⟨id, hstands, hget, heq⟩
  rcases (h.mem_order_iff id).mp (List.mem_of_getElem? hstands) with ⟨conn, hconn⟩
  -- The look-up finds nothing although there is a reference, so it is to a dead one.
  have hdead : alive conn = false := Bool.eq_false_iff.mpr fun halive =>
    Option.some_ne_none conn
      (((h.get?_eq_some_iff alive id conn).mpr ⟨hconn, halive⟩).symm.trans hget)
  rcases h.remove_standing hstands with ⟨hanswer, horder, hcursor⟩
  rw [heq]
  refine ⟨⟨id, conn, hstands, hconn, hdead, Prod.ext rfl hanswer⟩, horder, ?_, hcursor⟩
  rw [horder]
  exact List.length_eraseIdx_add_one (List.getElem?_eq_some_iff.mp hstands).1

theorem Drops.cursor_lt (h : Drops alive r r') : r.cursor < r.order.length := by
  rcases h.entry with ⟨id, conn, hstands, -⟩
  exact (List.getElem?_eq_some_iff.mp hstands).1

/-- Such a round takes one entry from those ahead of the scan. -/
theorem Drops.upcoming (h : Drops alive r r') : r'.upcoming = r.upcoming.tail := by
  rw [Registry.upcoming, h.order, h.cursor, List.eraseIdx_eq_take_drop_succ,
    List.drop_left' (List.length_take_of_le h.cursor_lt.le), ← List.tail_drop]
  rfl

/-- Without a reference for the entry that the scan stands before there is nothing to
    remove, so no round ends the step, and each finds what the one before it found. -/
theorem rounds_of_unlisted (hstands : r.order[r.cursor]? = some id) (hnone : r.ref? id = none)
    (alives : Nat → Living) (n : Nat) :
    r.remove id = (r, false) ∧ r.rounds alives n = (r, none) := by
  have hremove : r.remove id = (r, false) := by simp only [remove, hnone]
  have hget : ∀ alive, r.get? alive id = none := fun alive => by
    rw [get?, hnone, Option.filter_none]
  refine ⟨hremove, ?_⟩
  induction n with
  | zero => rfl
  | succ n ih => simp only [rounds, ih, round, hstands, hget, hremove]

/-- Such a registry uses up all rounds that a step is given, and is as it was. -/
example :
    let r : Registry := ⟨[⟨0, 0⟩], [], 0⟩
    r.next (fun _ => true) = (r, .stuck) := by
  decide

/-! ### How many rounds there are -/

/-- What some rounds leave that all went on: they have taken that many entries from those
    ahead of the scan. -/
structure Midway (n : Nat) (r r' : Registry) : Prop where
  sound : r'.Sound
  upcoming : r'.upcoming = r.upcoming.drop n
  le : n ≤ r.upcoming.length

theorem Sound.rounds_midway (h : r.Sound) (hn : (r.rounds alives n).2 = none) :
    Midway n r (r.rounds alives n).1 := by
  -- The induction is on the rounds; a sound registry stays sound because the round removes.
  induction n with
  | zero => exact ⟨h, rfl, Nat.zero_le _⟩
  | succ n ih =>
      have hbefore := rounds_of_goesOn hn (Nat.le_succ n)
      have hmid := ih hbefore
      rw [rounds_succ hbefore] at hn ⊢
      have hdrops := hmid.sound.drops_round hn
      refine ⟨?_, ?_, ?_⟩
      · rcases hdrops.entry with ⟨id, conn, -, -, -, hremove⟩
        have hsound := hmid.sound.remove id
        rw [hremove] at hsound
        exact hsound
      · rw [hdrops.upcoming, hmid.upcoming, List.tail_drop]
      · -- The entry that this round has met was still ahead.
        have hlt := hdrops.cursor_lt
        have hlength := congrArg List.length hmid.upcoming
        rw [Registry.upcoming, List.length_drop, List.length_drop] at hlength
        omega

/-- Some round ends the step, and those before it go on. -/
theorem Sound.exists_last_round (h : r.Sound) (alives : Nat → Living) :
    ∃ n r' answer, (r.rounds alives n).2 = none ∧ r.rounds alives (n + 1) = (r', some answer) := by
  by_contra hnever
  have hall : ∀ n, (r.rounds alives n).2 = none := by
    intro n
    induction n with
    | zero => rfl
    | succ n ih =>
        rcases hanswer : (r.rounds alives (n + 1)).2 with _ | answer
        · rfl
        · exact absurd ⟨n, _, answer, ih, Prod.ext rfl hanswer⟩ hnever
  -- Then there would be more rounds than entries ahead.
  exact Nat.not_succ_le_self _ (h.rounds_midway (hall (r.upcoming.length + 1))).le

/-! ### Deaths between the rounds -/

/-- A round that goes on goes on just so with fewer connections alive. -/
theorem round_of_dead {a b : Living} (hab : ∀ conn, b conn = true → a conn = true)
    (h : (r.round a).2 = none) : r.round b = r.round a := by
  rcases round_of_goesOn h with ⟨id, hstands, hget, -⟩
  have hnone : r.get? b id = none := by
    rcases hfound : r.get? b id with _ | conn
    · rfl
    · rw [get?, Option.filter_eq_some_iff] at hfound
      rw [get?, hfound.1, Option.filter_some_pos (hab conn hfound.2)] at hget
      exact absurd hget (Option.some_ne_none conn)
  simp only [round, hstands, hnone, hget]

/-- What was dead in the rounds that went on is dead in the last one as well. -/
theorem rounds_of_dying (h : Dying alives) (hn : (r.rounds alives n).2 = none) {k : Nat}
    (hk : k ≤ n) : r.rounds (fun _ => alives n) k = r.rounds alives k := by
  -- The induction is on the rounds. As all of them went on, both sides look at the same entry.
  induction k with
  | zero => rfl
  | succ k ih =>
      have hsame := ih (Nat.le_of_succ_le hk)
      have hbefore := rounds_of_goesOn hn (Nat.le_of_succ_le hk)
      have hround := rounds_of_goesOn hn hk
      rw [rounds_succ hbefore] at hround ⊢
      rw [rounds_succ (hsame ▸ hbefore), hsame]
      exact round_of_dead (fun conn => h k n conn (Nat.le_of_succ_le hk)) hround

/-- A step in which connections die ends like one before which all of them have died. -/
theorem Sound.next_eq_of_dying (h : r.Sound) (hdying : Dying alives)
    (hn : (r.rounds alives n).2 = none) (hlast : r.rounds alives (n + 1) = (r', some answer)) :
    r.next (alives n) = (r', answer) := by
  have hsame := rounds_of_dying hdying hn (Nat.le_refl n)
  have hone : r.rounds (fun _ => alives n) (n + 1) = (r', some answer) := by
    rw [← hlast, rounds_succ hn, rounds_succ (hsame ▸ hn), hsame]
  -- `next` is given enough rounds for this one to be among them.
  have hlength : r.upcoming.length ≤ r.order.length := List.length_drop ▸ Nat.sub_le _ _
  have hle := (h.rounds_midway hn).le
  rw [next, scan_eq_rounds, rounds_of_ended hone (Nat.succ_le_succ (hle.trans hlength))]
  rfl

/-- Every step of the scan ends. Whatever was done to a registry, the identity that the
    scan stands before has a reference. A step that begins there goes on for no more
    rounds than there are entries ahead, whoever dies meanwhile. Each round that goes on
    removes one dead entry from the order and leaves the scan where it is, and the round
    behind them ends the step with an answer. If the dead stay dead, that is what `next`
    does with those that are alive at last. In a registry that had no reference for the
    identity the removal would change nothing, and no number of rounds would be enough. -/
theorem scan_ends (ops : List (Living × RegistryOp)) (alives : Nat → Living) :
    let r := (run ops empty).1
    (∀ id, r.order[r.cursor]? = some id → ∃ conn, (id, conn) ∈ r.refs) ∧
    (∃ n r' answer, n ≤ r.upcoming.length ∧ answer ≠ .stuck ∧
      (∀ k < n, (r.rounds alives (k + 1)).2 = none ∧
        Drops (alives k) (r.rounds alives k).1 (r.rounds alives (k + 1)).1) ∧
      (∀ k, n < k → r.rounds alives k = (r', some answer)) ∧
      (Dying alives → r.next (alives n) = (r', answer))) ∧
    ∀ (q : Registry) id, q.order[q.cursor]? = some id → q.ref? id = none →
      q.remove id = (q, false) ∧ ∀ k, q.rounds alives k = (q, none) := by
  intro r
  have hsound : r.Sound := sound_run ops
  rcases hsound.exists_last_round alives with ⟨n, r', answer, hn, hlast⟩
  refine ⟨fun id hstands => (hsound.mem_order_iff id).mp (List.mem_of_getElem? hstands),
    ⟨n, r', answer, (hsound.rounds_midway hn).le, ?_, fun k hk => ?_,
      fun k hk => rounds_of_ended hlast hk, fun hdying => hsound.next_eq_of_dying hdying hn hlast⟩,
    fun q id hstands hnone => ⟨(rounds_of_unlisted hstands hnone alives 0).1,
      fun k => (rounds_of_unlisted hstands hnone alives k).2⟩⟩
  · rw [rounds_succ hn] at hlast
    exact ne_stuck_of_round hlast
  · have hround := rounds_of_goesOn hn hk
    have hbefore := rounds_of_goesOn hn hk.le
    refine ⟨hround, ?_⟩
    rw [rounds_succ hbefore] at hround ⊢
    exact (hsound.rounds_midway hbefore).sound.drops_round hround

end Registry

end ReadNotify
