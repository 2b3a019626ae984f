import Mathlib.Algebra.Order.Floor.Div
import ReadNotify.Proofs.Registry.Windows

/-!
# How Long an Entry Waits

A live entry gets into a window after a number of windows that can be told
beforehand. If the scan has not passed it yet, only the entries between the scan
and it come first, since new ones are appended behind it. If the scan has passed
it, the rest of the order comes first, and whatever is appended before the scan
starts again, and then the entries before it.

The last window before the scan starts again need not be full, and it can even be
empty, if all entries that were ahead have been removed or have died. That costs
one window more than the number of entries accounts for, and it happens once
only.

The bound is a number that every window without the entry brings down by one.
Removing others never makes it greater, and of appended entries it takes account
before they come.

## Main definitions

* `Registry.delay`: After how many windows an entry has its turn at the latest.
* `Registry.newcomers`: The entries that were not there before.

## Theorems

* `Sound.delay_le`: The bound by the number of entries.
* `Churns.delay_le`: Removing and appending others does not raise the bound.
* `Fills.delay_lt`: A window without the entry lowers it.
-/

namespace ReadNotify

/-- Leaving others out of a list brings an element no further back. -/
theorem idxOf_le_of_sublist {α : Type} [DecidableEq α] {l m : List α} {a : α}
    (h : l.Sublist m) (hm : m.Nodup) (ha : a ∈ l) : l.idxOf a ≤ m.idxOf a := by
  induction h with
  | slnil => exact Nat.le_refl _
  | @cons l m b h ih =>
      rw [List.nodup_cons] at hm
      have hne : b ≠ a := by
        rintro rfl
        exact hm.1 (h.subset ha)
      rw [List.idxOf_cons_ne m hne]
      exact Nat.le_succ_of_le (ih hm.2 ha)
  | @cons_cons l m b h ih =>
      rw [List.nodup_cons] at hm
      by_cases hb : b = a
      · rw [hb, List.idxOf_cons_self]
        exact Nat.zero_le _
      · rw [List.idxOf_cons_ne l hb, List.idxOf_cons_ne m hb]
        exact Nat.succ_le_succ (ih hm.2 (List.mem_of_ne_of_mem (Ne.symm hb) ha))

namespace Registry

variable {alive : Living} {r r' : Registry} {w a : Nat} {id : ConnId}

/-- After how many windows of `w` members an entry has its turn at the latest, if
    `a` entries are appended before. -/
def delay (w a : Nat) (id : ConnId) (r : Registry) : Nat :=
  if id ∈ r.upcoming then r.upcoming.idxOf id / w + 1
  else (r.upcoming.length + r.passed.idxOf id + a) / w + 2

/-- The entries of a registry that were not there before. -/
def newcomers (r r' : Registry) : List ConnId := r'.order.filter fun id => id ∉ r.order

theorem delay_pos (w a : Nat) (id : ConnId) (r : Registry) : 0 < r.delay w a id := by
  unfold delay
  split
  · exact Nat.succ_pos _
  · exact Nat.succ_pos _

/-- The more is going to be appended, the longer it may take. -/
theorem delay_mono {b : Nat} (hab : a ≤ b) (w : Nat) (id : ConnId) (r : Registry) :
    r.delay w a id ≤ r.delay w b id := by
  unfold delay
  split
  · exact Nat.le_refl _
  · exact Nat.add_le_add_right (Nat.div_le_div_right (Nat.add_le_add_left hab _)) 2

/-- Whatever is listed is on one side of the scan. -/
theorem Sound.mem_passed_iff (h : r.Sound) (hid : id ∈ r.order) :
    id ∈ r.passed ↔ id ∉ r.upcoming := by
  have hnodup := h.nodup_order
  rw [← passed_append_upcoming r] at hnodup hid
  refine ⟨fun hpassed hupcoming => ?_, fun hnot => ?_⟩
  · exact (List.nodup_append.mp hnodup).2.2 id hpassed id hupcoming rfl
  · exact (List.mem_append.mp hid).resolve_right hnot

/-- An entry has its turn after as many windows as it takes to see all entries
    and all newcomers, and one. -/
theorem Sound.delay_le (h : r.Sound) (hw : 0 < w) (a : Nat) (hid : id ∈ r.order) :
    r.delay w a id ≤ (r.size + a) ⌈/⌉ w + 1 := by
  have hsize : r.size = r.passed.length + r.upcoming.length := by
    rw [size, ← passed_append_upcoming r, List.length_append]
  rw [Nat.ceilDiv_eq_add_pred_div]
  unfold delay
  split
  · next hupcoming =>
      have hidx : r.upcoming.idxOf id < r.upcoming.length := List.idxOf_lt_length_iff.mpr hupcoming
      exact Nat.add_le_add_right (Nat.div_le_div_right (by omega)) 1
  · next hnot =>
      have hidx : r.passed.idxOf id < r.passed.length :=
        List.idxOf_lt_length_iff.mpr ((h.mem_passed_iff hid).mpr hnot)
      rw [show (r.upcoming.length + r.passed.idxOf id + a) / w + 2 =
        (r.upcoming.length + r.passed.idxOf id + a + w) / w + 1 by rw [Nat.add_div_right _ hw]]
      exact Nat.add_le_add_right (Nat.div_le_div_right (by omega)) 1

/-- Removing others and appending leaves an entry on its side of the scan and
    brings it no further back, and what is appended was reckoned with. -/
theorem Churns.delay_le {new : List ConnId} (h : r.Sound) (hchurn : Churns new r r') (w a : Nat)
    (hid : id ∈ r.order) (hid' : id ∈ r'.order) :
    r'.delay w a id ≤ r.delay w ((newcomers r r').length + a) id := by
  have hnew : id ∉ new := fun hmem => hchurn.fresh id hmem hid
  have hpassed : r.passed.Nodup := h.nodup_order.sublist (List.take_sublist _ _)
  have hupcoming : r.upcoming.Nodup := h.nodup_order.sublist (List.drop_sublist _ _)
  rcases List.sublist_append_iff.mp hchurn.upcoming with ⟨old, added, heq, hold, hadded⟩
  unfold delay
  by_cases hahead : id ∈ r.upcoming
  · have hahead' : id ∈ r'.upcoming := by
      by_contra hnot
      exact (h.mem_passed_iff hid).mp
        (hchurn.passed.subset ((hchurn.sound.mem_passed_iff hid').mpr hnot)) hahead
    have hmem : id ∈ old := by
      rw [heq, List.mem_append] at hahead'
      exact hahead'.resolve_right fun hmem => hnew (hadded.subset hmem)
    rw [if_pos hahead, if_pos hahead', heq, List.idxOf_append_of_mem hmem]
    exact Nat.add_le_add_right
      (Nat.div_le_div_right (idxOf_le_of_sublist hold hupcoming hmem)) 1
  · have hbehind : id ∈ r'.passed := by
      refine (hchurn.sound.mem_passed_iff hid').mpr fun hmem => ?_
      rw [heq, List.mem_append] at hmem
      exact hmem.elim (fun hmem => hahead (hold.subset hmem)) fun hmem =>
        hnew (hadded.subset hmem)
    have hidx := idxOf_le_of_sublist hchurn.passed hpassed hbehind
    -- What was appended and is ahead of the scan is among the newcomers.
    have hnewcomers : added.Sublist (newcomers r r') := by
      have hfilter : added.filter (fun id => id ∉ r.order) = added :=
        List.filter_eq_self.mpr fun d hd => by simpa using hchurn.fresh d (hadded.subset hd)
      rw [← hfilter]
      refine List.Sublist.filter _ ?_
      rw [← passed_append_upcoming r', heq]
      exact (List.sublist_append_right old added).trans (List.sublist_append_right _ _)
    have hlength : r'.upcoming.length = old.length + added.length := by
      rw [heq, List.length_append]
    have hle := hold.length_le
    have hle' := hnewcomers.length_le
    rw [if_neg hahead, if_neg ((hchurn.sound.mem_passed_iff hid').mp hbehind)]
    exact Nat.add_le_add_right (Nat.div_le_div_right (by omega)) 2

/-- What a window without an entry leaves ahead is a window shorter, unless there is
    nothing left. -/
theorem Fills.front {window left : List ConnId} (hfill : Fills alive w r r' window left)
    (hleft : left ≠ []) : ∃ front, r.upcoming = front ++ left ∧ w ≤ front.length := by
  rcases hfill.suffix with ⟨front, hfront⟩
  refine ⟨front, hfront.symm, ?_⟩
  -- There are as many live entries before the rest as there are in the window.
  have hlive := congrArg (fun l => (l.filter (r.lives alive)).length) hfront
  simp only [List.filter_append, List.length_append, hfill.left_eq, List.length_drop] at hlive
  have hroom := hfill.room.resolve_right hleft
  have hle := List.length_filter_le (r.lives alive) front
  omega

/-- A window without a live entry brings it a window nearer. -/
theorem Fills.delay_lt {window left : List ConnId} (h : r.Sound) (hw : 0 < w)
    (hfill : Fills alive w r r' window left) (a : Nat) (hlive : r.lives alive id = true)
    (hmissed : id ∉ window) : r'.delay w a id < r.delay w a id := by
  have hid := h.mem_of_lives hlive
  have hnodup : r.upcoming.Nodup := h.nodup_order.sublist (List.drop_sublist _ _)
  by_cases hahead : id ∈ r.upcoming
  · -- It is left ahead, since it is alive and was not taken.
    have hmem : id ∈ left := by
      have hboth : id ∈ window ++ left.filter (r.lives alive) := by
        rw [hfill.window_eq, hfill.left_eq, List.take_append_drop]
        exact List.mem_filter.mpr ⟨hahead, hlive⟩
      exact List.mem_of_mem_filter ((List.mem_append.mp hboth).resolve_left hmissed)
    have hleft : left ≠ [] := List.ne_nil_of_mem hmem
    rcases hfill.front hleft with ⟨front, hfront, hlong⟩
    have hupcoming : r'.upcoming = left := by
      rcases hfill.scan with ⟨-, hupcoming, -⟩ | ⟨hnil, -⟩
      · exact hupcoming
      · exact absurd hnil hleft
    have hnot : id ∉ front := by
      rw [hfront, List.nodup_append] at hnodup
      exact fun hfront => hnodup.2.2 id hfront id hmem rfl
    unfold delay
    rw [if_pos hahead, if_pos (hupcoming ▸ hmem), hupcoming, hfront,
      List.idxOf_append_of_notMem hnot]
    have hstep : (left.idxOf id + w) / w ≤ (front.length + left.idxOf id) / w :=
      Nat.div_le_div_right (by omega)
    rw [Nat.add_div_right _ hw] at hstep
    omega
  · have hbehind : id ∈ r.passed := (h.mem_passed_iff hid).mpr hahead
    unfold delay
    rw [if_neg hahead]
    rcases hfill.scan with ⟨hleft, hupcoming, hpassed⟩ | ⟨-, hupcoming, -⟩
    · rcases hfill.front hleft with ⟨front, hfront, hlong⟩
      have hnot : id ∉ r'.upcoming := by
        rw [hupcoming]
        exact fun hmem => hahead (hfill.suffix.subset hmem)
      rw [if_neg hnot, hupcoming, hpassed, List.idxOf_append_of_mem hbehind, hfront,
        List.length_append]
      have hstep : (left.length + r.passed.idxOf id + a + w) / w ≤
          (front.length + left.length + r.passed.idxOf id + a) / w :=
        Nat.div_le_div_right (by omega)
      rw [Nat.add_div_right _ hw] at hstep
      omega
    · -- The scan starts again, and only the entries before it come first.
      have hmem : id ∈ r.passed ++ window := List.mem_append_left _ hbehind
      rw [hupcoming, if_pos hmem, List.idxOf_append_of_mem hbehind]
      have hstep : r.passed.idxOf id / w ≤ (r.upcoming.length + r.passed.idxOf id + a) / w :=
        Nat.div_le_div_right (by omega)
      omega

end Registry

end ReadNotify
