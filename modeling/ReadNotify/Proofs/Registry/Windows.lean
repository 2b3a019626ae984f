import ReadNotify.Proofs.Registry.Refinement
import Mathlib.Data.List.Perm.Subperm

/-!
# Windows

Scanning by windows is serving a queue. The queue of a registry is its order
read from the scan to the end and on from the beginning, and a window takes
entries from the front of it and puts them back at its end. Between two windows
the queue changes in two ways only, entries are removed from it and new ones are
appended, and a new entry is put where the order ends, which is somewhere in the
middle of the queue.

Neither moves one entry past another. For entries that are neither dead nor
removed the queue is therefore the same between windows and turned round by
them, and that is all there is to serving them in turn.

Dead entries are where the position could go wrong. A window takes the first
live entries ahead of the scan and drops the dead ones between them, and it ends
as soon as it has enough, so dead entries may be left behind the last live one.
Then the scan is not rewound and the next window is empty.

## Main definitions

* `Registry.lives`: Whether a look-up finds an identity.
* `Registry.queue`: The order from where the scan stands.
* `Registry.Fills`: What filling a window does.
* `Registry.Churns`: Entries removed, and new ones appended.

## Theorems

* `Lineup.take_meets`: What a window meets, and where it ends.
* `Lineup.take_toRegistry`: A window is the first live entries ahead.
* `Sound.fillWindow_cases`: Everything filling a window can do.
* `Fills.filter_queue`: A window turns the queue round.
* `Churns.filter_queue`: Removing and appending others does not.
-/

namespace ReadNotify

/-- Whether an operation moves the scan. -/
def RegistryOp.scans : RegistryOp → Bool
  | .next | .rewind => true
  | _ => false

namespace Registry

/-- Whether a look-up finds an identity. -/
def lives (alive : Living) (r : Registry) (id : ConnId) : Bool := (r.get? alive id).isSome

/-- The order, read from where the scan stands. -/
def queue (r : Registry) : List ConnId := r.upcoming ++ r.passed

end Registry

namespace Lineup

/-- Whether the connection of an entry is alive. -/
def isLive (alive : Living) (e : Entry) : Bool := alive e.2

/-- The entries that a window meets ahead of the scan: it takes the live ones and
    drops the dead ones, and it ends with the last live one that it has room for,
    or with the last entry if there are fewer. -/
theorem take_meets (alive : Living) (n : Nat) (l : Lineup) :
    ∃ (m : Lineup) (met : List Entry), (l.toRegistry.take alive n).1 = m.toRegistry ∧
      (l.toRegistry.take alive n).2 = (met.filter (isLive alive)).map Prod.fst ∧
      m.behind = l.behind ++ met.filter (isLive alive) ∧ l.ahead = met ++ m.ahead ∧
      (((met.filter (isLive alive)).length = n ∧ ∀ e ∈ met.getLast?, isLive alive e = true) ∨
        ((met.filter (isLive alive)).length < n ∧ m.ahead = [])) := by
  -- The induction is on the room left; each step of the scan passes one entry.
  induction n generalizing l with
  | zero =>
      refine ⟨l, [], rfl, rfl, (List.append_nil _).symm, rfl, Or.inl ⟨rfl, fun e he => ?_⟩⟩
      exact absurd he (by simp only [List.getLast?_nil, Option.mem_def, reduceCtorEq,
        not_false_eq_true])
  | succ n ih =>
      have hdrop : ∀ dead : List Entry, (∀ d ∈ dead, alive d.2 = false) →
          dead.filter (isLive alive) = [] := fun dead hdead =>
        List.filter_eq_nil_iff.mpr fun d hd => ne_true_of_eq_false (hdead d hd)
      rw [Registry.take, next_toRegistry]
      rcases l.next_cases alive with ⟨dead, e, rest, hsplit, hdead, hlive, hb, ha, hscan⟩ |
        ⟨hdead, hb, ha, hscan⟩
      · rcases ih (l.next alive).1 with ⟨m, met, hm, hwindow, hbehind, hahead, hend⟩
        have hfilter : (dead ++ e :: met).filter (isLive alive) =
            e :: met.filter (isLive alive) := by
          rw [List.filter_append, hdrop dead hdead, List.nil_append,
            List.filter_cons_of_pos (p := isLive alive) hlive]
        rw [hscan]
        refine ⟨m, dead ++ e :: met, hm, ?_, ?_, ?_, ?_⟩
        · dsimp only
          rw [hwindow, hfilter, List.map_cons]
        · rw [hbehind, hb, hfilter, List.append_assoc, List.singleton_append]
        · rw [hsplit, ← ha, hahead, List.append_assoc, List.cons_append]
        · rw [hfilter, List.length_cons]
          refine hend.imp (And.imp (congrArg (· + 1)) fun hlast d hd => ?_)
            (And.imp_left Nat.succ_lt_succ)
          -- What is met last was met after this entry, or is this entry.
          rw [List.getLast?_append_of_ne_nil _ (List.cons_ne_nil e met), List.getLast?_cons,
            Option.mem_def, Option.some.injEq] at hd
          rcases hmet : met.getLast? with _ | d'
          · rw [hmet, Option.getD_none] at hd
            exact hd ▸ hlive
          · rw [hmet, Option.getD_some] at hd
            exact hlast d (hmet.trans (congrArg some hd))
      · rw [hscan]
        refine ⟨(l.next alive).1, l.ahead, rfl, ?_, ?_, ?_, Or.inr ⟨?_, ha⟩⟩
        · rw [hdrop l.ahead hdead]
          rfl
        · rw [hdrop l.ahead hdead, List.append_nil]
          exact hb
        · rw [ha, List.append_nil]
        · rw [hdrop l.ahead hdead]
          exact Nat.zero_lt_succ n

/-- A window takes the first live entries ahead of the scan, as many as it may.
    What it leaves ahead is the rest of them with the dead ones between and
    behind, or nothing at all if it wanted more than there were. -/
theorem take_toRegistry (alive : Living) (n : Nat) (l : Lineup) :
    ∃ m : Lineup, (l.toRegistry.take alive n).1 = m.toRegistry ∧
      (l.toRegistry.take alive n).2 = ((l.ahead.filter (isLive alive)).take n).map Prod.fst ∧
      m.behind = l.behind ++ (l.ahead.filter (isLive alive)).take n ∧
      m.ahead <:+ l.ahead ∧
      m.ahead.filter (isLive alive) = (l.ahead.filter (isLive alive)).drop n ∧
      (n ≤ (l.ahead.filter (isLive alive)).length ∨ m.ahead = []) := by
  rcases l.take_meets alive n with ⟨m, met, hm, hwindow, hbehind, hahead, hend⟩
  have hfilter : l.ahead.filter (isLive alive) =
      met.filter (isLive alive) ++ m.ahead.filter (isLive alive) := by
    rw [hahead, List.filter_append]
  have hsuffix : m.ahead <:+ l.ahead := hahead ▸ List.suffix_append met m.ahead
  rcases hend with ⟨hlength, -⟩ | ⟨hlength, hnil⟩
  · refine ⟨m, hm, ?_, ?_, hsuffix, ?_, Or.inl ?_⟩
    · rw [hwindow, hfilter, List.take_left' hlength]
    · rw [hbehind, hfilter, List.take_left' hlength]
    · rw [hfilter, List.drop_left' hlength]
    · rw [hfilter, List.length_append]
      omega
  · rw [hnil, List.filter_nil, List.append_nil] at hfilter
    refine ⟨m, hm, ?_, ?_, hsuffix, ?_, Or.inr hnil⟩
    · rw [hwindow, hfilter, List.take_of_length_le hlength.le]
    · rw [hbehind, hfilter, List.take_of_length_le hlength.le]
    · rw [hfilter, List.drop_eq_nil_of_le hlength.le, hnil, List.filter_nil]

theorem lives_toRegistry (alive : Living) (l : Lineup) {e : Entry} (he : e ∈ l.entries) :
    l.toRegistry.lives alive e.1 = isLive alive e := by
  have hfind : l.find? e.1 = some e := (find?_eq_some_iff e.1 l e).mpr ⟨he, rfl⟩
  rw [Registry.lives, get?_toRegistry, get?, hfind, Option.map_some, isLive]
  cases halive : alive e.2 with
  | true => rw [Option.filter_some_pos halive, Option.isSome_some]
  | false => rw [Option.filter_some_neg halive, Option.isSome_none]

/-- The identities of the live ones among some entries. -/
theorem map_filter_isLive (alive : Living) (l : Lineup) {es : List Entry}
    (hes : ∀ e ∈ es, e ∈ l.entries) :
    (es.filter (isLive alive)).map Prod.fst =
      (es.map Prod.fst).filter (l.toRegistry.lives alive) := by
  rw [List.filter_map]
  refine congrArg (List.map Prod.fst) (List.filter_congr fun e he => ?_)
  exact (lives_toRegistry alive l (hes e he)).symm

end Lineup

namespace Registry

variable {alive : Living} {r r' r'' : Registry}

theorem passed_append_upcoming (r : Registry) : r.passed ++ r.upcoming = r.order :=
  List.take_append_drop r.cursor r.order

theorem mem_queue_iff (r : Registry) (id : ConnId) : id ∈ r.queue ↔ id ∈ r.order := by
  rw [← passed_append_upcoming r, queue, List.mem_append, List.mem_append, or_comm]

theorem Sound.nodup_queue (h : r.Sound) : r.queue.Nodup := by
  have hnodup := h.nodup_order
  rw [← passed_append_upcoming r] at hnodup
  exact List.nodup_append_comm.mp hnodup

/-- What a look-up finds is listed. -/
theorem Sound.mem_of_lives (h : r.Sound) {id : ConnId} (hid : r.lives alive id = true) :
    id ∈ r.order := by
  rcases Option.isSome_iff_exists.mp hid with ⟨conn, hconn⟩
  exact (h.mem_order_iff id).mpr ⟨conn, ((h.get?_eq_some_iff alive id conn).mp hconn).1⟩

/-! ### Filling a window -/

/-- What a window leaves ahead of the scan, and what it does with it. -/
structure Fills (alive : Living) (n : Nat) (r r' : Registry) (window left : List ConnId) :
    Prop where
  sound : r'.Sound
  window_eq : window = (r.upcoming.filter (r.lives alive)).take n
  suffix : left <:+ r.upcoming
  left_eq : left.filter (r.lives alive) = (r.upcoming.filter (r.lives alive)).drop n
  /-- A window with room left has seen everything. -/
  room : n ≤ (r.upcoming.filter (r.lives alive)).length ∨ left = []
  /-- The scan goes on, or it has seen everything and starts again. -/
  scan : (left ≠ [] ∧ r'.upcoming = left ∧ r'.passed = r.passed ++ window) ∨
    (left = [] ∧ r'.upcoming = r.passed ++ window ∧ r'.passed = [])

/-- Everything filling a window can do. -/
theorem Sound.fillWindow_cases (h : r.Sound) (alive : Living) (n : Nat) :
    ∃ left, Fills alive n r (r.fillWindow alive n).1 (r.fillWindow alive n).2 left := by
  rcases h with ⟨l, rfl⟩
  rcases l.take_toRegistry alive n with ⟨m, hm, hwindow, hbehind, hsuffix, hleft, hroom⟩
  have hlive : l.toRegistry.upcoming.filter (l.toRegistry.lives alive) =
      (l.ahead.filter (Lineup.isLive alive)).map Prod.fst := by
    rw [Lineup.upcoming_toRegistry]
    exact (l.map_filter_isLive alive fun e he => List.mem_append_right _ he).symm
  have hsub : ∀ e ∈ m.ahead, e ∈ l.entries := fun e he =>
    List.mem_append_right _ (hsuffix.subset he)
  have hpassed : m.toRegistry.passed =
      l.toRegistry.passed ++ (l.toRegistry.take alive n).2 := by
    rw [Lineup.passed_toRegistry, Lineup.passed_toRegistry, hbehind, hwindow, List.map_append]
  -- The registry is rewound exactly if nothing was left ahead.
  refine ⟨m.ahead.map Prod.fst, ?_, ?_, ?_, ?_, ?_, ?_⟩
  · unfold fillWindow
    dsimp only
    rw [hm]
    split
    · exact ⟨m.rewind, Lineup.rewind_toRegistry m⟩
    · exact ⟨m, rfl⟩
  · rw [hlive, ← List.map_take]
    exact hwindow
  · rw [Lineup.upcoming_toRegistry]
    exact hsuffix.map Prod.fst
  · rw [hlive, ← List.map_drop, ← hleft, l.map_filter_isLive alive hsub]
  · rw [hlive, List.length_map, List.map_eq_nil_iff]
    exact hroom
  · unfold fillWindow
    dsimp only
    rw [hm, Lineup.exhausted_toRegistry, Lineup.exhausted]
    rcases hahead : m.ahead with _ | ⟨e, rest⟩
    · refine Or.inr ⟨rfl, ?_, ?_⟩
      · have hall : m.toRegistry.passed ++ m.toRegistry.upcoming = m.toRegistry.order :=
          passed_append_upcoming _
        rw [Lineup.upcoming_toRegistry, hahead, List.map_nil, List.append_nil] at hall
        rw [← hpassed, hall]
        rfl
      · rfl
    · have hleft' : m.toRegistry.upcoming = (e :: rest).map Prod.fst :=
        hahead ▸ Lineup.upcoming_toRegistry m
      exact Or.inl ⟨List.cons_ne_nil _ _, hleft', hpassed⟩

/-- Filling a window enters nothing. -/
theorem Sound.mem_refs_fillWindow (h : r.Sound) (alive : Living) (n : Nat) {e : Entry}
    (he : e ∈ (r.fillWindow alive n).1.refs) : e ∈ r.refs := by
  rcases h with ⟨l, rfl⟩
  rcases l.take_toRegistry alive n with ⟨m, hm, -, hbehind, hsuffix, -, -⟩
  have hmem : e ∈ m.entries := by
    unfold fillWindow at he
    dsimp only at he
    rw [hm] at he
    split at he
    · exact he
    · exact he
  -- What is behind the scan now was behind it before or has been passed.
  rcases List.mem_append.mp hmem with hb | ha
  · rw [hbehind] at hb
    rcases List.mem_append.mp hb with hb | hw
    · exact List.mem_append_left _ hb
    · exact List.mem_append_right _ (List.mem_filter.mp (List.mem_of_mem_take hw)).1
  · exact List.mem_append_right _ (hsuffix.subset ha)

theorem fillWindow_empty (alive : Living) (n : Nat) : empty.fillWindow alive n = (empty, []) := by
  cases n with
  | zero => rfl
  | succ n => rfl

theorem Fills.nodup {window left : List ConnId} {n : Nat} (h : r.Sound)
    (hfill : Fills alive n r r' window left) : window.Nodup := by
  have hupcoming : r.upcoming.Nodup := h.nodup_order.sublist (List.drop_sublist _ _)
  rw [hfill.window_eq]
  exact (hupcoming.filter _).sublist (List.take_sublist _ _)

/-- The queue after a window: what was left, what was passed before, and the
    window. -/
theorem Fills.queue {window left : List ConnId} {n : Nat}
    (hfill : Fills alive n r r' window left) : r'.queue = left ++ (r.passed ++ window) := by
  rcases hfill.scan with ⟨-, hupcoming, hpassed⟩ | ⟨hnil, hupcoming, hpassed⟩
  · rw [Registry.queue, hupcoming, hpassed]
  · rw [Registry.queue, hupcoming, hpassed, hnil, List.append_nil, List.nil_append]

/-- A window turns the queue round, as far as it consists of live entries: the
    front of it is in the window and behind all others afterwards. -/
theorem Fills.filter_queue {window left : List ConnId} {n : Nat} {keep : ConnId → Bool}
    (hfill : Fills alive n r r' window left)
    (hkeep : ∀ id, keep id = true → r.lives alive id = true) :
    ∃ rest, r.queue.filter keep = window.filter keep ++ rest ∧
      r'.queue.filter keep = rest ++ window.filter keep := by
  have hlive : ∀ ids : List ConnId, (ids.filter (r.lives alive)).filter keep = ids.filter keep := by
    intro ids
    rw [List.filter_filter]
    refine List.filter_congr fun id _ => ?_
    cases hid : keep id with
    | true => rw [hkeep id hid, Bool.and_self]
    | false => rw [Bool.false_and]
  -- Nothing that is kept is dropped, so it is in the window or left ahead.
  have hupcoming : r.upcoming.filter keep = window.filter keep ++ left.filter keep := by
    rw [← hlive r.upcoming, ← hlive left, hfill.left_eq, hfill.window_eq, ← List.filter_append,
      List.take_append_drop]
  refine ⟨left.filter keep ++ r.passed.filter keep, ?_, ?_⟩
  · rw [Registry.queue, List.filter_append, hupcoming, List.append_assoc]
  · rw [hfill.queue, List.filter_append, List.filter_append, List.append_assoc]

/-! ### Removing and appending -/

/-- Entries were removed on both sides of the scan, and new ones appended
    before or among that. -/
structure Churns (new : List ConnId) (r r' : Registry) : Prop where
  sound : r'.Sound
  fresh : ∀ id ∈ new, id ∉ r.order
  passed : r'.passed.Sublist r.passed
  upcoming : r'.upcoming.Sublist (r.upcoming ++ new)

theorem Sound.churns_refl (h : r.Sound) : Churns [] r r :=
  ⟨h, fun _ hid => absurd hid List.not_mem_nil, List.Sublist.refl _,
    (List.append_nil r.upcoming).symm ▸ List.Sublist.refl _⟩

theorem Churns.trans {new : List ConnId} (h : Churns new r r') (h' : Churns [] r' r'') :
    Churns new r r'' := by
  have hupcoming := h'.upcoming
  rw [List.append_nil] at hupcoming
  exact ⟨h'.sound, h.fresh, h'.passed.trans h.passed, hupcoming.trans h.upcoming⟩

theorem Sound.churns_remove (h : r.Sound) (id : ConnId) : Churns [] r (r.remove id).1 := by
  rcases h.remove_eq id with ⟨-, hpassed, hupcoming⟩
  refine ⟨h.remove id, fun _ hid => absurd hid List.not_mem_nil, ?_, ?_⟩
  · rw [hpassed]
    exact List.erase_sublist
  · rw [hupcoming, List.append_nil]
    exact List.erase_sublist

theorem Sound.churns_append (h : r.Sound) (id : ConnId) (conn : ConnKey) :
    ∃ new : List ConnId, new.Sublist [id] ∧ Churns new r (r.append id conn).1 := by
  rcases h.append_eq id conn with ⟨-, hcursor, horder⟩
  by_cases hid : id ∈ r.order
  · rw [if_pos hid] at horder
    refine ⟨[], List.nil_sublist _, h.append id conn, fun _ hid => absurd hid List.not_mem_nil,
      ?_, ?_⟩
    · rw [Registry.passed, horder, hcursor]
      exact List.Sublist.refl _
    · rw [Registry.upcoming, horder, hcursor, List.append_nil]
      exact List.Sublist.refl _
  · -- The new entry is behind all others, which leaves the scan where it is.
    rw [if_neg hid] at horder
    refine ⟨[id], List.Sublist.refl _, h.append id conn, fun d hd => ?_, ?_, ?_⟩
    · rw [List.mem_singleton.mp hd]
      exact hid
    · rw [Registry.passed, horder, hcursor, List.take_append_of_le_length h.cursor_le]
      exact List.Sublist.refl _
    · rw [Registry.upcoming, horder, hcursor, List.drop_append_of_le_length h.cursor_le]
      exact List.Sublist.refl _

theorem churns_empty (r : Registry) : Churns [] r empty :=
  ⟨sound_empty, fun _ hid => absurd hid List.not_mem_nil, List.nil_sublist _, List.nil_sublist _⟩

/-- An operation that leaves the scan alone appends one entry at most. -/
theorem Sound.churns_perform (h : r.Sound) (alive : Living) {op : RegistryOp}
    (hop : op.scans = false) :
    ∃ new : List ConnId, new.length ≤ 1 ∧ Churns new r (r.perform alive op).1 := by
  cases op with
  | append id conn =>
      rcases h.churns_append id conn with ⟨new, hnew, hchurn⟩
      exact ⟨new, hnew.length_le, hchurn⟩
  | remove id => exact ⟨[], Nat.zero_le 1, h.churns_remove id⟩
  | drain => exact ⟨[], Nat.zero_le 1, churns_empty r⟩
  | get id => exact ⟨[], Nat.zero_le 1, h.churns_refl⟩
  | exhausted => exact ⟨[], Nat.zero_le 1, h.churns_refl⟩
  | size => exact ⟨[], Nat.zero_le 1, h.churns_refl⟩
  | next => exact absurd hop.symm Bool.false_ne_true
  | rewind => exact absurd hop.symm Bool.false_ne_true

/-- Removing and appending others leaves the queue as it is, as far as it
    consists of entries that stay. -/
theorem Churns.filter_queue {new : List ConnId} {keep : ConnId → Bool} (h : r.Sound)
    (hchurn : Churns new r r') (hkeep : ∀ id, keep id = true → id ∈ r.order)
    (hkeep' : ∀ id, keep id = true → id ∈ r'.order) :
    r'.queue.filter keep = r.queue.filter keep := by
  have hnew : new.filter keep = [] := List.filter_eq_nil_iff.mpr fun id hid hk =>
    hchurn.fresh id hid (hkeep id hk)
  have hsub : (r'.queue.filter keep).Sublist (r.queue.filter keep) := by
    have hupcoming := hchurn.upcoming.filter keep
    rw [List.filter_append, hnew, List.append_nil] at hupcoming
    rw [queue, queue, List.filter_append, List.filter_append]
    exact hupcoming.append (hchurn.passed.filter keep)
  -- Whatever is kept is still there, so nothing is missing.
  have hall : r.queue.filter keep ⊆ r'.queue.filter keep := by
    intro id hid
    have hk := (List.mem_filter.mp hid).2
    exact List.mem_filter.mpr ⟨(mem_queue_iff r' id).mpr (hkeep' id hk), hk⟩
  have hlen := ((h.nodup_queue.filter keep).subperm hall).length_le
  exact hsub.eq_of_length_le hlen

end Registry

end ReadNotify
