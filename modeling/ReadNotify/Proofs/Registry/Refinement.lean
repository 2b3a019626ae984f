import ReadNotify.Proofs.Registry.Lineup

/-!
# Registries Are Lineups

A registry keeps three things in step: the order of the identities, the
reference of each, and a number that says where the scan stands. This module
shows that it never gets out of step. Every registry that the operations can
build up is the registry of a lineup, and every operation does to the one what
the corresponding operation does to the other, with the same answer.

Which connections are alive is an argument of each operation and may be
another one each time, so connections may die, or come back, between any two
of them.

The scan is the only operation with a loop. A round that does not end the loop
removes the entry the scan stands before, and that is always possible because
this entry is listed in both places. `scan_toRegistry` is the induction: the
rounds are counted down along the entries ahead, and the count never runs out
first.

## Main definitions

* `Lineup.toRegistry`: The registry that keeps a lineup.
* `RegistryOp`, `RegistryReply`: What is done to a registry, and its answers.
* `Registry.run`, `Lineup.run`: Operations one after the other.
* `Registry.passed`, `Registry.upcoming`: The order on both sides of the scan.
* `Registry.Sound`: A registry that keeps some lineup.

## Theorems

* `append_toRegistry`, `remove_toRegistry`, `next_toRegistry`: Operations on
  registries are operations on lineups.
* `run_toRegistry`: The same for any number of operations.
* `sound_run`: What the operations build up is sound.
* `run_refines_lineup`: A registry is a list without repetition and a position
  in it.
-/

namespace ReadNotify

/-- What is done to a registry. -/
inductive RegistryOp where
  | append (id : ConnId) (conn : ConnKey)
  | remove (id : ConnId)
  | get (id : ConnId)
  | next
  | rewind
  | exhausted
  | size
  | drain

/-- What a registry answers. -/
inductive RegistryReply where
  | done
  | flag (b : Bool)
  | count (n : Nat)
  | entry (conn : Option ConnKey)
  | scanned (s : Scan)
  | drained (conns : List ConnKey)

/-- Which connections are alive. -/
abbrev Living := ConnKey → Bool

namespace Registry

/-- One operation, given which connections are alive. -/
def perform (alive : Living) (op : RegistryOp) (r : Registry) : Registry × RegistryReply :=
  match op with
  | .append id conn => ((r.append id conn).1, .flag (r.append id conn).2)
  | .remove id => ((r.remove id).1, .flag (r.remove id).2)
  | .get id => (r, .entry (r.get? alive id))
  | .next => ((r.next alive).1, .scanned (r.next alive).2)
  | .rewind => (r.rewind, .done)
  | .exhausted => (r, .flag r.exhausted)
  | .size => (r, .count r.size)
  | .drain => ((r.drain alive).1, .drained (r.drain alive).2)

/-- Operations in order with their answers. At each of them other connections
    may be alive. -/
def run : List (Living × RegistryOp) → Registry → Registry × List RegistryReply
  | [], r => (r, [])
  | (alive, op) :: rest, r =>
    let (r, reply) := r.perform alive op
    let (r, replies) := run rest r
    (r, reply :: replies)

/-- The identities the scan has passed. -/
def passed (r : Registry) : List ConnId := r.order.take r.cursor

/-- The identities the scan has not reached. -/
def upcoming (r : Registry) : List ConnId := r.order.drop r.cursor

end Registry

namespace Lineup

/-- The same operation on a lineup. -/
def perform (alive : Living) (op : RegistryOp) (l : Lineup) : Lineup × RegistryReply :=
  match op with
  | .append id conn => ((l.append id conn).1, .flag (l.append id conn).2)
  | .remove id => ((l.remove id).1, .flag (l.remove id).2)
  | .get id => (l, .entry (l.get? alive id))
  | .next => ((l.next alive).1, .scanned (l.next alive).2)
  | .rewind => (l.rewind, .done)
  | .exhausted => (l, .flag l.exhausted)
  | .size => (l, .count l.entries.length)
  | .drain => ((l.drain alive).1, .drained (l.drain alive).2)

/-- Operations on a lineup in order with their answers. -/
def run : List (Living × RegistryOp) → Lineup → Lineup × List RegistryReply
  | [], l => (l, [])
  | (alive, op) :: rest, l =>
    let (l, reply) := l.perform alive op
    let (l, replies) := run rest l
    (l, reply :: replies)

/-- The registry that keeps a lineup: its identities in order, its references,
    and how many of them the scan has passed. -/
def toRegistry (l : Lineup) : Registry := ⟨l.ids, l.entries, l.behind.length⟩

/-- References are looked up by identity in both. -/
theorem ref?_toRegistry (l : Lineup) (id : ConnId) :
    l.toRegistry.ref? id = (l.find? id).map Prod.snd := rfl

/-- And found if they are alive. -/
theorem get?_toRegistry (alive : Living) (l : Lineup) (id : ConnId) :
    l.toRegistry.get? alive id = l.get? alive id := rfl

/-- An identity without a reference is not listed. -/
theorem ref?_eq_none_iff (l : Lineup) (id : ConnId) :
    l.toRegistry.ref? id = none ↔ id ∉ l.ids := by
  rw [ref?_toRegistry, Option.map_eq_none_iff, find?_eq_none_iff]

/-- A listed identity has a reference. -/
theorem exists_ref? (l : Lineup) (id : ConnId) (h : id ∈ l.ids) :
    ∃ conn, l.toRegistry.ref? id = some conn := by
  cases hr : l.toRegistry.ref? id with
  | none => exact absurd h ((ref?_eq_none_iff l id).mp hr)
  | some conn => exact ⟨conn, rfl⟩

/-- What the scan has passed is the part behind the cut. -/
theorem passed_toRegistry (l : Lineup) : l.toRegistry.passed = l.behind.map Prod.fst := by
  have hlen : l.behind.length = (l.behind.map Prod.fst).length := (List.length_map _).symm
  simp only [Registry.passed, toRegistry, ids, entries, List.map_append]
  rw [hlen, List.take_left]

theorem upcoming_toRegistry (l : Lineup) : l.toRegistry.upcoming = l.ahead.map Prod.fst := by
  have hlen : l.behind.length = (l.behind.map Prod.fst).length := (List.length_map _).symm
  simp only [Registry.upcoming, toRegistry, ids, entries, List.map_append]
  rw [hlen, List.drop_left]

/-- A new entry comes behind all others, so the scan stays where it is. -/
theorem append_toRegistry (id : ConnId) (conn : ConnKey) (l : Lineup) :
    l.toRegistry.append id conn = ((l.append id conn).1.toRegistry, (l.append id conn).2) := by
  unfold Registry.append
  -- Whether the identity is listed decides everything.
  by_cases h : id ∈ l.ids
  · rcases exists_ref? l id h with ⟨c, hc⟩
    rw [hc, append_of_mem id conn l h]
  · rw [(ref?_eq_none_iff l id).mpr h]
    rcases append_of_notMem id conn l h with ⟨hb, ha, hnew⟩
    simp only [toRegistry, ids, entries, hb, ha, hnew, List.map_append, List.map_cons,
      List.map_nil, List.append_assoc]

/-- Leaving an identity out of some entries leaves it out of their identities. -/
theorem map_filter_differs (id : ConnId) (es : List Entry) :
    (es.filter (differs id)).map Prod.fst = (es.map Prod.fst).filter (· != id) := by
  rw [List.filter_map]
  rfl

/-- The scan's position after a removal counts the entries that are still
    behind it. -/
theorem length_behind_remove (id : ConnId) (l : Lineup) :
    (l.remove id).1.behind.length =
      if l.ids.idxOf id < l.behind.length then l.behind.length - 1 else l.behind.length := by
  have hids : l.ids = l.behind.map Prod.fst ++ l.ahead.map Prod.fst := List.map_append
  have hnodup : (l.behind.map Prod.fst).Nodup := (hids ▸ l.nodup_ids).of_append_left
  have hlen : (l.behind.map Prod.fst).length = l.behind.length := List.length_map ..
  -- Both sides speak of identities only.
  unfold remove
  rw [← List.length_map Prod.fst, map_filter_differs, ← hnodup.erase_eq_filter id,
    List.length_erase, hids, hlen]
  -- The first occurrence is behind exactly if the identity is.
  by_cases hb : id ∈ l.behind.map Prod.fst
  · have hlt : (l.behind.map Prod.fst ++ l.ahead.map Prod.fst).idxOf id < l.behind.length := by
      rw [List.idxOf_append_of_mem hb, ← hlen]
      exact List.idxOf_lt_length_iff.mpr hb
    rw [if_pos hb, if_pos hlt]
  · have hge : ¬ (l.behind.map Prod.fst ++ l.ahead.map Prod.fst).idxOf id < l.behind.length := by
      rw [List.idxOf_append_of_notMem hb, hlen]
      omega
    rw [if_neg hb, if_neg hge]

/-- A removed entry leaves its part. If it is behind the cut the position of the scan
    goes down by one, and that is the length of that part. -/
theorem remove_toRegistry (id : ConnId) (l : Lineup) :
    l.toRegistry.remove id = ((l.remove id).1.toRegistry, (l.remove id).2) := by
  unfold Registry.remove
  by_cases h : id ∈ l.ids
  · rcases exists_ref? l id h with ⟨c, hc⟩
    -- Erasing the first occurrence is leaving the identity out, as it occurs once.
    have herase : l.ids.eraseIdx (l.ids.idxOf id) = (l.remove id).1.ids := by
      rw [← List.erase_eq_eraseIdx_of_idxOf rfl, l.nodup_ids.erase_eq_filter id, ids,
        ← map_filter_differs, ids, entries_remove]
    have hrefs : (l.entries.filter fun e => e.1 != id) = (l.remove id).1.entries :=
      (entries_remove id l).symm
    have hmem : id ∈ l.toRegistry.order := h
    simp only [hc, if_pos hmem]
    refine Prod.ext ?_ (decide_eq_true h).symm
    simp only [toRegistry, herase, hrefs, length_behind_remove id l]
    rfl
  · have hnone := (ref?_eq_none_iff l id).mpr h
    -- Nothing is left out of either part, so the lineup is the same.
    have hall : ∀ e ∈ l.entries, differs id e = true := fun e he =>
      bne_iff_ne.mpr fun hid => h (List.mem_map.mpr ⟨e, he, hid⟩)
    have hb : l.behind.filter (differs id) = l.behind :=
      List.filter_eq_self.mpr fun e he => hall e (List.mem_append_left _ he)
    have ha : l.ahead.filter (differs id) = l.ahead :=
      List.filter_eq_self.mpr fun e he => hall e (List.mem_append_right _ he)
    simp only [hnone, remove, hb, ha, decide_eq_false h]

/-- A step of the scan depends on what is behind, and on what is ahead from the
    first live entry on. -/
theorem next_congr (alive : Living) (l m : Lineup) (hb : l.behind = m.behind)
    (ha : l.ahead.dropWhile (isDead alive) = m.ahead.dropWhile (isDead alive)) :
    l.next alive = m.next alive := by
  -- Either no live entry is ahead on both sides, or the same one comes first.
  rcases hm : m.ahead.dropWhile (isDead alive) with _ | ⟨e, rest⟩
  · rcases next_of_nil alive m hm with ⟨hbm, ham, hscan⟩
    rcases next_of_nil alive l (ha.trans hm) with ⟨hbl, hal, hscan'⟩
    refine Prod.ext (eq_of_parts ?_ (hal.trans ham.symm)) (hscan'.trans hscan.symm)
    rw [hbl, hbm, hb]
  · rcases next_of_cons alive m e rest hm with ⟨hbm, ham, hscan⟩
    rcases next_of_cons alive l e rest (ha.trans hm) with ⟨hbl, hal, hscan'⟩
    refine Prod.ext (eq_of_parts ?_ (hal.trans ham.symm)) (hscan'.trans hscan.symm)
    rw [hbl, hbm, hb]

/-- The rounds of the scan, counted down along the entries ahead. Each round
    that goes on has removed the first of them. -/
theorem scan_toRegistry (alive : Living) (n : Nat) (l : Lineup) (hn : l.ahead.length < n) :
    Registry.scan alive n l.toRegistry = ((l.next alive).1.toRegistry, (l.next alive).2) := by
  induction n generalizing l with
  | zero => omega
  | succ n ih =>
      have hstand : l.toRegistry.order[l.toRegistry.cursor]? = (l.ahead.map Prod.fst)[0]? := by
        rw [← upcoming_toRegistry, Registry.upcoming, List.getElem?_drop, Nat.add_zero]
      unfold Registry.scan
      rw [hstand]
      rcases hahead : l.ahead with _ | ⟨e, rest⟩
      · -- Nothing ahead: the scan ends and the registry stays as it is.
        rcases next_of_nil alive l (by rw [hahead]; rfl) with ⟨hb, ha, hscan⟩
        have hsame : (l.next alive).1 = l := eq_of_parts hb (ha.trans hahead.symm)
        rw [hsame, hscan]
        rfl
      · have he : e ∈ l.entries := by
          rw [entries, hahead]; exact List.mem_append_right _ List.mem_cons_self
        have hfind : l.find? e.1 = some e := (find?_eq_some_iff e.1 l e).mpr ⟨he, rfl⟩
        have hget : l.toRegistry.get? alive e.1 = (some e.2).filter alive := by
          rw [get?_toRegistry, get?, hfind, Option.map_some]
        simp only [List.map_cons, List.getElem?_cons_zero, hget]
        cases halive : alive e.2 with
        | true =>
            have hlive : ¬ isDead alive e = true := by
              simp only [isDead, halive, Bool.not_true, Bool.false_eq_true, not_false_eq_true]
            rcases next_of_cons alive l e rest (by rw [hahead, List.dropWhile_cons_of_neg hlive])
              with ⟨hb, ha, hscan⟩
            rw [hscan, Option.filter_some_pos halive]
            simp only [toRegistry, ids, entries, hb, ha, hahead, List.append_assoc,
              List.singleton_append, List.length_append, List.length_singleton]
        | false =>
            have hdead : isDead alive e = true := by simp only [isDead, halive, Bool.not_false]
            rw [Option.filter_some_neg halive]
            -- The entry is removed, and the scan stands before the one behind it.
            rcases remove_head l e rest hahead with ⟨hb, ha⟩
            have hshort : (l.remove e.1).1.ahead.length < n := by
              rw [hahead, List.length_cons] at hn
              rw [ha]
              omega
            have hdrop : (l.remove e.1).1.ahead.dropWhile (isDead alive) =
                l.ahead.dropWhile (isDead alive) := by
              rw [ha, hahead, List.dropWhile_cons_of_pos hdead]
            simp only [remove_toRegistry, ih _ hshort, next_congr alive _ l hb hdrop]

/-- If all entries are alive a step of the scan drops none. -/
theorem entries_next_of_alive (alive : Living) (l : Lineup)
    (hall : ∀ e ∈ l.entries, alive e.2 = true) : (l.next alive).1.entries = l.entries := by
  have hahead : ∀ e ∈ l.ahead, alive e.2 ≠ false := fun e he =>
    ne_false_of_eq_true (hall e (List.mem_append_right _ he))
  rcases l.next_cases alive with ⟨dead, e, rest, hsplit, hdead, -, hb, ha, -⟩ |
    ⟨hdead, hb, ha, -⟩
  · -- A step that passes an entry drops dead ones only, and there are none.
    have hnil : dead = [] := by
      rcases dead with _ | ⟨d, ds⟩
      · rfl
      · exact absurd (hdead d List.mem_cons_self)
          (hahead d (hsplit ▸ List.mem_append_left _ List.mem_cons_self))
    rw [entries, hb, ha, entries, hsplit, hnil, List.nil_append, List.append_assoc,
      List.singleton_append]
  · have hnil : l.ahead = [] := by
      rcases hcons : l.ahead with _ | ⟨d, ds⟩
      · rfl
      · rw [hcons] at hdead hahead
        exact absurd (hdead d List.mem_cons_self) (hahead d List.mem_cons_self)
    rw [entries, hb, ha, entries, hnil]

/-- There are rounds enough, for one more than there are entries. -/
theorem next_toRegistry (alive : Living) (l : Lineup) :
    l.toRegistry.next alive = ((l.next alive).1.toRegistry, (l.next alive).2) := by
  refine scan_toRegistry alive _ l ?_
  simp only [toRegistry, ids, entries, List.length_map, List.length_append]
  omega

theorem rewind_toRegistry (l : Lineup) : l.toRegistry.rewind = l.rewind.toRegistry := rfl

theorem drain_toRegistry (alive : Living) (l : Lineup) :
    l.toRegistry.drain alive = ((l.drain alive).1.toRegistry, (l.drain alive).2) := rfl

/-- The scan is at the end if nothing is ahead of it. -/
theorem exhausted_toRegistry (l : Lineup) : l.toRegistry.exhausted = l.exhausted := by
  simp only [Registry.exhausted, toRegistry, ids, entries, List.length_map, List.length_append,
    exhausted]
  cases l.ahead with
  | nil => simp only [List.length_nil, Nat.add_zero, Nat.le_refl, decide_true, List.isEmpty_nil]
  | cons e rest =>
      simp only [List.length_cons, List.isEmpty_cons, decide_eq_false_iff_not]
      omega

theorem size_toRegistry (l : Lineup) : l.toRegistry.size = l.entries.length := by
  simp only [Registry.size, toRegistry, ids, List.length_map]

/-- Every operation does the same to both and answers the same. -/
theorem perform_toRegistry (alive : Living) (op : RegistryOp) (l : Lineup) :
    l.toRegistry.perform alive op =
      ((l.perform alive op).1.toRegistry, (l.perform alive op).2) := by
  cases op with
  | append id conn => simp only [Registry.perform, perform, append_toRegistry]
  | remove id => simp only [Registry.perform, perform, remove_toRegistry]
  | get id => simp only [Registry.perform, perform, get?_toRegistry]
  | next => simp only [Registry.perform, perform, next_toRegistry]
  | rewind => simp only [Registry.perform, perform, rewind_toRegistry]
  | exhausted => simp only [Registry.perform, perform, exhausted_toRegistry]
  | size => simp only [Registry.perform, perform, size_toRegistry]
  | drain => simp only [Registry.perform, perform, drain_toRegistry]

/-- Any number of operations on the registry of a lineup are the same
    operations on the lineup, with the same answers. -/
theorem run_toRegistry (ops : List (Living × RegistryOp)) (l : Lineup) :
    Registry.run ops l.toRegistry = ((l.run ops).1.toRegistry, (l.run ops).2) := by
  induction ops generalizing l with
  | nil => rfl
  | cons op rest ih => simp only [Registry.run, run, perform_toRegistry, ih]

end Lineup

namespace Registry

/-- A registry that keeps a lineup. -/
def Sound (r : Registry) : Prop := ∃ l : Lineup, r = l.toRegistry

theorem sound_empty : empty.Sound := ⟨.empty, rfl⟩

/-- Whatever is done to a sound registry leaves it sound, because the lineup can do it
    too. -/
theorem sound_perform {r : Registry} (h : r.Sound) (alive : Living) (op : RegistryOp) :
    (r.perform alive op).1.Sound := by
  rcases h with ⟨l, rfl⟩
  exact ⟨(l.perform alive op).1, congrArg Prod.fst (Lineup.perform_toRegistry alive op l)⟩

theorem sound_run (ops : List (Living × RegistryOp)) : (run ops empty).1.Sound :=
  ⟨(Lineup.run ops .empty).1, congrArg Prod.fst (Lineup.run_toRegistry ops .empty)⟩

namespace Sound

variable {r : Registry}

/-- No identity is listed twice. -/
theorem nodup_order (h : r.Sound) : r.order.Nodup := by
  rcases h with ⟨l, rfl⟩
  exact l.nodup_ids

/-- Order and references list the same identities, and in the same order. -/
theorem refs_eq (h : r.Sound) : r.refs.map Prod.fst = r.order := by
  rcases h with ⟨l, rfl⟩
  rfl

/-- The scan never stands beyond the end. -/
theorem cursor_le (h : r.Sound) : r.cursor ≤ r.order.length := by
  rcases h with ⟨l, rfl⟩
  -- The position is the length of the part behind the cut.
  simp only [Lineup.toRegistry, Lineup.ids, Lineup.entries, List.length_map, List.length_append]
  omega

/-- Appending in terms of the registry alone. -/
theorem append_eq (h : r.Sound) (id : ConnId) (conn : ConnKey) :
    (r.append id conn).2 = decide (id ∉ r.order) ∧ (r.append id conn).1.cursor = r.cursor ∧
      (r.append id conn).1.order = if id ∈ r.order then r.order else r.order ++ [id] := by
  rcases h with ⟨l, rfl⟩
  have horder : l.toRegistry.order = l.ids := rfl
  rw [Lineup.append_toRegistry, horder]
  by_cases hid : id ∈ l.ids
  · rw [Lineup.append_of_mem id conn l hid, if_pos hid, decide_eq_false (not_not_intro hid)]
    exact ⟨rfl, rfl, rfl⟩
  · rcases Lineup.append_of_notMem id conn l hid with ⟨hb, -, hnew⟩
    rw [if_neg hid, decide_eq_true hid]
    refine ⟨hnew, congrArg List.length hb, ?_⟩
    simp only [Lineup.toRegistry, Lineup.ids, Lineup.entries_append id conn l hid,
      List.map_append, List.map_cons, List.map_nil]

/-- Removing takes an identity out of the part it is in. The other part does not change.
    -/
theorem remove_eq (h : r.Sound) (id : ConnId) :
    (r.remove id).2 = decide (id ∈ r.order) ∧
      (r.remove id).1.passed = r.passed.erase id ∧
      (r.remove id).1.upcoming = r.upcoming.erase id := by
  rcases h with ⟨l, rfl⟩
  have hids : (l.behind.map Prod.fst ++ l.ahead.map Prod.fst).Nodup :=
    List.map_append ▸ l.nodup_ids
  simp only [Lineup.remove_toRegistry, Lineup.passed_toRegistry, Lineup.upcoming_toRegistry]
  -- Each part repeats nothing, so erasing is filtering in both.
  rw [hids.of_append_left.erase_eq_filter, hids.of_append_right.erase_eq_filter,
    ← Lineup.map_filter_differs, ← Lineup.map_filter_differs]
  exact ⟨rfl, rfl, rfl⟩

/-- What is found is listed and alive. -/
theorem get?_eq_some_iff (h : r.Sound) (alive : Living) (id : ConnId) (conn : ConnKey) :
    r.get? alive id = some conn ↔ (id, conn) ∈ r.refs ∧ alive conn = true := by
  rcases h with ⟨l, rfl⟩
  exact Lineup.get?_eq_some_iff alive id l conn

/-- A dead entry is not found. -/
theorem get?_eq_none (h : r.Sound) (alive : Living) {e : Entry} (he : e ∈ r.refs)
    (hdead : alive e.2 = false) : r.get? alive e.1 = none := by
  rcases h with ⟨l, rfl⟩
  rw [Lineup.get?_toRegistry, Lineup.get?, (Lineup.find?_eq_some_iff e.1 l e).mpr ⟨he, rfl⟩,
    Option.map_some, Option.filter_some_neg hdead]

/-- A step of the scan either passes the first live entry it has not reached,
    having dropped the dead ones before it, or drops all of them. -/
theorem next_cases (h : r.Sound) (alive : Living) :
    (∃ dead id conn rest, r.upcoming = dead ++ id :: rest ∧
        (∀ d ∈ dead, r.get? alive d = none) ∧ r.get? alive id = some conn ∧
        (r.next alive).2 = .found id conn ∧ (r.next alive).1.passed = r.passed ++ [id] ∧
        (r.next alive).1.upcoming = rest) ∨
      ((∀ d ∈ r.upcoming, r.get? alive d = none) ∧ (r.next alive).2 = .finished ∧
        (r.next alive).1.passed = r.passed ∧ (r.next alive).1.upcoming = []) := by
  have hsound := h
  rcases h with ⟨l, rfl⟩
  have hnone : ∀ es : List Entry, (∀ e ∈ es, e ∈ l.entries) → (∀ e ∈ es, alive e.2 = false) →
      ∀ d ∈ es.map Prod.fst, l.toRegistry.get? alive d = none := by
    intro es hmem hdead d hd
    rcases List.mem_map.mp hd with ⟨e, he, rfl⟩
    exact hsound.get?_eq_none alive (hmem e he) (hdead e he)
  -- What the scan meets is told by entries there and by identities here.
  simp only [Lineup.next_toRegistry, Lineup.passed_toRegistry, Lineup.upcoming_toRegistry]
  have hahead : ∀ e ∈ l.ahead, e ∈ l.entries := fun e he => List.mem_append_right _ he
  rcases l.next_cases alive with ⟨dead, e, rest, hsplit, hdead, halive, hb, ha, hscan⟩ |
    ⟨hdead, hb, ha, hscan⟩
  · have hsub : ∀ d ∈ dead, d ∈ l.entries := fun d hd =>
      hahead d (hsplit ▸ List.mem_append_left _ hd)
    have he : e ∈ l.entries :=
      hahead e (hsplit ▸ List.mem_append_right _ List.mem_cons_self)
    refine Or.inl ⟨dead.map Prod.fst, e.1, e.2, rest.map Prod.fst, ?_, hnone dead hsub hdead,
      (hsound.get?_eq_some_iff alive e.1 e.2).mpr ⟨he, halive⟩, hscan, ?_, ?_⟩
    · rw [hsplit, List.map_append, List.map_cons]
    · rw [hb, List.map_append, List.map_cons, List.map_nil]
    · rw [ha]
  · refine Or.inr ⟨hnone l.ahead hahead hdead, hscan, ?_, ?_⟩
    · rw [hb]
    · rw [ha, List.map_nil]

/-- Draining answers what the look-ups of the identities in order answer, and
    leaves nothing. -/
theorem drain_eq (h : r.Sound) (alive : Living) :
    r.drain alive = (empty, r.order.filterMap (r.get? alive)) := by
  have hsound := h
  rcases h with ⟨l, rfl⟩
  have hget : ∀ e ∈ l.entries, l.toRegistry.get? alive e.1 = (some e.2).filter alive := by
    intro e he
    rw [Lineup.get?_toRegistry, Lineup.get?, (Lineup.find?_eq_some_iff e.1 l e).mpr ⟨he, rfl⟩,
      Option.map_some]
  -- Live entries are kept on either side, and dead ones are not found.
  have hmap : ∀ es : List Entry, (∀ e ∈ es, e ∈ l.entries) →
      (es.map Prod.snd).filter alive =
        (es.map Prod.fst).filterMap (l.toRegistry.get? alive) := by
    intro es
    induction es with
    | nil => intro _; rfl
    | cons e rest ih =>
        intro hes
        have hrest := ih fun d hd => hes d (List.mem_cons_of_mem e hd)
        rw [List.map_cons, List.map_cons, List.filterMap_cons, hget e (hes e List.mem_cons_self)]
        cases halive : alive e.2 with
        | true => rw [List.filter_cons_of_pos halive, Option.filter_some_pos halive, hrest]
        | false =>
            rw [List.filter_cons_of_neg (ne_true_of_eq_false halive),
              Option.filter_some_neg halive, hrest]
  exact congrArg (Prod.mk empty) (hmap l.entries fun _ he => he)

theorem append (h : r.Sound) (id : ConnId) (conn : ConnKey) : (r.append id conn).1.Sound :=
  sound_perform h (fun _ => true) (.append id conn)

theorem remove (h : r.Sound) (id : ConnId) : (r.remove id).1.Sound :=
  sound_perform h (fun _ => true) (.remove id)

/-- What is listed has a reference. -/
theorem mem_order_iff (h : r.Sound) (id : ConnId) : id ∈ r.order ↔ ∃ conn, (id, conn) ∈ r.refs := by
  rw [← h.refs_eq, List.mem_map]
  constructor
  · intro ⟨e, he, hid⟩
    exact ⟨e.2, by rw [← hid]; exact he⟩
  · intro ⟨conn, he⟩
    exact ⟨(id, conn), he, rfl⟩

theorem mem_refs_append (h : r.Sound) (id : ConnId) (conn : ConnKey) (e : Entry) :
    e ∈ (r.append id conn).1.refs ↔ e ∈ r.refs ∨ (id ∉ r.order ∧ e = (id, conn)) := by
  rcases h with ⟨l, rfl⟩
  rw [Lineup.append_toRegistry]
  exact Lineup.mem_append_iff id conn l e

theorem mem_refs_remove (h : r.Sound) (id : ConnId) (e : Entry) :
    e ∈ (r.remove id).1.refs ↔ e ∈ r.refs ∧ e.1 ≠ id := by
  rcases h with ⟨l, rfl⟩
  rw [Lineup.remove_toRegistry]
  exact Lineup.mem_remove_iff id l e

/-- Passing entries that are all alive changes no entry. -/
theorem take_of_alive (h : r.Sound) (alive : Living) (hall : ∀ e ∈ r.refs, alive e.2 = true)
    (n : Nat) : (r.take alive n).1.Sound ∧ (r.take alive n).1.refs = r.refs := by
  induction n generalizing r with
  | zero => exact ⟨h, rfl⟩
  | succ n ih =>
      rcases h with ⟨l, rfl⟩
      -- A step passes one entry at most and drops none.
      have hrefs : (l.next alive).1.toRegistry.refs = l.toRegistry.refs :=
        Lineup.entries_next_of_alive alive l hall
      have hrest := ih ⟨(l.next alive).1, rfl⟩ (hrefs ▸ hall)
      rw [take, Lineup.next_toRegistry]
      rcases hscan : (l.next alive).2 with ⟨id, conn⟩ | _ | _
      · exact ⟨hrest.1, hrest.2.trans hrefs⟩
      · exact ⟨⟨_, rfl⟩, hrefs⟩
      · exact ⟨⟨_, rfl⟩, hrefs⟩

/-- As long as nothing has died a window costs no entry. -/
theorem fillWindow_of_alive (h : r.Sound) (alive : Living)
    (hall : ∀ e ∈ r.refs, alive e.2 = true) (n : Nat) :
    (r.fillWindow alive n).1.Sound ∧ (r.fillWindow alive n).1.refs = r.refs := by
  rcases h.take_of_alive alive hall n with ⟨hsound, hrefs⟩
  unfold fillWindow
  dsimp only
  -- Behind the last entry the scan starts again from the first.
  split
  · rcases hsound with ⟨l, hl⟩
    exact ⟨⟨l.rewind, by rw [hl, Lineup.rewind_toRegistry]⟩, hrefs⟩
  · exact ⟨hsound, hrefs⟩

end Sound

/-- A registry is a list of identities without repetition and a position in
    it. After any operations, between which connections may have died, all
    answers were those of a lineup; the order repeats nothing, the references
    have exactly its identities, and the scan stands at or before its end. From
    there an append adds an absent identity at the end and nothing else; a
    removal leaves an identity out on whichever side of the scan it is; a
    look-up answers what is listed and alive; a step of the scan passes the
    first live entry it has not reached and drops the dead ones before it; and
    draining answers every live entry once and leaves the empty registry. -/
theorem run_refines_lineup (ops : List (Living × RegistryOp)) :
    let r := (run ops empty).1
    let l := (Lineup.run ops .empty).1
    (run ops empty).2 = (Lineup.run ops .empty).2 ∧ r = l.toRegistry ∧
    (r.order.Nodup ∧ r.refs.map Prod.fst = r.order ∧ r.cursor ≤ r.order.length) ∧
    (∀ id conn, (r.append id conn).2 = decide (id ∉ r.order) ∧
      (r.append id conn).1.cursor = r.cursor ∧
      (r.append id conn).1.order = if id ∈ r.order then r.order else r.order ++ [id]) ∧
    (∀ id, (r.remove id).2 = decide (id ∈ r.order) ∧
      (r.remove id).1.passed = r.passed.erase id ∧
      (r.remove id).1.upcoming = r.upcoming.erase id) ∧
    (∀ alive id conn, r.get? alive id = some conn ↔ (id, conn) ∈ r.refs ∧ alive conn = true) ∧
    (∀ alive,
      (∃ dead id conn rest, r.upcoming = dead ++ id :: rest ∧
          (∀ d ∈ dead, r.get? alive d = none) ∧ r.get? alive id = some conn ∧
          (r.next alive).2 = .found id conn ∧ (r.next alive).1.passed = r.passed ++ [id] ∧
          (r.next alive).1.upcoming = rest) ∨
        ((∀ d ∈ r.upcoming, r.get? alive d = none) ∧ (r.next alive).2 = .finished ∧
          (r.next alive).1.passed = r.passed ∧ (r.next alive).1.upcoming = [])) ∧
    (∀ alive, r.drain alive = (empty, r.order.filterMap (r.get? alive))) := by
  intro r l
  have hrun := Lineup.run_toRegistry ops .empty
  have hsound : r.Sound := sound_run ops
  -- The invariants and the answers all come from the lineup that is kept.
  exact ⟨congrArg Prod.snd hrun, congrArg Prod.fst hrun,
    ⟨hsound.nodup_order, hsound.refs_eq, hsound.cursor_le⟩, hsound.append_eq, hsound.remove_eq,
    hsound.get?_eq_some_iff, hsound.next_cases, hsound.drain_eq⟩

end Registry

end ReadNotify
