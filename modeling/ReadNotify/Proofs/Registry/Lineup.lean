import ReadNotify.Registry
import Mathlib.Data.List.Nodup
import Mathlib.Data.List.TakeWhile

/-!
# Lineups

What a registry is, told without its bookkeeping: a list of entries without
repetition, cut in two at the place where the scan stands. Whatever is behind
the cut was passed by the scan, whatever is ahead of it was not reached yet.

Nothing is counted here. The position of the scan is the length of the part
behind, so there is no position beyond the end. An entry that is removed leaves
the part it is in, and the scan stands before the same next entry because the
other part does not change. Passing an entry moves it from one part to the
other.

That no identity occurs twice is a field, so every operation has to show it
once and nobody else ever does.

## Main definitions

* `Lineup`: Entries without repetition, cut at the scan.
* `Lineup.append`, `Lineup.remove`, `Lineup.get?`: Entries by identity.
* `Lineup.next`: The first live entry ahead, the dead ones before it dropped.
* `Lineup.rewind`, `Lineup.drain`: Back to the first entry; no entry at all.

## Theorems

* `Lineup.find?_eq_some_iff`: An identity finds the one entry that has it.
* `Lineup.mem_append_iff`, `Lineup.mem_remove_iff`: The entries afterwards.
* `Lineup.next_cases`: Everything a step of the scan can do.
* `Lineup.remove_head`: Removing what the scan stands before.
-/

namespace ReadNotify

/-- An identity with the connection it refers to. -/
abbrev Entry := ConnId × ConnKey

/-- Entries of different identities, cut in two where the scan stands. -/
structure Lineup where
  behind : List Entry
  ahead : List Entry
  nodup : ((behind ++ ahead).map Prod.fst).Nodup

namespace Lineup

/-- No entry at all. -/
def empty : Lineup := ⟨[], [], List.nodup_nil⟩

/-- All entries in order. -/
def entries (l : Lineup) : List Entry := l.behind ++ l.ahead

/-- All identities in order. -/
def ids (l : Lineup) : List ConnId := l.entries.map Prod.fst

/-- Whether an entry does not have an identity. -/
def differs (id : ConnId) (e : Entry) : Bool := e.1 != id

/-- Whether the connection of an entry has died. -/
def isDead (alive : ConnKey → Bool) (e : Entry) : Bool := !alive e.2

theorem nodup_ids (l : Lineup) : l.ids.Nodup := l.nodup

/-- Leaving entries out of both parts repeats no identity. -/
theorem nodup_sublists {b a b' a' : List Entry} (h : ((b ++ a).map Prod.fst).Nodup)
    (hb : b'.Sublist b) (ha : a'.Sublist a) : ((b' ++ a').map Prod.fst).Nodup :=
  h.sublist ((hb.append ha).map Prod.fst)

/-- An entry behind all others repeats no identity if it is new. -/
theorem nodup_snoc {es : List Entry} (h : (es.map Prod.fst).Nodup) (e : Entry)
    (hnew : e.1 ∉ es.map Prod.fst) : ((es ++ [e]).map Prod.fst).Nodup := by
  have hconcat : (es ++ [e]).map Prod.fst = (es.map Prod.fst).concat e.1 := by
    simp only [List.map_append, List.map_cons, List.map_nil, List.concat_eq_append]
  rw [hconcat]
  exact List.Nodup.concat hnew h

/-- Adds an entry at the end and answers whether its identity was absent. -/
def append (id : ConnId) (conn : ConnKey) (l : Lineup) : Lineup × Bool :=
  if h : id ∈ l.ids then (l, false)
  else
    (⟨l.behind, l.ahead ++ [(id, conn)], by
        rw [← List.append_assoc]; exact nodup_snoc l.nodup (id, conn) h⟩, true)

/-- Removes the entry of an identity and answers whether there was one. -/
def remove (id : ConnId) (l : Lineup) : Lineup × Bool :=
  (⟨l.behind.filter (differs id), l.ahead.filter (differs id),
      nodup_sublists l.nodup List.filter_sublist List.filter_sublist⟩, decide (id ∈ l.ids))

/-- The entry of an identity. -/
def find? (id : ConnId) (l : Lineup) : Option Entry := l.entries.find? fun e => e.1 == id

/-- The connection of an identity, if it is listed and alive. -/
def get? (alive : ConnKey → Bool) (id : ConnId) (l : Lineup) : Option ConnKey :=
  ((l.find? id).map Prod.snd).filter alive

/-- Puts the scan before the first entry. -/
def rewind (l : Lineup) : Lineup := ⟨[], l.entries, l.nodup⟩

/-- Whether nothing is ahead of the scan. -/
def exhausted (l : Lineup) : Bool := l.ahead.isEmpty

/-- Drops the dead entries right ahead of the scan and passes the live one
    behind them, if there is one. -/
def next (alive : ConnKey → Bool) (l : Lineup) : Lineup × Scan :=
  match h : l.ahead.dropWhile (isDead alive) with
  | [] => (⟨l.behind, [], nodup_sublists l.nodup (List.Sublist.refl _) (List.nil_sublist _)⟩,
      .finished)
  | e :: rest =>
    (⟨l.behind ++ [e], rest, by
        rw [List.append_assoc, List.singleton_append, ← h]
        exact nodup_sublists l.nodup (List.Sublist.refl _) (List.dropWhile_sublist _)⟩,
      .found e.1 e.2)

/-- Leaves no entry and answers the connections that were alive. -/
def drain (alive : ConnKey → Bool) (l : Lineup) : Lineup × List ConnKey :=
  (empty, (l.entries.map Prod.snd).filter alive)

theorem append_of_mem (id : ConnId) (conn : ConnKey) (l : Lineup) (h : id ∈ l.ids) :
    l.append id conn = (l, false) := dif_pos h

theorem append_of_notMem (id : ConnId) (conn : ConnKey) (l : Lineup) (h : id ∉ l.ids) :
    (l.append id conn).1.behind = l.behind ∧
      (l.append id conn).1.ahead = l.ahead ++ [(id, conn)] ∧ (l.append id conn).2 = true := by
  unfold append
  rw [dif_neg h]
  exact ⟨rfl, rfl, rfl⟩

theorem entries_append (id : ConnId) (conn : ConnKey) (l : Lineup) (h : id ∉ l.ids) :
    (l.append id conn).1.entries = l.entries ++ [(id, conn)] := by
  rcases append_of_notMem id conn l h with ⟨hb, ha, -⟩
  simp only [entries, hb, ha, List.append_assoc]

theorem entries_remove (id : ConnId) (l : Lineup) :
    (l.remove id).1.entries = l.entries.filter (differs id) := by
  simp only [remove, entries, List.filter_append]

/-- Two entries of one identity are the same. -/
theorem eq_of_fst_eq {es : List Entry} (h : (es.map Prod.fst).Nodup) {d e : Entry}
    (hd : d ∈ es) (he : e ∈ es) (hfst : d.1 = e.1) : d = e :=
  List.inj_on_of_nodup_map h hd he hfst

/-- An identity finds the one entry that has it. -/
theorem find?_eq_some_iff (id : ConnId) (l : Lineup) (e : Entry) :
    l.find? id = some e ↔ e ∈ l.entries ∧ e.1 = id := by
  constructor
  · intro h
    have hid := List.find?_some h
    exact ⟨List.mem_of_find?_eq_some h, beq_iff_eq.mp hid⟩
  · intro ⟨he, hid⟩
    -- Something is found, and it is this entry because no other has the identity.
    have hsome : (l.find? id).isSome :=
      List.find?_isSome.mpr ⟨e, he, beq_iff_eq.mpr hid⟩
    rcases Option.isSome_iff_exists.mp hsome with ⟨d, hd⟩
    have hbeq := List.find?_some hd
    have hdid : d.1 = id := beq_iff_eq.mp hbeq
    have hde : d = e := eq_of_fst_eq l.nodup (List.mem_of_find?_eq_some hd) he (hdid.trans hid.symm)
    rw [hd, hde]

/-- An identity finds nothing exactly if it is not listed. -/
theorem find?_eq_none_iff (id : ConnId) (l : Lineup) : l.find? id = none ↔ id ∉ l.ids := by
  unfold find? ids
  rw [List.find?_eq_none, List.mem_map]
  constructor
  · intro h ⟨e, he, hid⟩
    exact h e he (beq_iff_eq.mpr hid)
  · intro h e he hbeq
    exact h ⟨e, he, beq_iff_eq.mp hbeq⟩

/-- A look-up answers a connection exactly if it is listed and alive. -/
theorem get?_eq_some_iff (alive : ConnKey → Bool) (id : ConnId) (l : Lineup) (conn : ConnKey) :
    l.get? alive id = some conn ↔ (id, conn) ∈ l.entries ∧ alive conn = true := by
  unfold get?
  rw [Option.filter_eq_some_iff, Option.map_eq_some_iff]
  constructor
  · intro ⟨⟨e, he, hconn⟩, halive⟩
    rcases (find?_eq_some_iff id l e).mp he with ⟨hmem, hid⟩
    rw [← hid, ← hconn]
    exact ⟨hmem, by rw [hconn]; exact halive⟩
  · intro ⟨hmem, halive⟩
    exact ⟨⟨(id, conn), (find?_eq_some_iff id l _).mpr ⟨hmem, rfl⟩, rfl⟩, halive⟩

/-- The entries after an append are the old ones and, if its identity was
    absent, the new one. -/
theorem mem_append_iff (id : ConnId) (conn : ConnKey) (l : Lineup) (e : Entry) :
    e ∈ (l.append id conn).1.entries ↔ e ∈ l.entries ∨ (id ∉ l.ids ∧ e = (id, conn)) := by
  by_cases h : id ∈ l.ids
  · have hno : ¬ (id ∉ l.ids ∧ e = (id, conn)) := fun hc => hc.1 h
    rw [append_of_mem id conn l h]
    exact ⟨Or.inl, fun hc => hc.resolve_right hno⟩
  · rw [entries_append id conn l h, List.mem_append, List.mem_singleton]
    exact ⟨Or.imp_right fun he => ⟨h, he⟩, Or.imp_right And.right⟩

/-- The entries after a removal are those of other identities. -/
theorem mem_remove_iff (id : ConnId) (l : Lineup) (e : Entry) :
    e ∈ (l.remove id).1.entries ↔ e ∈ l.entries ∧ e.1 ≠ id := by
  rw [entries_remove, List.mem_filter, differs, bne_iff_ne]

/-- Two lineups with the same two parts are the same. -/
theorem eq_of_parts {l m : Lineup} (hb : l.behind = m.behind) (ha : l.ahead = m.ahead) :
    l = m := by
  cases l
  cases m
  cases hb
  cases ha
  rfl

/-- If no live entry is ahead, a step of the scan drops all that is ahead. -/
theorem next_of_nil (alive : ConnKey → Bool) (l : Lineup)
    (h : l.ahead.dropWhile (isDead alive) = []) :
    (l.next alive).1.behind = l.behind ∧ (l.next alive).1.ahead = [] ∧
      (l.next alive).2 = .finished := by
  unfold next
  split
  · exact ⟨rfl, rfl, rfl⟩
  · next e rest hcons => exact absurd (hcons.symm.trans h) (List.cons_ne_nil e rest)

/-- If a live entry is ahead, a step of the scan passes it. -/
theorem next_of_cons (alive : ConnKey → Bool) (l : Lineup) (e : Entry) (rest : List Entry)
    (h : l.ahead.dropWhile (isDead alive) = e :: rest) :
    (l.next alive).1.behind = l.behind ++ [e] ∧ (l.next alive).1.ahead = rest ∧
      (l.next alive).2 = .found e.1 e.2 := by
  unfold next
  split
  · next hnil => exact absurd (h.symm.trans hnil) (List.cons_ne_nil e rest)
  · next d rest' hcons =>
      rcases List.cons.inj (hcons.symm.trans h) with ⟨rfl, rfl⟩
      exact ⟨rfl, rfl, rfl⟩

/-- Everything a step of the scan can do: it passes the first live entry ahead
    and drops the dead ones before it, or all entries ahead are dead and are
    dropped. -/
theorem next_cases (alive : ConnKey → Bool) (l : Lineup) :
    (∃ dead e rest, l.ahead = dead ++ e :: rest ∧ (∀ d ∈ dead, alive d.2 = false) ∧
        alive e.2 = true ∧ (l.next alive).1.behind = l.behind ++ [e] ∧
        (l.next alive).1.ahead = rest ∧ (l.next alive).2 = .found e.1 e.2) ∨
      ((∀ d ∈ l.ahead, alive d.2 = false) ∧ (l.next alive).1.behind = l.behind ∧
        (l.next alive).1.ahead = [] ∧ (l.next alive).2 = .finished) := by
  rcases h : l.ahead.dropWhile (isDead alive) with _ | ⟨e, rest⟩
  · refine Or.inr ⟨fun d hd => ?_, next_of_nil alive l h⟩
    have hall := List.dropWhile_eq_nil_iff.mp h d hd
    simpa only [isDead, Bool.not_eq_true'] using hall
  · refine Or.inl ⟨l.ahead.takeWhile (isDead alive), e, rest, ?_, fun d hd => ?_, ?_,
      next_of_cons alive l e rest h⟩
    · rw [← h, List.takeWhile_append_dropWhile]
    · have hd' := List.mem_takeWhile_imp hd
      simpa only [isDead, Bool.not_eq_true'] using hd'
    · -- The first entry that is not dropped is not dead.
      have hhead := List.head?_dropWhile_not (isDead alive) l.ahead
      rw [h] at hhead
      simpa only [List.head?_cons, isDead, Bool.not_eq_false'] using hhead

/-- Removing the entry the scan stands before leaves the others as they are. -/
theorem remove_head (l : Lineup) (e : Entry) (rest : List Entry) (h : l.ahead = e :: rest) :
    (l.remove e.1).1.behind = l.behind ∧ (l.remove e.1).1.ahead = rest := by
  have hnodup : ((l.behind ++ e :: rest).map Prod.fst).Nodup := h ▸ l.nodup
  rw [List.map_append, List.map_cons, List.nodup_middle] at hnodup
  -- Nobody else has the identity, so every other entry stays.
  have hother : ∀ d, d ∈ l.behind ∨ d ∈ rest → differs e.1 d = true := by
    intro d hd
    refine bne_iff_ne.mpr fun hid => (List.nodup_cons.mp hnodup).1 ?_
    rw [← List.map_append]
    exact List.mem_map.mpr ⟨d, List.mem_append.mpr hd, hid⟩
  have hself : ¬ differs e.1 e = true := fun hd => bne_iff_ne.mp hd rfl
  constructor
  · exact List.filter_eq_self.mpr fun d hd => hother d (Or.inl hd)
  · simp only [remove, h]
    rw [List.filter_cons_of_neg hself]
    exact List.filter_eq_self.mpr fun d hd => hother d (Or.inr hd)

end Lineup

end ReadNotify
