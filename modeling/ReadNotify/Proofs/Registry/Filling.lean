import ReadNotify.Proofs.Registry.Windows
import Mathlib.Data.List.Dedup
import Mathlib.Data.List.DropRight

/-!
# What the Scan Has Returned

Where the scan stands tells what it has returned. Whatever is behind it was
returned once since the scan was last rewound, and whatever is ahead was not
returned since then. The history of a registry is enough to say so: it lists what
was done to it, with the answers. An identity that was removed and registered
anew is another entry, so what counts for it begins with its registration.

The history also tells in which order the entries were registered, which is the
order they are listed in.

Filling a window is a sequence of such operations, so all of this holds after a
window was filled as well. In between the window takes the live entries that it
meets, as many as it has room for, and drops the dead ones it meets on the way,
but none behind the last entry that it takes.

## Main definitions

* `Registry.events`: What was done to a registry, with the answers.
* `Registry.returned`: How often an entry was returned since the last rewinding.
* `Registry.Told`: What a history says about the registry that it leads to.
* `Registry.windowOps`: The operations that fill a window.
* `Registry.Sweeps`: What filling a window does to the order.

## Theorems

* `Told.perform`, `Told.run`: The history goes on telling.
* `run_windowOps`: Filling a window is its operations one after the other.
* `Sound.sweeps_fillWindow`: What is taken, what is dropped, and where it ends.
* `window_first_live`: A window is the first live entries in order.
-/

namespace ReadNotify

namespace RegistryOp

/-- The identity that was new with an append. -/
def registers : RegistryOp × RegistryReply → Option ConnId
  | (.append id _, .flag true) => some id
  | _ => none

/-- The identity that a step of the scan answered. -/
def returns : RegistryOp × RegistryReply → Option ConnId
  | (.next, .scanned (.found id _)) => some id
  | _ => none

/-- Whether the scan was put back before the first entry. -/
def rewinds : RegistryOp × RegistryReply → Bool
  | (.rewind, _) => true
  | _ => false

end RegistryOp

open RegistryOp (registers returns rewinds)

namespace Registry

/-- What is done to a registry, with the answers. -/
def events (ops : List (Living × RegistryOp)) (r : Registry) : List (RegistryOp × RegistryReply) :=
  (ops.map Prod.snd).zip (run ops r).2

/-- Whether neither the scan was rewound nor the entry of an identity registered. -/
def goesOn (id : ConnId) (e : RegistryOp × RegistryReply) : Bool :=
  !(rewinds e || registers e == some id)

/-- What happened since the scan was last rewound, or since the entry of an
    identity was registered, if that was later. -/
def since (id : ConnId) (es : List (RegistryOp × RegistryReply)) :
    List (RegistryOp × RegistryReply) :=
  es.rtakeWhile (goesOn id)

/-- How often the entry of an identity was returned since the scan was last
    rewound. -/
def returned (id : ConnId) (es : List (RegistryOp × RegistryReply)) : Nat :=
  ((since id es).filterMap returns).count id

/-- The identities that were registered, each where it was registered last. -/
def registered (es : List (RegistryOp × RegistryReply)) : List ConnId :=
  (es.filterMap registers).dedup

/-- What a history says about the registry that it leads to. -/
structure Told (es : List (RegistryOp × RegistryReply)) (r : Registry) : Prop where
  sound : r.Sound
  behind : ∀ id ∈ r.passed, returned id es = 1
  ahead : ∀ id ∈ r.upcoming, returned id es = 0
  order : r.order.Sublist (registered es)

variable {es : List (RegistryOp × RegistryReply)} {alive : Living} {r r' : Registry}
  {id : ConnId}

/-! ### Histories -/

/-- What is registered anew was registered last, wherever it was before. -/
theorem dedup_concat (ids : List ConnId) (id : ConnId) :
    (ids ++ [id]).dedup = ids.dedup.filter (· != id) ++ [id] := by
  -- The last of several is the one that stays, so an earlier one is filtered out here.
  induction ids with
  | nil => rfl
  | cons d ids ih =>
      rw [List.cons_append]
      by_cases hd : d ∈ ids
      · rw [List.dedup_cons_of_mem hd, List.dedup_cons_of_mem (List.mem_append_left _ hd), ih]
      · rw [List.dedup_cons_of_notMem hd]
        by_cases hid : d = id
        · rw [List.dedup_cons_of_mem (hid ▸ List.mem_append_right _ List.mem_cons_self), ih,
            List.filter_cons_of_neg (p := (· != id)) fun hne => bne_iff_ne.mp hne hid]
        · have hnew : d ∉ ids ++ [id] := fun hmem =>
            (List.mem_append.mp hmem).elim hd fun h => hid (List.mem_singleton.mp h)
          rw [List.dedup_cons_of_notMem hnew, ih,
            List.filter_cons_of_pos (p := (· != id)) (bne_iff_ne.mpr hid), List.cons_append]

/-- What is appended to the order was registered last. -/
theorem sublist_registered_concat (h : r.order.Sublist (registered es)) (hid : id ∉ r.order)
    {e : RegistryOp × RegistryReply} (he : registers e = some id) :
    (r.order ++ [id]).Sublist (registered (es ++ [e])) := by
  -- It is not listed, so filtering it out leaves the order as it is.
  have hfilter : r.order.filter (· != id) = r.order :=
    List.filter_eq_self.mpr fun d hd => bne_iff_ne.mpr fun heq => hid (heq ▸ hd)
  rw [registered, List.filterMap_append, List.filterMap_cons_some he, List.filterMap_nil,
    dedup_concat]
  exact (hfilter ▸ h.filter (· != id)).append (List.Sublist.refl [id])

/-- Any other event registers nothing. -/
theorem registered_concat {e : RegistryOp × RegistryReply} (he : registers e = none) :
    registered (es ++ [e]) = registered es := by
  rw [registered, List.filterMap_append, List.filterMap_cons_none he, List.filterMap_nil,
    List.append_nil, registered]

/-- Rewinding and registering begin anew. -/
theorem returned_begin {e : RegistryOp × RegistryReply}
    (he : rewinds e = true ∨ registers e = some id) : returned id (es ++ [e]) = 0 := by
  have hbegin : goesOn id e = false := by
    rcases he with he | he
    · rw [goesOn, he, Bool.true_or]
      rfl
    · rw [goesOn, he, beq_self_eq_true, Bool.or_true]
      rfl
  rw [returned, since, List.rtakeWhile_concat_neg _ _ _ (ne_true_of_eq_false hbegin)]
  rfl

/-- Any other event counts if it returns the entry. -/
theorem returned_concat {e : RegistryOp × RegistryReply} (hrewinds : rewinds e = false)
    (hregisters : registers e ≠ some id) :
    returned id (es ++ [e]) = returned id es + if returns e = some id then 1 else 0 := by
  have hleads : goesOn id e = true := by
    rw [goesOn, hrewinds, Bool.false_or, beq_eq_false_iff_ne.mpr hregisters]
    rfl
  rw [returned, since, List.rtakeWhile_concat_pos _ _ _ hleads, List.filterMap_append,
    List.count_append, returned, since]
  -- The new event is behind all the others, and counts by itself.
  rcases hreturns : returns e with _ | d
  · rw [List.filterMap_cons_none hreturns, if_neg (Option.some_ne_none id).symm]
    rfl
  · rw [List.filterMap_cons_some hreturns, List.filterMap_nil, List.count_singleton]
    simp only [Option.some.injEq, beq_iff_eq]

/-- An event that neither registers nor returns, nor rewinds, counts for nobody. -/
theorem returned_idle {e : RegistryOp × RegistryReply} (hrewinds : rewinds e = false)
    (hregisters : registers e = none) (hreturns : returns e = none) (id : ConnId) :
    returned id (es ++ [e]) = returned id es := by
  rw [returned_concat hrewinds (hregisters ▸ (Option.some_ne_none id).symm), hreturns,
    if_neg (Option.some_ne_none id).symm, Nat.add_zero]

/-! ### What one operation adds -/

/-- Nothing has happened to the empty registry. -/
theorem told_empty : Told [] empty :=
  ⟨sound_empty, fun _ h => absurd h List.not_mem_nil, fun _ h => absurd h List.not_mem_nil,
    List.Sublist.refl _⟩

/-- Entries may go, as long as nothing is counted for it. -/
theorem Told.shrink (h : Told es r) {e : RegistryOp × RegistryReply} (hrewinds : rewinds e = false)
    (hregisters : registers e = none) (hreturns : returns e = none) (hsound : r'.Sound)
    (hpassed : r'.passed.Sublist r.passed) (hupcoming : r'.upcoming.Sublist r.upcoming) :
    Told (es ++ [e]) r' := by
  refine ⟨hsound, fun id hid => ?_, fun id hid => ?_, ?_⟩
  · rw [returned_idle hrewinds hregisters hreturns]
    exact h.behind id (hpassed.subset hid)
  · rw [returned_idle hrewinds hregisters hreturns]
    exact h.ahead id (hupcoming.subset hid)
  · -- What is behind and what is ahead make up the order.
    rw [registered_concat hregisters, ← passed_append_upcoming r']
    refine (hpassed.append hupcoming).trans ?_
    rw [passed_append_upcoming]
    exact h.order

/-- An append of what is not listed puts a new entry ahead of the scan; any other
    changes nothing. -/
theorem Told.append (h : Told es r) (id : ConnId) (conn : ConnKey) :
    Told (es ++ [(.append id conn, .flag (r.append id conn).2)]) (r.append id conn).1 := by
  rcases h.sound.append_eq id conn with ⟨hflag, hcursor, horder⟩
  by_cases hid : id ∈ r.order
  · rw [if_pos hid] at horder
    rw [hflag, decide_eq_false (not_not_intro hid)]
    refine h.shrink rfl rfl rfl (h.sound.append id conn) ?_ ?_
    · rw [passed, horder, hcursor]
      exact List.Sublist.refl _
    · rw [upcoming, horder, hcursor]
      exact List.Sublist.refl _
  · -- The new entry is behind all others, and nobody has returned it.
    rw [if_neg hid] at horder
    rw [hflag, decide_eq_true hid]
    have hpassed : (r.append id conn).1.passed = r.passed := by
      rw [passed, horder, hcursor, List.take_append_of_le_length h.sound.cursor_le, passed]
    have hupcoming : (r.append id conn).1.upcoming = r.upcoming ++ [id] := by
      rw [upcoming, horder, hcursor, List.drop_append_of_le_length h.sound.cursor_le, upcoming]
    -- For the entries that were there an append is an idle event.
    have hother : ∀ d ∈ r.order,
        returned d (es ++ [(.append id conn, .flag true)]) = returned d es := by
      intro d hd
      have hne : registers (.append id conn, .flag true) ≠ some d := fun heq =>
        hid (Option.some.inj heq ▸ hd)
      exact returned_concat rfl hne
    refine ⟨h.sound.append id conn, fun d hd => ?_, fun d hd => ?_, ?_⟩
    · rw [hpassed] at hd
      rw [hother d (List.mem_of_mem_take hd)]
      exact h.behind d hd
    · rw [hupcoming] at hd
      rcases List.mem_append.mp hd with hd | hd
      · rw [hother d (List.mem_of_mem_drop hd)]
        exact h.ahead d hd
      · exact returned_begin (Or.inr (congrArg some (List.mem_singleton.mp hd).symm))
    · rw [horder]
      exact sublist_registered_concat h.order hid rfl

/-- A step of the scan returns the first live entry ahead and goes behind it. -/
theorem Told.next (h : Told es r) (alive : Living) :
    Told (es ++ [(.next, .scanned (r.next alive).2)]) (r.next alive).1 := by
  have hsound : (r.next alive).1.Sound := sound_perform h.sound alive .next
  rcases h.sound.next_cases alive with ⟨dead, id, conn, rest, hsplit, -, -, hscan, hpassed,
    hupcoming⟩ | ⟨-, hscan, hpassed, hupcoming⟩
  · -- One entry goes from ahead to behind, and is the one that is returned.
    rw [hscan]
    have hnodup := h.sound.nodup_order
    rw [← passed_append_upcoming r, hsplit] at hnodup
    -- No identity is listed twice, so the entry that is returned is none of the others.
    have hnew : ∀ d, d ∈ r.passed ∨ d ∈ rest → d ≠ id := by
      rintro d (hd | hd) rfl
      · exact (List.nodup_append.mp hnodup).2.2 d hd d
          (List.mem_append_right _ List.mem_cons_self) rfl
      · exact (List.nodup_cons.mp hnodup.of_append_right.of_append_right).1 hd
    have hcount : ∀ d, returned d (es ++ [(.next, .scanned (.found id conn))]) =
        returned d es + if some id = some d then 1 else 0 := fun d =>
      returned_concat (e := (.next, .scanned (.found id conn))) rfl (Option.some_ne_none d).symm
    have hother : ∀ d, d ≠ id →
        returned d (es ++ [(.next, .scanned (.found id conn))]) = returned d es := by
      intro d hd
      rw [hcount, if_neg fun heq => hd (Option.some.inj heq).symm, Nat.add_zero]
    have hid : returned id es = 0 :=
      h.ahead id (hsplit ▸ List.mem_append_right _ List.mem_cons_self)
    refine ⟨hsound, fun d hd => ?_, fun d hd => ?_, ?_⟩
    · rw [hpassed] at hd
      rcases List.mem_append.mp hd with hd | hd
      · rw [hother d (hnew d (Or.inl hd))]
        exact h.behind d hd
      · rw [List.mem_singleton.mp hd, hcount, hid, if_pos rfl]
    · rw [hupcoming] at hd
      rw [hother d (hnew d (Or.inr hd))]
      exact h.ahead d (hsplit ▸ List.mem_append_right _ (List.mem_cons_of_mem id hd))
    · have hsame : registered (es ++ [(.next, .scanned (.found id conn))]) = registered es :=
        registered_concat rfl
      rw [hsame, ← passed_append_upcoming, hpassed, hupcoming, List.append_assoc]
      refine List.Sublist.trans ?_ h.order
      rw [← passed_append_upcoming r, hsplit]
      exact (List.Sublist.refl _).append (List.sublist_append_right _ _)
  · rw [hscan]
    refine h.shrink rfl rfl rfl hsound ?_ ?_
    · exact hpassed ▸ List.Sublist.refl _
    · exact hupcoming ▸ List.nil_sublist _

theorem Told.rewind (h : Told es r) : Told (es ++ [(.rewind, .done)]) r.rewind :=
  ⟨sound_perform h.sound (fun _ => true) .rewind, fun _ hid => absurd hid List.not_mem_nil,
    fun _ _ => returned_begin (Or.inl rfl),
    (registered_concat (e := (.rewind, .done)) rfl).symm ▸ h.order⟩

/-- Whatever is done to a registry, its history goes on telling where the scan
    stands and how the entries are ordered. -/
theorem Told.perform (h : Told es r) (alive : Living) (op : RegistryOp) :
    Told (es ++ [(op, (r.perform alive op).2)]) (r.perform alive op).1 := by
  -- Reading and draining register nothing and return nothing.
  cases op with
  | append id conn => exact h.append id conn
  | remove id =>
      rcases h.sound.remove_eq id with ⟨-, hpassed, hupcoming⟩
      exact h.shrink rfl rfl rfl (h.sound.remove id) (hpassed ▸ List.erase_sublist)
        (hupcoming ▸ List.erase_sublist)
  | next => exact h.next alive
  | rewind => exact h.rewind
  | drain =>
      exact h.shrink rfl rfl rfl sound_empty (List.nil_sublist _) (List.nil_sublist _)
  | get id =>
      exact h.shrink rfl rfl rfl h.sound (List.Sublist.refl _) (List.Sublist.refl _)
  | exhausted =>
      exact h.shrink rfl rfl rfl h.sound (List.Sublist.refl _) (List.Sublist.refl _)
  | size =>
      exact h.shrink rfl rfl rfl h.sound (List.Sublist.refl _) (List.Sublist.refl _)

/-- So the history of a run tells of the registry it leads to. -/
theorem Told.run (h : Told es r) (ops : List (Living × RegistryOp)) :
    Told (es ++ events ops r) (run ops r).1 := by
  induction ops generalizing es r with
  | nil =>
      rw [events, List.map_nil, List.zip_nil_left, List.append_nil]
      exact h
  | cons op rest ih =>
      have hstep := ih (h.perform op.1 op.2)
      rw [List.append_assoc] at hstep
      exact hstep

/-! ### The operations of a window -/

/-- The steps of the scan that take at most so many entries. -/
def takeOps (alive : Living) : Nat → Registry → List RegistryOp
  | 0, _ => []
  | n + 1, r =>
    match r.next alive with
    | (r, .found _ _) => .next :: takeOps alive n r
    | _ => [.next]

/-- The operations that fill a window. -/
def windowOps (alive : Living) (n : Nat) (r : Registry) : List (Living × RegistryOp) :=
  (takeOps alive n r).map (Prod.mk alive) ++
    (alive, .exhausted) :: if (r.take alive n).1.exhausted then [(alive, .rewind)] else []

theorem run_cons (alive : Living) (op : RegistryOp) (rest : List (Living × RegistryOp))
    (r : Registry) : run ((alive, op) :: rest) r =
      ((run rest (r.perform alive op).1).1,
        (r.perform alive op).2 :: (run rest (r.perform alive op).1).2) := rfl

/-- Operations one after the other, with the answers of both. -/
theorem run_append (ops more : List (Living × RegistryOp)) (r : Registry) :
    run (ops ++ more) r =
      ((run more (run ops r).1).1, (run ops r).2 ++ (run more (run ops r).1).2) := by
  induction ops generalizing r with
  | nil => rfl
  | cons op rest ih =>
      rcases op with ⟨alive, op⟩
      rw [List.cons_append, run_cons, ih, run_cons]
      rfl

theorem events_cons (alive : Living) (op : RegistryOp) (rest : List (Living × RegistryOp))
    (r : Registry) : events ((alive, op) :: rest) r =
      (op, (r.perform alive op).2) :: events rest (r.perform alive op).1 := rfl

/-- Every operation has its answer. -/
theorem length_run (ops : List (Living × RegistryOp)) (r : Registry) :
    (run ops r).2.length = ops.length := by
  induction ops generalizing r with
  | nil => rfl
  | cons op rest ih =>
      rcases op with ⟨alive, op⟩
      rw [run_cons, List.length_cons, List.length_cons, ih]

theorem events_append (ops more : List (Living × RegistryOp)) (r : Registry) :
    events (ops ++ more) r = events ops r ++ events more (run ops r).1 := by
  rw [events, run_append, List.map_append, List.zip_append]
  · rfl
  · rw [List.length_map, length_run]

/-- The steps that take entries end where taking them ends, and answer what it takes. -/
theorem run_takeOps (alive : Living) (n : Nat) (r : Registry) :
    (run ((takeOps alive n r).map (Prod.mk alive)) r).1 = (r.take alive n).1 ∧
      (events ((takeOps alive n r).map (Prod.mk alive)) r).filterMap returns =
        (r.take alive n).2 := by
  -- Along the steps. The scan may end before there are that many.
  induction n generalizing r with
  | zero => exact ⟨rfl, rfl⟩
  | succ n ih =>
      rcases hnext : r.next alive with ⟨r', scan⟩
      have hperform : r.perform alive .next = (r', .scanned scan) := by
        rw [Registry.perform, hnext]
      rw [takeOps, take, hnext]
      rcases scan with ⟨id, conn⟩ | _ | _
      · rcases ih r' with ⟨hstate, hwindow⟩
        dsimp only
        rw [List.map_cons, run_cons, events_cons, hperform]
        exact ⟨hstate, congrArg (id :: ·) hwindow⟩
      · dsimp only
        rw [List.map_cons, List.map_nil, run_cons, events_cons, hperform]
        exact ⟨rfl, rfl⟩
      · dsimp only
        rw [List.map_cons, List.map_nil, run_cons, events_cons, hperform]
        exact ⟨rfl, rfl⟩

/-- Filling a window is its operations one after the other, and the window is what
    the steps of the scan among them answer. -/
theorem run_windowOps (alive : Living) (n : Nat) (r : Registry) :
    (run (r.windowOps alive n) r).1 = (r.fillWindow alive n).1 ∧
      (events (r.windowOps alive n) r).filterMap returns = (r.fillWindow alive n).2 := by
  rcases run_takeOps alive n r with ⟨hstate, hwindow⟩
  rw [windowOps, run_append, events_append, hstate, List.filterMap_append, hwindow, fillWindow]
  -- The scan is rewound if it got to the end, which is one more operation.
  by_cases hexhausted : (r.take alive n).1.exhausted = true
  · rw [if_pos hexhausted]
    dsimp only
    rw [if_pos hexhausted]
    exact ⟨rfl, List.append_nil _⟩
  · rw [if_neg hexhausted]
    dsimp only
    rw [if_neg hexhausted]
    exact ⟨rfl, List.append_nil _⟩

/-! ### What a window leaves of the order -/

/-- Whether an entry was met and found dead. -/
def drops (alive : Living) (r : Registry) (met : List ConnId) (id : ConnId) : Bool :=
  met.contains id && !r.lives alive id

/-- Out of the entries ahead a window meets these first. It takes the live ones and
    drops the dead ones, and ends with the last live one that it has room for, or
    with the last entry of all if there are fewer. -/
structure Sweeps (alive : Living) (n : Nat) (r r' : Registry) (window met left : List ConnId) :
    Prop where
  split : r.upcoming = met ++ left
  window_eq : window = met.filter (r.lives alive)
  order : r'.order = r.order.filter fun id => !r.drops alive met id
  reach : (window.length = n ∧ ∀ id ∈ met.getLast?, r.lives alive id = true) ∨
    (window.length < n ∧ left = [])
  scan : (left ≠ [] ∧ r'.upcoming = left) ∨ (left = [] ∧ r'.cursor = 0)

/-- Of what was met the live ones stay. -/
theorem filter_drops_self (alive : Living) (r : Registry) (met : List ConnId) :
    met.filter (fun id => !r.drops alive met id) = met.filter (r.lives alive) := by
  refine List.filter_congr fun id hid => ?_
  rw [drops, List.contains_iff_mem.mpr hid, Bool.true_and, Bool.not_not]

/-- What was not met stays. -/
theorem filter_drops_of_disjoint {ids met : List ConnId} (h : List.Disjoint ids met) :
    ids.filter (fun id => !r.drops alive met id) = ids := by
  refine List.filter_eq_self.mpr fun id hid => ?_
  have hnot : met.contains id = false :=
    Bool.eq_false_iff.mpr fun hmem => h hid (List.contains_iff_mem.mp hmem)
  rw [drops, hnot, Bool.false_and]
  rfl

/-- What is taken, what is dropped, and where a window ends. -/
theorem Sound.sweeps_fillWindow (h : r.Sound) (alive : Living) (n : Nat) :
    ∃ met left, Sweeps alive n r (r.fillWindow alive n).1 (r.fillWindow alive n).2 met left := by
  rcases h with ⟨l, rfl⟩
  rcases l.take_meets alive n with ⟨m, met, hm, hwindow, hbehind, hahead, hend⟩
  have hmem : ∀ e ∈ met, e ∈ l.entries := fun e he =>
    List.mem_append_right _ (hahead ▸ List.mem_append_left _ he)
  -- By the connection or by the identity, the same entries are live.
  have hlive := l.map_filter_isLive alive hmem
  have hlength : (met.filter (Lineup.isLive alive)).length =
      ((met.map Prod.fst).filter (l.toRegistry.lives alive)).length := by
    rw [← hlive, List.length_map]
  have hfill : (l.toRegistry.fillWindow alive n).2 =
      (met.map Prod.fst).filter (l.toRegistry.lives alive) := hwindow.trans hlive
  refine ⟨met.map Prod.fst, m.ahead.map Prod.fst, ?_, hfill, ?_, ?_, ?_⟩
  · rw [Lineup.upcoming_toRegistry, hahead, List.map_append]
  · -- No identity occurs twice, so only what was met is dropped.
    have hids : l.toRegistry.order =
        l.behind.map Prod.fst ++ (met.map Prod.fst ++ m.ahead.map Prod.fst) := by
      rw [Lineup.toRegistry, Lineup.ids, Lineup.entries, hahead, List.map_append, List.map_append]
    have hnodup : l.toRegistry.order.Nodup := l.nodup_ids
    rw [hids] at hnodup
    have hbefore : List.Disjoint (l.behind.map Prod.fst) (met.map Prod.fst) :=
      fun id hid hmet => List.disjoint_of_nodup_append hnodup hid (List.mem_append_left _ hmet)
    have hafter : List.Disjoint (m.ahead.map Prod.fst) (met.map Prod.fst) :=
      (List.disjoint_of_nodup_append hnodup.of_append_right).symm
    -- Rewinding leaves the order as it is.
    have horder : (l.toRegistry.fillWindow alive n).1.order = m.ids := by
      unfold fillWindow
      dsimp only
      rw [hm]
      split
      · rfl
      · rfl
    rw [horder, hids, List.filter_append, List.filter_append, filter_drops_self,
      filter_drops_of_disjoint hbefore, filter_drops_of_disjoint hafter, ← hlive, Lineup.ids,
      Lineup.entries, hbehind, List.map_append, List.map_append, List.append_assoc]
  · rw [hfill, ← hlength, List.map_eq_nil_iff]
    refine hend.imp_left (And.imp_right fun hlast id hid => ?_)
    rw [List.getLast?_map, Option.mem_def, Option.map_eq_some_iff] at hid
    rcases hid with ⟨e, he, rfl⟩
    rw [l.lives_toRegistry alive (hmem e (List.mem_of_getLast? he))]
    exact hlast e he
  · -- With nothing left ahead the scan starts again.
    unfold fillWindow
    dsimp only
    rw [hm, Lineup.exhausted_toRegistry, Lineup.exhausted]
    rcases hleft : m.ahead with _ | ⟨e, rest⟩
    · exact Or.inr ⟨rfl, rfl⟩
    · have hupcoming : m.toRegistry.upcoming = (e :: rest).map Prod.fst :=
        hleft ▸ Lineup.upcoming_toRegistry m
      exact Or.inl ⟨List.cons_ne_nil _ _, hupcoming⟩

variable {window met left : List ConnId} {n : Nat}

/-- A window is the first live entries ahead of the scan, as many as it has room
    for. -/
theorem Sweeps.eq_take (h : Sweeps alive n r r' window met left) :
    window = (r.upcoming.filter (r.lives alive)).take n := by
  rw [h.split, List.filter_append, ← h.window_eq]
  -- A full window ends with its last live entry, and one with room has met them all.
  rcases h.reach with ⟨hlength, -⟩ | ⟨hlength, hnil⟩
  · rw [List.take_left' hlength]
  · rw [hnil, List.filter_nil, List.append_nil, List.take_of_length_le hlength.le]

/-- Behind a window the scan stands before the first entry or before another one. -/
theorem Sweeps.cursor (h : Sweeps alive n r r' window met left) :
    r'.cursor = 0 ∨ r'.cursor < r'.order.length := by
  rcases h.scan with ⟨hleft, hupcoming⟩ | ⟨-, hzero⟩
  · refine Or.inr (Nat.lt_of_not_le fun hle => hleft ?_)
    rw [← hupcoming, upcoming, List.drop_eq_nil_of_le hle]
  · exact Or.inl hzero

/-- For every registry that operations have built up: the entries are listed in the
    order in which they were registered, and a window is the first live ones from
    the scan on, as many as there are and as it has room for. The dead entries that
    it meets are dropped and nothing else changes in the order, and it meets all if
    it has room left. Afterwards the scan stands before the first entry or before
    another one, and every entry behind it was returned once since the scan was
    last rewound, and none ahead of it since then or since its registration. -/
theorem window_first_live (ops : List (Living × RegistryOp)) (alive : Living) (n : Nat) :
    let r := (run ops empty).1
    let r' := (r.fillWindow alive n).1
    let window := (r.fillWindow alive n).2
    let es := events (ops ++ r.windowOps alive n) empty
    (run (ops ++ r.windowOps alive n) empty).1 = r' ∧
      (events (r.windowOps alive n) r).filterMap returns = window ∧
      r.order.Sublist (registered (events ops empty)) ∧
      window = (r.upcoming.filter (r.lives alive)).take n ∧
      window.length = min n (r.upcoming.countP (r.lives alive)) ∧
      (∃ met left, Sweeps alive n r r' window met left) ∧
      (r'.cursor = 0 ∨ r'.cursor < r'.order.length) ∧
      (∀ id ∈ r'.passed, returned id es = 1) ∧ ∀ id ∈ r'.upcoming, returned id es = 0 := by
  intro r r' window es
  -- The operations before and those of the window make one history.
  have htold : Told (events ops empty) r := told_empty.run ops
  rcases run_windowOps alive n r with ⟨hstate, hwindow⟩
  rcases htold.sound.sweeps_fillWindow alive n with ⟨met, left, hsweeps⟩
  have hrun : (run (ops ++ r.windowOps alive n) empty).1 = r' := by
    rw [run_append]
    exact hstate
  have htold' : Told es r' := hrun ▸ told_empty.run (ops ++ r.windowOps alive n)
  refine ⟨hrun, hwindow, htold.order, hsweeps.eq_take, ?_, ⟨met, left, hsweeps⟩, hsweeps.cursor,
    htold'.behind, htold'.ahead⟩
  have htake : window = (r.upcoming.filter (r.lives alive)).take n := hsweeps.eq_take
  rw [htake, List.length_take, List.countP_eq_length_filter]

/-- A dead entry behind the last one that a window has room for stays listed. The next
    window drops it, and is empty. -/
example :
    let alive : Living := (· != 2)
    let r := (run ([0, 1, 2].map fun n => (alive, .append ⟨n, n⟩ n)) empty).1
    let r' := (r.fillWindow alive 2).1
    (r.fillWindow alive 2).2 = [⟨0, 0⟩, ⟨1, 1⟩] ∧ r'.cursor = 2 ∧ r'.order.length = 3 ∧
      (r'.fillWindow alive 2).2 = [] ∧ (r'.fillWindow alive 2).1.cursor = 0 ∧
      (r'.fillWindow alive 2).1.order.length = 2 := by
  decide

end Registry

end ReadNotify
