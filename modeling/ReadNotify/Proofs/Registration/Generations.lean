import ReadNotify.Proofs.System.Effects

/-!
# A Callback That Was Replaced Stays Out

A dispatch takes a callback out of its slot, runs it, and then wants to put it
back. Meanwhile anything can have happened to the slot. What decides is the
count that the slot keeps of its changes: the callback goes back only if the
count is the one it was taken at.

Every change of a registration raises the count by one, and nothing else does.
So the count in the slot is the number of changes so far, cut to a word
(`generation_run`). As long as there were fewer changes than words, counts of
different times are different, and a callback that was in the slot before a
change carries a count the slot will never show again.

The other direction needs to know that nobody else can have filled the slot in
the meantime. Only what is out can be put back, and at any time at most one
callback that is out carries the present count of its connection: whatever is
in the slot or out of it with that count is the callback of the last change
(`Stamped`).

## Main definitions

* `Move.changes`, `System.changesIn`: How often a registration changes.
* `System.Placed`: Every callback is in one place.
* `System.Stamped`: The counts that callbacks of one connection carry.
* `System.Traced`: Where a callback can be after it was seen in a slot.

## Theorems

* `generation_run`: The count of a slot is the number of changes.
* `placed_run`, `stamped_run`, `traced_run`: What holds along every history.
* `replaced_stays_out`: A callback that was replaced or cleared is never taken
  again and never goes back, and one that was not goes back.
-/

namespace ReadNotify

namespace Move

variable {s : System}

/-- How often a move changes the registration of a connection: it puts a
    callback into the slot, and the registration is gone afterwards. -/
def changes (m : Move) (s : System) (c : ConnKey) : Nat :=
  (if (m.installs s c).isSome then 1 else 0) +
    (if ((m.installs s c).isSome ∨ (s.slot c).registry.isSome) ∧
        ((m.perform s).slot c).registry = none then 1 else 0)

theorem changes_of_registry_eq {m : Move} {c : ConnKey} (hinstalls : m.installs s c = none)
    (h : ((m.perform s).slot c).registry = (s.slot c).registry) : m.changes s c = 0 := by
  rw [changes, hinstalls, h, Option.isSome_none, if_neg Bool.false_ne_true, if_neg]
  rintro ⟨hfalse | hsome, hnone⟩
  · exact absurd hfalse Bool.false_ne_true
  · rw [hnone] at hsome
    exact absurd hsome Bool.false_ne_true

/-- What a move aims at without putting a new callback in or clearing: the slot
    up to the callback. -/
theorem aim_of_not_installs {m : Move} {c : ConnKey} (h : m.installs s c = none) :
    m.aim s c = (s.slot c).cleared ∧ (s.slot c).registry.isSome = true ∨
      ∃ k, m.aim s c = { s.slot c with callback := k } ∧
        (k = (s.slot c).callback ∨ k = none ∨ k = m.returns s c) := by
  unfold aim
  rw [h]
  rcases hreturns : m.returns s c with _ | k
  · dsimp only
    cases hclears : m.clears s c with
    | true => exact Or.inl ⟨rfl, registered_of_clears hclears⟩
    | false =>
        cases htakes : m.takes c with
        | true => exact Or.inr ⟨none, rfl, Or.inr (Or.inl rfl)⟩
        | false => exact Or.inr ⟨(s.slot c).callback, rfl, Or.inl rfl⟩
  · exact Or.inr ⟨some k, rfl, Or.inr (Or.inr rfl)⟩

/-- Everything a move can do to one slot: a new callback is put in, the
    registration is cleared, both, or neither. -/
theorem slot_cases (m : Move) (s : System) (c : ConnKey) :
    (∃ k r, m.installs s c = some (k, r) ∧
      ((m.changes s c = 1 ∧
          (m.perform s).slot c = ⟨some k, some r, (s.slot c).generation + 1⟩) ∨
        (m.changes s c = 2 ∧
          (m.perform s).slot c = ⟨none, none, (s.slot c).generation + 1 + 1⟩))) ∨
    (m.installs s c = none ∧
      ((m.changes s c = 1 ∧ (m.perform s).slot c = (s.slot c).cleared) ∨
        (m.changes s c = 0 ∧ ∃ k, (m.perform s).slot c = { s.slot c with callback := k } ∧
          (k = (s.slot c).callback ∨ k = none ∨ k = m.returns s c)))) := by
  have hslot := perform_slot m s c
  -- A slot is as it was aimed to be, or it was closed on top of that.
  rcases hinstalls : m.installs s c with _ | ⟨k, r⟩
  · refine Or.inr ⟨rfl, ?_⟩
    have hchanges : m.changes s c = if (s.slot c).registry.isSome ∧
        ((m.perform s).slot c).registry = none then 1 else 0 := by
      simp [changes, hinstalls]
    rcases aim_of_not_installs hinstalls with ⟨haim, hsome⟩ | ⟨k, haim, hk⟩
    · rw [haim] at hslot
      rcases hslot with hsame | ⟨hreg, -, -⟩
      · exact Or.inl ⟨by rw [hchanges, hsame, if_pos ⟨hsome, rfl⟩], hsame⟩
      · -- What is cleared names no registry and cannot be cleared again.
        exact absurd hreg Bool.false_ne_true
    · rw [haim] at hslot
      rcases hslot with hsame | ⟨hreg, hclear, -⟩
      · exact Or.inr ⟨changes_of_registry_eq hinstalls (by rw [hsame]), k, hsame, hk⟩
      · refine Or.inl ⟨?_, hclear⟩
        rw [hchanges, hclear, if_pos ⟨hreg, rfl⟩]
  · refine Or.inl ⟨k, r, rfl, ?_⟩
    rw [aim_of_installs hinstalls] at hslot
    rcases hslot with hsame | ⟨-, hclear, -⟩
    · exact Or.inl ⟨by simp [changes, hinstalls, hsame], hsame⟩
    · exact Or.inr ⟨by simp [changes, hinstalls, hclear, Slot.cleared], hclear⟩

theorem generation_perform (m : Move) (s : System) (c : ConnKey) :
    ((m.perform s).slot c).generation =
      (s.slot c).generation + UInt64.ofNat (m.changes s c) := by
  have htwo : UInt64.ofNat 2 = 1 + 1 := rfl
  rcases slot_cases m s c with ⟨k, r, -, ⟨hone, hslot⟩ | ⟨htwo', hslot⟩⟩ |
    ⟨-, ⟨hone, hslot⟩ | ⟨hzero, k, hslot, -⟩⟩
  · rw [hslot, hone]
    rfl
  · rw [hslot, htwo', htwo, ← UInt64.add_assoc]
  · rw [hslot, hone]
    rfl
  · rw [hslot, hzero]
    exact (UInt64.add_zero _).symm

/-- A move puts a callback into one slot only. -/
theorem installs_conn {m : Move} {c d : ConnKey} {k : CallbackKey} {r r' : RegistryKey}
    (hc : m.installs s c = some (k, r)) (hd : m.installs s d = some (k, r')) : c = d := by
  -- Only two moves put anything in, each into the slot of its connection.
  cases m with
  | attach e q hold =>
      simp only [installs, Option.ite_none_right_eq_some] at hc hd
      exact hc.1.1.symm.trans hd.1.1
  | set n e hold =>
      simp only [installs, Option.ite_none_right_eq_some] at hc hd
      exact hc.1.1.symm.trans hd.1.1
  | _ => exact absurd hc (by simp only [installs, reduceCtorEq, not_false_eq_true])

/-- What goes back is out, and the registration it was taken from stands. -/
theorem of_returns {m : Move} {c : ConnKey} {k : CallbackKey} (h : m.returns s c = some k) :
    ∃ t ∈ s.out, m = finish t .returned ∧ t.conn = c ∧ t.callback = k ∧
      (s.slot c).generation = t.generation ∧ (s.slot c).registry.isSome = true ∧
      (s.slot c).callback = none := by
  cases m with
  | finish t exit =>
      cases exit with
      | returned =>
          simp only [returns, Option.ite_none_right_eq_some, Option.some.injEq] at h
          rcases h with ⟨⟨rfl, hout, hmay⟩, rfl⟩
          simp only [System.mayReturn, Bool.and_eq_true, beq_iff_eq,
            Option.isNone_iff_eq_none] at hmay
          exact ⟨t, hout, rfl, rfl, rfl, hmay.1.1, hmay.1.2, hmay.2⟩
      | panicked => exact absurd h (by simp only [returns, reduceCtorEq, not_false_eq_true])
  | _ => exact absurd h (by simp only [returns, reduceCtorEq, not_false_eq_true])

/-- The slot after its callback was taken out. -/
theorem vacated_of_takenOut {m : Move} {t : Taken}
    (hsome : (s.slot t.conn).callback = some t.callback)
    (hinstalls : m.installs s t.conn = none)
    (hslot : (m.perform s).slot t.conn = (s.takenOut t).slot t.conn) :
    m.changes s t.conn = 0 ∧
      (m.perform s).slot t.conn = { s.slot t.conn with callback := none } := by
  rw [System.slot_takenOut t s t.conn rfl hsome, if_pos rfl] at hslot
  exact ⟨changes_of_registry_eq hinstalls (by rw [hslot]), hslot⟩

/-- Everything a move can do to what is out: it takes one thing out of a slot,
    which it leaves empty, or takes nothing out. -/
theorem out_cases (m : Move) (s : System) :
    (m.perform s).out.Sublist s.out ∨
      ∃ t, (s.slot t.conn).callback = some t.callback ∧
        t.generation = (s.slot t.conn).generation ∧ m.changes s t.conn = 0 ∧
        (m.perform s).slot t.conn = { s.slot t.conn with callback := none } ∧
        (m.perform s).out = t :: s.out := by
  have hout := perform_out m s
  -- Two moves take out, two strike out, and the others do neither.
  cases m with
  | begin c size =>
      rcases System.begin_cases c size s with ⟨-, heq⟩ |
        ⟨t, hsome, rfl, hgen, hanswer, record, heq⟩
      · rw [perform, heq]
        exact Or.inl (List.Sublist.refl _)
      · have hslot : ((begin t.conn size).perform s).slot t.conn =
            (s.takenOut t).slot t.conn := by
          rw [perform, heq]
          exact (System.quiet_receive t.conn size (s.takenOut t)).slot t.conn
        rcases vacated_of_takenOut hsome rfl hslot with ⟨hchanges, hslot'⟩
        rw [outAfter, hanswer] at hout
        exact Or.inr ⟨t, hsome, hgen, hchanges, hslot', hout⟩
  | take c pinned =>
      rcases System.take_cases c pinned s with ⟨-, heq⟩ | ⟨t, hsome, rfl, hgen, heq⟩
      · rw [perform, heq]
        exact Or.inl (List.Sublist.refl _)
      · have hslot : ((take t.conn pinned).perform s).slot t.conn =
            (s.takenOut t).slot t.conn := by
          rw [perform, heq]
        rcases vacated_of_takenOut hsome rfl hslot with ⟨hchanges, hslot'⟩
        rw [outAfter, heq] at hout
        exact Or.inr ⟨t, hsome, hgen, hchanges, hslot', hout⟩
  | finish t exit =>
      rw [hout, outAfter]
      by_cases hmem : t ∈ s.out
      · rw [if_pos hmem]
        exact Or.inl List.filter_sublist
      · rw [if_neg hmem]
        exact Or.inl (List.Sublist.refl _)
  | forget t =>
      rw [hout, outAfter]
      by_cases hmem : t ∈ s.out
      · rw [if_pos hmem]
        exact Or.inl List.filter_sublist
      · rw [if_neg hmem]
        exact Or.inl (List.Sublist.refl _)
  | _ =>
      rw [hout]
      exact Or.inl (List.Sublist.refl _)

/-- What is put back is out no longer. -/
theorem notMem_out_of_returns {m : Move} {c : ConnKey} {t : Taken}
    (h : m.returns s c = some t.callback) : t ∉ (m.perform s).out := by
  rcases of_returns h with ⟨t', hout, rfl, -, hcallback, -⟩
  rw [perform_out, outAfter, if_pos hout, hcallback, List.mem_filter, bne_self_eq_false]
  exact fun hmem => Bool.false_ne_true hmem.2

end Move

namespace System

variable {s t : System}

/-- How often the registration of a connection changes in the course of moves. -/
def changesIn (c : ConnKey) : List Move → System → Nat
  | [], _ => 0
  | m :: ms, s => m.changes s c + changesIn c ms (m.perform s)

theorem changesIn_append (c : ConnKey) (ms ms' : List Move) (s : System) :
    changesIn c (ms ++ ms') s = changesIn c ms s + changesIn c ms' (run ms s) := by
  induction ms generalizing s with
  | nil => exact (Nat.zero_add _).symm
  | cons m ms ih =>
      rw [List.cons_append, changesIn, changesIn, ih, run_cons]
      omega

/-- The count in a slot is the number of changes so far, cut to a word. -/
theorem generation_run (c : ConnKey) (ms : List Move) (s : System) :
    ((run ms s).slot c).generation =
      (s.slot c).generation + UInt64.ofNat (changesIn c ms s) := by
  induction ms generalizing s with
  | nil => exact (UInt64.add_zero _).symm
  | cons m ms ih =>
      rw [run_cons, ih, Move.generation_perform, changesIn, UInt64.ofNat_add, UInt64.add_assoc]

/-- Numbers below the number of words are different words. -/
theorem ofNat_inj {i j : Nat} (hi : i < UInt64.size) (hj : j < UInt64.size)
    (h : UInt64.ofNat i = UInt64.ofNat j) : i = j := by
  have htoNat := congrArg UInt64.toNat h
  rwa [UInt64.toNat_ofNat_of_lt' hi, UInt64.toNat_ofNat_of_lt' hj] at htoNat

/-! ### Every callback is in one place -/

/-- Every callback is in at most one slot or out of at most one, and a slot
    with a callback names a registry. -/
structure Placed (s : System) : Prop where
  filled : ∀ c k, (s.slot c).callback = some k → (s.slot c).registry.isSome = true
  known : ∀ c k, (s.slot c).callback = some k → k < s.callbacks.size
  knownOut : ∀ t ∈ s.out, t.callback < s.callbacks.size
  alone : ∀ c d k, (s.slot c).callback = some k → (s.slot d).callback = some k → c = d
  apart : ∀ c k, (s.slot c).callback = some k → ∀ t ∈ s.out, t.callback ≠ k
  nodup : (s.out.map Taken.callback).Nodup

theorem slot_init (n : Nat) (c : ConnKey) : (init n).slot c = .empty :=
  slot_of_none (Table.get?_empty c)

theorem placed_init (n : Nat) : (init n).Placed := by
  -- At first there are no callbacks at all.
  have hempty : ∀ c k, ((init n).slot c).callback ≠ some k := by
    intro c k
    rw [slot_init]
    exact fun h => absurd h (by simp only [Slot.empty, reduceCtorEq, not_false_eq_true])
  exact ⟨fun c k h => absurd h (hempty c k), fun c k h => absurd h (hempty c k),
    fun t h => absurd h List.not_mem_nil, fun c _ k h => absurd h (hempty c k),
    fun c k h => absurd h (hempty c k), List.nodup_nil⟩

/-- Where a callback that is in a slot after a move comes from. -/
theorem callback_perform {m : Move} {c : ConnKey} {k : CallbackKey}
    (h : ((m.perform s).slot c).callback = some k) :
    (∃ r, m.installs s c = some (k, r) ∧ ((m.perform s).slot c).registry = some r) ∨
    (m.installs s c = none ∧ m.changes s c = 0 ∧
      ((m.perform s).slot c).registry = (s.slot c).registry ∧
      ((m.perform s).slot c).generation = (s.slot c).generation ∧
      (m.returns s c = some k ∨ (s.slot c).callback = some k)) := by
  rcases Move.slot_cases m s c with ⟨k', r, hinstalls, ⟨-, hslot⟩ | ⟨-, hslot⟩⟩ |
    ⟨hinstalls, ⟨-, hslot⟩ | ⟨hzero, k', hslot, hk⟩⟩
  · rw [hslot] at h
    -- It was put in.
    rw [← Option.some.inj h, hslot]
    exact Or.inl ⟨r, hinstalls, rfl⟩
  · rw [hslot] at h
    exact absurd h (by simp only [reduceCtorEq, not_false_eq_true])
  · rw [hslot] at h
    exact absurd h (by simp only [Slot.cleared, reduceCtorEq, not_false_eq_true])
  · rw [hslot] at h ⊢
    have hk' : k' = some k := h
    -- Or the registration is unchanged, and it stayed or went back.
    refine Or.inr ⟨hinstalls, hzero, rfl, rfl, ?_⟩
    rcases hk with hk | hk | hk
    · exact Or.inr (hk ▸ hk')
    · rw [hk] at hk'
      exact absurd hk' (by simp only [reduceCtorEq, not_false_eq_true])
    · exact Or.inl (hk ▸ hk')

/-- A callback that goes back or stays was in a slot or out before. -/
theorem Placed.known_or (h : s.Placed) {m : Move} {c : ConnKey} {k : CallbackKey}
    (hk : m.returns s c = some k ∨ (s.slot c).callback = some k) : k < s.callbacks.size := by
  rcases hk with hk | hk
  · rcases Move.of_returns hk with ⟨t, hout, -, -, rfl, -⟩
    exact h.knownOut t hout
  · exact h.known c k hk

/-- A callback is put into a slot, goes back into it, or stays in it, and no
    move does that in two slots with one callback. -/
theorem Placed.alone_perform (h : s.Placed) {m : Move} {c d : ConnKey} {k : CallbackKey}
    (hc : ((m.perform s).slot c).callback = some k)
    (hd : ((m.perform s).slot d).callback = some k) : c = d := by
  -- What is put in is new, what goes back was out, what stays was alone.
  rcases callback_perform hc with ⟨r, hinstalls, -⟩ | ⟨-, -, -, -, hold⟩
  · rcases callback_perform hd with ⟨r', hinstalls', -⟩ | ⟨-, -, -, -, hold'⟩
    · exact Move.installs_conn hinstalls hinstalls'
    · exact absurd (h.known_or hold') (Move.not_lt_of_installs hinstalls)
  · rcases callback_perform hd with ⟨r', hinstalls', -⟩ | ⟨-, -, -, -, hold'⟩
    · exact absurd (h.known_or hold) (Move.not_lt_of_installs hinstalls')
    · rcases hold with hback | hstays
      · rcases Move.of_returns hback with ⟨t, hout, rfl, rfl, rfl, -⟩
        rcases hold' with hback' | hstays'
        · rcases Move.of_returns hback' with ⟨t', -, heq, rfl, -⟩
          rw [Move.finish.injEq] at heq
          rw [heq.1]
        · exact absurd rfl (h.apart d t.callback hstays' t hout)
      · rcases hold' with hback' | hstays'
        · rcases Move.of_returns hback' with ⟨t', hout', -, -, rfl, -⟩
          exact absurd rfl (h.apart c t'.callback hstays t' hout')
        · exact h.alone c d k hstays hstays'

theorem Placed.known_out_perform (h : s.Placed) {m : Move} {t : Taken}
    (ht : t ∈ (m.perform s).out) : t.callback < s.callbacks.size := by
  rcases Move.out_cases m s with hsub | ⟨t', hsome, -, -, -, hout⟩
  · exact h.knownOut t (hsub.subset ht)
  · rw [hout] at ht
    rcases List.mem_cons.mp ht with rfl | hold
    · exact h.known t.conn t.callback hsome
    · exact h.knownOut t hold

theorem placed_perform (m : Move) (h : s.Placed) : (m.perform s).Placed := by
  have hsize := Move.callbacks_perform m s
  refine ⟨?_, ?_, ?_, fun c d k hc hd => h.alone_perform hc hd, ?_, ?_⟩
  · -- Only the callbacks that a move makes can be new in a slot.
    intro c k hc
    rcases callback_perform hc with ⟨r, -, hreg⟩ | ⟨-, -, hreg, -, hold⟩
    · rw [hreg]
      rfl
    · rw [hreg]
      rcases hold with hback | hstays
      · rcases Move.of_returns hback with ⟨t, -, -, -, -, -, hsome, -⟩
        exact hsome
      · exact h.filled c k hstays
  · intro c k hc
    rcases callback_perform hc with ⟨r, hinstalls, -⟩ | ⟨-, -, -, -, hold⟩
    · rcases Move.installs_new hinstalls with ⟨hnew, hcreates⟩
      rw [hsize, hnew, hcreates]
      exact Nat.lt_succ_self _
    · rw [hsize]
      exact Nat.lt_add_right m.creates (h.known_or hold)
  · intro t ht
    rw [hsize]
    exact Nat.lt_add_right m.creates (h.known_out_perform ht)
  · -- A callback that is put in is new, one that goes back is out no longer, and
    -- one that is taken out leaves its slot empty.
    intro c k hc t ht hk
    subst hk
    rcases callback_perform hc with ⟨r, hinstalls, -⟩ | ⟨-, -, -, -, hback | hstays⟩
    · exact absurd (h.known_out_perform ht) (Move.not_lt_of_installs hinstalls)
    · exact Move.notMem_out_of_returns hback ht
    · rcases Move.out_cases m s with hsub | ⟨t', hsome, -, -, hslot, hout⟩
      · exact h.apart c t.callback hstays t (hsub.subset ht) rfl
      · rw [hout] at ht
        rcases List.mem_cons.mp ht with rfl | hold
        · rw [h.alone c t.conn t.callback hstays hsome, hslot] at hc
          exact absurd hc (by simp only [reduceCtorEq, not_false_eq_true])
        · exact h.apart c t.callback hstays t hold rfl
  · rcases Move.out_cases m s with hsub | ⟨t, hsome, -, -, -, hout⟩
    · exact h.nodup.sublist (hsub.map Taken.callback)
    · -- What is taken out was in a slot, and so it was not out.
      rw [hout, List.map_cons, List.nodup_cons]
      refine ⟨fun hmem => ?_, h.nodup⟩
      rcases List.mem_map.mp hmem with ⟨t', ht', hcallback⟩
      exact h.apart t.conn t.callback hsome t' ht' hcallback

theorem placed_run (ms : List Move) (h : s.Placed) : (run ms s).Placed :=
  run_preserves (fun m _ _ => placed_perform m) h

/-! ### Counts that are out -/

/-- What is out of a slot carries a count of the past, and one thing at most
    carries the present count, and then the slot is empty and registered. -/
structure Stamped (c : ConnKey) (count : Nat) (s : System) : Prop where
  generation : (s.slot c).generation = UInt64.ofNat count
  past : ∀ t ∈ s.out, t.conn = c → ∃ j ≤ count, t.generation = UInt64.ofNat j
  present : ∀ t ∈ s.out, t.conn = c → t.generation = UInt64.ofNat count →
    (s.slot c).callback = none ∧ (s.slot c).registry.isSome = true
  sole : ∀ t ∈ s.out, ∀ t' ∈ s.out, t.conn = c → t'.conn = c →
    t.generation = UInt64.ofNat count → t'.generation = UInt64.ofNat count → t = t'

theorem stamped_init (n : Nat) (c : ConnKey) : (init n).Stamped c 0 := by
  refine ⟨by rw [slot_init]; rfl, fun t h => absurd h List.not_mem_nil,
    fun t h => absurd h List.not_mem_nil, fun t h => absurd h List.not_mem_nil⟩

/-- A count of the past that is the present count after a move was the present
    count before, and the move changed nothing. -/
theorem Stamped.unchanged {c : ConnKey} {count n : Nat} (h : s.Stamped c count)
    (hbound : count + n < UInt64.size) {t : Taken} (ht : t ∈ s.out) (hconn : t.conn = c)
    (hgen : t.generation = UInt64.ofNat (count + n)) :
    n = 0 ∧ t.generation = UInt64.ofNat count := by
  -- It carries an earlier count, and below the bound counts are different.
  rcases h.past t ht hconn with ⟨j, hj, hpast⟩
  have heq : j = count + n := ofNat_inj (by omega) hbound (hpast.symm.trans hgen)
  have hn : n = 0 := by omega
  rw [hn, Nat.add_zero] at hgen
  exact ⟨hn, hgen⟩

/-- A move that changes nothing leaves a slot empty if what is still out
    carries the present count. -/
theorem Stamped.stays_empty {c : ConnKey} {count : Nat} (h : s.Stamped c count) {m : Move}
    (hzero : m.changes s c = 0) {t : Taken} (ht : t ∈ s.out) (ht' : t ∈ (m.perform s).out)
    (hconn : t.conn = c) (hgen : t.generation = UInt64.ofNat count) :
    ((m.perform s).slot c).callback = none ∧
      ((m.perform s).slot c).registry.isSome = true := by
  rcases h.present t ht hconn hgen with ⟨hnone, hsome⟩
  -- The slot could only be filled by what goes back.
  rcases Move.slot_cases m s c with ⟨k, r, -, ⟨hone, -⟩ | ⟨htwo, -⟩⟩ |
    ⟨-, ⟨hone, -⟩ | ⟨-, k, hslot, hk⟩⟩
  · omega
  · omega
  · omega
  · rw [hslot]
    refine ⟨?_, hsome⟩
    rcases hk with rfl | rfl | hback
    · exact hnone
    · rfl
    · rcases k with _ | k
      · rfl
      · -- What goes back would be the one thing that is out with this count.
        rcases Move.of_returns hback.symm with ⟨t', hout, -, hconn', rfl, hgen', -⟩
        have hsame : t = t' := h.sole t ht t' hout hconn hconn' hgen
          (hgen'.symm.trans h.generation)
        rw [← hsame] at hback
        exact absurd ht' (Move.notMem_out_of_returns hback.symm)

theorem stamped_perform (m : Move) {c : ConnKey} {count : Nat} (hplaced : s.Placed)
    (h : s.Stamped c count) (hbound : count + m.changes s c < UInt64.size) :
    (m.perform s).Stamped c (count + m.changes s c) := by
  have hgen : ((m.perform s).slot c).generation = UInt64.ofNat (count + m.changes s c) := by
    rw [Move.generation_perform, h.generation, UInt64.ofNat_add]
  rcases Move.out_cases m s with hsub | ⟨x, hsome, hstamp, hzero, hslot, hout⟩
  · -- Nothing new is out, so each fact is one about the past.
    refine ⟨hgen, ?_, ?_, ?_⟩
    · intro t ht hconn
      rcases h.past t (hsub.subset ht) hconn with ⟨j, hj, hpast⟩
      exact ⟨j, by omega, hpast⟩
    · intro t ht hconn hcount
      rcases h.unchanged hbound (hsub.subset ht) hconn hcount with ⟨hzero, hcount'⟩
      exact h.stays_empty hzero (hsub.subset ht) ht hconn hcount'
    · intro t ht t' ht' hconn hconn' hcount hcount'
      exact h.sole t (hsub.subset ht) t' (hsub.subset ht') hconn hconn'
        (h.unchanged hbound (hsub.subset ht) hconn hcount).2
        (h.unchanged hbound (hsub.subset ht') hconn' hcount').2
  · -- One thing was taken out, of this slot or of another.
    have hnotold : ∀ t ∈ s.out, t.conn = c → x.conn = c →
        t.generation ≠ UInt64.ofNat (count + m.changes s c) := by
      rintro t ht hconn rfl hcount
      have hempty := (h.present t ht hconn (h.unchanged hbound ht hconn hcount).2).1
      rw [hsome] at hempty
      exact absurd hempty (by simp only [reduceCtorEq, not_false_eq_true])
    -- If it is of this slot, nothing else can be out with the present count.
    have hmem : ∀ t ∈ (m.perform s).out, t = x ∨ t ∈ s.out := fun t ht =>
      List.mem_cons.mp (hout ▸ ht)
    refine ⟨hgen, ?_, ?_, ?_⟩
    · intro t ht hconn
      rcases hmem t ht with rfl | hold
      · refine ⟨count, by omega, ?_⟩
        rw [hstamp, hconn, h.generation]
      · rcases h.past t hold hconn with ⟨j, hj, hpast⟩
        exact ⟨j, by omega, hpast⟩
    · intro t ht hconn hcount
      rcases hmem t ht with rfl | hold
      · rw [← hconn, hslot]
        exact ⟨rfl, hplaced.filled t.conn t.callback hsome⟩
      · rcases h.unchanged hbound hold hconn hcount with ⟨hzero', hcount'⟩
        exact h.stays_empty hzero' hold ht hconn hcount'
    · intro t ht t' ht' hconn hconn' hcount hcount'
      rcases hmem t ht with rfl | hold
      · rcases hmem t' ht' with rfl | hold'
        · rfl
        · exact absurd hcount' (hnotold t' hold' hconn' hconn)
      · rcases hmem t' ht' with rfl | hold'
        · exact absurd hcount (hnotold t hold hconn hconn')
        · exact h.sole t hold t' hold' hconn hconn' (h.unchanged hbound hold hconn hcount).2
            (h.unchanged hbound hold' hconn' hcount').2

theorem stamped_run {c : ConnKey} {count : Nat} (ms : List Move) (hplaced : s.Placed)
    (h : s.Stamped c count) (hbound : count + changesIn c ms s < UInt64.size) :
    (run ms s).Stamped c (count + changesIn c ms s) := by
  -- The bound on all changes is one on those of each beginning.
  induction ms generalizing s count with
  | nil => exact h
  | cons m ms ih =>
      rw [changesIn] at hbound
      have hstep := stamped_perform m hplaced h (by omega)
      rw [run_cons, changesIn, ← Nat.add_assoc]
      exact ih (placed_perform m hplaced) hstep (by omega)

/-! ### The traces of one callback -/

/-- Where a callback can be that was in a slot when the slot was `x` and the
    connection had seen so many changes. It is still there, or out with that
    count, and it is in a slot only if there was no change since. -/
structure Traced (c : ConnKey) (k : CallbackKey) (x : Slot) (first count : Nat) (s : System) :
    Prop where
  known : k < s.callbacks.size
  since : first ≤ count
  slots : ∀ d, (s.slot d).callback = some k → d = c ∧ count = first
  out : ∀ t ∈ s.out, t.callback = k → t.conn = c ∧ t.generation = UInt64.ofNat first
  same : count = first → (s.slot c).registry = x.registry ∧ (s.slot c).generation = x.generation

theorem Placed.traced (h : s.Placed) {c : ConnKey} {k : CallbackKey}
    (hk : (s.slot c).callback = some k) (count : Nat) : s.Traced c k (s.slot c) count count :=
  ⟨h.known c k hk, Nat.le_refl _, fun d hd => ⟨h.alone d c k hd hk, rfl⟩,
    fun t ht hcallback => absurd hcallback (h.apart c k hk t ht), fun _ => ⟨rfl, rfl⟩⟩

theorem traced_perform (m : Move) {c : ConnKey} {k : CallbackKey} {x : Slot}
    {first count : Nat} (hstamped : s.Stamped c count) (h : s.Traced c k x first count)
    (hbound : count + m.changes s c < UInt64.size) :
    (m.perform s).Traced c k x first (count + m.changes s c) := by
  have hsince := h.since
  refine ⟨?_, by omega, ?_, ?_, ?_⟩
  · rw [Move.callbacks_perform]
    exact Nat.lt_add_right m.creates h.known
  · -- It goes back only with the count it was taken with.
    intro d hd
    rcases callback_perform hd with ⟨r, hinstalls, -⟩ | ⟨-, hzero, -, -, hback | hstays⟩
    · exact absurd h.known (Move.not_lt_of_installs hinstalls)
    · rcases Move.of_returns hback with ⟨t, hout, -, rfl, hcallback, hgen, -⟩
      rcases h.out t hout hcallback with ⟨hconn, hfirst⟩
      rw [hconn] at hgen hzero
      have hcount : count = first := ofNat_inj (by omega) (by omega)
        (hstamped.generation.symm.trans (hgen.trans hfirst))
      exact ⟨hconn, by omega⟩
    · rcases h.slots d hstays with ⟨rfl, hcount⟩
      exact ⟨rfl, by omega⟩
  · -- It is taken out with the count of the slot that it was in.
    intro t ht hcallback
    rcases Move.out_cases m s with hsub | ⟨x, hsome, hstamp, -, -, hout⟩
    · exact h.out t (hsub.subset ht) hcallback
    · rw [hout] at ht
      rcases List.mem_cons.mp ht with rfl | hold
      · rw [hcallback] at hsome
        rcases h.slots t.conn hsome with ⟨hconn, hcount⟩
        rw [hstamp, hconn, hstamped.generation, hcount]
        exact ⟨rfl, rfl⟩
      · exact h.out t hold hcallback
  · -- No change means that the slot kept its registry and its count.
    intro hcount
    rcases h.same (by omega) with ⟨hreg, hgen⟩
    rcases Move.slot_cases m s c with ⟨k, r, -, ⟨hone, -⟩ | ⟨htwo, -⟩⟩ |
      ⟨-, ⟨hone, -⟩ | ⟨-, k, hslot, -⟩⟩
    · omega
    · omega
    · omega
    · rw [hslot]
      exact ⟨hreg, hgen⟩

theorem traced_run {c : ConnKey} {k : CallbackKey} {x : Slot} {first count : Nat}
    (ms : List Move) (hplaced : s.Placed) (hstamped : s.Stamped c count)
    (h : s.Traced c k x first count) (hbound : count + changesIn c ms s < UInt64.size) :
    (run ms s).Traced c k x first (count + changesIn c ms s) := by
  induction ms generalizing s count with
  | nil => exact h
  | cons m ms ih =>
      rw [changesIn] at hbound
      have hstamped' := stamped_perform m hplaced hstamped (by omega)
      have hstep := traced_perform m hstamped h (by omega)
      rw [run_cons, changesIn, ← Nat.add_assoc]
      exact ih (placed_perform m hplaced) hstamped' hstep (by omega)

/-- What may not go back is refused, and refusing it touches no slot but those
    of connections that its end closes. -/
theorem refused_of_generation_ne {t : Taken}
    (hne : (s.slot t.conn).generation ≠ t.generation) :
    s.restore t = (s, false) ∧
      s.putBack t = ((s.destroy t.callback).settleTaken t.callback, false) ∧
      s.detachGeneration t.conn t.generation = (s, false) ∧
      ∃ record, s.giveUp t = ((s.note record).destroy t.callback).settleTaken t.callback := by
  have hmay : s.mayReturn t = false := by
    simp only [mayReturn, beq_eq_false_iff_ne.mpr hne, Bool.false_and]
  have hdetach : ∀ v : System, (v.slot t.conn).generation ≠ t.generation →
      v.detachGeneration t.conn t.generation = (v, false) := fun v hv => if_neg hv
  rcases putBack_cases t s with ⟨hmay', -, -⟩ | ⟨-, hrestore, hputBack⟩
  · exact absurd (hmay.symm.trans hmay') Bool.false_ne_true
  · refine ⟨hrestore, hputBack, hdetach s hne, .callbackPanicked (s.label t.conn), ?_⟩
    rw [giveUp, hdetach (s.note _) hne]

/-- Ending a dispatch that is refused only sweeps, however its callback ended. -/
theorem swept_of_generation_ne {t : Taken} (hne : (s.slot t.conn).generation ≠ t.generation)
    (exit : Exit) (d : ConnKey) : Swept (s.slot d) (s.finish t exit) d := by
  rcases refused_of_generation_ne hne with ⟨-, hputBack, -, record, hgiveUp⟩
  cases exit with
  | returned =>
      rw [finish, hputBack]
      exact swept_destroy t.callback s d
  | panicked =>
      rw [finish, hgiveUp]
      exact swept_destroy t.callback (s.note record) d

/-- What is out with the present count may go back. -/
theorem Stamped.mayReturn {c : ConnKey} {count : Nat} (h : s.Stamped c count) {t : Taken}
    (ht : t ∈ s.out) (hconn : t.conn = c) (hstamp : t.generation = UInt64.ofNat count) :
    s.mayReturn t = true := by
  rcases h.present t ht hconn hstamp with ⟨hnone, hsome⟩
  simp only [System.mayReturn, hconn, hnone, hsome, h.generation, hstamp, beq_self_eq_true,
    Option.isNone_none, Bool.and_self]

theorem restore_of_mayReturn {t : Taken} (h : s.mayReturn t = true) (d : ConnKey) :
    (s.restore t).2 = true ∧ (s.restore t).1.slot d =
      if d = t.conn then { s.slot d with callback := some t.callback } else s.slot d := by
  rw [restore, if_pos h]
  refine ⟨rfl, ?_⟩
  rw [slot_updateSlot, isSome_of_mayReturn h]
  by_cases hd : d = t.conn
  · rw [if_pos ⟨hd, rfl⟩, if_pos hd, hd]
  · rw [if_neg fun h => hd h.1, if_neg hd]

/-- A callback that was in a slot and was replaced or cleared since is never
    taken again. Whoever still has it out is refused: it does not go back,
    giving it up clears nothing, and neither touches any slot except those of
    connections that are closed because the callback ends. If nothing was
    changed since, it goes back, and the slot is what it was before. All this
    as long as the connection sees fewer changes than there are counts. -/
theorem replaced_stays_out (n : Nat) (before after : List Move) (c : ConnKey) (k : CallbackKey)
    (hslot : ((run before (init n)).slot c).callback = some k)
    (hbound : changesIn c (before ++ after) (init n) < UInt64.size) :
    let s₀ := run before (init n)
    let s := run after s₀
    (0 < changesIn c after s₀ →
      (∀ d pinned t, (s.take d pinned).2 = some t → t.callback ≠ k) ∧
      ∀ t ∈ s.out, t.callback = k → t.conn = c ∧
        s.restore t = (s, false) ∧ s.putBack t = ((s.destroy k).settleTaken k, false) ∧
        s.detachGeneration c t.generation = (s, false) ∧
        (∃ record, s.giveUp t = ((s.note record).destroy k).settleTaken k) ∧
        ∀ exit d, (s.finish t exit).slot d = s.slot d ∨
          ((s.finish t exit).slot d = (s.slot d).cleared ∧
            (s.finish t exit).isConnected d = false)) ∧
    (changesIn c after s₀ = 0 →
      ∀ t ∈ s.out, t.callback = k → t.conn = c ∧ (s.restore t).2 = true ∧
        (s.restore t).1.slot c = s₀.slot c ∧ ∀ d, d ≠ c → (s.restore t).1.slot d = s.slot d) := by
  intro s₀ s
  have hsplit : changesIn c (before ++ after) (init n) =
      changesIn c before (init n) + changesIn c after s₀ :=
    changesIn_append c before after (init n)
  have hplaced₀ : s₀.Placed := placed_run before (placed_init n)
  have hplaced : s.Placed := placed_run after hplaced₀
  have hstamped₀ : s₀.Stamped c (0 + changesIn c before (init n)) :=
    stamped_run before (placed_init n) (stamped_init n c) (by omega)
  have hstamped : s.Stamped c (0 + changesIn c before (init n) + changesIn c after s₀) :=
    stamped_run after hplaced₀ hstamped₀ (by omega)
  have htraced : s.Traced c k (s₀.slot c) (0 + changesIn c before (init n))
      (0 + changesIn c before (init n) + changesIn c after s₀) :=
    traced_run after hplaced₀ hstamped₀ (hplaced₀.traced hslot _) (by omega)
  constructor
  · -- After a change the counts differ for good.
    intro hchanged
    refine ⟨?_, ?_⟩
    · intro d pinned t htake hk
      rcases take_cases d pinned s with ⟨-, heq⟩ | ⟨t', hsome, -, -, heq⟩
      · rw [heq] at htake
        exact absurd htake (by simp only [reduceCtorEq, not_false_eq_true])
      · rw [heq] at htake
        rw [Option.some.inj htake, hk] at hsome
        have hcount := (htraced.slots d hsome).2
        omega
    · intro t ht hk
      rcases htraced.out t ht hk with ⟨hconn, hstamp⟩
      have hne : (s.slot t.conn).generation ≠ t.generation := by
        rw [hconn, hstamped.generation, hstamp]
        intro heq
        have hcount := ofNat_inj (by omega) (by omega) heq
        omega
      rcases refused_of_generation_ne hne with ⟨hrestore, hputBack, hdetach, hgiveUp⟩
      rw [hk] at hputBack hgiveUp
      rw [hconn] at hdetach
      refine ⟨hconn, hrestore, hputBack, hdetach, hgiveUp, fun exit d => ?_⟩
      rcases swept_of_generation_ne hne exit d with hsame | ⟨-, hclear, hclosed⟩
      · exact Or.inl hsame
      · exact Or.inr ⟨hclear, hclosed⟩
  · -- Without a change what is out carries the present count.
    intro hunchanged t ht hk
    rcases htraced.out t ht hk with ⟨hconn, hstamp⟩
    rw [hunchanged, Nat.add_zero] at hstamped htraced
    have hback := restore_of_mayReturn (hstamped.mayReturn ht hconn hstamp)
    refine ⟨hconn, (hback c).1, ?_, ?_⟩
    · rcases htraced.same rfl with ⟨hreg, hgen⟩
      rw [(hback c).2, if_pos hconn.symm, hk]
      dsimp only
      rw [hreg, hgen, ← hslot]
    · intro d hd
      rw [(hback d).2, if_neg fun h => hd (h.trans hconn)]

/-- A callback is taken, another one is registered, and the first does not go
    back. -/
theorem replaced_stays_out_attach :
    let before : List Move := [.pair 10 11, .attach 0 0 none]
    let after : List Move := [.take 0 false, .attach 0 0 none]
    let s := run after (run before (init 1))
    ((run before (init 1)).slot 0).callback = some 0 ∧
      changesIn 0 (before ++ after) (init 1) < UInt64.size ∧
      (⟨0, 0, 1, false⟩ : Taken) ∈ s.out ∧
      ∀ t ∈ s.out, t.callback = 0 → s.restore t = (s, false) := by
  intro before after s
  have hslot : ((run before (init 1)).slot 0).callback = some 0 := by decide
  have hbound : changesIn 0 (before ++ after) (init 1) < UInt64.size := by decide
  have hchanged : 0 < changesIn 0 after (run before (init 1)) := by decide
  refine ⟨hslot, hbound, by decide, fun t ht hk => ?_⟩
  exact (((replaced_stays_out 1 before after 0 0 hslot hbound).1 hchanged).2 t ht hk).2.1

end System

end ReadNotify
