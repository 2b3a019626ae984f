import ReadNotify.Proofs.Callbacks.Handovers

/-!
# Where Callbacks Are

A callback is in the slot of a connection, out of a slot in the hands of somebody
who took it, or destroyed, and it is in one of these places only. It is followed
here through one handover at a time. What is in a slot is taken out of it, or falls when
the slot is cleared or filled anew; what is out goes back where it was taken, or is
destroyed; what was destroyed stays so. The place is one of the same connection all
along, because a callback is put into no slot but the one it was registered for.

What was destroyed was reported once. The count goes up where something living ends
and nowhere else, and nothing ends that has ended.

## Main definitions

* `Place`, `System.IsAt`: Where a callback is.
* `System.hasEnded`: A callback was destroyed.
* `System.Belongs`: A callback is in a place of a connection.
* `System.Reported`: What was destroyed was destroyed once.

## Theorems

* `Sole.eq_of_isAt`: A callback is in one place at most.
* `hasEnded_handover`, `belongs_handover`, `reported_handover`: What a handover does
  to it.
* `hasEnded_handle`, `belongs_handle`, `reported_handle`: And what handlings do.
-/

namespace ReadNotify

/-- Where a callback can be. -/
inductive Place where
  | slot (c : ConnKey)
  /-- Out of its slot, to be called or otherwise. -/
  | out (x : Taken)
  | ended
  deriving DecidableEq

namespace Place

/-- A place is one of a connection, or it is the end. -/
def IsOf (c : ConnKey) : Place → Prop
  | slot d => d = c
  | out x => x.conn = c
  | ended => True

end Place

namespace System

variable {s t : System} {k : CallbackKey} {c : ConnKey}

/-- A callback was destroyed. -/
def hasEnded (s : System) (k : CallbackKey) : Prop :=
  k < s.callbacks.size ∧ s.isLive k = false

instance (s : System) (k : CallbackKey) : Decidable (s.hasEnded k) :=
  inferInstanceAs (Decidable (_ ∧ _))

/-- A callback is in a place. -/
def IsAt (s : System) (k : CallbackKey) : Place → Prop
  | .slot c => (s.slot c).callback = some k
  | .out x => x ∈ s.out ∧ x.callback = k
  | .ended => s.hasEnded k

/-- A callback is in a place of a connection. -/
def Belongs (s : System) (k : CallbackKey) (c : ConnKey) : Prop := ∃ p, s.IsAt k p ∧ p.IsOf c

/-! ### One place -/

/-- What is in its place is living, and in no other. -/
theorem Sole.eq_of_isAt (h : s.Sole) {p q : Place} (hp : s.IsAt k p) (hq : s.IsAt k q) :
    p = q := by
  have hended : ∀ {p : Place}, s.IsAt k p → s.hasEnded k → p = .ended := by
    intro p hp hended
    cases p with
    | slot c => exact absurd (hended.2.symm.trans (h.livePlaces.seated c k hp)) Bool.false_ne_true
    | out x =>
        rcases hp with ⟨hx, rfl⟩
        exact absurd (hended.2.symm.trans (h.livePlaces.taken x hx)) Bool.false_ne_true
    | ended => rfl
  cases p with
  | slot c =>
      cases q with
      | slot d => exact congrArg Place.slot (h.livePlaces.alone c d k hp hq)
      | out x => exact absurd hq.2 (h.livePlaces.apart c k hp x hq.1)
      | ended => exact hended hp hq
  | out x =>
      cases q with
      | slot d => exact absurd hp.2 (h.livePlaces.apart d k hq x hp.1)
      | out y =>
          exact congrArg Place.out
            (List.inj_on_of_nodup_map h.nodup hp.1 hq.1 (hp.2.trans hq.2.symm))
      | ended => exact hended hp hq
  | ended => exact (hended hq hp).symm

/-! ### What has ended -/

theorem lt_size_of_isLive (hlive : s.isLive k = true) : k < s.callbacks.size := by
  by_contra hlt
  have hnone : s.callbacks.get? k = none := Array.getElem?_eq_none (Nat.le_of_not_lt hlt)
  simp only [isLive, hnone, Bool.false_eq_true] at hlive

theorem hasEnded_congr (h : t.callbacks = s.callbacks) (k : CallbackKey) :
    t.hasEnded k ↔ s.hasEnded k := by
  rw [hasEnded, hasEnded, h, isLive_congr h]

theorem hasEnded_unwinds (h : Unwinds s t) (hk : s.hasEnded k) : t.hasEnded k :=
  ⟨h.unwound.callbacks.symm ▸ hk.1, h.isLive_false hk.2⟩

/-- What is destroyed has ended. -/
theorem hasEnded_destroy (hlive : s.isLive k = true) : (s.destroy k).hasEnded k :=
  ⟨(unwinds_destroy k s).unwound.callbacks.symm ▸ lt_size_of_isLive hlive,
    (destroys_destroy k s).isLive⟩

/-- A new callback is one more, and it has not ended. -/
theorem hasEnded_addCallback (hold : Option ConnKey) (s : System) (k : CallbackKey) :
    (s.addCallback hold).1.hasEnded k ↔ s.hasEnded k := by
  have hsize : (s.addCallback hold).1.callbacks.size = s.callbacks.size + 1 := Table.size_add _ _
  rw [hasEnded, hasEnded, hsize]
  simp only [isLive, addCallback, Table.get?_add]
  by_cases hk : k = s.callbacks.size
  · simp [hk]
  · -- Any other number is in the new table exactly if it is in the old one.
    rw [if_neg hk]
    refine and_congr_left fun _ => ?_
    rw [Nat.lt_succ_iff_lt_or_eq, or_iff_left hk]

theorem hasEnded_entrust (j : CallbackKey) (c : ConnKey) (s : System) (k : CallbackKey) :
    (s.entrust j c).hasEnded k ↔ s.hasEnded k := by
  unfold entrust hasEnded
  split
  · rw [Table.size_update]
    simp only [isLive, Table.get?_update]
    by_cases hk : k = j
    · rw [if_pos hk, hk]
      cases s.callbacks.get? j with
      | none => rfl
      | some cb => rfl
    · rw [if_neg hk]
  · rfl

/-- Putting a callback into a slot touches neither callbacks nor what is out. -/
theorem install_tables (c : ConnKey) (r : RegistryKey) (k : CallbackKey) (s : System) :
    (s.install c r k).1.callbacks = s.callbacks ∧ (s.install c r k).1.out = s.out ∧
      (s.install c r k).1.unreported = s.unreported := by
  rcases install_frame c r k s with ⟨registries, -, heq⟩
  rw [heq]
  exact ⟨rfl, rfl, rfl⟩

/-- What has ended has ended for good. -/
theorem hasEnded_handover (hgive : Handover s t) (hk : s.hasEnded k) : t.hasEnded k := by
  -- The only new callback has a new number, and no handover revives an old one.
  cases hgive with
  | idle _ hcallbacks _ _ => exact (hasEnded_congr hcallbacks k).mpr hk
  | made hold => exact (hasEnded_addCallback hold s k).mpr hk
  | entrusted j c => exact (hasEnded_entrust j c s k).mpr hk
  | cut hcuts => exact hasEnded_unwinds hcuts.felled.unwinds hk
  | @seated j c r _ _ _ =>
      exact hasEnded_unwinds (unwinds_destroyAny (s.slot c).callback _)
        ((hasEnded_congr (install_tables c r j s).1 k).mpr hk)
  | refused _ _ _ => exact hasEnded_unwinds (unwinds_destroy _ s) hk
  | taken _ => exact hk
  | returned _ _ _ => exact hk
  | @settled x _ =>
      exact (hasEnded_congr (callbacks_settleTaken x.callback _) k).mpr
        (hasEnded_unwinds (unwinds_destroy x.callback s) hk)

/-! ### A place of the connection -/

/-- After a chain a callback is where it was, or it has ended. -/
theorem belongs_felled {but : CallbackKey → Prop}
    (hseated : ∀ d, (s.slot d).callback = some k → s.isLive k = true) (hfelled : Felled but s t)
    (hk : s.Belongs k c) : t.Belongs k c := by
  have hunwound := hfelled.unwinds.unwound
  rcases hk with ⟨p, hp, hof⟩
  cases p with
  | slot d =>
      by_cases hsame : t.slot d = s.slot d
      · exact ⟨.slot d, (congrArg Slot.callback hsame).trans hp, hof⟩
      · -- It falls together with its slot.
        exact ⟨.ended, ⟨hunwound.callbacks.symm ▸ lt_size_of_isLive (hseated d hp),
          hfelled.fallen d k hp hsame⟩, trivial⟩
  | out x => exact ⟨.out x, ⟨hunwound.out.symm ▸ hp.1, hp.2⟩, hof⟩
  | ended => exact ⟨.ended, hasEnded_unwinds hfelled.unwinds hp, trivial⟩

theorem belongs_destroyAny (hlive : s.isLive k = true) (i : Option CallbackKey)
    (hk : s.Belongs k c) : (s.destroyAny i).Belongs k c := by
  cases i with
  | none => exact hk
  | some i => exact belongs_felled (fun _ _ => hlive) (felled_destroy i s).1 hk

/-- Where no place and no callback has changed, all are where they were. -/
theorem belongs_congr (hslot : ∀ d, (t.slot d).callback = (s.slot d).callback)
    (hended : s.hasEnded k → t.hasEnded k) (hout : t.out = s.out) (hk : s.Belongs k c) :
    t.Belongs k c := by
  rcases hk with ⟨p, hp, hof⟩
  cases p with
  | slot d => exact ⟨.slot d, (hslot d).trans hp, hof⟩
  | out x => exact ⟨.out x, ⟨hout.symm ▸ hp.1, hp.2⟩, hof⟩
  | ended => exact ⟨.ended, hended hp, trivial⟩

/-- Putting a callback into a slot leaves every other one where it was, except for
    the one that it replaces, and that has ended then. -/
theorem belongs_attach (hplaces : s.LivePlaces) (d : ConnKey) (r : RegistryKey) (j : CallbackKey)
    (hk : s.Belongs k c) : (s.attach d r j).1.Belongs k c := by
  have hslot := slot_install d r j s
  rcases install_tables d r j s with ⟨hcallbacks, hout, -⟩
  have hunwinds := unwinds_destroyAny (s.slot d).callback (s.install d r j).1
  have hattach : (s.attach d r j).1 = (s.install d r j).1.destroyAny (s.slot d).callback := rfl
  rw [hattach]
  rcases hk with ⟨p, hp, hof⟩
  cases p with
  | slot e =>
      have hlive : (s.install d r j).1.isLive k = true := by
        rw [isLive_congr hcallbacks]
        exact hplaces.seated e k hp
      by_cases he : e = d ∧ (s.conn? e).isSome = true
      · -- It was in this slot, so it is the one that is replaced.
        have hold : (s.slot d).callback = some k := he.1 ▸ hp
        rw [hold]
        exact ⟨.ended, hasEnded_destroy hlive, trivial⟩
      · have hkept : ((s.install d r j).1.slot e).callback = some k := by
          rw [hslot, if_neg]
          · exact hp
          · rintro ⟨rfl, hexists⟩
            exact he ⟨rfl, hexists⟩
        exact belongs_destroyAny hlive _ ⟨.slot e, hkept, hof⟩
  | out x => exact ⟨.out x, ⟨(hunwinds.unwound.out.trans hout).symm ▸ hp.1, hp.2⟩, hof⟩
  | ended =>
      exact ⟨.ended, hasEnded_unwinds hunwinds ((hasEnded_congr hcallbacks k).mpr hp), trivial⟩

/-- What is taken out of the slot of its connection is out of that slot. -/
theorem belongs_takenOut {x : Taken} (hsome : (s.slot x.conn).callback = some x.callback)
    (hk : s.Belongs k c) : (s.takenOut x).Belongs k c := by
  have hslot := slot_takenOut x s x.conn rfl hsome
  rcases hk with ⟨p, hp, hof⟩
  cases p with
  | slot d =>
      by_cases hd : d = x.conn
      · subst hd
        exact ⟨.out x, ⟨List.mem_cons_self, Option.some.inj (hsome.symm.trans hp)⟩, hof⟩
      · refine ⟨.slot d, ?_, hof⟩
        rw [IsAt, hslot, if_neg hd]
        exact hp
  | out y => exact ⟨.out y, ⟨List.mem_cons_of_mem x hp.1, hp.2⟩, hof⟩
  | ended => exact ⟨.ended, hp, trivial⟩

/-- What goes back is in the slot that it was taken from. -/
theorem belongs_returned (hnodup : (s.out.map Taken.callback).Nodup) {x : Taken}
    (hx : ∃ y ∈ s.out, y.callback = x.callback ∧ y.conn = x.conn)
    (hfree : (s.slot x.conn).callback = none) (hexists : (s.conn? x.conn).isSome = true)
    (hk : s.Belongs k c) :
    ((s.updateSlot x.conn fun y => { y with callback := some x.callback }).settleTaken
      x.callback).Belongs k c := by
  have hslot := slot_updateSlot s x.conn fun y => { y with callback := some x.callback }
  rcases hk with ⟨p, hp, hof⟩
  cases p with
  | slot d =>
      have hd : d ≠ x.conn := by
        rintro rfl
        exact absurd (hfree.symm.trans hp) (by simp)
      refine ⟨.slot d, ?_, hof⟩
      exact (congrArg Slot.callback ((hslot d).trans (if_neg fun h => hd h.1))).trans hp
  | out y =>
      by_cases hy : y.callback = x.callback
      · -- Nothing is out twice, so this is what was taken from that slot.
        rcases hx with ⟨z, hz, hcallback, hconn⟩
        have hsame : z = y := List.inj_on_of_nodup_map hnodup hz hp.1 (hcallback.trans hy.symm)
        refine ⟨.slot x.conn, ?_, ?_⟩
        · rw [IsAt, ← hp.2, hy]
          exact congrArg Slot.callback ((hslot x.conn).trans (if_pos ⟨rfl, hexists⟩))
        · rw [hsame] at hconn
          exact hconn.symm.trans hof
      · exact ⟨.out y, ⟨List.mem_filter.mpr ⟨hp.1, bne_iff_ne.mpr hy⟩, hp.2⟩, hof⟩
  | ended => exact ⟨.ended, hp, trivial⟩

/-- What was out and is destroyed has ended, and the others are where they were. -/
theorem belongs_settled (hplaces : s.LivePlaces) {x : Taken} (hx : x ∈ s.out) (hk : s.Belongs k c) :
    ((s.destroy x.callback).settleTaken x.callback).Belongs k c := by
  have hbelongs : (s.destroy x.callback).Belongs k c :=
    belongs_felled (fun d hd => hplaces.seated d k hd) (felled_destroy x.callback s).1 hk
  rcases hbelongs with ⟨p, hp, hof⟩
  cases p with
  | slot d => exact ⟨.slot d, hp, hof⟩
  | out y =>
      by_cases hy : y.callback = x.callback
      · refine ⟨.ended, ?_, trivial⟩
        rw [← hp.2, hy]
        exact hasEnded_destroy (hplaces.taken x hx)
      · exact ⟨.out y, ⟨List.mem_filter.mpr ⟨hp.1, bne_iff_ne.mpr hy⟩, hp.2⟩, hof⟩
  | ended => exact ⟨.ended, hp, trivial⟩

/-- A handover leaves a callback in a place of its connection. -/
theorem belongs_handover (h : s.Sole) (hgive : Handover s t) (hk : s.Belongs k c) :
    t.Belongs k c := by
  -- The end is for good, so only the slots and what is out need a look.
  have hended : s.hasEnded k → t.hasEnded k := hasEnded_handover hgive
  have hseated : ∀ d, (s.slot d).callback = some k → s.isLive k = true := fun d =>
    h.livePlaces.seated d k
  cases hgive with
  | idle hslot _ hout _ => exact belongs_congr hslot hended hout hk
  | made hold => exact belongs_congr (s := s) (fun _ => rfl) hended rfl hk
  | entrusted j d =>
      rcases entrust_frame j d s with ⟨callbacks, heq, -⟩
      rw [heq] at hended ⊢
      exact belongs_congr (s := s) (fun _ => rfl) hended rfl hk
  | cut hcuts => exact belongs_felled hseated hcuts.felled hk
  | @seated j d r _ _ _ => exact belongs_attach h.livePlaces d r j hk
  | @refused j _ _ _ => exact belongs_felled hseated (felled_destroy j s).1 hk
  | taken hsome => exact belongs_takenOut hsome hk
  | returned hx hfree hexists => exact belongs_returned h.nodup hx hfree hexists hk
  | settled hx => exact belongs_settled h.livePlaces hx hk

/-! ### Once -/

/-- Every callback that was destroyed was destroyed once, and no other was. -/
def Reported (s : System) : Prop :=
  ∀ k, s.unreported.count k = if s.hasEnded k then 1 else 0

theorem reported_init (n : Nat) : (init n).Reported := by
  intro k
  rw [if_neg fun h => Nat.not_lt_zero k h.1]
  rfl

theorem Reported.congr (h : s.Reported) (hended : ∀ k, t.hasEnded k ↔ s.hasEnded k)
    (hunreported : t.unreported = s.unreported) : t.Reported := by
  intro k
  rw [hunreported, h k]
  simp only [hended]

theorem reported_chainStep (hstep : ChainStep s t) (h : s.Reported) : t.Reported := by
  -- A chain reports one callback in one step. The others only let go, clear and close.
  cases hstep with
  | ended j hlive =>
      intro k
      have hended : (s.endCallback j).hasEnded k ↔ s.hasEnded k ∨ k = j := by
        have hsize : (s.endCallback j).callbacks.size = s.callbacks.size := Table.size_update _ _ _
        rw [hasEnded, hasEnded, hsize, isLive_endCallback]
        by_cases hk : k = j
        · simp [hk, lt_size_of_isLive hlive]
        · simp [hk]
      have hcount : (s.endCallback j).unreported.count k =
          s.unreported.count k + if k = j then 1 else 0 := by
        by_cases hk : k = j
        · rw [hk, if_pos rfl]
          exact List.count_cons_self
        · rw [if_neg hk]
          exact List.count_cons_of_ne fun h => hk h.symm
      rw [hcount, h k]
      by_cases hk : k = j
      · -- It was living, so it was not counted before.
        have hnot : ¬ s.hasEnded k := fun hended => by
          rw [hk] at hended
          exact Bool.false_ne_true (hended.2.symm.trans hlive)
        rw [if_neg hnot, if_pos hk, if_pos (hended.mpr (Or.inr hk))]
      · simp only [hended, hk, or_false, if_false, Nat.add_zero]
  | released j d hdead =>
      refine h.congr (fun k => ?_) rfl
      rw [hasEnded, hasEnded, isLive_letGo]
      simp only [letGo, Table.size_update]
  | cleared d =>
      refine h.congr (hasEnded_congr (tables_clearSlot d s).2.1) ?_
      rcases clearSlot_cases d s with ⟨-, heq⟩ | ⟨conn, r, -, -, -, heq⟩
      · rw [heq]
      · rw [heq]
        rfl
  | disconnected d _ =>
      refine h.congr (hasEnded_congr (tables_disconnect d s).1) ?_
      cases hopen : s.isConnected d with
      | true =>
          rcases disconnect_of_open hopen with ⟨connections, kernel, heq⟩
          rw [heq]
      | false => simp [disconnect, markClosed, hopen]

theorem reported_chainSteps (hsteps : ChainSteps s t) (h : s.Reported) : t.Reported := by
  induction hsteps with
  | refl => exact h
  | tail _ hstep ih => exact reported_chainStep hstep ih

theorem reported_destroy (k : CallbackKey) (h : s.Reported) : (s.destroy k).Reported :=
  reported_chainSteps (destroys_destroy k s).chainSteps h

/-- A handover reports what it destroys. -/
theorem reported_handover (hgive : Handover s t) (h : s.Reported) : t.Reported := by
  cases hgive with
  | idle _ hcallbacks _ hunreported => exact h.congr (hasEnded_congr hcallbacks) hunreported
  | made hold => exact h.congr (hasEnded_addCallback hold s) rfl
  | entrusted j d =>
      refine h.congr (hasEnded_entrust j d s) ?_
      rcases entrust_frame j d s with ⟨callbacks, heq, -⟩
      rw [heq]
  | cut hcuts => exact reported_chainSteps hcuts.chainSteps h
  | @seated j d r _ _ _ =>
      rcases install_tables d r j s with ⟨hcallbacks, -, hunreported⟩
      have hinstall : (s.install d r j).1.Reported :=
        h.congr (hasEnded_congr hcallbacks) hunreported
      have hattach : (s.attach d r j).1 = (s.install d r j).1.destroyAny (s.slot d).callback := rfl
      rw [hattach]
      rcases (s.slot d).callback with _ | i
      · exact hinstall
      · exact reported_destroy i hinstall
  | @refused j _ _ _ => exact reported_destroy j h
  | taken _ => exact h
  | returned _ _ _ => exact h
  | @settled x _ => exact reported_destroy x.callback h

/-! ### Along handlings -/

/-- After any handlings what was destroyed was destroyed once. -/
theorem reported_handle (es : List Handling) (h : s.Sole) (hs : s.Reported) :
    (handle es s).Sole ∧ (handle es s).Reported :=
  sole_handle (fun _ _ _ => reported_handover) es h hs

/-- And a callback is in a place of its connection. -/
theorem belongs_handle (es : List Handling) (h : s.Sole) (hk : s.Belongs k c) :
    (handle es s).Belongs k c :=
  (sole_handle (fun _ _ => belongs_handover) es h hk).2

theorem hasEnded_handle (es : List Handling) (h : s.Sole) (hk : s.hasEnded k) :
    (handle es s).hasEnded k :=
  (sole_handle (fun _ _ _ => hasEnded_handover) es h hk).2

end System

end ReadNotify
