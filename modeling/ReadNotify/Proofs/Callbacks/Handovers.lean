import ReadNotify.Proofs.Shutdown.LivePlaces

/-!
# How Callbacks Pass From Hand to Hand

A callback is made, put into a slot, taken out, put back, and at some time
destroyed. Whatever an operation does to callbacks is a sequence of such
*handovers*, and each of them says where the callback is that it passes on: what is
put in is living and nowhere else, what is taken was in the slot, what is put back
or destroyed after a call is out. A chain that begins with clearing slots is one
handover, since what it takes out of a slot it destroys at once.

Every operation is taken apart here, and only here. What each handover preserves
is preserved by all of them.

Putting back is an operation of its own besides being the end of a dispatch: whoever
has a callback out may put it back with whatever count he remembers, the right one
or not. A *handling* is a move or such a putting back.

## Main definitions

* `Handling`, `System.handle`: Moves, and putting back with any count.
* `System.Cuts`: A chain that begins with clearing slots.
* `System.Handover`, `System.Handovers`: One passing on of callbacks, and sequences.
* `System.Sole`: What is in its place is living, and nothing is out twice.

## Theorems

* `handovers_perform`, `handovers_handle`: Every operation is a sequence of handovers.
* `sole_handover`, `sole_handle`: What every handover preserves.
-/

namespace ReadNotify

/-- A move, or putting back what is out with a count that somebody remembers. -/
inductive Handling where
  | move (m : Move)
  | restore (t : Taken) (generation : UInt64)

namespace Handling

/-- What a handling does to the system. What is not out cannot be put back. -/
def perform (e : Handling) (s : System) : System :=
  match e with
  | move m => m.perform s
  | restore t generation => if t ∈ s.out then (s.putBack { t with generation }).1 else s

end Handling

namespace System

variable {s t u : System}

/-- Handlings in order. -/
def handle (es : List Handling) (s : System) : System := es.foldl (fun s e => e.perform s) s

theorem handle_append (es es' : List Handling) (s : System) :
    handle (es ++ es') s = handle es' (handle es s) := List.foldl_append

/-- Moves are handlings. -/
theorem handle_moves (ms : List Move) (s : System) : handle (ms.map .move) s = run ms s := by
  induction ms generalizing s with
  | nil => rfl
  | cons m ms ih => exact ih (m.perform s)

/-! ### Cuts -/

/-- A chain that begins with clearing slots: what it destroys was in a slot that
    it has cleared. -/
structure Cuts (s t : System) : Prop where
  chainSteps : ChainSteps s t
  felled : Felled (fun _ => False) s t

/-- Nothing cleared, nothing destroyed. -/
theorem cuts_refl (s : System) : Cuts s s := ⟨Relation.ReflTransGen.refl, felled_refl _ s⟩

/-- Detaching clears a slot, and then a chain begins if there was a callback in it. -/
theorem chainSteps_detach (c : ConnKey) (s : System) : ChainSteps s (s.detach c).1 := by
  have hclear : ChainSteps s (s.clearSlot c).1 := Relation.ReflTransGen.single (.cleared s c)
  unfold detach
  -- Only a slot with a callback in it begins a chain.
  rcases hc : s.clearSlot c with ⟨u, _ | _ | k⟩ <;> rw [hc] at hclear
  · exact hclear
  · exact hclear
  · exact hclear.trans (destroys_destroy k u).chainSteps

theorem cuts_detach (c : ConnKey) (s : System) : Cuts s (s.detach c).1 :=
  ⟨chainSteps_detach c s, felled_detach c s⟩

theorem cuts_detachFrom (c : ConnKey) (r : RegistryKey) (s : System) :
    Cuts s (s.detachFrom c r).1 := by
  unfold detachFrom
  split
  · exact cuts_detach c s
  · exact cuts_refl s

theorem cuts_detachGeneration (c : ConnKey) (g : UInt64) (s : System) :
    Cuts s (s.detachGeneration c g).1 := by
  unfold detachGeneration
  split
  · exact cuts_detach c s
  · exact cuts_refl s

/-- Closing is a detachment, and then the connection goes down. -/
theorem cuts_close (c : ConnKey) (s : System) : Cuts s (s.close c) :=
  ⟨(chainSteps_detach c s).tail (.disconnected _ c (registry_detach_self c s)),
    (felled_detach c s).disconnected (registry_detach_self c s)⟩

theorem cuts_detachAll (r : RegistryKey) (cs : List ConnKey) (s : System) :
    Cuts s (s.detachAll r cs) :=
  ⟨(clears_detachAll r cs s).chainSteps, (clears_detachAll r cs s).felled⟩

/-! ### Handovers -/

/-- One passing on of callbacks. -/
inductive Handover : System → System → Prop where
  /-- No callback and no place has changed. -/
  | idle {s t : System} (hslot : ∀ c, (t.slot c).callback = (s.slot c).callback)
      (hcallbacks : t.callbacks = s.callbacks) (hout : t.out = s.out)
      (hunreported : t.unreported = s.unreported) : Handover s t
  | made (s : System) (hold : Option ConnKey) : Handover s (s.addCallback hold).1
  | entrusted (s : System) (k : CallbackKey) (c : ConnKey) : Handover s (s.entrust k c)
  /-- Slots are cleared, and what was in them is destroyed. -/
  | cut {s t : System} (hcuts : Cuts s t) : Handover s t
  /-- A callback that is nowhere is put into a slot, and what it replaces is
      destroyed. -/
  | seated {s : System} {k : CallbackKey} (c : ConnKey) (r : RegistryKey)
      (hlive : s.isLive k = true) (hslots : ∀ d, (s.slot d).callback ≠ some k)
      (hout : ∀ x ∈ s.out, x.callback ≠ k) : Handover s (s.attach c r k).1
  /-- A callback that is nowhere is destroyed. -/
  | refused {s : System} {k : CallbackKey} (hlive : s.isLive k = true)
      (hslots : ∀ d, (s.slot d).callback ≠ some k) (hout : ∀ x ∈ s.out, x.callback ≠ k) :
      Handover s (s.destroy k)
  | taken {s : System} {x : Taken} (hsome : (s.slot x.conn).callback = some x.callback) :
      Handover s (s.takenOut x)
  /-- What is out goes back into the slot that it was taken from, which is free. -/
  | returned {s : System} {x : Taken}
      (hx : ∃ y ∈ s.out, y.callback = x.callback ∧ y.conn = x.conn)
      (hfree : (s.slot x.conn).callback = none) (hexists : (s.conn? x.conn).isSome = true) :
      Handover s ((s.updateSlot x.conn fun y => { y with callback := some x.callback }).settleTaken
        x.callback)
  /-- What is out is destroyed. -/
  | settled {s : System} {x : Taken} (hx : x ∈ s.out) :
      Handover s ((s.destroy x.callback).settleTaken x.callback)

/-- Any number of handovers. -/
abbrev Handovers : System → System → Prop := Relation.ReflTransGen Handover

/-- A quiet step passes nothing on. -/
theorem handovers_quiet (h : Quiet s t) : Handovers s t :=
  .single (.idle (fun c => congrArg Slot.callback (h.slot c)) h.callbacks h.out h.unreported)

theorem handovers_noted (h : Noted s t) : Handovers s t := handovers_quiet h.quiet

theorem handovers_cut (h : Cuts s t) : Handovers s t := .single (.cut h)

/-- Taking a callback out of a slot takes what is there, if anything is. -/
theorem handovers_take (c : ConnKey) (pinned : Bool) (s : System) :
    Handovers s (s.take c pinned).1 := by
  rcases take_cases c pinned s with ⟨-, heq⟩ | ⟨x, hsome, rfl, -, heq⟩
  · rw [heq]
  · rw [heq]
    exact .single (.taken hsome)

/-- A dispatch takes what is in the slot. -/
theorem handovers_begin (c : ConnKey) (size : Nat) (s : System) :
    Handovers s (s.begin c size).1 := by
  rcases begin_cases c size s with ⟨-, heq⟩ | ⟨x, hsome, rfl, -, -, record, heq⟩
  · rw [heq]
  · -- Reading and logging pass nothing on.
    have hquiet := quiet_trans (quiet_receive x.conn size (s.takenOut x)) (quiet_note record _)
    rw [heq]
    exact (Relation.ReflTransGen.single (.taken hsome)).trans (handovers_quiet hquiet)

/-- Putting back fills a slot that is free, or destroys. Which of them it is
    depends on the count, and what it does then does not. -/
theorem handovers_putBack {x : Taken} (hx : x ∈ s.out) (generation : UInt64) :
    Handovers s (s.putBack { x with generation }).1 := by
  rcases putBack_cases { x with generation } s with ⟨hmay, -, heq⟩ | ⟨-, -, heq⟩
  · have hexists := isSome_of_mayReturn hmay
    simp only [mayReturn, Bool.and_eq_true, Option.isNone_iff_eq_none] at hmay
    rw [heq]
    exact .single (.returned (x := { x with generation }) ⟨x, hx, rfl, rfl⟩ hmay.2 hexists)
  · rw [heq]
    exact .single (.settled (x := x) hx)

/-- A dispatch that ends puts its callback back, or cuts and destroys. -/
theorem handovers_finish {x : Taken} (hx : x ∈ s.out) (exit : Exit) :
    Handovers s (s.finish x exit) := by
  cases exit with
  | returned => exact handovers_putBack hx x.generation
  | panicked =>
      rcases giveUp_eq x s with ⟨v, hnoted, heq⟩
      have hcuts := cuts_detachGeneration x.conn x.generation v
      -- The registration goes first, and the callback is still out meanwhile.
      have hx' : x ∈ (v.detachGeneration x.conn x.generation).1.out := by
        rw [hcuts.felled.unwinds.unwound.out, hnoted.quiet.out]
        exact hx
      rw [finish, heq]
      exact ((handovers_noted hnoted).trans (handovers_cut hcuts)).tail (.settled hx')

/-- A new callback is living and nowhere, wherever nothing was passed on since. -/
theorem handovers_attachFresh (h : s.LivePlaces) (c : ConnKey) (r : RegistryKey)
    (hold : Option ConnKey) : Handovers s (s.attachFresh c r hold).1 := by
  rcases livePlaces_addCallback h hold with ⟨-, hlive, hslots, hout⟩
  exact (Relation.ReflTransGen.single (.made s hold)).tail (.seated c r hlive hslots hout)

/-- A fresh callback is made, and then put in or refused. -/
theorem handovers_setFresh (h : s.LivePlaces) (n : NotifierKey) (c : ConnKey)
    (hold : Option ConnKey) :
    Handovers s (s.setFresh n c hold).1 := by
  rcases livePlaces_addCallback h hold with ⟨-, hlive, hslots, hout⟩
  have hmade : Handovers s (s.addCallback hold).1 := .single (.made s hold)
  unfold setFresh
  rcases setCallback_cases n c (s.addCallback hold).2 (s.addCallback hold).1 with
    ⟨-, u, hquiet, heq⟩ | ⟨-, -, running, u, v, hquiet, hready, hnoted⟩
  · -- It is refused and destroyed.
    rw [heq]
    refine (hmade.trans (handovers_quiet hquiet)).tail (.refused ?_ (fun d => ?_) ?_)
    · rw [isLive_congr hquiet.callbacks]
      exact hlive
    · rw [hquiet.slot]
      exact hslots d
    · rw [hquiet.out]
      exact hout
  · -- It is put into the slot once there is a worker.
    have hslot : ∀ d, v.slot d = s.slot d := fun d =>
      (slot_congr (hready.conn? d)).trans (hquiet.slot d)
    have hworker : Handovers u v :=
      .single (.idle (fun d => congrArg Slot.callback (slot_congr (hready.conn? d)))
        hready.callbacks hready.out hready.unreported)
    have hattach : Handovers v (v.attach c running.registry (s.addCallback hold).2).1 := by
      refine .single (.seated c running.registry ?_ (fun d => ?_) ?_)
      · rw [isLive_congr (hready.callbacks.trans hquiet.callbacks)]
        exact hlive
      · rw [hslot]
        exact hslots d
      · rw [hready.out, hquiet.out]
        exact hout
    exact (((hmade.trans (handovers_quiet hquiet)).trans hworker).trans hattach).trans
      (handovers_noted hnoted)

/-- A handle that is given up may be the last, and then the connection is closed. -/
theorem handovers_drop (c : ConnKey) (s : System) : Handovers s (s.dropHandle c).1 := by
  have hdisown : Handovers s (s.disown c) :=
    .single (.idle (fun d => congrArg Slot.callback (frame_disown c s d).1) rfl rfl rfl)
  rcases dropHandle_cases c s with heq | ⟨-, heq⟩ | ⟨-, heq⟩
  · rw [heq]
  · rw [heq]
    exact hdisown
  · rw [heq]
    exact hdisown.trans (handovers_cut (cuts_close c _))

theorem handovers_unset (n : NotifierKey) (c : ConnKey) (s : System) :
    Handovers s (s.unsetCallback n c).1 := by
  rcases unsetCallback_cases n c s with ⟨-, -, hnoted⟩ | ⟨running, -, -, hnoted⟩
  · exact handovers_noted hnoted
  · exact ((handovers_quiet (quiet_acquire (.state n) s)).trans
      (handovers_cut (cuts_detachFrom c running.registry _))).trans (handovers_noted hnoted)

/-- A shutdown cuts what it finds in the registry. -/
theorem handovers_shutdown (n : NotifierKey) (s : System) : Handovers s (s.shutdown n) := by
  rcases shutdown_cases n s with ⟨-, hquiet⟩ | ⟨running, u, v, -, hquiet, hquiet', hnoted⟩
  · exact handovers_quiet hquiet
  · have hstop : Handovers u (u.updateNotifier n fun x => { x with running := none }) :=
      .single (.idle (fun _ => rfl) rfl rfl rfl)
    have hdrain : Handovers v (v.drain running.registry).1 :=
      .single (.idle (fun _ => rfl) rfl rfl rfl)
    -- Everything before the leftovers are cleared passes nothing on.
    have hcleared := (((handovers_quiet hquiet).trans hstop).trans (handovers_quiet hquiet')).trans
      hdrain
    exact (hcleared.trans (handovers_cut (cuts_detachAll _ _ _))).trans (handovers_noted hnoted)

/-- Every move is a sequence of handovers. -/
theorem handovers_perform (m : Move) (h : s.LivePlaces) : Handovers s (m.perform s) := by
  -- The quiet moves are together in the last case.
  cases m with
  | close c => exact handovers_cut (cuts_close c s)
  | drop c => exact handovers_drop c s
  | set n c hold => exact handovers_setFresh h n c hold
  | entrust k c => exact .single (.entrusted s k c)
  | unset n c => exact handovers_unset n c s
  | shutdown n => exact handovers_shutdown n s
  | begin c size => exact handovers_begin c size s
  | finish x exit =>
      rw [Move.perform]
      split
      · next hx => exact handovers_finish hx exit
      · exact .refl
  | attach c r hold => exact handovers_attachFresh h c r hold
  | detach c => exact handovers_cut (cuts_detach c s)
  | detachFrom c r => exact handovers_cut (cuts_detachFrom c r s)
  | detachGeneration c g => exact handovers_cut (cuts_detachGeneration c g s)
  | take c pinned => exact handovers_take c pinned s
  | forget x =>
      rw [Move.perform]
      split
      · next hx => exact .single (.settled hx)
      · exact .refl
  | onRegistry r f => exact .single (.idle (fun _ => rfl) rfl rfl rfl)
  | fillWindow l => exact .single (.idle (fun _ => rfl) rfl rfl rfl)
  | _ => exact handovers_quiet (Move.quiet_perform rfl s)

theorem handovers_handle (e : Handling) (h : s.LivePlaces) : Handovers s (e.perform s) := by
  cases e with
  | move m => exact handovers_perform m h
  | restore x generation =>
      rw [Handling.perform]
      split
      · next hx => exact handovers_putBack hx generation
      · exact .refl

/-! ### What every handover preserves -/

/-- What is in its place is living and in that place only, and nothing is out
    twice. -/
structure Sole (s : System) : Prop where
  livePlaces : s.LivePlaces
  nodup : (s.out.map Taken.callback).Nodup

/-- In the beginning nothing is out. -/
theorem sole_init (n : Nat) : (init n).Sole := ⟨livePlaces_init n, List.nodup_nil⟩

/-- Every handover leaves living what it leaves in a place. -/
theorem livePlaces_handover (h : s.LivePlaces) (hgive : Handover s t) : t.LivePlaces := by
  -- Each handover says just what its case needs.
  cases hgive with
  | idle hslot hcallbacks hout _ => exact h.congr hslot hcallbacks hout
  | made hold => exact (livePlaces_addCallback h hold).1
  | entrusted k c => exact livePlaces_entrust h k c
  | cut hcuts => exact livePlaces_felled h hcuts.felled
  | seated c r hlive hslots hout => exact livePlaces_attach h c r hlive hslots hout
  | refused hlive hslots hout => exact livePlaces_destroy h hslots hout
  | taken hsome => exact livePlaces_takenOut h hsome
  | returned hx hfree hexists =>
      rcases hx with ⟨y, hy, hcallback, -⟩
      exact livePlaces_returned h ⟨y, hy, hcallback⟩
  | @settled x hx => exact livePlaces_settle h fun c hc => h.apart c x.callback hc x hx rfl

/-- What is out after a handover: one more, those that another callback is left of, or
    the same as before. -/
theorem out_handover (hgive : Handover s t) :
    t.out = s.out ∨ (∃ k, t.out = s.out.filter fun x => x.callback != k) ∨
      ∃ x, (s.slot x.conn).callback = some x.callback ∧ t.out = x :: s.out := by
  -- Chains leave what is out where it is.
  cases hgive with
  | idle _ _ hout _ => exact Or.inl hout
  | made hold => exact Or.inl rfl
  | entrusted k c =>
      rcases entrust_frame k c s with ⟨callbacks, heq, -⟩
      rw [heq]
      exact Or.inl rfl
  | cut hcuts => exact Or.inl hcuts.felled.unwinds.unwound.out
  | seated c r _ _ _ => exact Or.inl (Move.attach_frame c r _ s).1
  | refused _ _ _ => exact Or.inl (unwinds_destroy _ s).unwound.out
  | @taken x hsome => exact Or.inr (Or.inr ⟨x, hsome, rfl⟩)
  | @returned x hx hfree hexists => exact Or.inr (Or.inl ⟨x.callback, rfl⟩)
  | @settled x hx =>
      refine Or.inr (Or.inl ⟨x.callback, ?_⟩)
      rw [out_settleTaken, (unwinds_destroy x.callback s).unwound.out]

/-- What goes out was in a slot before, so it is out once. -/
theorem sole_handover (h : s.Sole) (hgive : Handover s t) : t.Sole := by
  refine ⟨livePlaces_handover h.livePlaces hgive, ?_⟩
  rcases out_handover hgive with hout | ⟨k, hout⟩ | ⟨x, hsome, hout⟩
  · rw [hout]
    exact h.nodup
  · rw [hout]
    exact h.nodup.sublist (List.filter_sublist.map Taken.callback)
  · -- What is taken was in a slot, and so it was not out.
    rw [hout, List.map_cons, List.nodup_cons]
    refine ⟨fun hmem => ?_, h.nodup⟩
    rcases List.mem_map.mp hmem with ⟨y, hy, hcallback⟩
    exact h.livePlaces.apart x.conn x.callback hsome y hy hcallback

/-- What every handover preserves is preserved by sequences of handovers. -/
theorem sole_handovers {q : System → Prop} (hgive : ∀ s t, s.Sole → Handover s t → q s → q t)
    (hgives : Handovers s t) (h : s.Sole) (hs : q s) : t.Sole ∧ q t := by
  -- The property may rely on places being right, so the two go along together.
  induction hgives with
  | refl => exact ⟨h, hs⟩
  | tail _ hlast ih => exact ⟨sole_handover ih.1 hlast, hgive _ _ ih.1 hlast ih.2⟩

/-- And by handlings. -/
theorem sole_handle {q : System → Prop} (hgive : ∀ s t, s.Sole → Handover s t → q s → q t)
    (es : List Handling) (h : s.Sole) (hs : q s) : (handle es s).Sole ∧ q (handle es s) := by
  -- A handling is a sequence of handovers only where places are right, so that is carried along.
  induction es generalizing s with
  | nil => exact ⟨h, hs⟩
  | cons e es ih =>
      rcases sole_handovers hgive (handovers_handle e h.livePlaces) h hs with ⟨hsole, hq⟩
      exact ih hsole hq

end System

end ReadNotify
