import ReadNotify.Proofs.Shutdown.Survivors
import ReadNotify.Proofs.System.Effects

/-!
# What Is in Its Place Is Living

A callback that is in a slot, or that a dispatch has taken out of one, was not
destroyed, and one that was destroyed keeps nothing. Each operation takes a
callback out of its place before it destroys it, or at the latest strikes it
from what is out in the same move; and a chain that destroys others clears the
slots they are in. That a chain cannot reach what a dispatch has taken is because
no slot has it.

## Main definitions

* `System.LivePlaces`: What is in a slot or out of one is living and in one place,
  and what has ended keeps nothing.

## Theorems

* `LivePlaces.of_felled`: Chains keep this up.
* `livePlaces_perform`, `livePlaces_run`: So does every program that uses notifiers.
-/

namespace ReadNotify

namespace System

variable {s t u : System}

/-- What is in a slot or out of one is living and in one place only, and what
    has ended keeps nothing. -/
structure LivePlaces (s : System) : Prop where
  seated : ∀ c k, (s.slot c).callback = some k → s.isLive k = true
  taken : ∀ x ∈ s.out, s.isLive x.callback = true
  alone : ∀ c d k, (s.slot c).callback = some k → (s.slot d).callback = some k → c = d
  apart : ∀ c k, (s.slot c).callback = some k → ∀ x ∈ s.out, x.callback ≠ k
  rested : s.Rested

/-- In the beginning no place has anything in it. -/
theorem livePlaces_init (n : Nat) : (init n).LivePlaces := by
  have hempty : ∀ c k, ((init n).slot c).callback ≠ some k := by
    intro c k
    have hnone : (init n).conn? c = none := Table.get?_empty c
    rw [slot_of_none hnone]
    exact fun h => absurd h (by simp only [Slot.empty, reduceCtorEq, not_false_eq_true])
  exact ⟨fun c k h => absurd h (hempty c k), fun x h => absurd h List.not_mem_nil,
    fun c _ k h => absurd h (hempty c k), fun c k h => absurd h (hempty c k),
    fun k c h => absurd h List.not_mem_nil⟩

/-- What rewrites neither callbacks nor places keeps this up. -/
theorem LivePlaces.congr (h : s.LivePlaces) (hslot : ∀ c, (t.slot c).callback = (s.slot c).callback)
    (hcallbacks : t.callbacks = s.callbacks) (hout : t.out = s.out) : t.LivePlaces := by
  refine ⟨fun c k hk => ?_, fun x hx => ?_, fun c d k hc hd => ?_, fun c k hk x hx => ?_,
    fun k c hc => ?_⟩
  · rw [isLive_congr hcallbacks]
    exact h.seated c k (hslot c ▸ hk)
  · rw [isLive_congr hcallbacks]
    exact h.taken x (hout ▸ hx)
  · exact h.alone c d k (hslot c ▸ hc) (hslot d ▸ hd)
  · exact h.apart c k (hslot c ▸ hk) x (hout ▸ hx)
  · rw [isLive_congr hcallbacks]
    rw [keeps_congr hcallbacks] at hc
    exact h.rested k c hc

/-- A quiet step touches neither callbacks nor places. -/
theorem livePlaces_quiet (h : s.LivePlaces) (hquiet : Quiet s t) : t.LivePlaces :=
  h.congr (fun c => congrArg Slot.callback (hquiet.slot c)) hquiet.callbacks hquiet.out

/-! ### Chains -/

/-- What is felled keeps nothing if that was so before. -/
theorem Rested.of_felled {but : CallbackKey → Prop} (h : s.Rested) (hfelled : Felled but s t)
    (hstill : ∀ k, s.isLive k = false → t.keeps k = s.keeps k) : t.Rested := by
  intro k c hc
  -- What keeps something could have ended before the chain or in it.
  by_contra hdead
  rw [Bool.not_eq_true] at hdead
  cases hlive : s.isLive k with
  | true =>
      rw [hfelled.emptied k hlive hdead] at hc
      exact List.not_mem_nil hc
  | false =>
      rw [hstill k hlive] at hc
      exact Bool.false_ne_true (hlive.symm.trans (h k c hc))

/-- After a chain what is still in its place is living, if those that were to be
    destroyed were in no slot and are out no longer. -/
theorem LivePlaces.of_felled {but : CallbackKey → Prop} (h : s.LivePlaces)
    (hfelled : Felled but s t)
    (hstill : ∀ k, s.isLive k = false → t.keeps k = s.keeps k)
    (hslots : ∀ c k, (s.slot c).callback = some k → ¬ but k) (out : List Taken)
    (hout : ∀ x ∈ out, x ∈ s.out ∧ ¬ but x.callback) : ({ t with out } : System).LivePlaces := by
  -- A chain only clears slots, so what is in one was there before.
  have hslot : ∀ c k, (t.slot c).callback = some k →
      t.slot c = s.slot c ∧ (s.slot c).callback = some k := by
    intro c k hk
    have hsame := hfelled.unwinds.unwound.slot_of_callback hk
    exact ⟨hsame, hsame ▸ hk⟩
  have hrested : t.Rested := h.rested.of_felled hfelled hstill
  refine ⟨fun c k hk => ?_, fun x hx => ?_, fun c d k hc hd => ?_, fun c k hk x hx => ?_,
    fun k c hc => hrested k c hc⟩
  · rcases hslot c k hk with ⟨hsame, hk'⟩
    change t.isLive k = true
    by_contra hdead
    rcases hfelled.cause k (h.seated c k hk') (Bool.eq_false_iff.mpr hdead) with hbut | ⟨d, hd, hne⟩
    · exact hslots c k hk' hbut
    · -- Its slot is the only one, and that one was not cleared.
      rw [h.alone d c k hd hk'] at hne
      exact hne hsame
  · rcases hout x hx with ⟨hold, hkept⟩
    change t.isLive x.callback = true
    by_contra hdead
    -- A chain destroys what it finds in slots, and what is out is in none.
    rcases hfelled.cause x.callback (h.taken x hold) (Bool.eq_false_iff.mpr hdead) with
      hbut | ⟨d, hd, -⟩
    · exact hkept hbut
    · exact h.apart d x.callback hd x hold rfl
  · exact h.alone c d k (hslot c k hc).2 (hslot d k hd).2
  · exact h.apart c k (hslot c k hk).2 x (hout x hx).1

/-- A chain that destroys only what it finds in slots. -/
theorem livePlaces_felled (h : s.LivePlaces) (hfelled : Felled (fun _ => False) s t) :
    t.LivePlaces :=
  h.of_felled hfelled (fun k hdead => hfelled.still k hdead id) (fun _ _ _ => id)
    t.out fun _ hx => ⟨hfelled.unwinds.unwound.out ▸ hx, id⟩

/-- Destroying a callback fells it and what its chain reaches, and leaves what has ended
    as it is. -/
theorem felled_destroy (k : CallbackKey) (s : System) :
    Felled (· = k) s (s.destroy k) ∧
      ∀ j, s.isLive j = false → (s.destroy k).keeps j = s.keeps j :=
  ⟨(destroys_destroy k s).felled, (destroys_destroy k s).felled.still_of_destroys
    (destroys_destroy k s)⟩

/-- A callback that is in no slot and not out may be destroyed. -/
theorem livePlaces_destroy (h : s.LivePlaces) {k : CallbackKey}
    (hslots : ∀ c, (s.slot c).callback ≠ some k)
    (hout : ∀ x ∈ s.out, x.callback ≠ k) : (s.destroy k).LivePlaces := by
  rcases felled_destroy k s with ⟨hfelled, hstill⟩
  refine h.of_felled hfelled hstill (fun c j hj hjk => hslots c (hjk ▸ hj))
    (s.destroy k).out fun x hx => ?_
  rw [hfelled.unwinds.unwound.out] at hx
  exact ⟨hx, hout x hx⟩

/-- A callback that is in no slot may be destroyed and struck from what is out. -/
theorem livePlaces_settle (h : s.LivePlaces) {k : CallbackKey}
    (hslots : ∀ c, (s.slot c).callback ≠ some k) :
    ((s.destroy k).settleTaken k).LivePlaces := by
  rcases felled_destroy k s with ⟨hfelled, hstill⟩
  refine h.of_felled hfelled hstill (fun c j hj hjk => hslots c (hjk ▸ hj)) _ fun x hx => ?_
  rw [hfelled.unwinds.unwound.out, List.mem_filter, bne_iff_ne] at hx
  exact hx

/-- Clearing a registration destroys what was in the slot and what falls with
    it. -/
theorem felled_detach (c : ConnKey) (s : System) : Felled (fun _ => False) s (s.detach c).1 := by
  unfold detach
  rcases hclear : s.clearSlot c with ⟨v, _ | _ | k⟩
  · have hvacant := felled_vacant (c := c) (s := s) (by rw [hclear]; rfl)
    rwa [hclear] at hvacant
  · have hvacant := felled_vacant (c := c) (s := s) (by rw [hclear]; rfl)
    rwa [hclear] at hvacant
  · -- The slot is cleared first, so the callback in it is the cause of all that falls.
    rcases felled_destroy k (s.clearSlot c).1 with ⟨hfelled, hstill⟩
    have hcleared := felled_cleared (c := c) (j := k) (by rw [hclear]; rfl) hfelled hstill
      (destroys_destroy k _).isLive
    rwa [hclear] at hcleared

/-- Clearing a registration keeps this up. -/
theorem livePlaces_detach (h : s.LivePlaces) (c : ConnKey) : (s.detach c).1.LivePlaces :=
  livePlaces_felled h (felled_detach c s)

theorem livePlaces_detachFrom (h : s.LivePlaces) (c : ConnKey) (r : RegistryKey) :
    (s.detachFrom c r).1.LivePlaces := by
  unfold detachFrom
  split
  · exact livePlaces_detach h c
  · exact h

theorem livePlaces_detachGeneration (h : s.LivePlaces) (c : ConnKey) (g : UInt64) :
    (s.detachGeneration c g).1.LivePlaces := by
  unfold detachGeneration
  split
  · exact livePlaces_detach h c
  · exact h

/-- Closing destroys what it finds in the slot, and what falls with that. -/
theorem livePlaces_close (h : s.LivePlaces) (c : ConnKey) : (s.close c).LivePlaces :=
  livePlaces_felled h ((felled_detach c s).disconnected (registry_detach_self c s))

/-! ### Moves -/

/-- A callback that is not living is in no place. -/
theorem LivePlaces.absent (h : s.LivePlaces) {k : CallbackKey} (hdead : s.isLive k = false) :
    (∀ c, (s.slot c).callback ≠ some k) ∧ ∀ x ∈ s.out, x.callback ≠ k := by
  constructor
  · intro c hk
    exact Bool.false_ne_true (hdead.symm.trans (h.seated c k hk))
  · rintro x hx rfl
    exact Bool.false_ne_true (hdead.symm.trans (h.taken x hx))

/-- The new callback is living, and all others are as they were. -/
theorem isLive_withCallback (holds : List ConnKey) (s : System) (k : CallbackKey) :
    (s.withCallback holds).isLive k = (s.isLive k || decide (k = s.callbacks.size)) := by
  simp only [isLive, withCallback, Table.get?_add]
  by_cases hk : k = s.callbacks.size
  · rw [if_pos hk, decide_eq_true hk, Bool.or_true]
    rfl
  · rw [if_neg hk, decide_eq_false hk, Bool.or_false]

/-- A callback that was just made is living and in no place. -/
theorem livePlaces_withCallback (h : s.LivePlaces) (holds : List ConnKey) :
    (s.withCallback holds).LivePlaces ∧ (s.withCallback holds).isLive s.callbacks.size = true ∧
      (∀ c, (s.slot c).callback ≠ some s.callbacks.size) ∧
      ∀ x ∈ s.out, x.callback ≠ s.callbacks.size := by
  -- Its number was not in use, and everything in a place is living.
  have hdead : s.isLive s.callbacks.size = false := by
    simp only [isLive, Table.get?, Table.size, Array.getElem?_eq_none (Nat.le_refl _)]
  have hlive := isLive_withCallback holds s
  have hkeeps : ∀ k c, c ∈ (s.withCallback holds).keeps k →
      c ∈ s.keeps k ∨ k = s.callbacks.size := by
    intro k c hc
    by_cases hk : k = s.callbacks.size
    · exact Or.inr hk
    · simp only [keeps, withCallback, Table.get?_add, if_neg hk] at hc
      exact Or.inl hc
  refine ⟨⟨fun c k hk => ?_, fun x hx => ?_, h.alone, h.apart, fun k c hc => ?_⟩, ?_,
    h.absent hdead⟩
  · rw [hlive, h.seated c k hk, Bool.true_or]
  · rw [hlive, h.taken x hx, Bool.true_or]
  · rw [hlive]
    rcases hkeeps k c hc with hc | hk
    · rw [h.rested k c hc, Bool.true_or]
    · rw [decide_eq_true hk, Bool.or_true]
  · rw [hlive, decide_eq_true rfl, Bool.or_true]

theorem livePlaces_addCallback (h : s.LivePlaces) (hold : Option ConnKey) :
    (s.addCallback hold).1.LivePlaces ∧ (s.addCallback hold).1.isLive s.callbacks.size = true ∧
      (∀ c, (s.slot c).callback ≠ some s.callbacks.size) ∧
      ∀ x ∈ s.out, x.callback ≠ s.callbacks.size := livePlaces_withCallback h hold.toList

/-- Putting a living callback that is in no place into a slot, and taking out of
    all places what was there. -/
theorem LivePlaces.seat (h : s.LivePlaces) {c : ConnKey} {k : CallbackKey}
    (hlive : s.isLive k = true)
    (hslots : ∀ d, (s.slot d).callback = some k → d = c)
    (hslot : ∀ d, (t.slot d).callback = some k ∧ d = c ∨ (t.slot d).callback = none ∨
      (d ≠ c ∧ (t.slot d).callback = (s.slot d).callback))
    (hcallbacks : t.callbacks = s.callbacks)
    (hout : ∀ x ∈ t.out, x ∈ s.out ∧ x.callback ≠ k) : t.LivePlaces := by
  -- What is in a slot now is the one that was put there, or was there before.
  have hcases : ∀ d j, (t.slot d).callback = some j →
      (d = c ∧ j = k) ∨ (d ≠ c ∧ j ≠ k ∧ (s.slot d).callback = some j) := by
    intro d j hj
    rcases hslot d with ⟨hk, hd⟩ | hnone | ⟨hd, hsame⟩
    · exact Or.inl ⟨hd, Option.some.inj (hj.symm.trans hk)⟩
    · rw [hnone] at hj
      exact absurd hj (by simp only [reduceCtorEq, not_false_eq_true])
    · rw [hsame] at hj
      exact Or.inr ⟨hd, fun hjk => hd (hslots d (hjk ▸ hj)), hj⟩
  refine ⟨fun d j hj => ?_, fun x hx => ?_, fun d d' j hd hd' => ?_, fun d j hj x hx => ?_,
    fun j d hd => ?_⟩
  · rw [isLive_congr hcallbacks]
    rcases hcases d j hj with ⟨-, rfl⟩ | ⟨-, -, hold⟩
    · exact hlive
    · exact h.seated d j hold
  · rw [isLive_congr hcallbacks]
    exact h.taken x (hout x hx).1
  · rcases hcases d j hd with ⟨rfl, rfl⟩ | ⟨-, hne, hold⟩
    · rcases hcases d' j hd' with ⟨rfl, -⟩ | ⟨-, hne, -⟩
      · rfl
      · exact absurd rfl hne
    · rcases hcases d' j hd' with ⟨-, rfl⟩ | ⟨-, -, hold'⟩
      · exact absurd rfl hne
      · exact h.alone d d' j hold hold'
  · rcases hcases d j hj with ⟨-, rfl⟩ | ⟨-, -, hold⟩
    · exact (hout x hx).2
    · exact h.apart d j hold x (hout x hx).1
  · rw [isLive_congr hcallbacks]
    rw [keeps_congr hcallbacks] at hd
    exact h.rested j d hd

/-- Registering a living callback that is in no place. -/
theorem livePlaces_attach (h : s.LivePlaces) (c : ConnKey) (r : RegistryKey) {k : CallbackKey}
    (hlive : s.isLive k = true) (hslots : ∀ d, (s.slot d).callback ≠ some k)
    (hout : ∀ x ∈ s.out, x.callback ≠ k) : (s.attach c r k).1.LivePlaces := by
  have hslot := slot_install c r k s
  rcases install_frame c r k s with ⟨registries, -, hframe⟩
  have hcallbacks : (s.install c r k).1.callbacks = s.callbacks := by rw [hframe]; rfl
  have hinstalled : (s.install c r k).1.out = s.out := by rw [hframe]; rfl
  have hseat : (s.install c r k).1.LivePlaces := by
    refine h.seat (c := c) hlive (fun d hd => absurd hd (hslots d)) (fun d => ?_) hcallbacks
      fun x hx => ⟨hinstalled ▸ hx, hout x (hinstalled ▸ hx)⟩
    rw [hslot]
    by_cases hd : d = c
    · by_cases hc : (s.conn? c).isSome = true
      · rw [if_pos ⟨hd, hc⟩]
        exact Or.inl ⟨rfl, hd⟩
      · rw [if_neg fun h => hc h.2, hd, slot_of_none (Option.not_isSome_iff_eq_none.mp hc)]
        exact Or.inr (Or.inl rfl)
    · rw [if_neg fun h => hd h.1]
      exact Or.inr (Or.inr ⟨hd, rfl⟩)
  -- What was in the slot before is nowhere now.
  have hreplaced : (s.install c r k).2.1 = (s.slot c).callback := rfl
  have hattach : (s.attach c r k).1 = (s.install c r k).1.destroyAny (s.slot c).callback := rfl
  rw [hattach]
  -- It is destroyed if there was one.
  rcases hold : (s.slot c).callback with _ | j
  · exact hseat
  · refine livePlaces_destroy hseat (fun d hd => ?_) fun x hx =>
      h.apart c j hold x (hinstalled ▸ hx)
    rw [hslot] at hd
    -- The slot of the connection has the new callback now, and no other had the old one.
    split at hd
    · exact hslots c (hold.trans (congrArg some (Option.some.inj hd).symm))
    · next hne =>
        have hdc := h.alone d c j hd hold
        refine hne ⟨hdc, ?_⟩
        by_contra hnone
        rw [slot_of_none (Option.not_isSome_iff_eq_none.mp hnone)] at hold
        exact absurd hold (by simp only [Slot.empty, reduceCtorEq, not_false_eq_true])

/-- A callback that is in no place yet may be registered. -/
theorem livePlaces_setCallback (h : s.LivePlaces) (n : NotifierKey) (c : ConnKey) {k : CallbackKey}
    (hlive : s.isLive k = true) (hslots : ∀ d, (s.slot d).callback ≠ some k)
    (hout : ∀ x ∈ s.out, x.callback ≠ k) : (s.setCallback n c k).1.LivePlaces := by
  rcases setCallback_cases n c k s with
    ⟨-, u, hquiet, heq⟩ | ⟨-, hopen, running, u, v, hquiet, hready, hnoted⟩
  · -- Refused, so the callback is destroyed where it was made.
    rw [heq]
    refine livePlaces_destroy (livePlaces_quiet h hquiet) (fun d => ?_) fun x hx =>
      hout x (hquiet.out ▸ hx)
    rw [hquiet.slot]
    exact hslots d
  · -- Accepted, so it is attached to the registry of the running worker.
    have hv : v.LivePlaces := (livePlaces_quiet h hquiet).congr
      (fun d => congrArg Slot.callback (slot_congr (hready.conn? d))) hready.callbacks hready.out
    refine livePlaces_quiet
      (livePlaces_attach hv c running.registry ?_ (fun d => ?_) fun x hx => ?_) hnoted.quiet
    · rw [isLive_congr (hready.callbacks.trans hquiet.callbacks)]
      exact hlive
    · rw [slot_congr (hready.conn? d), hquiet.slot]
      exact hslots d
    · rw [hready.out, hquiet.out] at hx
      exact hout x hx

/-- Registering makes a callback that is in no place yet. -/
theorem livePlaces_setFresh (h : s.LivePlaces) (n : NotifierKey) (c : ConnKey)
    (hold : Option ConnKey) :
    (s.setFresh n c hold).1.LivePlaces := by
  rcases livePlaces_addCallback h hold with ⟨hfresh, hlive, hslots, hout⟩
  exact livePlaces_setCallback hfresh n c hlive hslots hout

/-- Handing a handle to a callback rewrites only what that keeps, if it is living. -/
theorem livePlaces_entrust (h : s.LivePlaces) (k : CallbackKey) (c : ConnKey) :
    (s.entrust k c).LivePlaces := by
  unfold entrust
  split
  · next hboth =>
      -- Who is living does not depend on what is kept.
      have hlive : ∀ j, ({ s with callbacks := s.callbacks.update k fun cb =>
          { cb with holds := cb.holds ++ [c] } } : System).isLive j = s.isLive j := by
        intro j
        simp only [isLive, Table.get?_update]
        by_cases hj : j = k
        · rw [if_pos hj, hj]
          cases s.callbacks.get? k with
          | none => rfl
          | some cb => rfl
        · rw [if_neg hj]
      refine ⟨fun d j hj => (hlive j).trans (h.seated d j hj),
        fun x hx => (hlive _).trans (h.taken x hx), h.alone, h.apart, fun j d hd => ?_⟩
      rw [hlive]
      by_cases hj : j = k
      · rw [hj]
        exact hboth.1
      · simp only [keeps, Table.get?_update, if_neg hj] at hd
        exact h.rested j d hd
  · exact h

theorem livePlaces_drop (h : s.LivePlaces) (c : ConnKey) : (s.dropHandle c).1.LivePlaces := by
  have hdisown : (s.disown c).LivePlaces :=
    h.congr (fun d => congrArg Slot.callback (frame_disown c s d).1) rfl rfl
  rcases dropHandle_cases c s with heq | ⟨-, heq⟩ | ⟨-, heq⟩
  · rw [heq]
    exact h
  · rw [heq]
    exact hdisown
  · rw [heq]
    exact livePlaces_close hdisown c

/-- Unsetting clears one registration, or none. -/
theorem livePlaces_unset (h : s.LivePlaces) (n : NotifierKey) (c : ConnKey) :
    (s.unsetCallback n c).1.LivePlaces := by
  rcases unsetCallback_cases n c s with ⟨-, -, hnoted⟩ | ⟨running, -, -, hnoted⟩
  · exact livePlaces_quiet h hnoted.quiet
  · have hlocked := livePlaces_quiet h (quiet_acquire (.state n) s)
    exact livePlaces_quiet (livePlaces_detachFrom hlocked c _) hnoted.quiet

/-- A shutdown clears the slots of its own registry. -/
theorem livePlaces_shutdown (h : s.LivePlaces) (n : NotifierKey) : (s.shutdown n).LivePlaces := by
  rcases shutdown_cases n s with ⟨-, hquiet⟩ | ⟨running, u, v, -, hquiet, hquiet', hnoted⟩
  · exact livePlaces_quiet h hquiet
  · have hu : (u.updateNotifier n fun x => { x with running := none }).LivePlaces :=
      (livePlaces_quiet h hquiet).congr (fun _ => rfl) rfl rfl
    have hdrain : (v.drain running.registry).1.LivePlaces :=
      (livePlaces_quiet hu hquiet').congr (fun _ => rfl) rfl rfl
    exact livePlaces_quiet (livePlaces_felled hdrain (clears_detachAll _ _ _).felled) hnoted.quiet

/-- What is taken leaves its slot empty and is out from now on. -/
theorem livePlaces_takenOut (h : s.LivePlaces) {x : Taken}
    (hsome : (s.slot x.conn).callback = some x.callback) : (s.takenOut x).LivePlaces := by
  have hslot := slot_takenOut x s x.conn rfl hsome
  -- What is in a slot now was there before, in another than the one that was emptied.
  have hold : ∀ d j, ((s.takenOut x).slot d).callback = some j →
      d ≠ x.conn ∧ (s.slot d).callback = some j := by
    intro d j hj
    rw [hslot] at hj
    split at hj
    · exact absurd hj (by simp only [reduceCtorEq, not_false_eq_true])
    · next hd => exact ⟨hd, hj⟩
  refine ⟨fun d j hj => h.seated d j (hold d j hj).2, fun y hy => ?_,
    fun d d' j hd hd' => h.alone d d' j (hold d j hd).2 (hold d' j hd').2,
    fun d j hj y hy => ?_, h.rested⟩
  · rcases List.mem_cons.mp hy with rfl | hy
    · exact h.seated y.conn y.callback hsome
    · exact h.taken y hy
  · rcases List.mem_cons.mp hy with rfl | hy
    · rintro rfl
      exact (hold d _ hj).1 (h.alone d y.conn _ (hold d _ hj).2 hsome)
    · exact h.apart d j (hold d j hj).2 y hy

/-- A dispatch takes out what it finds, and then reads and notes. -/
theorem livePlaces_begin (h : s.LivePlaces) (c : ConnKey) (size : Nat) :
    (s.begin c size).1.LivePlaces := by
  rcases begin_cases c size s with ⟨-, heq⟩ | ⟨x, hsome, rfl, -, -, record, heq⟩
  · rw [heq]
    exact h
  · rw [heq]
    exact livePlaces_quiet (livePlaces_takenOut h hsome)
      (quiet_trans (quiet_receive x.conn size _) (quiet_note record _))

/-- What is out goes back into a slot and is out no longer. -/
theorem livePlaces_returned (h : s.LivePlaces) {x : Taken}
    (hx : ∃ y ∈ s.out, y.callback = x.callback) :
    ((s.updateSlot x.conn fun y => { y with callback := some x.callback }).settleTaken
      x.callback).LivePlaces := by
  rcases hx with ⟨y, hy, hcallback⟩
  -- It was out, so no slot has it.
  have hslots : ∀ c, (s.slot c).callback ≠ some x.callback := fun c hc =>
    h.apart c x.callback hc y hy hcallback
  refine h.seat (c := x.conn) (hcallback ▸ h.taken y hy) (fun d hd => absurd hd (hslots d))
    (fun d => ?_) rfl fun z hz => ?_
  · have hslot : ((s.updateSlot x.conn fun y => { y with callback := some x.callback }).slot d) =
        _ := slot_updateSlot s x.conn (fun y => { y with callback := some x.callback }) d
    rw [show (((s.updateSlot x.conn fun y =>
      { y with callback := some x.callback }).settleTaken x.callback).slot d) = _ from hslot]
    by_cases hd : d = x.conn
    · by_cases hc : (s.conn? x.conn).isSome = true
      · rw [if_pos ⟨hd, hc⟩]
        exact Or.inl ⟨rfl, hd⟩
      · rw [if_neg fun h => hc h.2, hd, slot_of_none (Option.not_isSome_iff_eq_none.mp hc)]
        exact Or.inr (Or.inl rfl)
    · rw [if_neg fun h => hd h.1]
      exact Or.inr (Or.inr ⟨hd, rfl⟩)
  · rw [out_settleTaken, List.mem_filter, bne_iff_ne] at hz
    exact hz

/-- A dispatch that ends puts its callback back, or destroys it and strikes it from what
    is out. -/
theorem livePlaces_finish (h : s.LivePlaces) {x : Taken} (hx : x ∈ s.out) (exit : Exit) :
    (s.finish x exit).LivePlaces := by
  -- What is out is in no slot, so nothing else is struck with it.
  have hslots : ∀ c, (s.slot c).callback ≠ some x.callback := fun c hc =>
    h.apart c x.callback hc x hx rfl
  cases exit with
  | returned =>
      unfold finish
      rcases putBack_cases x s with ⟨-, -, heq⟩ | ⟨-, -, heq⟩
      · rw [heq]
        exact livePlaces_returned h ⟨x, hx, rfl⟩
      · rw [heq]
        exact livePlaces_settle h hslots
  -- The registration is cleared if it is the same, and the callback is destroyed in any case.
  | panicked =>
      rcases giveUp_eq x s with ⟨v, hnoted, heq⟩
      rw [finish, heq]
      have hnotedPlaces := livePlaces_quiet h hnoted.quiet
      refine livePlaces_settle (livePlaces_detachGeneration hnotedPlaces _ _) fun c hc => ?_
      have hsame := (unwinds_detachGeneration x.conn x.generation v).unwound.slot_of_callback hc
      rw [hsame, hnoted.quiet.slot] at hc
      exact hslots c hc

/-- Every move of a program that uses notifiers keeps this up. -/
theorem livePlaces_perform (m : Move) (hm : m.isInternal = false) (h : s.LivePlaces) :
    (m.perform s).LivePlaces := by
  -- Moves on slots and registries by themselves are excluded.
  cases m with
  | close d => exact livePlaces_close h d
  | drop d => exact livePlaces_drop h d
  | set n d hold => exact livePlaces_setFresh h n d hold
  | entrust k d => exact livePlaces_entrust h k d
  | unset n d => exact livePlaces_unset h n d
  | shutdown n => exact livePlaces_shutdown h n
  | begin d size => exact livePlaces_begin h d size
  | finish x exit =>
      rw [Move.perform]
      split
      · next hx => exact livePlaces_finish h hx exit
      · exact h
  | fillWindow l => exact h.congr (fun _ => rfl) rfl rfl
  | attach d r hold => exact absurd hm.symm Bool.false_ne_true
  | detach d => exact absurd hm.symm Bool.false_ne_true
  | detachFrom d r => exact absurd hm.symm Bool.false_ne_true
  | detachGeneration d g => exact absurd hm.symm Bool.false_ne_true
  | take d pinned => exact absurd hm.symm Bool.false_ne_true
  | forget x => exact absurd hm.symm Bool.false_ne_true
  | onRegistry r f => exact absurd hm.symm Bool.false_ne_true
  | _ => exact livePlaces_quiet h (Move.quiet_perform rfl s)

theorem livePlaces_run (ms : List Move) (hms : ∀ m ∈ ms, m.isInternal = false) (h : s.LivePlaces) :
    (run ms s).LivePlaces :=
  run_preserves (fun m hm _ => livePlaces_perform m (hms m hm)) h

end System

end ReadNotify
