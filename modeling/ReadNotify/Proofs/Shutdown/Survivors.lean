import ReadNotify.Proofs.Shutdown.Doomed

/-!
# What Is Left

Nothing that is doomed is spared by a chain. At the end no open connection is
without a handle, what has ended keeps nothing, and what was in a slot that was
cleared has ended. So a connection whose handles were all kept by callbacks that
have ended is closed, and with it goes what was in its slot; by induction on why
something is doomed, all of it has ended.

Together with the fact that nothing else falls this says exactly which callbacks
are left living, which connections are left open and which registrations stand,
whatever the order in which the registrations with one registry are cleared.

## Main definitions

* `System.Felled`: What a chain does to callbacks.
* `System.Clearable`: What clearing the registrations with one registry needs to
  know.

## Theorems

* `Does.felled`, `Clears.felled`: Chains fell, and empty what they fell.
* `Clearable.isLive_iff`, `Clearable.isConnected_iff`, `Clearable.slot_eq`: What
  is left.
-/

namespace ReadNotify

namespace System

variable {s t u : System} {r : RegistryKey}

/-- What was done to callbacks. Those that end let go of everything, those that
    had ended before keep what they kept, and what was in a slot that was
    cleared has ended. Nothing else has. Some callbacks are excepted. -/
structure Felled (but : CallbackKey → Prop) (s t : System) : Prop where
  unwinds : Unwinds s t
  emptied : ∀ k, s.isLive k = true → t.isLive k = false → t.keeps k = []
  still : ∀ k, s.isLive k = false → ¬ but k → t.keeps k = s.keeps k
  fallen : ∀ c k, (s.slot c).callback = some k → t.slot c ≠ s.slot c → t.isLive k = false
  cause : ∀ k, s.isLive k = true → t.isLive k = false →
    but k ∨ ∃ c, (s.slot c).callback = some k ∧ t.slot c ≠ s.slot c

/-- A slot with a callback was not cleared before. -/
theorem Unwound.slot_of_callback (h : Unwound s t) {c : ConnKey} {k : CallbackKey}
    (hcallback : (t.slot c).callback = some k) : t.slot c = s.slot c := by
  rcases h.slots c with hsame | ⟨-, hclear⟩
  · exact hsame
  · rw [hclear] at hcallback
    exact absurd hcallback (by simp only [Slot.cleared, reduceCtorEq, not_false_eq_true])

/-- A slot that has changed stays what it is. -/
theorem Unwound.slot_of_ne (h : Unwound s t) (h' : Unwound t u) {c : ConnKey}
    (hne : t.slot c ≠ s.slot c) : u.slot c = t.slot c := by
  rcases h.slots c with hsame | ⟨-, hclear⟩
  · exact absurd hsame hne
  · rcases h'.slots c with hsame' | ⟨hreg, -⟩
    · exact hsame'
    · rw [hclear] at hreg
      exact absurd hreg Bool.false_ne_true

theorem Felled.mono {but but' : CallbackKey → Prop} (h : Felled but s t)
    (hbut : ∀ k, but k → but' k) : Felled but' s t :=
  ⟨h.unwinds, h.emptied, fun k hdead hk => h.still k hdead fun hk' => hk (hbut k hk'), h.fallen,
    fun k hlive hdead => (h.cause k hlive hdead).imp_left (hbut k)⟩

theorem felled_refl (but : CallbackKey → Prop) (s : System) : Felled but s s :=
  ⟨Relation.ReflTransGen.refl,
    fun _ hlive hdead => absurd (hdead.symm.trans hlive) Bool.false_ne_true,
    fun _ _ _ => rfl, fun _ _ _ h => absurd rfl h,
    fun _ hlive hdead => absurd (hdead.symm.trans hlive) Bool.false_ne_true⟩

/-- What was done one after the other, where those that are excepted had ended
    before. -/
theorem felled_trans {but : CallbackKey → Prop} (hbut : ∀ k, but k → s.isLive k = false)
    (h : Felled but s t) (h' : Felled but t u) : Felled but s u := by
  refine ⟨h.unwinds.trans h'.unwinds, fun k hlive hdead => ?_, fun k hdead hk => ?_,
    fun c k hcallback hne => ?_, fun k hlive hdead => ?_⟩
  · cases ht : t.isLive k with
    | true => exact h'.emptied k ht hdead
    | false =>
        rw [h'.still k ht fun hk => Bool.false_ne_true ((hbut k hk).symm.trans hlive)]
        exact h.emptied k hlive ht
  · exact (h'.still k (h.unwinds.isLive_false hdead) hk).trans (h.still k hdead hk)
  · by_cases hsame : t.slot c = s.slot c
    · exact h'.fallen c k (hsame ▸ hcallback) (hsame ▸ hne)
    · exact h'.unwinds.isLive_false (h.fallen c k hcallback hsame)
  · cases ht : t.isLive k with
    | true =>
        rcases h'.cause k ht hdead with hk | ⟨c, hcallback, hne⟩
        · exact Or.inl hk
        · -- A slot with a callback has not changed so far.
          have hsame := h.unwinds.unwound.slot_of_callback hcallback
          exact Or.inr ⟨c, hsame ▸ hcallback, hsame ▸ hne⟩
    | false =>
        rcases h.cause k hlive ht with hk | ⟨c, hcallback, hne⟩
        · exact Or.inl hk
        · refine Or.inr ⟨c, hcallback, ?_⟩
          rw [h.unwinds.unwound.slot_of_ne h'.unwinds.unwound hne]
          exact hne

/-- Letting go of a handle ends nobody. -/
theorem felled_released (k : CallbackKey) (c : ConnKey) (s : System) :
    Felled (· = k) s (s.letGo k c) := by
  refine ⟨Relation.ReflTransGen.single (.released s k c), fun j hlive hdead => ?_,
    fun j _ hj => ?_, fun _ _ _ h => absurd rfl h, fun j hlive hdead => ?_⟩
  · rw [isLive_letGo] at hdead
    exact absurd (hdead.symm.trans hlive) Bool.false_ne_true
  · rw [keeps_letGo, if_neg hj]
  · rw [isLive_letGo] at hdead
    exact absurd (hdead.symm.trans hlive) Bool.false_ne_true

/-- Clearing a slot that is empty, and whatever is done to it afterwards that
    touches no callback. -/
theorem felled_vacant {c : ConnKey} (hnone : (s.clearSlot c).2.join = none) :
    Felled (fun _ => False) s (s.clearSlot c).1 := by
  have hcallbacks := (tables_clearSlot c s).2.1
  refine ⟨Relation.ReflTransGen.single (.cleared s c), fun k hlive hdead => ?_,
    fun k _ _ => keeps_congr hcallbacks k, fun d k hcallback hne => ?_, fun k hlive hdead => ?_⟩
  · rw [isLive_congr hcallbacks] at hdead
    exact absurd (hdead.symm.trans hlive) Bool.false_ne_true
  · rw [slot_clearSlot] at hne
    -- The slot that was cleared had no callback in it.
    by_cases hd : d = c ∧ (s.slot c).registry.isSome
    · have hempty := join_clearSlot_none hnone hd.2
      rw [hd.1, hempty] at hcallback
      exact absurd hcallback (by simp only [reduceCtorEq, not_false_eq_true])
    · rw [if_neg hd] at hne
      exact absurd rfl hne
  · rw [isLive_congr hcallbacks] at hdead
    exact absurd (hdead.symm.trans hlive) Bool.false_ne_true

/-- Clearing a slot and destroying what was in it. -/
theorem felled_cleared {c : ConnKey} {j : CallbackKey}
    (hsome : (s.clearSlot c).2.join = some j) (hinner : Felled (· = j) (s.clearSlot c).1 u)
    (hstill : ∀ k, (s.clearSlot c).1.isLive k = false → u.keeps k = (s.clearSlot c).1.keeps k)
    (hdead : u.isLive j = false) : Felled (fun _ => False) s u := by
  have hcallbacks := (tables_clearSlot c s).2.1
  have hclear : Unwinds s (s.clearSlot c).1 := Relation.ReflTransGen.single (.cleared s c)
  rcases join_clearSlot hsome with ⟨hreg, hcallback⟩
  have hslot := slot_clearSlot c s
  -- The slot does not come back.
  have hgone : u.slot c ≠ s.slot c := by
    intro heq
    have hnone := hinner.unwinds.unwound.registry_none (registry_clearSlot_self c s)
    rw [heq] at hnone
    rw [hnone] at hreg
    exact Bool.false_ne_true hreg
  refine ⟨hclear.trans hinner.unwinds, fun k hlive hk => ?_, fun k hk _ => ?_,
    fun d k hd hne => ?_, fun k hlive hk => Or.inr ?_⟩
  · exact hinner.emptied k ((isLive_congr hcallbacks k).trans hlive) hk
  · rw [hstill k ((isLive_congr hcallbacks k).trans hk), keeps_congr hcallbacks]
  · by_cases hdc : d = c
    · rw [hdc, hcallback] at hd
      exact Option.some.inj hd ▸ hdead
    · have hsame : (s.clearSlot c).1.slot d = s.slot d := by
        rw [hslot, if_neg fun h => hdc h.1]
      exact hinner.fallen d k (by rw [hsame, hd]) (by rw [hsame]; exact hne)
  · -- What fell was in the slot that was cleared, or fell with what was.
    rcases hinner.cause k ((isLive_congr hcallbacks k).trans hlive) hk with rfl | ⟨d, hd, hne⟩
    · exact ⟨c, hcallback, hgone⟩
    · have hsame := hclear.unwound.slot_of_callback hd
      exact ⟨d, hsame ▸ hd, hsame ▸ hne⟩

/-- Disconnecting touches neither slots nor callbacks. -/
theorem Felled.disconnected {but : CallbackKey → Prop} (h : Felled but s t) {c : ConnKey}
    (hnone : (t.slot c).registry = none) : Felled but s (t.disconnect c) := by
  have hcallbacks := (tables_disconnect c t).1
  have hslot : ∀ d, (t.disconnect c).slot d = t.slot d := fun d => (frame_disconnect c t d).1
  refine ⟨h.unwinds.tail (.disconnected t c hnone), fun k hlive hdead => ?_,
    fun k hdead hk => ?_, fun d k hd hne => ?_, fun k hlive hdead => ?_⟩
  · rw [isLive_congr hcallbacks] at hdead
    rw [keeps_congr hcallbacks]
    exact h.emptied k hlive hdead
  · rw [keeps_congr hcallbacks]
    exact h.still k hdead hk
  · rw [isLive_congr hcallbacks]
    exact h.fallen d k hd (hslot d ▸ hne)
  · rw [isLive_congr hcallbacks] at hdead
    simp only [hslot]
    exact h.cause k hlive hdead

/-- The callback that a chain is about. -/
def Chore.about : Chore → CallbackKey
  | .destroy k => k
  | .letGo k _ => k

/-- What was destroyed is living no longer. -/
theorem Destroys.isLive {k : CallbackKey} (h : Destroys k s t) : t.isLive k = false := by
  cases h with
  | spared hdead => exact hdead
  | ended hrow hlive hrest =>
      refine hrest.unwinds.isLive_false ?_
      rw [isLive_endCallback, decide_eq_false (not_not.mpr rfl), Bool.and_false]

/-- What has ended before keeps what it kept, also if it is to be destroyed. -/
theorem Felled.still_of_destroys {k : CallbackKey} (h : Felled (· = k) s t) (hdoes : Destroys k s t)
    (j : CallbackKey) (hdead : s.isLive j = false) : t.keeps j = s.keeps j := by
  cases hdoes with
  | spared _ => rfl
  | ended hrow hlive hrest =>
      refine h.still j hdead ?_
      rintro rfl
      rw [isLive_of_get? hrow, hlive] at hdead
      exact Bool.false_ne_true hdead.symm

/-- What has lost its first handle keeps the others, whatever else is done. -/
theorem keeps_of_felled {k : CallbackKey} {c : ConnKey} {cs : List ConnKey}
    (h : Felled (fun _ => False) (s.letGo k c) t) (hdead : s.isLive k = false)
    (hkeeps : s.keeps k = c :: cs) : t.keeps k = cs := by
  rw [h.still k ((isLive_letGo k c s k).trans hdead) id, keeps_letGo, if_pos rfl, hkeeps,
    List.erase_cons_head]

/-- What a chain does to callbacks. One that lets go of all that it keeps, keeps
    nothing in the end. -/
theorem Does.felled {chore : Chore} (h : Does chore s t)
    (hended : ∀ k hs, chore = .letGo k hs → s.isLive k = false) :
    Felled (· = chore.about) s t ∧
      ∀ k hs, chore = .letGo k hs → s.keeps k = hs → t.keeps k = [] := by
  -- One handle is let go of, its connection perhaps closed, and then the others.
  have hgo : ∀ {v w x : System} {k : CallbackKey} {c : ConnKey} {cs : List ConnKey},
      v.isLive k = false → Felled (fun _ => False) (v.letGo k c) w →
      ((∀ k' hs', Chore.letGo k cs = .letGo k' hs' → w.isLive k' = false) →
        Felled (· = k) w x ∧
          ∀ k' hs', Chore.letGo k cs = .letGo k' hs' → w.keeps k' = hs' → x.keeps k' = []) →
      Felled (· = k) v x ∧
        ∀ k' hs', Chore.letGo k (c :: cs) = .letGo k' hs' → v.keeps k' = hs' →
          x.keeps k' = [] := by
    intro v w x k c cs hdead hclosing hrest
    have hfirst : Felled (· = k) v w :=
      felled_trans (fun _ hk => hk ▸ hdead) (felled_released k c v)
        (hclosing.mono fun _ hfalse => hfalse.elim)
    rcases hrest (by rintro _ _ ⟨⟩; exact hfirst.unwinds.isLive_false hdead) with ⟨hlater, hempty⟩
    refine ⟨felled_trans (fun _ hk => hk ▸ hdead) hfirst hlater, ?_⟩
    rintro _ _ ⟨⟩ hkeeps
    exact hempty k cs rfl (keeps_of_felled hclosing hdead hkeeps)
  have hdestroy : ∀ {v : System} {k : CallbackKey} (k' : CallbackKey) (hs' : List ConnKey),
      Chore.destroy k = .letGo k' hs' → v.isLive k' = false :=
    fun _ _ heq => absurd heq (by simp only [reduceCtorEq, not_false_eq_true])
  induction h with
  | spared hdead =>
      exact ⟨felled_refl _ _, fun _ _ heq => absurd heq
        (by simp only [reduceCtorEq, not_false_eq_true])⟩
  | @ended s t k cb hrow hlive hrest ih =>
      refine ⟨?_, fun _ _ heq => absurd heq (by simp only [reduceCtorEq, not_false_eq_true])⟩
      have hlive' : s.isLive k = true := by rw [isLive_of_get? hrow, hlive]; rfl
      have hdead : (s.endCallback k).isLive k = false := by
        rw [isLive_endCallback, decide_eq_false (not_not.mpr rfl), Bool.and_false]
      rcases ih (by rintro _ _ ⟨⟩; exact hdead) with ⟨hfelled, hempty⟩
      -- The end itself is the only thing that the rest of the chain does not see.
      have hother : ∀ j, j ≠ k → (s.endCallback k).isLive j = s.isLive j := fun j hj => by
        rw [isLive_endCallback, decide_eq_true hj, Bool.and_true]
      refine ⟨(Relation.ReflTransGen.single (.ended s k)).trans hfelled.unwinds,
        fun j hj hdead' => ?_, fun j hj hne => ?_, hfelled.fallen, fun j hj hdead' => ?_⟩
      · by_cases hjk : j = k
        · rw [hjk]
          exact hempty k cb.holds rfl ((keeps_endCallback k s k).trans (keeps_of_get? hrow))
        · exact hfelled.emptied j ((hother j hjk).trans hj) hdead'
      · rw [hfelled.still j ((hother j hne).trans hj) hne, keeps_endCallback]
      · by_cases hjk : j = k
        · exact Or.inl hjk
        · exact hfelled.cause j ((hother j hjk).trans hj) hdead'
  | @done s k =>
      refine ⟨felled_refl _ _, ?_⟩
      rintro _ _ ⟨⟩ hkeeps
      exact hkeeps
  | @kept s t k c cs hheld hrest ih =>
      exact hgo (hended k (c :: cs) rfl) (felled_refl _ _) ih
  | @closed s t k c cs hlast hnone hrest ih =>
      exact hgo (hended k (c :: cs) rfl)
        ((felled_vacant hnone).disconnected (registry_clearSlot_self c _)) ih
  | @chained s u t k j c cs hlast hsome hinner hrest ihinner ihrest =>
      have hfelled := (ihinner hdestroy).1
      have hnone : (u.slot c).registry = none :=
        hinner.unwinds.unwound.registry_none (registry_clearSlot_self c _)
      exact hgo (hended k (c :: cs) rfl)
        ((felled_cleared hsome hfelled (hfelled.still_of_destroys hinner)
          (Destroys.isLive hinner)).disconnected hnone) ihrest

theorem Destroys.felled {k : CallbackKey} (h : Destroys k s t) : Felled (· = k) s t :=
  (Does.felled h fun _ _ heq => absurd heq (by simp only [reduceCtorEq, not_false_eq_true])).1

theorem Clears.felled {cs : List ConnKey} (h : Clears r cs s t) : Felled (fun _ => False) s t := by
  -- A slot that names another registry is passed over.
  induction h with
  | done => exact felled_refl _ _
  | other hother hrest ih => exact ih
  | vacant hreg hnone hrest ih =>
      exact felled_trans (fun _ hfalse => hfalse.elim) (felled_vacant hnone) ih
  | cleared hreg hsome hinner hrest ih =>
      exact felled_trans (fun _ hfalse => hfalse.elim)
        (felled_cleared hsome hinner.felled (hinner.felled.still_of_destroys hinner)
          (Destroys.isLive hinner)) ih

theorem Clears.heldBut {cs : List ConnKey} (h : Clears r cs s t) (but : ConnKey → Prop)
    (hheld : s.HeldBut but) : t.HeldBut but := by
  -- Clearing gives up no handle by itself; destroying what was in the slot does.
  induction h with
  | done => exact hheld
  | other hother hrest ih => exact ih hheld
  | @vacant s t c cs hreg hnone hrest ih => exact ih (heldBut_clearSlot c s but hheld)
  | @cleared s u t c cs k hreg hsome hinner hrest ih =>
      exact ih (hinner.heldBut but (heldBut_clearSlot c s but hheld))

/-- Clearing the registrations with one registry leaves none of them. -/
theorem Clears.registry_ne {cs : List ConnKey} (h : Clears r cs s t) (c : ConnKey)
    (hc : c ∈ cs ∨ (s.slot c).registry ≠ some r) : (t.slot c).registry ≠ some r := by
  -- A slot that does not name the registry once does not name it later.
  have hlater : ∀ {v w : System}, Unwinds v w → (v.slot c).registry ≠ some r →
      (w.slot c).registry ≠ some r := by
    intro v w hunwinds hne
    rcases hunwinds.unwound.slots c with hsame | ⟨-, hclear⟩
    · rw [hsame]
      exact hne
    · rw [hclear]
      exact fun h => absurd h (by simp only [Slot.cleared, reduceCtorEq, not_false_eq_true])
  have hself : ∀ {v w : System}, Unwinds (v.clearSlot c).1 w → (w.slot c).registry ≠ some r := by
    intro v w hunwinds
    refine hlater hunwinds ?_
    rw [registry_clearSlot_self]
    exact fun h => absurd h (by simp only [reduceCtorEq, not_false_eq_true])
  induction h with
  | done => exact hc.resolve_left List.not_mem_nil
  | @other s t d cs hother hrest ih =>
      rcases hc with hmem | hne
      · rcases List.mem_cons.mp hmem with rfl | hmem
        · exact ih (Or.inr hother)
        · exact ih (Or.inl hmem)
      · exact ih (Or.inr hne)
  | @vacant s t d cs hreg hnone hrest ih =>
      rcases hc with hmem | hne
      · rcases List.mem_cons.mp hmem with rfl | hmem
        · exact hself hrest.chainSteps.unwinds
        · exact ih (Or.inl hmem)
      · exact ih (Or.inr (hlater (Relation.ReflTransGen.single (.cleared s d)) hne))
  | @cleared s u t d cs k hreg hsome hinner hrest ih =>
      rcases hc with hmem | hne
      · rcases List.mem_cons.mp hmem with rfl | hmem
        · exact hself (hinner.unwinds.trans hrest.chainSteps.unwinds)
        · exact ih (Or.inl hmem)
      · exact ih (Or.inr (hlater
          ((Relation.ReflTransGen.single (.cleared s d)).trans hinner.unwinds) hne))

/-! ### What is left -/

/-- What clearing the registrations with one registry needs to know: what has
    ended keeps nothing, slots and registries agree, what is open has a handle,
    and all registrations with the registry are to be cleared. -/
structure Clearable (r : RegistryKey) (cs : List ConnKey) (s : System) : Prop where
  rested : s.Rested
  coherent : s.Coherent (some r)
  held : s.HeldBut fun _ => False
  all : ∀ c, (s.slot c).registry = some r → c ∈ cs

namespace Clearable

variable {cs : List ConnKey}

/-- After clearing no slot names the registry. -/
theorem registry_ne (h : s.Clearable r cs) (hclears : Clears r cs s t) (c : ConnKey) :
    (t.slot c).registry ≠ some r := by
  by_cases hc : (s.slot c).registry = some r
  · exact hclears.registry_ne c (Or.inl (h.all c hc))
  · exact hclears.registry_ne c (Or.inr hc)

theorem spread (h : s.Clearable r cs) (hclears : Clears r cs s t) :
    Spread (s.registeredWith r) (fun c => (s.slot c).registry = some r) s t :=
  hclears.spread h.rested h.coherent (spread_refl _ _ s)

/-- A registered connection that is closed has lost its registration. -/
theorem slot_ne (h : s.Clearable r cs) (hclears : Clears r cs s t) {c : ConnKey}
    (hreg : (s.slot c).registry.isSome = true) (hclosed : t.isConnected c = false) :
    t.slot c ≠ s.slot c := by
  intro heq
  rw [← heq, (coherent_unwinds hclears.chainSteps.unwinds h.coherent).closed c hclosed] at hreg
  exact Bool.false_ne_true hreg

/-- A connection all of whose handles were kept by callbacks that have ended is
    closed. -/
theorem isConnected_of_lost (h : s.Clearable r cs) (hclears : Clears r cs s t) {c : ConnKey}
    (hfree : s.isOwned c = false) (hlost : ∀ j, c ∈ s.keeps j → t.isLive j = false) :
    t.isConnected c = false := by
  refine Bool.eq_false_iff.mpr fun hopen => ?_
  rcases hclears.heldBut _ h.held c hopen with hheld | hfalse
  · rcases (isHeld_iff_keeps t c).mp hheld with howned | ⟨j, hj⟩
    · rw [hclears.chainSteps.unwinds.unwound.owned, hfree] at howned
      exact Bool.false_ne_true howned
    · -- Whoever keeps a handle kept it before, and has ended since.
      have hj' := (h.spread hclears).fewer j c hj
      rw [hclears.felled.emptied j (h.rested j c hj') (hlost j hj')] at hj
      exact List.not_mem_nil hj
  · exact hfalse

/-- What is doomed has ended. -/
theorem isLive_of_doomed (h : s.Clearable r cs) (hclears : Clears r cs s t) {k : CallbackKey}
    (hk : Doomed (s.registeredWith r) s k) : t.isLive k = false := by
  induction hk with
  | started hstart =>
      rcases hstart with ⟨c, hreg, hcallback⟩
      refine hclears.felled.fallen c _ hcallback fun heq => h.registry_ne hclears c ?_
      rw [heq, hreg]
  | @closed k c hopen hfree hkept hlost hslot ih =>
      exact hclears.felled.fallen c k hslot (h.slot_ne hclears (h.coherent.filled c k hslot)
        (h.isConnected_of_lost hclears hfree ih))

/-- What is left living is what lived and was not doomed. -/
theorem isLive_iff (h : s.Clearable r cs) (hclears : Clears r cs s t) (k : CallbackKey) :
    t.isLive k = true ↔ s.isLive k = true ∧ ¬ Doomed (s.registeredWith r) s k := by
  constructor
  · intro hlive
    exact ⟨hclears.chainSteps.unwinds.isLive hlive, fun hk =>
      Bool.false_ne_true ((h.isLive_of_doomed hclears hk).symm.trans hlive)⟩
  · rintro ⟨hlive, hk⟩
    by_contra hdead
    exact hk ((h.spread hclears).dead k hlive (Bool.eq_false_iff.mpr hdead))

/-- What is left open is what was open and does not close. -/
theorem isConnected_iff (h : s.Clearable r cs) (hclears : Clears r cs s t) (c : ConnKey) :
    t.isConnected c = true ↔ s.isConnected c = true ∧ ¬ Closes (s.registeredWith r) s c := by
  constructor
  · intro hopen
    refine ⟨hclears.chainSteps.unwinds.unwound.shut c hopen, fun hc => ?_⟩
    exact Bool.false_ne_true ((h.isConnected_of_lost hclears hc.free fun j hj =>
      h.isLive_of_doomed hclears (hc.lost j hj)).symm.trans hopen)
  · rintro ⟨hopen, hc⟩
    by_contra hclosed
    exact hc ((h.spread hclears).shut c hopen (Bool.eq_false_iff.mpr hclosed))

/-- Registrations are lost with the registry that is cleared and by closing. -/
theorem slot_eq (h : s.Clearable r cs) (hclears : Clears r cs s t) (c : ConnKey) :
    t.slot c = if (s.slot c).registry = some r ∨
        ((s.slot c).registry.isSome ∧ t.isConnected c = false) then (s.slot c).cleared
      else s.slot c := by
  rcases hclears.chainSteps.unwinds.unwound.slots c with hsame | ⟨hreg, hclear⟩
  · rw [hsame, if_neg]
    rintro (hr | ⟨hreg, hclosed⟩)
    · exact h.registry_ne hclears c (by rw [hsame, hr])
    · exact h.slot_ne hclears hreg hclosed hsame
  · rw [hclear, if_pos]
    have hne : t.slot c ≠ s.slot c := by
      intro heq
      rw [← heq, hclear] at hreg
      exact Bool.false_ne_true hreg
    -- A slot changes with the registry or because the connection closes.
    rcases (h.spread hclears).slots c hne with hr | hc
    · exact Or.inl hr
    · refine Or.inr ⟨hreg, Bool.eq_false_iff.mpr fun hopen => ?_⟩
      exact ((h.isConnected_iff hclears c).mp hopen).2 hc

end Clearable

end System

end ReadNotify
