import ReadNotify.Proofs.Shutdown.ChainSteps

/-!
# Who Falls With Whom

If some callbacks are destroyed, which others are, and which connections are
closed? The answer is read off the state before anything happens. A connection
closes if it is open, the program has no handle of it, and every handle that is
kept of it is kept by a callback that falls. A callback falls if it is one of
those to begin with or is in the slot of a connection that closes. `Doomed` is
the least set of callbacks that is closed under this, whatever cycles there are
among callbacks and connections.

What is destroyed one by one, in chains of chains, is not more than that, because
at any time in between every handle that is gone was kept by a callback that had
fallen.

## Main definitions

* `System.Doomed`, `System.Closes`: What falls, and what closes with it.
* `System.Rested`: What has ended keeps nothing.
* `System.Clears`: The registrations with one registry are cleared.

## Theorems

* `clears_detachAll`: Clearing them comes to an end.
* `Does.spread`, `Clears.spread`: Nothing falls but what is doomed.
-/

namespace ReadNotify

namespace System

variable {s t u : System} {start : CallbackKey → Prop} {may : ConnKey → Prop} {r : RegistryKey}

/-- The callbacks that fall if some do: those, and whatever is in the slot of an
    open connection that loses its last handle with callbacks that fall. -/
inductive Doomed (start : CallbackKey → Prop) (s : System) : CallbackKey → Prop where
  | started {k : CallbackKey} (h : start k) : Doomed start s k
  | closed {k : CallbackKey} {c : ConnKey} (hopen : s.isConnected c = true)
      (hfree : s.isOwned c = false) (hkept : ∃ j, c ∈ s.keeps j)
      (hlost : ∀ j, c ∈ s.keeps j → Doomed start s j) (hslot : (s.slot c).callback = some k) :
      Doomed start s k

/-- An open connection that loses its last handle if some callbacks fall: the
    program has none, and whatever callbacks keep falls. -/
structure Closes (start : CallbackKey → Prop) (s : System) (c : ConnKey) : Prop where
  isOpen : s.isConnected c = true
  free : s.isOwned c = false
  kept : ∃ j, c ∈ s.keeps j
  lost : ∀ j, c ∈ s.keeps j → Doomed start s j

/-- What has ended keeps nothing. -/
def Rested (s : System) : Prop := ∀ k c, c ∈ s.keeps k → s.isLive k = true

/-- The registrations of connections with one registry are cleared, one after
    the other, each with all that follows. -/
inductive Clears (r : RegistryKey) : List ConnKey → System → System → Prop where
  | done {s : System} : Clears r [] s s
  | other {s t : System} {c : ConnKey} {cs : List ConnKey} (hother : (s.slot c).registry ≠ some r)
      (hrest : Clears r cs s t) : Clears r (c :: cs) s t
  | vacant {s t : System} {c : ConnKey} {cs : List ConnKey} (hreg : (s.slot c).registry = some r)
      (hnone : (s.clearSlot c).2.join = none) (hrest : Clears r cs (s.clearSlot c).1 t) :
      Clears r (c :: cs) s t
  | cleared {s u t : System} {c : ConnKey} {cs : List ConnKey} {k : CallbackKey}
      (hreg : (s.slot c).registry = some r) (hsome : (s.clearSlot c).2.join = some k)
      (hinner : Destroys k (s.clearSlot c).1 u) (hrest : Clears r cs u t) :
      Clears r (c :: cs) s t

/-- Clearing a registration hands out what was in the slot. -/
theorem join_clearSlot {c : ConnKey} {k : CallbackKey} (h : (s.clearSlot c).2.join = some k) :
    (s.slot c).registry.isSome = true ∧ (s.slot c).callback = some k := by
  rcases clearSlot_cases c s with ⟨-, heq⟩ | ⟨conn, q, -, -, hr, heq⟩
  · rw [heq] at h
    exact absurd h (by simp only [Option.join_none, reduceCtorEq, not_false_eq_true])
  · rw [heq, Option.join_some] at h
    exact ⟨by rw [hr]; rfl, h⟩

/-- Clearing that hands out nothing has found nothing in the slot. -/
theorem join_clearSlot_none {c : ConnKey} (h : (s.clearSlot c).2.join = none)
    (hreg : (s.slot c).registry.isSome = true) : (s.slot c).callback = none := by
  rcases clearSlot_cases c s with ⟨hnone, -⟩ | ⟨conn, q, -, -, -, heq⟩
  · rw [hnone] at hreg
    exact absurd hreg Bool.false_ne_true
  · rwa [heq, Option.join_some] at h

/-- Clearing the registrations with one registry comes to an end, in whatever
    order it is done. -/
theorem clears_detachAll (r : RegistryKey) (cs : List ConnKey) (s : System) :
    Clears r cs s (s.detachAll r cs) := by
  induction cs generalizing s with
  | nil => exact .done
  | cons c cs ih =>
      have hrest := ih (s.detachFrom c r).1
      rw [detachAll]
      by_cases hreg : (s.slot c).registry = some r
      · rw [detachFrom, if_pos hreg] at hrest ⊢
        unfold detach at hrest ⊢
        rcases hclear : s.clearSlot c with ⟨v, _ | _ | k⟩
        -- What is registered is cleared, with or without a callback.
        · rw [hclear] at hrest
          exact .vacant hreg (by rw [hclear]; rfl) (by rw [hclear]; exact hrest)
        · rw [hclear] at hrest
          exact .vacant hreg (by rw [hclear]; rfl) (by rw [hclear]; exact hrest)
        · rw [hclear] at hrest
          exact .cleared hreg (by rw [hclear]; rfl) (by rw [hclear]; exact destroys_destroy k v)
            hrest
      · rw [detachFrom, if_neg hreg] at hrest ⊢
        exact .other hreg hrest

theorem Clears.chainSteps {cs : List ConnKey} (h : Clears r cs s t) : ChainSteps s t := by
  induction h with
  | done => exact Relation.ReflTransGen.refl
  | other hother hrest ih => exact ih
  | @vacant s t c cs hreg hnone hrest ih =>
      exact (Relation.ReflTransGen.single (.cleared s c)).trans ih
  | @cleared s u t c cs k hreg hsome hinner hrest ih =>
      exact ((Relation.ReflTransGen.single (.cleared s c)).trans hinner.chainSteps).trans ih

/-! ### Nothing falls but what is doomed -/

/-- What has fallen so far was doomed, what has not has kept all it had, and
    slots were cleared of connections that close or for another reason. -/
structure Spread (start : CallbackKey → Prop) (may : ConnKey → Prop) (s t : System) : Prop where
  unwinds : Unwinds s t
  dead : ∀ k, s.isLive k = true → t.isLive k = false → Doomed start s k
  shut : ∀ c, s.isConnected c = true → t.isConnected c = false → Closes start s c
  slots : ∀ c, t.slot c ≠ s.slot c → may c ∨ Closes start s c
  kept : ∀ k, t.isLive k = true → t.keeps k = s.keeps k
  fewer : ∀ k c, c ∈ t.keeps k → c ∈ s.keeps k

theorem spread_refl (start : CallbackKey → Prop) (may : ConnKey → Prop) (s : System) :
    Spread start may s s :=
  ⟨Relation.ReflTransGen.refl,
    fun _ hlive hdead => absurd (hdead.symm.trans hlive) Bool.false_ne_true,
    fun _ hopen hclosed => absurd (hclosed.symm.trans hopen) Bool.false_ne_true,
    fun _ h => absurd rfl h, fun _ _ => rfl, fun _ _ h => h⟩

/-- A connection that nobody has a handle of any more, and that some callback
    kept, closes if it was open. -/
theorem Spread.closes (h : Spread start may s t) (hs : s.Rested) {k : CallbackKey} {c : ConnKey}
    (hkept : c ∈ s.keeps k) (hlast : t.isHeld c = false) (hopen : s.isConnected c = true) :
    Closes start s c := by
  have hlast' : ¬ (t.isOwned c = true ∨ ∃ j, c ∈ t.keeps j) := fun h =>
    Bool.eq_false_iff.mp hlast ((isHeld_iff_keeps t c).mpr h)
  rw [not_or, h.unwinds.unwound.owned, Bool.not_eq_true] at hlast'
  refine ⟨hopen, hlast'.1, ⟨k, hkept⟩, fun j hj => h.dead j (hs j c hj) ?_⟩
  -- Whoever kept a handle and is still living would keep it still.
  refine Bool.eq_false_iff.mpr fun hlive => hlast'.2 ⟨j, ?_⟩
  rw [h.kept j hlive]
  exact hj

theorem Spread.ended (h : Spread start may s t) {k : CallbackKey} (hk : Doomed start s k) :
    Spread start may s (t.endCallback k) := by
  refine ⟨h.unwinds.tail (.ended t k), fun j hlive hdead => ?_, h.shut, h.slots, fun j hlive => ?_,
    fun j c hc => ?_⟩
  · rw [isLive_endCallback, Bool.and_eq_false_iff, decide_eq_false_iff_not, not_not] at hdead
    -- It ended before, or it is the one that is doomed.
    rcases hdead with hdead | rfl
    · exact h.dead j hlive hdead
    · exact hk
  · rw [isLive_endCallback, Bool.and_eq_true] at hlive
    rw [keeps_endCallback]
    exact h.kept j hlive.1
  · rw [keeps_endCallback] at hc
    exact h.fewer j c hc

theorem Spread.released (h : Spread start may s t) {k : CallbackKey} (hk : t.isLive k = false)
    (c : ConnKey) : Spread start may s (t.letGo k c) := by
  refine ⟨h.unwinds.tail (.released t k c), fun j hlive hdead => ?_, h.shut, h.slots,
    fun j hlive => ?_, fun j d hd => ?_⟩
  · rw [isLive_letGo] at hdead
    exact h.dead j hlive hdead
  · rw [isLive_letGo] at hlive
    -- A living one lets go of nothing.
    rw [keeps_letGo, if_neg]
    · exact h.kept j hlive
    · rintro rfl
      exact Bool.false_ne_true (hk.symm.trans hlive)
  · rw [keeps_letGo] at hd
    split at hd
    · next hj => exact h.fewer j d (hj ▸ List.mem_of_mem_erase hd)
    · exact h.fewer j d hd

theorem Spread.cleared (h : Spread start may s t) {c : ConnKey}
    (hc : (t.slot c).registry.isSome = true → may c ∨ Closes start s c) :
    Spread start may s (t.clearSlot c).1 := by
  have hcallbacks := (tables_clearSlot c t).2.1
  refine ⟨h.unwinds.tail (.cleared t c), fun j hlive hdead => ?_, fun d hopen hclosed => ?_,
    fun d hd => ?_, fun j hlive => ?_, fun j d hd => ?_⟩
  · rw [isLive_congr hcallbacks] at hdead
    exact h.dead j hlive hdead
  · rw [(frame_clearSlot c t d).2.1] at hclosed
    exact h.shut d hopen hclosed
  · rw [slot_clearSlot] at hd
    -- The cleared slot may be one to clear, or its connection closes.
    split at hd
    · next hcleared => exact hcleared.1 ▸ hc hcleared.2
    · exact h.slots d hd
  · rw [isLive_congr hcallbacks] at hlive
    rw [keeps_congr hcallbacks]
    exact h.kept j hlive
  · rw [keeps_congr hcallbacks] at hd
    exact h.fewer j d hd

theorem Spread.disconnected (h : Spread start may s t) {c : ConnKey}
    (hnone : (t.slot c).registry = none) (hc : s.isConnected c = true → Closes start s c) :
    Spread start may s (t.disconnect c) := by
  have hcallbacks := (tables_disconnect c t).1
  refine ⟨h.unwinds.tail (.disconnected t c hnone), fun j hlive hdead => ?_,
    fun d hopen hclosed => ?_, fun d hd => ?_, fun j hlive => ?_, fun j d hd => ?_⟩
  · rw [isLive_congr hcallbacks] at hdead
    exact h.dead j hlive hdead
  · rw [(frame_disconnect c t d).2.2.2, Bool.and_eq_false_iff, decide_eq_false_iff_not,
      not_not] at hclosed
    -- It was closed before, or it is the one that closes now.
    rcases hclosed with hclosed | rfl
    · exact h.shut d hopen hclosed
    · exact hc hopen
  · rw [(frame_disconnect c t d).1] at hd
    exact h.slots d hd
  · rw [isLive_congr hcallbacks] at hlive
    rw [keeps_congr hcallbacks]
    exact h.kept j hlive
  · rw [keeps_congr hcallbacks] at hd
    exact h.fewer j d hd

/-- What a chain may have to do: to destroy what is doomed, or to let go of what
    something doomed has kept, once it has ended. -/
def Chore.Excused (start : CallbackKey → Prop) (s t : System) : Chore → Prop
  | .destroy k => t.isLive k = true → Doomed start s k
  | .letGo k hs => t.isLive k = false ∧ Doomed start s k ∧ ∀ h ∈ hs, h ∈ s.keeps k

/-- The registry that a slot names is the one it named. -/
theorem Unwound.slot_of_isSome (h : Unwound s t) {c : ConnKey}
    (hreg : (t.slot c).registry.isSome = true) : t.slot c = s.slot c := by
  rcases h.slots c with hsame | ⟨-, hclear⟩
  · exact hsame
  · rw [hclear] at hreg
    exact absurd hreg Bool.false_ne_true

/-- A chain spreads nothing but ruin that was foreseen. -/
theorem Does.spread {away : Option RegistryKey} {chore : Chore} (hdoes : Does chore t u)
    (hs : s.Rested) (hcoherent : s.Coherent away) (h : Spread start may s t)
    (hchore : chore.Excused start s t) : Spread start may s u := by
  -- A registration that is found at a connection without handles shows that the
  -- connection was open.
  have hfound : ∀ {v : System} {k : CallbackKey} {c : ConnKey}, Spread start may s v →
      c ∈ s.keeps k → v.isHeld c = false → (v.slot c).registry.isSome = true →
        Closes start s c := by
    intro v k c hv hkept hlast hreg
    refine hv.closes hs hkept hlast ?_
    rw [hv.unwinds.unwound.slot_of_isSome hreg] at hreg
    cases hopen : s.isConnected c with
    | true => rfl
    | false =>
        rw [hcoherent.closed c hopen] at hreg
        exact absurd hreg Bool.false_ne_true
  induction hdoes with
  | spared hdead => exact h
  | @ended t u k cb hrow hlive hrest ih =>
      have hlive' : t.isLive k = true := by rw [isLive_of_get? hrow, hlive]; rfl
      have hk := hchore hlive'
      refine ih (h.ended hk) ⟨?_, hk, fun c hc => ?_⟩
      · rw [isLive_endCallback, decide_eq_false (not_not.mpr rfl), Bool.and_false]
      · rw [← h.kept k hlive', keeps_of_get? hrow]
        exact hc
  | done => exact h
  | @kept t u k c cs hheld hrest ih =>
      rcases hchore with ⟨hdead, hk, hkept⟩
      refine ih (h.released hdead c) ⟨?_, hk, fun d hd => hkept d (List.mem_cons_of_mem c hd)⟩
      rw [isLive_letGo]
      exact hdead
  | @closed t u k c cs hlast hnone hrest ih =>
      rcases hchore with ⟨hdead, hk, hkept⟩
      have hgone := h.released hdead c
      have hc := hkept c List.mem_cons_self
      have hclear := hgone.cleared fun hreg => Or.inr (hfound hgone hc hlast hreg)
      refine ih (hclear.disconnected (registry_clearSlot_self c _) (hgone.closes hs hc hlast))
        ⟨?_, hk, fun d hd => hkept d (List.mem_cons_of_mem c hd)⟩
      rw [isLive_congr (tables_disconnect c _).1, isLive_congr (tables_clearSlot c _).2.1,
        isLive_letGo]
      exact hdead
  | @chained t v u k j c cs hlast hsome hinner hrest ihinner ihrest =>
      rcases hchore with ⟨hdead, hk, hkept⟩
      have hgone := h.released hdead c
      have hc := hkept c List.mem_cons_self
      rcases join_clearSlot hsome with ⟨hreg, hcallback⟩
      have hcloses := hfound hgone hc hlast hreg
      rw [hgone.unwinds.unwound.slot_of_isSome hreg] at hcallback
      -- What was in its slot falls with it.
      have hj : Doomed start s j :=
        .closed hcloses.isOpen hcloses.free hcloses.kept hcloses.lost hcallback
      have hv := ihinner (hgone.cleared fun _ => Or.inr hcloses) fun _ => hj
      have hnone : (v.slot c).registry = none :=
        hinner.unwinds.unwound.registry_none (registry_clearSlot_self c _)
      refine ihrest (hv.disconnected hnone fun _ => hcloses)
        ⟨?_, hk, fun d hd => hkept d (List.mem_cons_of_mem c hd)⟩
      rw [isLive_congr (tables_disconnect c _).1]
      refine hinner.unwinds.isLive_false ?_
      rw [isLive_congr (tables_clearSlot c _).2.1, isLive_letGo]
      exact hdead

/-- What is in a slot that names a registry. -/
def registeredWith (r : RegistryKey) (s : System) (k : CallbackKey) : Prop :=
  ∃ c, (s.slot c).registry = some r ∧ (s.slot c).callback = some k

/-- Clearing a registry spreads no further than to what is doomed. -/
theorem Clears.spread {away : Option RegistryKey} {cs : List ConnKey} (hclears : Clears r cs t u)
    (hs : s.Rested) (hcoherent : s.Coherent away)
    (h : Spread (s.registeredWith r) (fun c => (s.slot c).registry = some r) s t) :
    Spread (s.registeredWith r) (fun c => (s.slot c).registry = some r) s u := by
  -- A slot that still names the registry was not touched since the beginning.
  have hnamed : ∀ {v : System} {c : ConnKey}, Unwinds s v → (v.slot c).registry = some r →
      v.slot c = s.slot c := by
    intro v c hv hreg
    exact hv.unwound.slot_of_isSome (by rw [hreg]; rfl)
  induction hclears with
  | done => exact h
  | other hother hrest ih => exact ih h
  | @vacant t u c cs hreg hnone hrest ih =>
      refine ih (h.cleared fun _ => Or.inl ?_)
      rw [← hnamed h.unwinds hreg]
      exact hreg
  | @cleared t v u c cs k hreg hsome hinner hrest ih =>
      have hsame := hnamed h.unwinds hreg
      have hcallback := (join_clearSlot hsome).2
      rw [hsame] at hreg hcallback
      exact ih (hinner.spread hs hcoherent (h.cleared fun _ => Or.inl hreg)
        fun _ => .started ⟨c, hreg, hcallback⟩)

end System

end ReadNotify
