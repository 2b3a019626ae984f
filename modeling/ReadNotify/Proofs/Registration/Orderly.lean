import ReadNotify.Proofs.Registration.Coherence

/-!
# Every Operation Keeps Everything in Order

Between operations no registry is away, and besides every open connection has a
handle. Both are kept by every operation of a program that uses notifiers, and
each needs the other: a scan of a registry would drop what is not alive, and a
shutdown would overlook it. What is listed is open and what is open has a
handle, so a scan drops nothing and a shutdown overlooks nothing.

A shutdown ends with no slot left that names the registry it took away, since
all of them were listed in it, were alive, and have been cleared one by one.

## Main definitions

* `System.Orderly`: Slots and registries agree, and what is open has a handle.

## Theorems

* `Orderly.alive`: Whatever a registry lists is alive.
* `orderly_setFresh`, `orderly_finish`, `orderly_shutdown`: Operations keep
  everything in order.
* `orderly_run`: So does every program that uses notifiers.
-/

namespace ReadNotify

namespace System

variable {s t : System}

/-- Between moves no registry is away, and every open connection has a handle. -/
structure Orderly (s : System) : Prop where
  coherent : s.Coherent none
  held : s.HeldBut fun _ => False

theorem orderly_init (n : Nat) : (init n).Orderly := by
  refine ⟨coherent_init n, fun c hc => ?_⟩
  have hnone : (init n).conn? c = none := Table.get?_empty c
  rw [isConnected_of_none hnone] at hc
  exact absurd hc Bool.false_ne_true

/-- Whatever a registry lists is alive. -/
theorem Orderly.alive (h : s.Orderly) {r : RegistryKey} {e : Entry}
    (he : e ∈ (s.registry r).refs) : s.alive e.2 = true := by
  have hslot := (h.coherent.entry r e.1 e.2 he).2
  have hopen : s.isConnected e.2 = true := by
    cases hclosed : s.isConnected e.2 with
    | true => rfl
    | false =>
        rw [h.coherent.closed e.2 hclosed] at hslot
        exact absurd hslot (by simp only [reduceCtorEq, not_false_eq_true])
  -- What is open has a handle, and so it is alive.
  rcases h.held e.2 hopen with hheld | hfalse
  · rw [System.alive, hheld, Bool.true_or]
  · exact hfalse.elim

/-- A handle is not lost where owners and callbacks only grow. -/
theorem isHeld_mono {c : ConnKey} (howned : s.isOwned c = true → t.isOwned c = true)
    (hcallbacks : ∀ k cb, s.callbacks.get? k = some cb → t.callbacks.get? k = some cb)
    (h : s.isHeld c = true) : t.isHeld c = true := by
  rcases (isHeld_iff s c).mp h with hc | ⟨k, cb, hrow, hhold⟩
  · exact (isHeld_iff t c).mpr (Or.inl (howned hc))
  · exact (isHeld_iff t c).mpr (Or.inr ⟨k, cb, hcallbacks k cb hrow, hhold⟩)

theorem heldBut_quiet {but : ConnKey → Prop} (h : s.HeldBut but) (hquiet : Quiet s t) :
    t.HeldBut but := by
  intro c hopen
  rcases hc : s.conn? c with _ | conn
  · -- A connection that is new belongs to the program.
    rcases hc' : t.conn? c with _ | conn
    · rw [isConnected_of_none hc'] at hopen
      exact absurd hopen Bool.false_ne_true
    · refine Or.inl ((isHeld_iff t c).mpr (Or.inl ?_))
      rw [isOwned, hc']
      exact (hquiet.fresh c conn hc hc').2.2.2
  · rcases hquiet.kept c conn hc with ⟨conn', hc', -, -, hopen', -, howned⟩
    rw [isConnected_of_conn? hc', hopen', ← isConnected_of_conn? hc] at hopen
    refine (h c hopen).imp_left (isHeld_mono ?_ ?_)
    · rw [isOwned, isOwned, hc, hc']
      exact fun h => howned.trans h
    · rw [hquiet.callbacks]
      exact fun _ _ h => h

theorem orderly_quiet (h : s.Orderly) (hquiet : Quiet s t) : t.Orderly :=
  ⟨coherent_quiet h.coherent hquiet, heldBut_quiet h.held hquiet⟩

theorem orderly_destroy (h : s.Orderly) (k : CallbackKey) : (s.destroy k).Orderly :=
  ⟨coherent_unwinds (unwinds_destroy k s) h.coherent, heldBut_destroy k s _ h.held⟩

theorem orderly_withCallback (h : s.Orderly) (holds : List ConnKey) :
    (s.withCallback holds).Orderly := by
  have hkept : ∀ k cb, s.callbacks.get? k = some cb →
      (s.withCallback holds).callbacks.get? k = some cb := by
    intro k cb hrow
    have hne : k ≠ s.callbacks.size := by
      rintro rfl
      rw [Table.get?, Table.size, Array.getElem?_eq_none (Nat.le_refl _)] at hrow
      exact absurd hrow (by simp only [reduceCtorEq, not_false_eq_true])
    rw [withCallback, Table.get?_add, if_neg hne, hrow]
  -- A new callback may keep a handle more but takes none away.
  refine ⟨h.coherent.congr (fun _ => rfl) (fun _ => rfl) h.coherent.filled h.coherent.closed rfl
    (fun _ => rfl), fun c hopen => ?_⟩
  have hheld : s.isHeld c = true ∨ False := h.held c hopen
  exact hheld.imp_left (isHeld_mono (s := s) (fun h => h) hkept)

theorem orderly_attach (h : s.Orderly) {c : ConnKey} (hopen : s.isConnected c = true)
    {n : NotifierKey} {running : Running} (hn : s.running? n = some running)
    (k : CallbackKey) : (s.attach c running.registry k).1.Orderly := by
  have hinstall := coherent_install h.coherent hopen hn k
  have hheld : (s.install c running.registry k).1.HeldBut fun _ => False := by
    rcases install_frame c running.registry k s with ⟨registries, -, heq⟩
    have hframe := frame_updateSlot s c
      (fun x => ⟨some k, some running.registry, x.generation + 1⟩)
    rw [heq]
    exact h.held.of_frame (fun d hd => (hframe d).2.1.symm.trans hd)
      (fun d => (hframe d).2.2.1) rfl
  exact ⟨coherent_unwinds (unwinds_destroyAny _ _) hinstall, heldBut_destroyAny _ _ _ hheld⟩

theorem orderly_setCallback (h : s.Orderly) (n : NotifierKey) (c : ConnKey) (k : CallbackKey) :
    (s.setCallback n c k).1.Orderly := by
  rcases setCallback_cases n c k s with
    ⟨-, u, hquiet, heq⟩ | ⟨-, hopen, running, u, v, hquiet, hready, hnoted⟩
  · rw [heq]
    exact orderly_destroy (orderly_quiet h hquiet) _
  · have hu := orderly_quiet h hquiet
    -- It was open when it was looked at, and starting a worker closes nothing.
    have hopen' : v.isConnected c = true := by
      rw [isConnected_congr (hready.conn? c)]
      rcases hquiet.isConnected c with hsame | ⟨-, hnew⟩
      · exact hsame.trans hopen
      · exact hnew
    have hv : v.Orderly := by
      refine ⟨coherent_readied hu.coherent hready, hu.held.of_frame (fun d hd => ?_)
        (fun d => ?_) hready.callbacks⟩
      · rw [isConnected_congr (hready.conn? d)] at hd
        exact hd
      · exact isOwned_congr (hready.conn? d)
    exact orderly_quiet (orderly_attach hv hopen' hready.serves _) hnoted.quiet

theorem orderly_setFresh (h : s.Orderly) (n : NotifierKey) (c : ConnKey)
    (hold : Option ConnKey) : (s.setFresh n c hold).1.Orderly :=
  orderly_setCallback (orderly_withCallback h hold.toList) n c s.callbacks.size

/-- A callback that gets one more handle takes none away. -/
theorem orderly_entrust (h : s.Orderly) (k : CallbackKey) (c : ConnKey) :
    (s.entrust k c).Orderly := by
  unfold entrust
  split
  · refine ⟨h.coherent.congr (fun _ => rfl) (fun _ => rfl) h.coherent.filled h.coherent.closed rfl
      (fun _ => rfl), fun d hopen => ?_⟩
    have hheld : s.isHeld d = true ∨ False := h.held d hopen
    refine hheld.imp_left fun hd => ?_
    rcases (isHeld_iff s d).mp hd with howned | ⟨j, cb, hrow, hhold⟩
    · exact (isHeld_iff _ d).mpr (Or.inl howned)
    · refine (isHeld_iff _ d).mpr (Or.inr ?_)
      by_cases hj : j = k
      · refine ⟨j, { cb with holds := cb.holds ++ [c] }, ?_, List.mem_append_left _ hhold⟩
        rw [Table.get?_update, if_pos hj, ← hj, hrow, Option.map_some]
      · exact ⟨j, cb, by rw [Table.get?_update, if_neg hj, hrow], hhold⟩
  · exact h

/-- What rewrites the callback of one slot, which names a registry if there is
    one afterwards, and the list of what is out. -/
theorem orderly_refill (h : s.Orderly) (c : ConnKey) (k : Option CallbackKey)
    (hk : k.isSome = true → (s.slot c).registry.isSome = true) (out : List Taken) :
    ({ s.updateSlot c fun x => { x with callback := k } with out } : System).Orderly := by
  have hframe := frame_updateSlot s c fun x => { x with callback := k }
  have hslot : ∀ d, ({ s.updateSlot c fun x => { x with callback := k } with out } :
      System).slot d = if d = c ∧ (s.conn? c).isSome then { s.slot c with callback := k }
        else s.slot d := slot_updateSlot s c fun x => { x with callback := k }
  refine ⟨h.coherent.congr (fun d => (hframe d).1) (fun d => ?_) (fun d k' hk' => ?_)
    (fun d hd => h.coherent.closed d ((hframe d).2.1 ▸ hd)) rfl (fun _ => rfl),
    h.held.of_frame (fun d hd => (hframe d).2.1.symm.trans hd) (fun d => (hframe d).2.2.1) rfl⟩
  · rw [hslot]
    split
    · next hd => rw [hd.1]
    · rfl
  · -- The registry that the slot names stays, with or without a callback.
    rw [hslot] at hk' ⊢
    by_cases hd : d = c ∧ (s.conn? c).isSome
    · rw [if_pos hd] at hk' ⊢
      exact hk (by rw [show k = some k' from hk']; rfl)
    · rw [if_neg hd] at hk' ⊢
      exact h.coherent.filled d k' hk'

/-- The agreement does not depend on what is out. -/
theorem orderly_out (h : s.Orderly) (out : List Taken) : ({ s with out } : System).Orderly :=
  ⟨h.coherent.congr (fun _ => rfl) (fun _ => rfl) h.coherent.filled h.coherent.closed rfl
    (fun _ => rfl), h.held⟩

theorem orderly_takenOut (h : s.Orderly) (t : Taken) : (s.takenOut t).Orderly :=
  orderly_refill h t.conn none (fun hk => absurd hk Bool.false_ne_true) (t :: s.out)

theorem orderly_begin (h : s.Orderly) (c : ConnKey) (size : Nat) :
    (s.begin c size).1.Orderly := by
  rcases begin_cases c size s with ⟨-, heq⟩ | ⟨t, -, -, -, -, record, heq⟩
  · rw [heq]
    exact h
  · rw [heq]
    exact orderly_quiet (orderly_takenOut h t)
      (quiet_trans (quiet_receive c size _) (quiet_note record _))

theorem orderly_finish (h : s.Orderly) (t : Taken) (exit : Exit) :
    (s.finish t exit).Orderly := by
  cases exit with
  | returned =>
      unfold finish
      rcases putBack_cases t s with ⟨hmay, -, heq⟩ | ⟨-, -, heq⟩
      · rw [heq]
        simp only [mayReturn, Bool.and_eq_true] at hmay
        exact orderly_refill h t.conn (some t.callback) (fun _ => hmay.1.2) _
      · rw [heq]
        exact orderly_out (orderly_destroy h t.callback) _
  | panicked =>
      rcases giveUp_eq t s with ⟨v, hnoted, heq⟩
      have hv := orderly_quiet h hnoted.quiet
      -- Giving up clears and then destroys, and each keeps everything in order.
      have hdetach : (v.detachGeneration t.conn t.generation).1.Orderly :=
        ⟨coherent_unwinds (unwinds_detachGeneration _ _ v) hv.coherent,
          heldBut_detachGeneration _ _ v _ hv.held⟩
      rw [finish, heq]
      exact orderly_out (orderly_destroy hdetach t.callback) _

theorem orderly_close (h : s.Orderly) (c : ConnKey) : (s.close c).Orderly :=
  ⟨coherent_unwinds (unwinds_close c s) h.coherent,
    heldBut_close c s _ fun d hd => (h.held d hd).imp_right Or.inl⟩

/-- Giving up a handle leaves slots and registries alone, and only the connection that is
    given up can be without a handle then. -/
theorem coherent_disown (h : s.Orderly) (c : ConnKey) :
    (s.disown c).Coherent none ∧ (s.disown c).HeldBut fun d => False ∨ d = c := by
  have hframe := frame_disown c s
  refine ⟨h.coherent.congr (fun d => (hframe d).2.1)
    (fun d => congrArg Slot.registry (hframe d).1) (fun d k hk => ?_)
    (fun d hd => h.coherent.closed d ((hframe d).2.2.1 ▸ hd)) rfl (fun _ => rfl), fun d hd => ?_⟩
  · rw [(hframe d).1] at hk ⊢
    exact h.coherent.filled d k hk
  · rw [(hframe d).2.2.1] at hd
    by_cases hdc : d = c
    · exact Or.inr (Or.inr hdc)
    · have hheld : s.isHeld d = true ∨ False := h.held d hd
      refine hheld.imp (isHeld_mono (s := s) (fun howned => ?_) fun _ _ hrow => hrow) Or.inl
      rw [(hframe d).2.2.2.2 hdc]
      exact howned

/-- A handle may be given up while somebody has another one. -/
theorem orderly_disown (h : s.Orderly) {c : ConnKey} (hkept : (s.disown c).isHeld c = true) :
    (s.disown c).Orderly := by
  rcases coherent_disown h c with ⟨hcoherent, hheld⟩
  refine ⟨hcoherent, fun d hd => ?_⟩
  rcases hheld d hd with hd' | hfalse | rfl
  · exact Or.inl hd'
  · exact hfalse.elim
  · exact Or.inl hkept

theorem orderly_drop (h : s.Orderly) (c : ConnKey) : (s.dropHandle c).1.Orderly := by
  rcases dropHandle_cases c s with heq | ⟨hkept, heq⟩ | ⟨-, heq⟩
  · rw [heq]
    exact h
  · -- It has another handle, which some callback keeps.
    rw [heq]
    exact orderly_disown h hkept
  · rcases coherent_disown h c with ⟨hcoherent, hheld⟩
    rw [heq]
    exact ⟨coherent_unwinds (unwinds_close c _) hcoherent, heldBut_close c _ _ hheld⟩

/-- A scan of a registry drops nothing, because everything in it is alive. -/
theorem orderly_fillWindow (h : s.Orderly) (l : PollLoop) : (s.fillWindow l).1.Orderly := by
  have hrefs : ∀ r, ((s.fillWindow l).1.registry r).Sound ∧
      ((s.fillWindow l).1.registry r).refs = (s.registry r).refs := by
    intro r
    rw [fillWindow, registry_onRegistry]
    by_cases hr : r = l.registry ∧ l.registry < s.registries.size
    · rw [if_pos hr, hr.1]
      exact (h.coherent.sound l.registry).fillWindow_of_alive s.alive
        (fun e he => h.alive he) l.capacity
    · rw [if_neg hr]
      exact ⟨h.coherent.sound r, rfl⟩
  exact ⟨h.coherent.of_refs (fun _ => rfl) (fun _ => rfl) h.coherent.filled h.coherent.closed
    hrefs (Table.size_update _ _ _) (fun _ => rfl), h.held⟩

/-! ### Shutting down -/

/-- A registry that was taken away from its notifier is away. -/
theorem coherent_away (h : s.Coherent none) {n : NotifierKey} {running : Running}
    (hn : s.running? n = some running) :
    (s.updateNotifier n fun x => { x with running := none }).Coherent (some running.registry) := by
  have hrunning : ∀ m a,
      (s.updateNotifier n fun x => { x with running := none }).running? m = some a →
        s.running? m = some a := by
    intro m a hm
    rw [running?_updateNotifier] at hm
    by_cases hmn : m = n
    · rw [if_pos hmn, Option.bind_eq_some_iff] at hm
      rcases hm with ⟨x, -, hx⟩
      exact absurd hx (by simp only [reduceCtorEq, not_false_eq_true])
    · rwa [if_neg hmn] at hm
  refine ⟨h.serial, h.sound, h.entry, ?_, h.filled, h.closed, ?_, ?_, ?_⟩
  · intro c r hr _
    exact h.listed c r hr (Option.some_ne_none _)
  · intro c r hr haway
    rcases h.served c r hr (Option.some_ne_none _) with
      ⟨m, a, hm, hreg⟩
    -- Whoever serves another registry is another notifier.
    refine ⟨m, a, ?_, hreg⟩
    rw [running?_updateNotifier, if_neg]
    · exact hm
    · rintro rfl
      rw [Option.some.inj (hm.symm.trans hn)] at hreg
      exact haway (congrArg some hreg.symm)
  · intro m m' a b ha hb hab
    exact h.apart m m' a b (hrunning m a ha) (hrunning m' b hb) hab
  · intro m a ha
    exact h.known m a (hrunning m a ha)

/-- A registry that is away may be emptied. -/
theorem coherent_drain {r : RegistryKey} (h : s.Coherent (some r)) :
    (s.drain r).1.Coherent (some r) := by
  have hregistry : ∀ q, (s.drain r).1.registry q =
      if q = r ∧ r < s.registries.size then .empty else s.registry q := fun q => by
    rw [drain, registry_onRegistry]
    rfl
  refine ⟨h.serial, ?_, ?_, ?_, h.filled, h.closed, h.served, h.apart, ?_⟩
  · intro q
    rw [hregistry]
    split
    · exact Registry.sound_empty
    · exact h.sound q
  · intro q id c he
    rw [hregistry] at he
    by_cases hq : q = r ∧ r < s.registries.size
    · rw [if_pos hq] at he
      exact absurd he List.not_mem_nil
    · rw [if_neg hq] at he
      exact h.entry q id c he
  · intro c q hq haway
    rw [hregistry, if_neg]
    · exact h.listed c q hq haway
    · rintro ⟨rfl, -⟩
      exact haway rfl
  · intro m a ha
    rw [show (s.drain r).1.registries.size = s.registries.size from Table.size_update _ _ _]
    exact h.known m a ha

/-- Clearing the registrations with one registry leaves none of them. -/
theorem registry_detachAll (r : RegistryKey) (cs : List ConnKey) (s : System) (c : ConnKey)
    (hc : c ∈ cs ∨ (s.slot c).registry ≠ some r) :
    ((s.detachAll r cs).slot c).registry ≠ some r := by
  -- A slot that names another registry once never names this one again.
  induction cs generalizing s with
  | nil => exact hc.resolve_left List.not_mem_nil
  | cons d rest ih =>
      refine ih _ ?_
      have hslots := (unwinds_detachFrom d r s).unwound.slots c
      have hother : (s.slot c).registry ≠ some r →
          ((s.detachFrom d r).1.slot c).registry ≠ some r := by
        intro hne
        rcases hslots with hsame | ⟨-, hclear⟩
        · rw [hsame]
          exact hne
        · rw [hclear]
          exact fun h => absurd h (by simp only [Slot.cleared, reduceCtorEq, not_false_eq_true])
      rcases hc with hmem | hne
      · rcases List.mem_cons.mp hmem with rfl | hrest
        · -- Its turn is now.
          refine Or.inr ?_
          by_cases hr : (s.slot c).registry = some r
          · rw [detachFrom, if_pos hr, registry_detach_self]
            exact fun h => absurd h (by simp only [reduceCtorEq, not_false_eq_true])
          · exact hother hr
        · exact Or.inl hrest
      · exact Or.inr (hother hne)

/-- Once nothing names the registry that is away, nothing is away. -/
theorem Coherent.back {r : RegistryKey} (h : s.Coherent (some r))
    (hnone : ∀ c, (s.slot c).registry ≠ some r) : s.Coherent none := by
  have hne : ∀ c q, (s.slot c).registry = some q → some q ≠ some r := fun c q hq heq =>
    hnone c (hq.trans heq)
  exact ⟨h.serial, h.sound, h.entry, fun c q hq _ => h.listed c q hq (hne c q hq), h.filled,
    h.closed, fun c q hq _ => h.served c q hq (hne c q hq), h.apart, h.known⟩

/-- When a notifier has stopped and its registry was emptied, all is in order
    but that the registry is away, and every connection whose slot names it was
    drained: it was listed there and is alive. -/
theorem Orderly.drain (h : s.Orderly) {n : NotifierKey} {running : Running}
    (hn : s.running? n = some running) {u v : System} (hquiet : Quiet s u)
    (hquiet' : Quiet (u.updateNotifier n fun x => { x with running := none }) v) :
    (v.drain running.registry).1.Coherent (some running.registry) ∧
      ((v.drain running.registry).1.HeldBut fun _ => False) ∧
      ∀ c, (v.slot c).registry = some running.registry → c ∈ (v.drain running.registry).2 := by
  have hu := orderly_quiet h hquiet
  have hv : v.Coherent (some running.registry) :=
    coherent_quiet (coherent_away hu.coherent ((hquiet.running n).trans hn)) hquiet'
  have hheld : v.HeldBut fun _ => False :=
    heldBut_quiet (s := u.updateNotifier n fun x => { x with running := none }) hu.held hquiet'
  refine ⟨coherent_drain hv, hheld, fun c hc => ?_⟩
  have hcu : (u.slot c).registry = some running.registry := hquiet'.slot c ▸ hc
  rcases hu.coherent.listed c running.registry hcu (Option.some_ne_none _) with ⟨id, he⟩
  have hopen : v.isConnected c = true := by
    cases hclosed : v.isConnected c with
    | true => rfl
    | false =>
        rw [hv.closed c hclosed] at hc
        exact absurd hc (by simp only [reduceCtorEq, not_false_eq_true])
  have halive : v.alive c = true := by
    rcases hheld c hopen with hc' | hfalse
    · rw [System.alive, hc', Bool.true_or]
    · exact hfalse.elim
  have hrefs : (id, c) ∈ (v.registry running.registry).refs :=
    (hquiet'.registry running.registry).symm ▸ he
  exact List.mem_filter.mpr ⟨List.mem_map.mpr ⟨(id, c), hrefs, rfl⟩, halive⟩

theorem orderly_shutdown (h : s.Orderly) (n : NotifierKey) : (s.shutdown n).Orderly := by
  rcases shutdown_cases n s with ⟨-, hquiet⟩ | ⟨running, u, v, hn, hquiet, hquiet', hnoted⟩
  · exact orderly_quiet h hquiet
  · rcases h.drain hn hquiet hquiet' with ⟨hcoherent, hheld, hdrained⟩
    have hunwinds := unwinds_detachAll running.registry (v.drain running.registry).2
      (v.drain running.registry).1
    have hleft : ∀ c, (((v.drain running.registry).1.detachAll running.registry
        (v.drain running.registry).2).slot c).registry ≠ some running.registry := by
      intro c
      refine registry_detachAll _ _ _ c ?_
      by_cases hc : (v.slot c).registry = some running.registry
      · exact Or.inl (hdrained c hc)
      · exact Or.inr hc
    refine orderly_quiet ⟨(coherent_unwinds hunwinds hcoherent).back hleft, ?_⟩ hnoted.quiet
    exact heldBut_detachAll _ _ _ _ hheld

/-! ### Moves -/

/-- Every move of a program that uses notifiers keeps everything in order. -/
theorem orderly_perform (m : Move) (hm : m.isInternal = false) (h : s.Orderly) :
    (m.perform s).Orderly := by
  -- Moves on slots and registries by themselves are excluded.
  cases m with
  | close d => exact orderly_close h d
  | drop d => exact orderly_drop h d
  | set n d hold => exact orderly_setFresh h n d hold
  | entrust k d => exact orderly_entrust h k d
  | unset n d =>
      exact ⟨coherent_unwinds (unwinds_unsetCallback n d s) h.coherent,
        heldBut_unsetCallback n d s _ h.held⟩
  | shutdown n => exact orderly_shutdown h n
  | begin d size => exact orderly_begin h d size
  | finish t exit =>
      rw [Move.perform]
      split
      · exact orderly_finish h t exit
      · exact h
  | fillWindow l => exact orderly_fillWindow h l
  | attach d r hold => exact absurd hm.symm Bool.false_ne_true
  | detach d => exact absurd hm.symm Bool.false_ne_true
  | detachFrom d r => exact absurd hm.symm Bool.false_ne_true
  | detachGeneration d g => exact absurd hm.symm Bool.false_ne_true
  | take d pinned => exact absurd hm.symm Bool.false_ne_true
  | forget t => exact absurd hm.symm Bool.false_ne_true
  | onRegistry r f => exact absurd hm.symm Bool.false_ne_true
  | _ => exact orderly_quiet h (Move.quiet_perform rfl s)

theorem orderly_run (ms : List Move) (hms : ∀ m ∈ ms, m.isInternal = false) (h : s.Orderly) :
    (run ms s).Orderly :=
  run_preserves (fun m hm _ => orderly_perform m (hms m hm)) h

end System

end ReadNotify
