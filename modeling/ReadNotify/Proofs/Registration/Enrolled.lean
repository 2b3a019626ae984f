import ReadNotify.Proofs.Callbacks.Handovers
import ReadNotify.Proofs.Registry.Windows

/-!
# What Registries List Is Registered

Slots and registries agree in both directions only where notifiers keep them. One
direction does not need notifiers: whoever attaches, takes and detaches by himself,
with registries that nobody serves, finds all the same that what a registry lists is
a connection whose slot names this registry, and that a closed connection is neither
listed nor names any. That is what a poll loop relies on when it looks a connection
up, and what a chain of closes relies on when it strikes entries.

Two things are asked of the moves. A callback is attached to an open connection, and
given handles that somebody has; both are what a program cannot help doing. And a
registry that is worked on directly may lose entries but gets none.

## Main definitions

* `System.Enrolled`: What registries list is registered there and open.
* `Move.Fits`, `System.FitIn`: What can be done.
* `System.FitLeads`, `System.FitReached`: A state follows another, or the first one, by that.

## Theorems

* `enrolled_quiet`, `enrolled_unwinds`, `enrolled_install`: Steps keep it.
* `enrolled_perform`, `enrolled_handle`: So does all that can be done.
* `Enrolled.notMem_order`: What is not registered is listed nowhere.
-/

namespace ReadNotify

/-- Whether a move can be made. Handles that are handed to a new callback exist,
    connections that are attached are open, and nobody enters anything in a registry
    without attaching. -/
def Move.Fits (m : Move) (s : System) : Prop :=
  match m with
  | set _ _ hold => ∀ d, hold = some d → s.isHeld d = true
  | attach c _ hold => s.isConnected c = true ∧ ∀ d, hold = some d → s.isHeld d = true
  | onRegistry _ f => ∀ reg : Registry, reg.Sound → (f reg).Sound ∧ ∀ e ∈ (f reg).refs, e ∈ reg.refs
  | _ => True

/-- A callback that is given no handle can be attached to whatever is open. -/
theorem Move.fits_attach {s : System} {c : ConnKey} (hopen : s.isConnected c = true)
    (r : RegistryKey) : (Move.attach c r none).Fits s :=
  ⟨hopen, fun _ hd => absurd hd (by simp only [reduceCtorEq, not_false_eq_true])⟩

/-- Whether a handling can be made. What is out can be put back at any time. -/
def Handling.Fits (e : Handling) (s : System) : Prop :=
  match e with
  | move m => m.Fits s
  | restore _ _ => True

namespace System

variable {s t u : System}

/-- Whether each of the handlings can be made when its turn comes. -/
def FitIn : List Handling → System → Prop
  | [], _ => True
  | e :: es, s => e.Fits s ∧ FitIn es (e.perform s)

theorem handle_cons (e : Handling) (es : List Handling) (s : System) :
    handle (e :: es) s = handle es (e.perform s) := rfl

/-- A history fits if its first part does, and the rest fits from where that leads. -/
theorem fitIn_append {es es' : List Handling} :
    FitIn (es ++ es') s ↔ FitIn es s ∧ FitIn es' (handle es s) := by
  -- On the first part: its handlings are moved over one by one.
  induction es generalizing s with
  | nil => exact (iff_of_eq (true_and _)).symm
  | cons e es ih =>
      rw [List.cons_append, FitIn, FitIn, ih, and_assoc]
      rfl

/-- What every handling that can be made preserves holds after a history of them. -/
theorem fit_preserves {q : System → Prop}
    (hstep : ∀ (e : Handling) s, e.Fits s → q s → q (e.perform s)) {es : List Handling}
    (hes : FitIn es s) (hs : q s) : q (handle es s) := by
  induction es generalizing s with
  | nil => exact hs
  | cons e es ih =>
      rw [handle_cons]
      exact ih hes.2 (hstep e s hes.1 hs)

/-- A state follows another by what can be done. -/
def FitLeads (s t : System) : Prop := ∃ es, FitIn es s ∧ t = handle es s

/-- A state follows the one in which nothing has happened by what can be done. -/
def FitReached (s : System) : Prop := ∃ n, FitLeads (init n) s

theorem fitLeads_trans (h : FitLeads s t) (h' : FitLeads t u) : FitLeads s u := by
  rcases h with ⟨es, hes, rfl⟩
  rcases h' with ⟨es', hes', rfl⟩
  exact ⟨es ++ es', fitIn_append.mpr ⟨hes, hes'⟩, (handle_append es es' s).symm⟩

/-- A single move that can be made leads on. -/
theorem fitLeads_perform {m : Move} (hm : m.Fits s) : FitLeads s (m.perform s) :=
  ⟨[.move m], ⟨hm, trivial⟩, rfl⟩

/-- What every handling that can be made preserves is kept wherever these lead. -/
theorem FitLeads.preserves {q : System → Prop}
    (hstep : ∀ (e : Handling) s, e.Fits s → q s → q (e.perform s)) (h : FitLeads s t) (hs : q s) :
    q t := by
  rcases h with ⟨es, hes, rfl⟩
  exact fit_preserves hstep hes hs

theorem FitReached.fitLeads (h : s.FitReached) (h' : FitLeads s t) :
    t.FitReached := h.imp fun _ hn => fitLeads_trans hn h'

/-- What a registry lists is a connection whose slot names it, what has a callback
    in its slot is registered, and what is closed is not. -/
structure Enrolled (s : System) : Prop where
  serial : ∀ c id, s.ident c = some id → id.serial = c + 1
  sound : ∀ r, (s.registry r).Sound
  entry : ∀ r id c, (id, c) ∈ (s.registry r).refs →
    s.ident c = some id ∧ (s.slot c).registry = some r
  filled : ∀ c k, (s.slot c).callback = some k → (s.slot c).registry.isSome = true
  closed : ∀ c, s.isConnected c = false → (s.slot c).registry = none

/-- What is known of coherent states includes it. -/
theorem Coherent.enrolled {away : Option RegistryKey} (h : s.Coherent away) : s.Enrolled :=
  ⟨h.serial, h.sound, h.entry, h.filled, h.closed⟩

theorem enrolled_init (n : Nat) : (init n).Enrolled := (coherent_init n).enrolled

namespace Enrolled

/-- Two connections never have one identity, since serial numbers are handed out one by
    one. -/
theorem ident_inj (h : s.Enrolled) {c d : ConnKey} {id : ConnId} (hc : s.ident c = some id)
    (hd : s.ident d = some id) : c = d :=
  Nat.succ.inj ((h.serial c id hc).symm.trans (h.serial d id hd))

/-- What does not name a registry is not listed there. -/
theorem notMem_order (h : s.Enrolled) {c : ConnKey} {id : ConnId} (hc : s.ident c = some id)
    {r : RegistryKey} (hr : (s.slot c).registry ≠ some r) : id ∉ (s.registry r).order := by
  intro hmem
  rcases ((h.sound r).mem_order_iff id).mp hmem with ⟨d, he⟩
  rcases h.entry r id d he with ⟨hid, hd⟩
  exact hr (h.ident_inj hid hc ▸ hd)

/-- What a registry lists is open. -/
theorem isConnected (h : s.Enrolled) {r : RegistryKey} {id : ConnId} {c : ConnKey}
    (he : (id, c) ∈ (s.registry r).refs) : s.isConnected c = true := by
  by_contra hclosed
  have hnone := h.closed c (Bool.eq_false_iff.mpr hclosed)
  rw [(h.entry r id c he).2] at hnone
  exact absurd hnone (by simp only [reduceCtorEq, not_false_eq_true])

/-- It depends on identities, registrations and what is closed, and registries may
    lose entries. -/
theorem mono (h : s.Enrolled) (hident : ∀ c, t.ident c = s.ident c)
    (hslot : ∀ c, (t.slot c).registry = (s.slot c).registry)
    (hfilled : ∀ c k, (t.slot c).callback = some k → (t.slot c).registry.isSome = true)
    (hclosed : ∀ c, t.isConnected c = false → s.isConnected c = false)
    (hrefs : ∀ r, (t.registry r).Sound ∧ ∀ e ∈ (t.registry r).refs, e ∈ (s.registry r).refs) :
    t.Enrolled := by
  refine ⟨fun c id hid => h.serial c id (hident c ▸ hid), fun r => (hrefs r).1,
    fun r id c he => ?_, hfilled, fun c hc => ?_⟩
  · rw [hident, hslot]
    exact h.entry r id c ((hrefs r).2 (id, c) he)
  · rw [hslot]
    exact h.closed c (hclosed c hc)

/-- It depends on connections and registries alone. -/
theorem congr (h : s.Enrolled) (hconn : ∀ c, t.conn? c = s.conn? c)
    (hregistries : t.registries = s.registries) : t.Enrolled := by
  have hslot := fun c => slot_congr (hconn c)
  refine h.mono (fun c => ident_congr (hconn c)) (fun c => congrArg Slot.registry (hslot c))
    (fun c k hk => ?_) (fun c hc => isConnected_congr (hconn c) ▸ hc) (fun r => ?_)
  · rw [hslot] at hk ⊢
    exact h.filled c k hk
  · rw [show t.registry r = s.registry r by simp only [registry, hregistries]]
    exact ⟨h.sound r, fun e he => he⟩

end Enrolled

/-! ### Steps -/

/-- Quiet operations may bring new connections. These are open and registered nowhere.
    -/
theorem enrolled_quiet (h : s.Enrolled) (hquiet : Quiet s t) : t.Enrolled := by
  refine ⟨fun c id hid => ?_, fun r => hquiet.registry r ▸ h.sound r, fun r id c he => ?_,
    fun c k hk => ?_, fun c hc => ?_⟩
  · rcases Option.map_eq_some_iff.mp hid with ⟨conn, hc', rfl⟩
    -- Serial numbers follow the table, in which old connections keep their places.
    rcases hc : s.conn? c with _ | conn₀
    · exact (hquiet.fresh c conn hc hc').1
    · rcases hquiet.kept c conn₀ hc with ⟨conn₁, hc₁, hid₁, -⟩
      rw [← Option.some.inj (hc₁.symm.trans hc'), hid₁]
      exact h.serial c conn₀.id (by rw [ident, hc, Option.map_some])
  · rcases h.entry r id c (hquiet.registry r ▸ he) with ⟨hid, hr⟩
    exact ⟨hquiet.ident hid, (congrArg Slot.registry (hquiet.slot c)).trans hr⟩
  · rw [hquiet.slot] at hk ⊢
    exact h.filled c k hk
  · rw [hquiet.slot]
    rcases hquiet.isConnected c with hsame | ⟨-, hopen⟩
    · exact h.closed c (hsame ▸ hc)
    · -- What is new is open.
      exact absurd (hc.symm.trans hopen) Bool.false_ne_true

/-- A slot that is cleared names no registry, and its entry is struck from the one it
    named. -/
theorem enrolled_clearSlot (c : ConnKey) (h : s.Enrolled) : (s.clearSlot c).1.Enrolled := by
  rcases clearSlot_cases c s with ⟨-, hclear⟩ | ⟨conn, r, hc, -, hr, hclear⟩
  · rw [hclear]
    exact h
  · -- The slot and its one entry go together.
    have hidc : s.ident c = some conn.id := by rw [ident, hc, Option.map_some]
    have hframe := frame_clearSlot c s
    have hslots := slot_clearSlot c s
    have hslot : ∀ d, d ≠ c → (s.clearSlot c).1.slot d = s.slot d := fun d hd => by
      rw [hslots, if_neg fun h => hd h.1]
    have hself : ((s.clearSlot c).1.slot c).registry = none := registry_clearSlot_self c s
    rw [hclear] at hframe hslot hself ⊢
    refine ⟨fun d id hid => h.serial d id ((hframe d).1 ▸ hid),
      sound_strike (s := s.updateSlot c Slot.cleared) h.sound r conn.id, fun q id d he => ?_,
      fun d k hk => ?_, fun d hd => ?_⟩
    · rcases (mem_refs_strike (s := s.updateSlot c Slot.cleared) h.sound r conn.id q (id, d)).mp he
        with ⟨hold, hne⟩
      rcases h.entry q id d hold with ⟨hid, hq⟩
      rw [(hframe d).1, hslot]
      · exact ⟨hid, hq⟩
      · -- What is still listed is of another identity.
        rintro rfl
        exact hne (Option.some.inj (hq.symm.trans hr)) (Option.some.inj (hid.symm.trans hidc))
    · by_cases hd : d = c
      · rw [← hclear, hslots, if_pos ⟨hd, by rw [hr]; rfl⟩] at hk
        exact absurd hk (by simp only [Slot.cleared, reduceCtorEq, not_false_eq_true])
      · rw [hslot d hd] at hk ⊢
        exact h.filled d k hk
    · by_cases hdc : d = c
      · rw [hdc]
        exact hself
      · rw [hslot d hdc]
        exact h.closed d ((hframe d).2.1 ▸ hd)

/-- A connection may be marked as closed when its registration is cleared. -/
theorem enrolled_disconnect (c : ConnKey) (hnone : (s.slot c).registry = none)
    (h : s.Enrolled) : (s.disconnect c).Enrolled := by
  have hframe := frame_disconnect c s
  have hregistry : ∀ r, (s.disconnect c).registry r = s.registry r := fun r => by
    simp only [registry, (tables_disconnect c s).2.1]
  refine ⟨fun d id hid => h.serial d id ((hframe d).2.1 ▸ hid), fun r => hregistry r ▸ h.sound r,
    fun r id d he => ?_, fun d k hk => ?_, fun d hd => ?_⟩
  · rw [(hframe d).2.1, (hframe d).1]
    exact h.entry r id d (hregistry r ▸ he)
  · rw [(hframe d).1] at hk ⊢
    exact h.filled d k hk
  · rw [(hframe d).1]
    rw [(hframe d).2.2.2, Bool.and_eq_false_iff, decide_eq_false_iff_not, not_not] at hd
    -- What is closed now was closed before or had no registration.
    rcases hd with hd | rfl
    · exact h.closed d hd
    · exact hnone

/-- Every link of a chain keeps it, since chains clear before they disconnect. -/
theorem enrolled_link (hlink : Link s t) (h : s.Enrolled) : t.Enrolled := by
  cases hlink with
  | ended k => exact h.congr (fun _ => rfl) rfl
  | released k c => exact h.congr (fun _ => rfl) rfl
  | cleared c => exact enrolled_clearSlot c h
  | disconnected c hnone => exact enrolled_disconnect c hnone h
  | noted held log => exact h.congr (fun _ => rfl) rfl

theorem enrolled_unwinds (hunwinds : Unwinds s t) (h : s.Enrolled) : t.Enrolled :=
  hunwinds.preserves (fun _ _ hlink hs => enrolled_link hlink hs) h

/-- What a registry may list after the entry of a connection was moved to one: what
    it listed before, unless it is the connection that has moved away, or that
    connection. -/
theorem refs_relist (h : s.Enrolled) (c : ConnKey) (r q : RegistryKey) :
    ((s.relist c r).1.registry q).Sound ∧ ∀ e ∈ ((s.relist c r).1.registry q).refs,
      (e ∈ (s.registry q).refs ∧ (e.2 = c → q = r)) ∨
        (q = r ∧ s.ident c = some e.1 ∧ e.2 = c) := by
  rcases registry_relist c r s q with
    ⟨heq, hsame⟩ | ⟨-, id, hid, heq⟩ | ⟨hq, -, id, hid, heq⟩ <;> rw [heq]
  · refine ⟨h.sound q, fun e he => Or.inl ⟨he, fun hec => hsame ?_⟩⟩
    rw [← hec]
    exact (h.entry q e.1 e.2 he).2
  · refine ⟨(h.sound q).remove id, fun e he => ?_⟩
    rcases ((h.sound q).mem_refs_remove id e).mp he with ⟨hmem, hne⟩
    -- The one entry of the connection is gone.
    refine Or.inl ⟨hmem, fun hec => absurd ?_ hne⟩
    have hide := (h.entry q e.1 e.2 hmem).1
    rw [hec, hid] at hide
    exact (Option.some.inj hide).symm
  · refine ⟨(h.sound q).append id c, fun e he => ?_⟩
    rcases ((h.sound q).mem_refs_append id c e).mp he with hmem | ⟨-, rfl⟩
    · exact Or.inl ⟨hmem, fun _ => hq⟩
    · exact Or.inr ⟨hq, hid, rfl⟩

/-- Putting a callback into the slot of an open connection, with any registry. -/
theorem enrolled_install (h : s.Enrolled) {c : ConnKey} (hopen : s.isConnected c = true)
    (r : RegistryKey) (k : CallbackKey) : (s.install c r k).1.Enrolled := by
  rcases install_frame c r k s with ⟨registries, -, heq⟩
  have hexists : (s.conn? c).isSome = true := by
    rcases hc : s.conn? c with _ | conn
    · rw [isConnected_of_none hc] at hopen
      exact absurd hopen Bool.false_ne_true
    · rfl
  -- The registries are those after the entry has moved, the slots those after the filling.
  have hregistry : ∀ q, (s.install c r k).1.registry q = (s.relist c r).1.registry q := fun q => by
    rw [install_eq]
    rfl
  have hslot : ∀ d, (s.install c r k).1.slot d =
      if d = c then ⟨some k, some r, (s.slot c).generation + 1⟩ else s.slot d := by
    intro d
    rw [slot_install, hexists]
    simp only [and_true]
  have hframe : ∀ d, (s.install c r k).1.ident d = s.ident d ∧
      (s.install c r k).1.isConnected d = s.isConnected d := by
    intro d
    rw [heq]
    rcases frame_updateSlot s c (fun x => ⟨some k, some r, x.generation + 1⟩) d with
      ⟨hid, hopen', -⟩
    exact ⟨hid, hopen'⟩
  refine ⟨fun d id hid => h.serial d id ((hframe d).1 ▸ hid),
    fun q => hregistry q ▸ (refs_relist h c r q).1, fun q id d he => ?_, fun d k' hk => ?_,
    fun d hd => ?_⟩
  · rw [hregistry] at he
    rw [(hframe d).1, hslot]
    rcases (refs_relist h c r q).2 (id, d) he with ⟨hold, hmoved⟩ | ⟨rfl, hid, rfl⟩
    · rcases h.entry q id d hold with ⟨hid, hq⟩
      refine ⟨hid, ?_⟩
      split
      · rename_i hd
        exact congrArg some (hmoved hd).symm
      · exact hq
    · rw [if_pos rfl]
      exact ⟨hid, rfl⟩
  · rw [hslot] at hk ⊢
    split
    · rfl
    · rename_i hd
      rw [if_neg hd] at hk
      exact h.filled d k' hk
  · rw [(hframe d).2] at hd
    rw [hslot, if_neg]
    · exact h.closed d hd
    · rintro rfl
      exact absurd (hd.symm.trans hopen) Bool.false_ne_true

/-- An open connection may be registered, whatever was in its slot. -/
theorem enrolled_attach (h : s.Enrolled) {c : ConnKey} (hopen : s.isConnected c = true)
    (r : RegistryKey) (k : CallbackKey) : (s.attach c r k).1.Enrolled :=
  enrolled_unwinds (unwinds_destroyAny _ _) (enrolled_install h hopen r k)

/-- A worker that is started brings an empty registry along. -/
theorem enrolled_readied (h : s.Enrolled) {n : NotifierKey} {running : Running}
    (hready : Readied n running s t) : t.Enrolled := by
  rcases hready.started with ⟨-, hregs, -⟩ | ⟨-, hregs, -, -⟩
  · exact h.congr hready.conn? hregs
  · -- The new registry lists nothing.
    have hregistry : ∀ q, t.registry q = s.registry q := fun q => by
      rw [registry, hregs, registry_add_empty]
    have hsame : ({ t with registries := s.registries } : System).Enrolled :=
      h.congr hready.conn? rfl
    exact hsame.mono (fun _ => rfl) (fun _ => rfl) hsame.filled (fun _ hc => hc) fun q => by
      rw [hregistry]
      exact ⟨h.sound q, fun e he => he⟩

/-- A registration with a notifier comes to attaching only if the connection is open. -/
theorem enrolled_setFresh (h : s.Enrolled) (n : NotifierKey) (c : ConnKey)
    (hold : Option ConnKey) : (s.setFresh n c hold).1.Enrolled := by
  have hfresh : (s.addCallback hold).1.Enrolled := h.congr (fun _ => rfl) rfl
  unfold setFresh
  rcases setCallback_cases n c (s.addCallback hold).2 (s.addCallback hold).1 with
    ⟨-, u, hquiet, heq⟩ | ⟨-, hopen, running, u, v, hquiet, hready, hnoted⟩
  · rw [heq]
    exact enrolled_unwinds (unwinds_destroy _ u) (enrolled_quiet hfresh hquiet)
  · have hv := enrolled_readied (enrolled_quiet hfresh hquiet) hready
    -- It was open when it was looked at, and starting a worker closes nothing.
    have hopen' : v.isConnected c = true := by
      rw [isConnected_congr (hready.conn? c)]
      rcases hquiet.isConnected c with hsame | ⟨-, hnew⟩
      · exact hsame.trans hopen
      · exact hnew
    exact enrolled_quiet (enrolled_attach hv hopen' running.registry _) hnoted.quiet

/-- Working on one registry so that it loses entries at most. -/
theorem enrolled_onRegistry {α : Type} (h : s.Enrolled) (r : RegistryKey)
    (f : Registry → Registry × α)
    (hf : (f (s.registry r)).1.Sound ∧ ∀ e ∈ (f (s.registry r)).1.refs, e ∈ (s.registry r).refs) :
    (s.onRegistry r f).1.Enrolled := by
  refine h.mono (fun _ => rfl) (fun _ => rfl) h.filled (fun _ hc => hc) fun q => ?_
  rw [registry_onRegistry]
  split
  · rename_i hq
    rw [hq.1]
    exact hf
  · exact ⟨h.sound q, fun e he => he⟩

/-- A scan strikes dead entries and enters none. -/
theorem enrolled_fillWindow (h : s.Enrolled) (l : PollLoop) : (s.fillWindow l).1.Enrolled := by
  refine enrolled_onRegistry h l.registry _ ⟨?_, fun e he => ?_⟩
  · rcases (h.sound l.registry).fillWindow_cases s.alive l.capacity with ⟨left, hfill⟩
    exact hfill.sound
  · exact (h.sound l.registry).mem_refs_fillWindow s.alive l.capacity he

/-- A registry is emptied first and the slots are cleared afterwards. What names it
    meanwhile is listed nowhere. -/
theorem enrolled_shutdown (h : s.Enrolled) (n : NotifierKey) : (s.shutdown n).Enrolled := by
  rcases shutdown_cases n s with ⟨-, hquiet⟩ | ⟨running, u, v, -, hquiet, hquiet', hnoted⟩
  · exact enrolled_quiet h hquiet
  · have hu : (u.updateNotifier n fun x => { x with running := none }).Enrolled :=
      (enrolled_quiet h hquiet).congr (fun _ => rfl) rfl
    -- The registry is empty, so nothing it lists can be wrong.
    have hdrained : (v.drain running.registry).1.Enrolled :=
      enrolled_onRegistry (enrolled_quiet hu hquiet') running.registry _
        ⟨Registry.sound_empty, fun e he => absurd he List.not_mem_nil⟩
    exact enrolled_quiet (enrolled_unwinds (unwinds_detachAll _ _ _) hdrained) hnoted.quiet

/-- What rewrites the callback of one slot, which names a registry if there is one
    afterwards, and the list of what is out. -/
theorem enrolled_refill (h : s.Enrolled) (c : ConnKey) (k : Option CallbackKey)
    (hk : k.isSome = true → (s.slot c).registry.isSome = true) (out : List Taken) :
    ({ s.updateSlot c fun x => { x with callback := k } with out } : System).Enrolled := by
  have hframe := frame_updateSlot s c fun x => { x with callback := k }
  have hslot : ∀ d, ({ s.updateSlot c fun x => { x with callback := k } with out } :
      System).slot d = if d = c ∧ (s.conn? c).isSome then { s.slot c with callback := k }
        else s.slot d := slot_updateSlot s c fun x => { x with callback := k }
  refine h.mono (fun d => (hframe d).1) (fun d => ?_) (fun d k' hk' => ?_)
    (fun d hd => (hframe d).2.1 ▸ hd) (fun q => ⟨h.sound q, fun e he => he⟩)
  · rw [hslot]
    split
    · next hd => rw [hd.1]
    · rfl
  · rw [hslot] at hk' ⊢
    by_cases hd : d = c ∧ (s.conn? c).isSome
    · rw [if_pos hd] at hk' ⊢
      exact hk (by rw [show k = some k' from hk']; rfl)
    · rw [if_neg hd] at hk' ⊢
      exact h.filled d k' hk'

theorem enrolled_take (h : s.Enrolled) (c : ConnKey) (pinned : Bool) :
    (s.take c pinned).1.Enrolled := by
  rcases take_cases c pinned s with ⟨-, heq⟩ | ⟨t, -, -, -, heq⟩
  · rw [heq]
    exact h
  · rw [heq]
    exact enrolled_refill h t.conn none (fun hk => absurd hk Bool.false_ne_true) (t :: s.out)

theorem enrolled_begin (h : s.Enrolled) (c : ConnKey) (size : Nat) :
    (s.begin c size).1.Enrolled := by
  rcases begin_cases c size s with ⟨-, heq⟩ | ⟨t, -, -, -, -, record, heq⟩
  · rw [heq]
    exact h
  · have htaken : (s.takenOut t).Enrolled :=
      enrolled_refill h t.conn none (fun hk => absurd hk Bool.false_ne_true) (t :: s.out)
    -- Reading may fail and be remembered, but registrations are left alone.
    rw [heq]
    exact enrolled_quiet htaken (quiet_trans (quiet_receive c size _) (quiet_note record _))

theorem enrolled_settleTaken (h : s.Enrolled) (k : CallbackKey) : (s.settleTaken k).Enrolled :=
  h.congr (fun _ => rfl) rfl

/-- What goes back goes into a slot that is registered. -/
theorem enrolled_putBack (h : s.Enrolled) (t : Taken) : (s.putBack t).1.Enrolled := by
  rcases putBack_cases t s with ⟨hmay, -, heq⟩ | ⟨-, -, heq⟩
  · rw [heq]
    simp only [mayReturn, Bool.and_eq_true] at hmay
    exact enrolled_refill h t.conn (some t.callback) (fun _ => hmay.1.2) _
  · rw [heq]
    exact enrolled_settleTaken (enrolled_unwinds (unwinds_destroy t.callback s) h) _

/-- Both ends of a dispatch keep it. -/
theorem enrolled_finish (h : s.Enrolled) (t : Taken) (exit : Exit) :
    (s.finish t exit).Enrolled := by
  cases exit with
  | returned => exact enrolled_putBack h t
  | panicked =>
      rcases giveUp_eq t s with ⟨v, hnoted, heq⟩
      rw [finish, heq]
      exact enrolled_settleTaken (enrolled_unwinds ((hnoted.unwinds.trans
        (unwinds_detachGeneration _ _ v)).trans (unwinds_destroy _ _)) h) _

/-- Giving up a handle changes no registration unless the connection is closed. -/
theorem enrolled_drop (h : s.Enrolled) (c : ConnKey) : (s.dropHandle c).1.Enrolled := by
  have hframe := frame_disown c s
  have hdisown : (s.disown c).Enrolled := by
    refine h.mono (fun d => (hframe d).2.1) (fun d => congrArg Slot.registry (hframe d).1)
      (fun d k hk => ?_) (fun d hd => (hframe d).2.2.1 ▸ hd)
      (fun q => ⟨h.sound q, fun e he => he⟩)
    rw [(hframe d).1] at hk ⊢
    exact h.filled d k hk
  -- No handle, one of several, or the last.
  rcases dropHandle_cases c s with heq | ⟨-, heq⟩ | ⟨-, heq⟩
  · rw [heq]
    exact h
  · rw [heq]
    exact hdisown
  · rw [heq]
    exact enrolled_unwinds (unwinds_close c _) hdisown

/-! ### Moves -/

/-- Every move that can be made keeps it. -/
theorem enrolled_perform (m : Move) (hm : m.Fits s) (h : s.Enrolled) : (m.perform s).Enrolled := by
  cases m with
  | close c => exact enrolled_unwinds (unwinds_close c s) h
  | drop c => exact enrolled_drop h c
  | set n c hold => exact enrolled_setFresh h n c hold
  | entrust k c =>
      rcases entrust_frame k c s with ⟨callbacks, heq, -⟩
      rw [Move.perform, heq]
      exact h.congr (fun _ => rfl) rfl
  | unset n c => exact enrolled_unwinds (unwinds_unsetCallback n c s) h
  | shutdown n => exact enrolled_shutdown h n
  | begin c size => exact enrolled_begin h c size
  | finish t exit =>
      rw [Move.perform]
      split
      · exact enrolled_finish h t exit
      · exact h
  | attach c r hold =>
      have hfresh : (s.addCallback hold).1.Enrolled := h.congr (fun _ => rfl) rfl
      exact enrolled_attach hfresh (c := c) hm.1 r _
  | detach c => exact enrolled_unwinds (unwinds_detach c s) h
  | detachFrom c r => exact enrolled_unwinds (unwinds_detachFrom c r s) h
  | detachGeneration c g => exact enrolled_unwinds (unwinds_detachGeneration c g s) h
  | take c pinned => exact enrolled_take h c pinned
  | forget t =>
      rw [Move.perform]
      split
      · have hdestroyed := enrolled_unwinds (unwinds_destroy t.callback s) h
        exact hdestroyed.congr (fun _ => rfl) rfl
      · exact h
  | onRegistry r f => exact enrolled_onRegistry h r _ (hm _ (h.sound r))
  | fillWindow l => exact enrolled_fillWindow h l
  | _ => exact enrolled_quiet h (Move.quiet_perform rfl s)

theorem enrolled_handling {e : Handling} (he : e.Fits s) (h : s.Enrolled) :
    (e.perform s).Enrolled := by
  cases e with
  | move m => exact enrolled_perform m he h
  | restore t generation =>
      rw [Handling.perform]
      split
      · exact enrolled_putBack h _
      · exact h

theorem enrolled_handle {es : List Handling} (hes : FitIn es s) (h : s.Enrolled) :
    (handle es s).Enrolled :=
  fit_preserves (fun _ _ he hs => enrolled_handling he hs) hes h

/-- So it holds wherever what can be done leads. -/
theorem FitReached.enrolled (h : s.FitReached) : s.Enrolled := by
  rcases h with ⟨n, es, hes, rfl⟩
  exact enrolled_handle hes (enrolled_init n)

end System

end ReadNotify
