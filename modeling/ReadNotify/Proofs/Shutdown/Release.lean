import ReadNotify.Proofs.Registration.Generations
import ReadNotify.Proofs.Shutdown.Leftovers

/-!
# What a Shutdown Releases

A shutdown releases what is registered with the notifier and what falls with it,
each callback once, and nothing else. It does so in whatever order it finds the
leftovers and whatever callbacks keep: handles of their own connections, chains
and cycles of them, handles of connections of other notifiers. The order shows
in nothing but the order of what is reported and logged, and in the turns of the
entries of interest sets.

A dispatch that is under way keeps its callback. When the call ends the callback
is destroyed, since the registration it was taken from was cleared, and that does
not change if the connection was registered again meanwhile.

## Main definitions

* `System.Falls`, `System.Shuts`: What falls, and what is closed by it.
* `System.Released`: What was released.
* `System.Matches`: Two states that differ in orders only.
* `System.Retired`: A callback was destroyed at the end of its call.

## Theorems

* `shutdown_releases`: What is released, in any order.
-/

namespace ReadNotify

namespace System

variable {s t u v v' : System} {n : NotifierKey} {r : RegistryKey} {cs cs' : List ConnKey}

/-- A connection is registered with a notifier that is running. -/
def serves (n : NotifierKey) (s : System) (c : ConnKey) : Prop :=
  ∃ running, s.running? n = some running ∧ (s.slot c).registry = some running.registry

/-- What is in the slot of a connection that is registered with a notifier. -/
def registeredAt (n : NotifierKey) (s : System) (k : CallbackKey) : Prop :=
  ∃ c, s.serves n c ∧ (s.slot c).callback = some k

/-- The callbacks that fall with a notifier: those that are registered with it,
    and what is in the slots of connections that are closed by that. -/
def Falls (n : NotifierKey) (s : System) : CallbackKey → Prop := Doomed (s.registeredAt n) s

/-- The connections that lose their last handle with callbacks that fall. -/
def Shuts (n : NotifierKey) (s : System) : ConnKey → Prop := Closes (s.registeredAt n) s

/-- The notifier is not running and nothing is registered with it. What falls
    with it was destroyed, each callback once, and what shuts with it was closed.
    The registrations with it were cleared and those of connections that were
    closed, and all other registrations stand. -/
structure Released (n : NotifierKey) (s t : System) : Prop where
  stopped : t.isRunning n = false
  registered : t.registered n = 0
  unnamed : ∀ running c, s.running? n = some running →
    (t.slot c).registry ≠ some running.registry
  ended : ∃ ks, t.unreported = ks ++ s.unreported ∧ ks.Nodup ∧ ∀ k, k ∈ ks ↔ s.Falls n k
  living : ∀ k, t.isLive k = true ↔ s.isLive k = true ∧ ¬ s.Falls n k
  connected : ∀ c, t.isConnected c = true ↔ s.isConnected c = true ∧ ¬ s.Shuts n c
  cleared : ∀ c, s.serves n c ∨ (s.hasCallback c = true ∧ s.Shuts n c) →
    t.slot c = (s.slot c).cleared
  kept : ∀ c, ¬ s.serves n c → ¬ s.Shuts n c → t.slot c = s.slot c
  registries : ∀ q, (∀ running, s.running? n = some running → q ≠ running.registry) →
    t.registry q = (s.registry q).restrict fun id =>
      ((s.registry q).get? t.isConnected id).isSome
  notifiers : ∀ m, m ≠ n → t.running? m = s.running? m
  out : t.out = s.out

/-- Two states that differ in the order of what is reported and logged, and in
    the turns of the entries of interest sets, but in nothing else that can be
    seen. -/
structure Matches (s t : System) : Prop where
  conn : ∀ c, t.conn? c = s.conn? c
  callback : ∀ k, t.callbacks.get? k = s.callbacks.get? k
  registry : ∀ q, t.registry q = s.registry q
  counters : t.counters = s.counters
  notifiers : t.notifiers = s.notifiers
  workers : t.workers = s.workers
  out : t.out = s.out
  held : t.held = s.held
  thread : t.thread = s.thread
  unreported : t.unreported.Perm s.unreported
  log : t.log.Perm s.log
  kernel : s.kernel.Same t.kernel

/-- A callback that was living when its call ended was destroyed then, once, and
    is nowhere any more. -/
structure Retired (k : CallbackKey) (s t : System) : Prop where
  living : s.isLive k = true
  ended : t.isLive k = false
  once : ∃ ks, t.unreported = ks ++ s.unreported ∧ ks.Nodup ∧ k ∈ ks
  slots : ∀ c, (t.slot c).callback ≠ some k
  out : ∀ x ∈ t.out, x.callback ≠ k

/-! ### Dooming -/

/-- What is doomed depends on which connections are open and owned, on what is
    kept, and on what is in the slots. -/
theorem doomed_congr {start start' : CallbackKey → Prop}
    (hopen : ∀ c, t.isConnected c = s.isConnected c) (howned : ∀ c, t.isOwned c = s.isOwned c)
    (hkeeps : ∀ k, t.keeps k = s.keeps k) (hslot : ∀ c, t.slot c = s.slot c)
    (hstart : ∀ k, start k → start' k) {k : CallbackKey} (h : Doomed start s k) :
    Doomed start' t k := by
  induction h with
  | started h => exact .started (hstart _ h)
  | @closed k c hc hfree hkept hlost hcallback ih =>
      refine .closed (c := c) ((hopen c).trans hc) ((howned c).trans hfree) ?_ (fun j hj => ?_)
        (by rw [hslot, hcallback])
      · rcases hkept with ⟨j, hj⟩
        exact ⟨j, hkeeps j ▸ hj⟩
      · exact ih j (hkeeps j ▸ hj)

/-- Nothing is doomed if nothing falls to begin with. -/
theorem not_doomed {start : CallbackKey → Prop} (hstart : ∀ k, ¬ start k) {k : CallbackKey} :
    ¬ Doomed start s k := by
  intro h
  induction h with
  | started h => exact hstart _ h
  | closed hopen hfree hkept hlost hslot ih =>
      rcases hkept with ⟨j, hj⟩
      exact ih j hj

theorem not_closes {start : CallbackKey → Prop} (hstart : ∀ k, ¬ start k) {c : ConnKey} :
    ¬ Closes start s c := by
  intro h
  rcases h.kept with ⟨j, hj⟩
  exact not_doomed hstart (h.lost j hj)

/-! ### Outcomes in different orders -/

namespace Clearable

/-- What callbacks keep in the end. -/
theorem keeps_eq (h : s.Clearable r cs) (hclears : Clears r cs s v) (k : CallbackKey) :
    v.keeps k = if s.isLive k = true ∧ v.isLive k = false then [] else s.keeps k := by
  split
  · next hboth => exact hclears.felled.emptied k hboth.1 hboth.2
  · next hne =>
      cases hlive : v.isLive k with
      | true => exact (h.spread hclears).kept k hlive
      | false =>
          refine hclears.felled.still k (Bool.eq_false_iff.mpr fun hs => hne ⟨hs, hlive⟩) id

/-- What another registry lists in the end is what it listed of connections that
    are open then. -/
theorem registry_eq (h : s.Clearable r cs) (hclears : Clears r cs s v) {q : RegistryKey}
    (hq : q ≠ r) : v.registry q = (s.registry q).restrict fun id =>
      ((s.registry q).get? v.isConnected id).isSome := by
  have hv := coherent_unwinds hclears.chainSteps.unwinds h.coherent
  rcases recorded_chainSteps hclears.chainSteps h.coherent with ⟨ks, closed, hrecorded⟩
  rcases hrecorded.registry q with ⟨keep, hkeep⟩
  rw [hkeep]
  refine Registry.restrict_congr (h.coherent.sound q) fun id hid => ?_
  rcases ((h.coherent.sound q).mem_order_iff id).mp hid with ⟨c, hc⟩
  rcases h.coherent.entry q id c hc with ⟨hident, hslot⟩
  have hget : ((s.registry q).get? v.isConnected id).isSome = v.isConnected c := by
    cases hopen : v.isConnected c with
    | true =>
        rw [((h.coherent.sound q).get?_eq_some_iff v.isConnected id c).mpr ⟨hc, hopen⟩]
        rfl
    | false => rw [(h.coherent.sound q).get?_eq_none v.isConnected hc hopen, Option.isSome_none]
  rw [hget, Bool.eq_iff_iff]
  constructor
  · -- What is kept is listed, so its connection is open.
    intro hkept
    have hmem : id ∈ (v.registry q).order := by
      rw [hkeep]
      exact List.mem_filter.mpr ⟨hid, hkept⟩
    rcases ((hv.sound q).mem_order_iff id).mp hmem with ⟨d, hd⟩
    rcases hv.entry q id d hd with ⟨hident', hslot'⟩
    rw [hclears.chainSteps.unwinds.unwound.ident] at hident'
    rw [h.coherent.ident_inj hident' hident] at hslot'
    by_contra hclosed
    rw [hv.closed c (Bool.eq_false_iff.mpr hclosed)] at hslot'
    exact absurd hslot' (by simp only [reduceCtorEq, not_false_eq_true])
  · -- What is open has kept its slot, so it is listed.
    intro hopen
    have hsame : v.slot c = s.slot c := by
      rw [h.slot_eq hclears c, if_neg]
      rintro (hr | ⟨-, hclosed⟩)
      · exact hq (Option.some.inj (hslot.symm.trans hr))
      · exact Bool.false_ne_true (hclosed.symm.trans hopen)
    rcases hv.listed c q (hsame.symm ▸ hslot) (fun heq => hq (Option.some.inj heq)) with ⟨id', he⟩
    have hident' := (hv.entry q id' c he).1
    rw [hclears.chainSteps.unwinds.unwound.ident, hident] at hident'
    have hmem := ((hv.sound q).mem_order_iff id').mpr ⟨c, he⟩
    rw [← Option.some.inj hident', hkeep] at hmem
    exact (List.mem_filter.mp hmem).2

/-- Clearing registrations in different orders leaves matching states. -/
theorem matches_clears (hs : s.Wired) (h : s.Clearable r cs) (h' : s.Clearable r cs')
    (hr : s.registry r = .empty) (hclears : Clears r cs s v) (hclears' : Clears r cs' s v') :
    Matches v v' := by
  rcases recorded_chainSteps hclears.chainSteps h.coherent with ⟨ks, closed, hrecorded⟩
  rcases recorded_chainSteps hclears'.chainSteps h'.coherent with ⟨ks', closed', hrecorded'⟩
  have hunwound := hclears.chainSteps.unwinds.unwound
  have hunwound' := hclears'.chainSteps.unwinds.unwound
  -- What is alive and what is open in the end does not depend on the order, so each
  -- record is a permutation of the other.
  have hlive : ∀ k, v'.isLive k = v.isLive k := fun k => by
    rw [Bool.eq_iff_iff, h.isLive_iff hclears, h'.isLive_iff hclears']
  have hopen : ∀ c, v'.isConnected c = v.isConnected c := fun c => by
    rw [Bool.eq_iff_iff, h.isConnected_iff hclears, h'.isConnected_iff hclears']
  have hslot : ∀ c, v'.slot c = v.slot c := fun c => by
    rw [h.slot_eq hclears, h'.slot_eq hclears', hopen]
  have hks : ∀ k, k ∈ ks' ↔ k ∈ ks := fun k => by rw [hrecorded.ended, hrecorded'.ended, hlive]
  have hclosed : ∀ c, c ∈ closed' ↔ c ∈ closed := fun c => by
    rw [hrecorded.closed, hrecorded'.closed, hopen]
  have hperm : closed'.Perm closed :=
    (List.perm_ext_iff_of_nodup hrecorded'.closedOnce hrecorded.closedOnce).mpr hclosed
  refine ⟨fun c => ?_, fun k => ?_, fun q => ?_, hrecorded'.counters.trans hrecorded.counters.symm,
    hunwound'.notifiers.trans hunwound.notifiers.symm,
    hunwound'.workers.trans hunwound.workers.symm, hunwound'.out.trans hunwound.out.symm,
    hrecorded'.held.trans hrecorded.held.symm, hrecorded'.thread.trans hrecorded.thread.symm,
    ?_, ?_, ?_⟩
  · rw [hrecorded.conn, hrecorded'.conn, hslot]
    simp only [hclosed]
  · -- A callback is what it keeps and under which locks it has ended.
    have hmarks := hrecorded.marks k
    have hmarks' := hrecorded'.marks k
    have hkeeps : v'.keeps k = v.keeps k := by
      rw [h.keeps_eq hclears, h'.keeps_eq hclears', hlive]
    simp only [hks, ← hmarks] at hmarks'
    rcases hrow : v.callbacks.get? k with _ | cb
    · rw [hrow, Option.map_none, Option.map_eq_none_iff] at hmarks'
      exact hmarks'
    · rw [hrow, Option.map_some, Option.map_eq_some_iff] at hmarks'
      rcases hmarks' with ⟨cb', hrow', hended⟩
      rw [keeps_of_get? hrow, keeps_of_get? hrow'] at hkeeps
      rw [hrow', Option.some.injEq]
      cases cb
      cases cb'
      exact (Callback.mk.injEq ..).mpr ⟨hkeeps, hended⟩
  · by_cases hq : q = r
    · rcases hrecorded.registry q with ⟨keep, hkeep⟩
      rcases hrecorded'.registry q with ⟨keep', hkeep'⟩
      rw [hkeep, hkeep', hq, hr, Registry.restrict_empty, Registry.restrict_empty]
    · rw [h.registry_eq hclears hq, h'.registry_eq hclears' hq, funext hopen]
  · rw [hrecorded.unreported, hrecorded'.unreported]
    exact ((List.perm_ext_iff_of_nodup hrecorded'.once hrecorded.once).mpr hks).append_right _
  · rw [hrecorded.log, hrecorded'.log]
    exact (hperm.map _).append_right _
  · rw [hrecorded.kernel, hrecorded'.kernel]
    refine Kernel.same_closes (hrecorded.closable hs) (List.Perm.filterMap _ ?_)
    exact (List.reverse_perm closed').trans (hperm.trans (List.reverse_perm closed).symm)

end Clearable

/-! ### What is released -/

/-- A notifier that was not running releases nothing. -/
theorem released_idle (h : s.Sane) (hstopped : s.running? n = none) :
    Released n s (s.reapDetached n) := by
  have hrunning := (quiet_reapDetached n s).running
  have hserves : ∀ c, ¬ s.serves n c := by
    rintro c ⟨running, hrun, -⟩
    exact absurd (hstopped.symm.trans hrun) (by simp only [reduceCtorEq, not_false_eq_true])
  have hstart : ∀ k, ¬ s.registeredAt n k := fun k ⟨c, hc, _⟩ => hserves c hc
  rcases reapDetached_frame n s with ⟨interests, notifiers, workers, heq⟩
  rw [heq] at hrunning ⊢
  refine ⟨?_, ?_, ?_, ⟨[], rfl, List.nodup_nil, fun k => ?_⟩, fun k => ?_, fun c => ?_,
    fun c hc => ?_, fun _ _ _ => rfl, fun q _ => ?_, fun m _ => hrunning m, rfl⟩
  · rw [isRunning, hrunning, hstopped]
    rfl
  · rw [System.registered, hrunning, hstopped]
  · intro running c hrun
    exact absurd (hstopped.symm.trans hrun) (by simp only [reduceCtorEq, not_false_eq_true])
  · exact ⟨fun hk => absurd hk List.not_mem_nil, fun hk => absurd hk (not_doomed hstart)⟩
  · exact ⟨fun hlive => ⟨hlive, not_doomed hstart⟩, And.left⟩
  · exact ⟨fun hopen => ⟨hopen, not_closes hstart⟩, And.left⟩
  · rcases hc with hserved | ⟨-, hshuts⟩
    · exact absurd hserved (hserves c)
    · exact absurd hshuts (not_closes hstart)
  · -- Whatever is listed anywhere is open.
    refine (Registry.restrict_true (h.orderly.coherent.sound q)).symm.trans
      (Registry.restrict_congr (h.orderly.coherent.sound q) fun id hid => ?_)
    rcases ((h.orderly.coherent.sound q).mem_order_iff id).mp hid with ⟨c, hc⟩
    have hopen : s.isConnected c = true := by
      by_contra hclosed
      have hnone := h.orderly.coherent.closed c (Bool.eq_false_iff.mpr hclosed)
      rw [(h.orderly.coherent.entry q id c hc).2] at hnone
      exact absurd hnone (by simp only [reduceCtorEq, not_false_eq_true])
    have hget := ((h.orderly.coherent.sound q).get?_eq_some_iff s.isConnected id c).mpr ⟨hc, hopen⟩
    change true = ((s.registry q).get? s.isConnected id).isSome
    rw [hget]
    rfl

variable {running : Running}

/-- What decides about falling is the same when the leftovers are about to be
    cleared. -/
theorem same_drained (n : NotifierKey) (running : Running) (s : System) :
    (∀ c, (s.drained n running).isConnected c = s.isConnected c) ∧
      (∀ c, (s.drained n running).isOwned c = s.isOwned c) ∧
      (∀ k, (s.drained n running).keeps k = s.keeps k) ∧
      ∀ c, (s.drained n running).slot c = s.slot c := by
  rcases drained_frame n running s with ⟨interests, notifiers, workers, registries, log, heq⟩
  rw [heq]
  exact ⟨fun _ => rfl, fun _ => rfl, fun _ => rfl, fun _ => rfl⟩

theorem doomed_drained (hrunning : s.running? n = some running) (k : CallbackKey) :
    Doomed ((s.drained n running).registeredWith running.registry) (s.drained n running) k ↔
      s.Falls n k := by
  rcases same_drained n running s with ⟨hopen, howned, hkeeps, hslot⟩
  constructor
  · refine doomed_congr (fun c => (hopen c).symm) (fun c => (howned c).symm)
      (fun j => (hkeeps j).symm) (fun c => (hslot c).symm) fun j hj => ?_
    rcases hj with ⟨c, hreg, hcallback⟩
    rw [hslot] at hreg hcallback
    exact ⟨c, ⟨running, hrunning, hreg⟩, hcallback⟩
  · refine doomed_congr hopen howned hkeeps hslot fun j hj => ?_
    rcases hj with ⟨c, ⟨running', hrunning', hreg⟩, hcallback⟩
    rw [Option.some.inj (hrunning'.symm.trans hrunning)] at hreg
    exact ⟨c, by rw [hslot, hreg], by rw [hslot, hcallback]⟩

theorem closes_drained (hrunning : s.running? n = some running) (c : ConnKey) :
    Closes ((s.drained n running).registeredWith running.registry) (s.drained n running) c ↔
      s.Shuts n c := by
  rcases same_drained n running s with ⟨hopen, howned, hkeeps, -⟩
  have hdoomed := doomed_drained hrunning
  constructor
  · rintro ⟨hc, hfree, hkept, hlost⟩
    simp only [hopen, howned, hkeeps] at hc hfree hkept hlost
    exact ⟨hc, hfree, hkept, fun j hj => (hdoomed j).mp (hlost j hj)⟩
  · rintro ⟨hc, hfree, hkept, hlost⟩
    simp only [← hopen, ← howned, ← hkeeps] at hc hfree hkept hlost
    exact ⟨hc, hfree, hkept, fun j hj => (hdoomed j).mpr (hlost j hj)⟩

/-- Clearing the leftovers releases what falls with the notifier and nothing
    else. -/
theorem released_emptied (h : s.Sane) (hrunning : s.running? n = some running)
    (hclear : Clearable running.registry cs (s.drained n running))
    (hclears : Clears running.registry cs (s.drained n running) v) (record : LogRecord) :
    Released n s (v.note record) := by
  have hplaces := livePlaces_drained h.livePlaces n running
  have hunwound := hclears.chainSteps.unwinds.unwound
  have hrunning' : ∀ m, v.running? m = if m = n then none else s.running? m := fun m =>
    (hunwound.running m).trans (running?_drained n running s m)
  have hself : v.running? n = none := (hrunning' n).trans (if_pos rfl)
  have hdead : ∀ k, s.Falls n k → v.isLive k = false := fun k hk =>
    hclear.isLive_of_doomed hclears ((doomed_drained hrunning k).mpr hk)
  have hserves : ∀ c, s.serves n c ↔ (s.slot c).registry = some running.registry := by
    intro c
    constructor
    · rintro ⟨running', hrun, hreg⟩
      rw [hreg, Option.some.inj (hrun.symm.trans hrunning)]
    · exact fun hreg => ⟨running, hrunning, hreg⟩
  -- What falls is in a slot, and so it was living.
  have hfallen : ∀ k, s.Falls n k → s.isLive k = true := by
    intro k hk
    cases hk with
    | started hstart =>
        rcases hstart with ⟨c, -, hcallback⟩
        exact h.livePlaces.seated c k hcallback
    | closed hopen hfree hkept hlost hslot => exact h.livePlaces.seated _ k hslot
  rcases recorded_chainSteps hclears.chainSteps hclear.coherent with ⟨ks, closed, hrecorded⟩
  have hlive := hclear.isLive_iff hclears
  have hopen := hclear.isConnected_iff hclears
  have hslot := hclear.slot_eq hclears
  have hunnamed := hclear.registry_ne hclears
  have hregistries := fun q => hclear.registry_eq hclears (q := q)
  have hended := hrecorded.ended
  have hunreported := hrecorded.unreported
  have hout := hunwound.out
  simp only [doomed_drained hrunning] at hlive
  simp only [closes_drained hrunning] at hopen
  simp only [registry_drained] at hregistries
  -- From here on everything is about the state before the shutdown.
  rcases drained_frame n running s with ⟨interests, notifiers, workers, registries, log, heq⟩
  rw [heq] at hlive hopen hslot hended hunreported hout
  refine ⟨?_, ?_, ?_, ⟨ks, hunreported, hrecorded.once, fun k => ?_⟩, hlive, hopen, fun c hc => ?_,
    fun c hserved hshuts => ?_, fun q hq => ?_, fun m hm => ?_, hout⟩
  · rw [isRunning, show (v.note record).running? n = none from hself]
    rfl
  · rw [System.registered, show (v.note record).running? n = none from hself]
  · intro running' c hrun
    rw [Option.some.inj (hrun.symm.trans hrunning)]
    exact hunnamed c
  · rw [hended]
    refine ⟨fun hk => ?_, fun hk => ⟨hfallen k hk, hdead k hk⟩⟩
    by_contra hspared
    exact Bool.false_ne_true (hk.2.symm.trans ((hlive k).mpr ⟨hk.1, hspared⟩))
  · refine (hslot c).trans (if_pos ?_)
    refine hc.imp (hserves c).mp fun hboth => ⟨hboth.1, Bool.eq_false_iff.mpr fun hstands => ?_⟩
    exact ((hopen c).mp hstands).2 hboth.2
  · refine (hslot c).trans (if_neg ?_)
    rintro (hreg | ⟨hreg, hclosed⟩)
    · exact hserved ((hserves c).mpr hreg)
    · -- What is registered is open, and it does not close.
      have hstands : s.isConnected c = true := by
        by_contra hnot
        have hnone := h.orderly.coherent.closed c (Bool.eq_false_iff.mpr hnot)
        have hreg' : (s.slot c).registry.isSome = true := hreg
        rw [hnone] at hreg'
        exact Bool.false_ne_true hreg'
      exact Bool.false_ne_true (hclosed.symm.trans ((hopen c).mpr ⟨hstands, hshuts⟩))
  · have hne := hq running hrunning
    have hsame := hregistries q hne
    rw [if_neg hne] at hsame
    exact hsame
  · exact (hrunning' m).trans (if_neg hm)

/-- Whatever the order of the leftovers, a shutdown releases what falls with the
    notifier and nothing else. -/
theorem ShutsDown.released (h : s.Sane) (hcs : cs.Perm (s.leftovers n))
    (hshuts : ShutsDown n cs s t) : Released n s t := by
  cases hshuts with
  | idle hstopped heq => exact heq ▸ released_idle h hstopped
  | emptied hrunning hclears heq =>
      exact heq ▸ released_emptied h hrunning (clearable_drained h hrunning hcs) hclears _

theorem matches_refl (s : System) : Matches s s :=
  ⟨fun _ => rfl, fun _ => rfl, fun _ => rfl, rfl, rfl, rfl, rfl, rfl, rfl, List.Perm.refl _,
    List.Perm.refl _, ⟨⟨_, _, rfl⟩, rfl, rfl, fun _ => rfl, fun _ _ => rfl, fun _ => rfl,
      fun _ => List.Perm.refl _⟩⟩

/-- Shutdowns that find the leftovers in different orders leave matching
    states. -/
theorem ShutsDown.matches (h : s.Sane) (hcs : cs.Perm (s.leftovers n))
    (hcs' : cs'.Perm (s.leftovers n)) (hshuts : ShutsDown n cs s t)
    (hshuts' : ShutsDown n cs' s u) :
    Matches t u := by
  cases hshuts with
  | idle hstopped heq =>
      cases hshuts' with
      | idle _ heq' =>
          rw [heq, heq']
          exact matches_refl _
      | emptied hrunning _ _ =>
          exact absurd (hstopped.symm.trans hrunning)
            (by simp only [reduceCtorEq, not_false_eq_true])
  | @emptied running v hrunning hclears heq =>
      cases hshuts' with
      | idle hstopped _ =>
          exact absurd (hstopped.symm.trans hrunning)
            (by simp only [reduceCtorEq, not_false_eq_true])
      | @emptied running' v' hrunning' hclears' heq' =>
          obtain rfl : running' = running := Option.some.inj (hrunning'.symm.trans hrunning)
          have hempty : (s.drained n running').registry running'.registry = .empty := by
            rw [registry_drained, if_pos rfl]
          have hmatches := (clearable_drained h hrunning hcs).matches_clears
            (wired_still h.wired (still_drained n running' s)) (clearable_drained h hrunning hcs')
            hempty hclears hclears'
          -- As many were cleared, so the last record is the same.
          rw [heq, heq', hcs.length_eq, hcs'.length_eq]
          exact { hmatches with log := hmatches.log.cons _ }

/-! ### What is under way -/

/-- After a shutdown all is in order, and what is in its place is living. -/
theorem ShutsDown.kept (h : s.Sane) (hcs : cs.Perm (s.leftovers n)) (hshuts : ShutsDown n cs s t) :
    t.Orderly ∧ t.LivePlaces := by
  cases hshuts with
  | idle hstopped heq =>
      rw [heq]
      exact ⟨orderly_quiet h.orderly (quiet_reapDetached n s),
        livePlaces_quiet h.livePlaces (quiet_reapDetached n s)⟩
  | @emptied running v hrunning hclears heq =>
      have hclear := clearable_drained h hrunning hcs
      have hcoherent := (coherent_unwinds hclears.chainSteps.unwinds hclear.coherent).back
        (hclear.registry_ne hclears)
      rw [heq]
      have hplaces := livePlaces_felled (livePlaces_drained h.livePlaces n running) hclears.felled
      exact ⟨orderly_quiet ⟨hcoherent, hclears.heldBut _ hclear.held⟩ (quiet_note _ v),
        livePlaces_quiet hplaces (quiet_note _ v)⟩

/-- What is living and in one place was made and is in one place. -/
theorem LivePlaces.placed (h : s.LivePlaces) (hs : s.Orderly)
    (hout : (s.out.map Taken.callback).Nodup) :
    s.Placed := by
  have hknown : ∀ k, s.isLive k = true → k < s.callbacks.size := by
    intro k hlive
    by_contra hsize
    have hnone : s.callbacks.get? k = none := Array.getElem?_eq_none (Nat.le_of_not_lt hsize)
    simp only [isLive, hnone, Bool.false_eq_true] at hlive
  exact ⟨hs.coherent.filled, fun c k hk => hknown k (h.seated c k hk),
    fun x hx => hknown _ (h.taken x hx), h.alone, h.apart, hout⟩

/-- Counts do not depend on anything but slots and what is out. -/
theorem Stamped.congr {c : ConnKey} {count : Nat} (h : s.Stamped c count)
    (hslot : t.slot c = s.slot c) (hout : t.out = s.out) : t.Stamped c count := by
  refine ⟨?_, ?_, ?_, ?_⟩
  · rw [hslot]
    exact h.generation
  · rw [hout]
    exact h.past
  · rw [hout, hslot]
    exact h.present
  · rw [hout]
    exact h.sole

/-- What is refused at the end of its call is destroyed, once. -/
theorem retired_finish (hs : s.Orderly) (h : s.LivePlaces) {x : Taken} (hx : x ∈ s.out)
    (hne : (s.slot x.conn).generation ≠ x.generation) (exit : Exit) :
    Retired x.callback s (s.finish x exit) := by
  have hplaces := livePlaces_finish h hx exit
  -- The end of the call is logged at most, and then the callback is destroyed.
  obtain ⟨v, hnoted, hlive, hunreported, heq⟩ : ∃ v : System, Noted s v ∧
      (∀ k, v.isLive k = s.isLive k) ∧ v.unreported = s.unreported ∧
      s.finish x exit = (v.destroy x.callback).settleTaken x.callback := by
    rcases refused_of_generation_ne hne with ⟨-, hputBack, -, record, hgiveUp⟩
    cases exit with
    | returned => exact ⟨s, ⟨s.held, s.log, rfl⟩, fun _ => rfl, rfl, by rw [finish, hputBack]⟩
    | panicked => exact ⟨s.note record, ⟨s.held, _, rfl⟩, fun _ => rfl, rfl, hgiveUp⟩
  have hdestroys := destroys_destroy x.callback v
  have hdead : (s.finish x exit).isLive x.callback = false := by
    rw [heq]
    exact hdestroys.isLive
  rcases recorded_chainSteps hdestroys.chainSteps (coherent_quiet hs.coherent hnoted.quiet) with
    ⟨ks, closed, hrecorded⟩
  refine ⟨h.taken x hx, hdead, ⟨ks, ?_, hrecorded.once, ?_⟩, fun c hc => ?_, fun y hy hyx => ?_⟩
  · rw [heq, ← hunreported]
    exact hrecorded.unreported
  · exact (hrecorded.ended _).mpr ⟨(hlive _).trans (h.taken x hx), hdestroys.isLive⟩
  · exact Bool.false_ne_true (hdead.symm.trans (hplaces.seated c _ hc))
  · have hkept := hplaces.taken y hy
    rw [hyx] at hkept
    exact Bool.false_ne_true (hdead.symm.trans hkept)

/-- What was out of a slot whose registration a shutdown cleared carries a count
    of the past from then on. -/
theorem generation_ne_of_shutsDown {ms : List Move} {r₀ : Nat} {x : Taken}
    (hms : ∀ m ∈ ms, m.isInternal = false) (hcs : cs.Perm ((run ms (init r₀)).leftovers n))
    (hshuts : ShutsDown n cs (run ms (init r₀)) t) (hx : x ∈ (run ms (init r₀)).out)
    (hserves : (run ms (init r₀)).serves n x.conn) {ms' : List Move}
    (hbound : changesIn x.conn (ms ++ [.shutdown n]) (init r₀) + changesIn x.conn ms' t <
      UInt64.size) :
    ((run ms' t).slot x.conn).generation ≠ x.generation := by
  have hsane := sane_run r₀ ms hms
  rcases hshuts.kept hsane hcs with ⟨horderly, hplaces⟩
  have hmatches := (shutsDown_shutdown n (run ms (init r₀))).matches hsane (List.Perm.refl _) hcs
    hshuts
  rw [changesIn_append, changesIn, changesIn, Nat.add_zero] at hbound
  -- The shutdown that is carried out has the same slots, and so the same counts.
  have hstamped := stamped_run ms (placed_init r₀) (stamped_init r₀ x.conn) (by omega)
  have hafter := stamped_perform (.shutdown n) (placed_run ms (placed_init r₀)) hstamped (by omega)
  have hstamped' := stamped_run ms'
    (hplaces.placed horderly (hmatches.out ▸
      (placed_perform (.shutdown n) (placed_run ms (placed_init r₀))).nodup))
    (hafter.congr (slot_congr (hmatches.conn x.conn)) hmatches.out) (by omega)
  -- Clearing the registration has raised the count.
  have hraised : 0 < (Move.shutdown n).changes (run ms (init r₀)) x.conn := by
    by_contra hzero
    have hsame := hafter.generation
    rw [Nat.eq_zero_of_not_pos hzero, Nat.add_zero, ← hstamped.generation] at hsame
    change (((run ms (init r₀)).shutdown n).slot x.conn).generation = _ at hsame
    rw [((shutsDown_shutdown n _).released hsane (List.Perm.refl _)).cleared x.conn
      (Or.inl hserves)] at hsame
    have hnext : ((run ms (init r₀)).slot x.conn).generation + 1 =
        ((run ms (init r₀)).slot x.conn).generation := hsame
    exact absurd hnext (by simp)
  rcases hstamped.past x hx rfl with ⟨j, hj, hpast⟩
  rw [hstamped'.generation, hpast]
  intro heq
  have hcount := ofNat_inj (by omega) (by omega) heq
  omega

/-- A shutdown of a notifier of a program in any state, called by whomever, ends
    in whatever order it finds the leftovers, and the one that is carried out
    finds them in some order. It releases what is registered with the notifier
    and what falls with that, each callback once, and nothing else, and the
    order does not matter. What is under way with one of its connections is
    living until the call ends, whatever is done meanwhile, and is destroyed
    then, once, and does not go back, as long as the connection sees fewer
    changes than there are counts. -/
theorem shutdown_releases (r₀ : Nat) (ms : List Move) (hms : ∀ m ∈ ms, m.isInternal = false)
    (n : NotifierKey) (cs : List ConnKey) (hcs : cs.Perm ((run ms (init r₀)).leftovers n)) :
    let s := run ms (init r₀)
    ShutsDown n (s.leftovers n) s (s.shutdown n) ∧ (∃ t, ShutsDown n cs s t) ∧
      ∀ t, ShutsDown n cs s t → Released n s t ∧ Matches (s.shutdown n) t ∧
        ∀ x ∈ s.out, s.serves n x.conn → ∀ ms' : List Move, (∀ m ∈ ms', m.isInternal = false) →
          x ∈ (run ms' t).out →
          changesIn x.conn (ms ++ [.shutdown n]) (init r₀) + changesIn x.conn ms' t < UInt64.size →
            ∀ exit, Retired x.callback (run ms' t) ((run ms' t).finish x exit) := by
  intro s
  have hsane := sane_run r₀ ms hms
  refine ⟨shutsDown_shutdown n s, exists_shutsDown n cs s, fun t hshuts =>
    ⟨hshuts.released hsane hcs,
      (shutsDown_shutdown n s).matches hsane (List.Perm.refl _) hcs hshuts,
      fun x hx hserves ms' hms' hx' hbound exit => ?_⟩⟩
  rcases hshuts.kept hsane hcs with ⟨horderly, hplaces⟩
  exact retired_finish (orderly_run ms' hms' horderly) (livePlaces_run ms' hms' hplaces) hx'
    (generation_ne_of_shutsDown hms hcs hshuts hx hserves hbound) exit

/-- One callback keeps its own connection. Two keep each other's connections, one
    of them registered with another notifier and keeping a third connection as
    well. A fourth is being called, and its connection is registered again before
    the call ends. The leftovers come in reverse order. -/
theorem shutdown_releases_cascade :
    let ms : List Move := [.pair 10 11, .pair 12 13, .pair 14 15, .addNotifier .default,
      .addNotifier .default, .set 0 0 (some 0), .set 0 2 (some 4), .set 1 4 (some 2), .entrust 2 1,
      .set 0 3 none, .write 2 [97], .begin 3 4, .drop 0, .drop 1, .drop 2, .drop 4]
    let s := run ms (init 0)
    let t := ((s.drained 0 ⟨0, 0⟩).detachAll 0 [3, 2, 0]).note (.notifierShutDown 3)
    let u := run [.set 0 3 none] t
    (∀ m ∈ ms, m.isInternal = false) ∧ [3, 2, 0].Perm (s.leftovers 0) ∧
      ShutsDown 0 [3, 2, 0] s t ∧ Released 0 s t ∧ Matches (s.shutdown 0) t ∧
      ⟨3, 3, 1, true⟩ ∈ s.out ∧ s.serves 0 3 ∧ ⟨3, 3, 1, true⟩ ∈ u.out ∧
      changesIn 3 (ms ++ [.shutdown 0]) (init 0) + changesIn 3 [.set 0 3 none] t < UInt64.size ∧
      Retired 3 u (u.finish ⟨3, 3, 1, true⟩ .returned) ∧
      (s.shutdown 0).unreported = [2, 1, 0] ∧ t.unreported = [0, 2, 1] ∧
      (List.range 6).map s.isConnected = [true, true, true, true, true, true] ∧
      (List.range 6).map t.isConnected = [false, false, false, true, false, true] := by
  intro ms s t u
  have hms : ∀ m ∈ ms, m.isInternal = false := by decide
  have hcs : [3, 2, 0].Perm (s.leftovers 0) := by decide +kernel
  have hrunning : s.running? 0 = some ⟨0, 0⟩ := by decide +kernel
  have hshuts : ShutsDown 0 [3, 2, 0] s t := .emptied hrunning (clears_detachAll 0 _ _) rfl
  have hout : ⟨3, 3, 1, true⟩ ∈ s.out := by decide +kernel
  have hserves : s.serves 0 3 := ⟨⟨0, 0⟩, hrunning, by decide +kernel⟩
  have hout' : ⟨3, 3, 1, true⟩ ∈ u.out := by decide +kernel
  have hbound : changesIn 3 (ms ++ [.shutdown 0]) (init 0) + changesIn 3 [.set 0 3 none] t <
      UInt64.size := by decide +kernel
  rcases (shutdown_releases 0 ms hms 0 [3, 2, 0] hcs).2.2 t hshuts with
    ⟨hreleased, hmatches, hretired⟩
  refine ⟨hms, hcs, hshuts, hreleased, hmatches, hout, hserves, hout', hbound,
    hretired _ hout hserves _ (by decide) hout' hbound .returned, ?_, ?_, ?_, ?_⟩
  · decide +kernel
  · decide +kernel
  · decide +kernel
  · decide +kernel

end System

end ReadNotify
