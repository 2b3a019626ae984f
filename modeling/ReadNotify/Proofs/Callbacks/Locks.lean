import ReadNotify.Proofs.Callbacks.Reentry

/-!
# Locks Around Code of the Program

If code of the program ran while its thread holds a lock of the library, and then
asked for that lock again, the thread would wait for itself. A slot's lock is
released before the callback that was in the slot is destroyed, a registry's lock
covers nothing but the registry, and a shutdown gives the state of its notifier
free before it waits or clears anything.

Registering and unregistering are different. They hold the state of their notifier
until they return, and the callback that was replaced or cleared is destroyed
before. So the code that runs then may not ask for that state: registering or
unregistering with that notifier, shutting it down, asking whether it runs or how
many connections it has, all of this waits forever. There is no other way for a
thread to ask for what it holds, and that is what is shown here.

The argument is one invariant: the locks that the thread holds are those of its
pending calls (`Runs.fits`). Everything else that is locked is unlocked before the
next piece of code begins.

## Main definitions

* `Pending.lock?`, `locksOf`: The lock that a call holds, and those of several.
* `Request.registers`: Whether a call registers or unregisters.
* `Scene.Fits`: A scene is as its pending calls say.
* `System.StateOnly`: Which locks code of the program runs under, and when a thread
  asks for one that it holds.

## Theorems

* `Runs.fits`: All scenes of a run are as their pending calls say.
* `Runs.code_of_replaced`, `Runs.code_of_cleared`: Code that does run under a lock.
* `locked_by_registering`: Both together, for a thread that holds no lock.
-/

namespace ReadNotify

/-- The lock that a call holds while code runs in it. -/
def Pending.lock? : Pending → Option Lock
  | registering n _ _ | unregistering n _ => some (.state n)
  | other _ => none

/-- The locks that the calls hold that have not returned. -/
def locksOf (ps : List Pending) : List Lock := ps.filterMap Pending.lock?

/-- Whether a call registers or unregisters. -/
def Request.registers : Request → Bool
  | set .. | unset .. => true
  | _ => false

/-- A scene is as its pending calls say: code of the program runs under their locks, a
    lock is asked for under itself only if it is one of them, and the calls are of some
    kind. -/
def Scene.Fits (p : Request → Prop) : Scene → Prop
  | code ps locks => locks = (locksOf ps).map .lasting ∧ ∀ f ∈ ps, p f.call
  | asked ps l locks =>
    (l ∈ locks ↔ ∃ n, l = .lasting (.state n) ∧ .state n ∈ locksOf ps) ∧ ∀ f ∈ ps, p f.call

/-- Only states of notifiers are locked by calls that have not returned. -/
theorem mem_locksOf {ps : List Pending} {l : Lock} : l ∈ locksOf ps ↔
    ∃ n, l = .state n ∧ ∃ f ∈ ps,
      (∃ c hold, f = .registering n c hold) ∨ ∃ c, f = .unregistering n c := by
  rw [locksOf, List.mem_filterMap]
  constructor
  · rintro ⟨f, hf, hl⟩
    -- Registering and unregistering hold the lock, and nothing else does.
    cases f with
    | registering n c hold => exact ⟨n, (Option.some.inj hl).symm, _, hf, Or.inl ⟨c, hold, rfl⟩⟩
    | unregistering n c => exact ⟨n, (Option.some.inj hl).symm, _, hf, Or.inr ⟨c, rfl⟩⟩
    | other a => exact absurd hl (by simp only [Pending.lock?, reduceCtorEq, not_false_eq_true])
  · rintro ⟨n, rfl, f, hf, ⟨c, hold, rfl⟩ | ⟨c, rfl⟩⟩
    · exact ⟨_, hf, rfl⟩
    · exact ⟨_, hf, rfl⟩

/-- The locks of what is pending are locks of notifiers. -/
theorem state_of_mem_locksOf {ps : List Pending} {l : Lock} (h : l ∈ locksOf ps) :
    ∃ n, l = .state n := by
  rcases mem_locksOf.mp h with ⟨n, hn, -⟩
  exact ⟨n, hn⟩

namespace System

variable {s t u : System} {p : Request → Prop} {ps : List Pending} {es : List Scene}

/-! ### What the parts of operations leave locked -/

theorem held_clearSlot (c : ConnKey) (s : System) : (s.clearSlot c).1.held = s.held := by
  rcases clearSlot_cases c s with ⟨-, heq⟩ | ⟨conn, r, -, -, -, heq⟩
  · rw [heq]
  · rw [heq]
    rfl

theorem held_disconnect (c : ConnKey) (s : System) : (s.disconnect c).held = s.held := by
  cases hopen : s.isConnected c with
  | false => simp only [disconnect, markClosed, hopen, Bool.false_eq_true, if_false]
  | true =>
      rcases disconnect_of_open hopen with ⟨connections, kernel, heq⟩
      rw [heq]

theorem held_install (c : ConnKey) (r : RegistryKey) (k : CallbackKey) (s : System) :
    (s.install c r k).1.held = s.held := by
  rcases install_frame c r k s with ⟨registries, -, heq⟩
  rw [heq]
  rfl

theorem held_reapDetached (n : NotifierKey) (s : System) : (s.reapDetached n).held = s.held := by
  rcases reapDetached_frame n s with ⟨interests, notifiers, workers, heq⟩
  rw [heq]

theorem held_ensureRunning (n : NotifierKey) (s : System) :
    (s.ensureRunning n).1.held = s.held := by
  unfold ensureRunning
  rcases s.notifiers.get? n with _ | notifier
  · rfl
  · dsimp only
    -- Starting a worker takes no lock, whether it comes about or not.
    rcases notifier.running with _ | running
    · dsimp only [startWorker]
      split
      · rfl
      · split
        · rfl
        · rfl
        · rfl
    · rfl

theorem held_entered (n : NotifierKey) (s : System) :
    (s.entered n).1.held = .state n :: s.held :=
  (held_ensureRunning n _).trans (congrArg (List.cons _) (held_reapDetached n s))

theorem held_drained (n : NotifierKey) (running : Running) (s : System) :
    (s.drained n running).held = s.held := by
  rcases drained_frame n running s with ⟨interests, notifiers, workers, registries, log, heq⟩
  rw [heq]

theorem held_receive (c : ConnKey) (n : Nat) (s : System) : (s.receive c n).1.held = s.held := by
  unfold receive
  rcases s.socket? c with _ | q
  · rfl
  · dsimp only
    rcases s.kernel.receive q n with ⟨k, data | code⟩
    · rfl
    · rfl

theorem held_begin (c : ConnKey) (size : Nat) (s : System) : (s.begin c size).1.held = s.held := by
  rcases begin_cases c size s with ⟨-, heq⟩ | ⟨t, -, -, -, -, record, heq⟩
  · rw [heq]
  · rw [heq]
    exact held_receive c size (s.takenOut t)

/-- What was locked last is unlocked. -/
theorem held_release {l : Lock} {ls : List Lock} (h : s.held = l :: ls) :
    (s.release l).held = ls := by
  rw [release, h, List.erase_cons_head]

theorem held_putBack {t : Taken} (hback : s.mayReturn t = true) :
    (s.putBack t).1.held = s.held := by
  rcases putBack_cases t s with ⟨-, -, heq⟩ | ⟨hmay, -, -⟩
  · rw [heq]
    rfl
  · exact absurd (hmay.symm.trans hback) Bool.false_ne_true

theorem called {f : Pending} (hf : p f.call) (hps : ∀ g ∈ ps, p g.call) :
    ∀ g ∈ f :: ps, p g.call := List.forall_mem_cons.mpr ⟨hf, hps⟩

/-- The lock of a registry is nobody's when it is asked for. -/
theorem fits_asked_registry (hps : ∀ f ∈ ps, p f.call) (r : RegistryKey) (ls : List Lock) :
    (Scene.asked ps (.registry r) (ls.map .lasting)).Fits p := by
  refine ⟨iff_of_false ?_ ?_, hps⟩
  · simp only [List.mem_map, reduceCtorEq, and_false, exists_false, not_false_eq_true]
  · rintro ⟨n, heq, -⟩
    exact absurd heq (by simp only [reduceCtorEq, not_false_eq_true])

/-- What is asked for fits if the thread holds the locks of its pending calls. -/
theorem fits_asks (hs : s.held = locksOf ps) (hps : ∀ f ∈ ps, p f.call) (l : Lock)
    (rs : List RegistryKey) : ∀ e ∈ s.asks ps l rs, e.Fits p := by
  have hlatches : s.latches = (locksOf ps).map .lasting := by rw [latches, hs]
  intro e he
  rw [asks, hlatches, List.mem_cons, List.mem_map] at he
  -- The lock that is asked for comes first, then the registries while it is held.
  rcases he with rfl | ⟨r, -, rfl⟩
  · refine ⟨?_, hps⟩
    rw [List.mem_map]
    constructor
    · rintro ⟨l', hl', heq⟩
      rcases state_of_mem_locksOf hl' with ⟨n, rfl⟩
      exact ⟨n, heq.symm, hl'⟩
    · rintro ⟨n, heq, hn⟩
      exact ⟨_, hn, heq.symm⟩
  · exact fits_asked_registry hps r (l :: locksOf ps)

/-- A thread that holds the locks of its pending calls holds them again when a job is
    done, and what is told in between fits. -/
theorem Runs.fits {j : Job} (h : Runs p ps j s es t) (hj : ∀ a, j = .call a → p a)
    (hps : ∀ f ∈ ps, p f.call) (hs : s.held = locksOf ps) :
    t.held = locksOf ps ∧ ∀ e ∈ es, e.Fits p := by
  -- By the rules of the run. What is done between two parts of a job locks nothing that
  -- outlasts it, so each part begins with the locks that the one before it has left.
  induction h with
  | code _ ih =>
      have hcalls := ih nofun hps hs
      exact ⟨hcalls.1, List.forall_mem_cons.mpr ⟨⟨by rw [latches, hs], hps⟩, hcalls.2⟩⟩
  | returns => exact ⟨hs, nofun⟩
  | calls ha _ _ ihcall ihrest =>
      have hcall := ihcall (fun a heq => Job.call.inj heq ▸ ha) hps hs
      have hrest := ihrest nofun hps hcall.1
      exact ⟨hrest.1, List.forall_mem_append.mpr ⟨hcall.2, hrest.2⟩⟩
  | vacant => exact ⟨hs, nofun⟩
  | spared _ => exact ⟨hs, nofun⟩
  | ended _ _ _ ih => exact ih nofun hps hs
  | done _ ih => exact ih nofun hps hs
  | kept _ _ _ ihcode ihrest =>
      have hcode := ihcode nofun hps hs
      have hrest := ihrest nofun hps hcode.1
      exact ⟨hrest.1, List.forall_mem_append.mpr ⟨hcode.2, hrest.2⟩⟩
  | closed _ _ _ _ ihcode ihclear ihrest =>
      have hcode := ihcode nofun hps hs
      have hclear := ihclear nofun hps hcode.1
      have hrest := ihrest nofun hps ((held_disconnect _ _).trans hclear.1)
      exact ⟨hrest.1, List.forall_mem_append.mpr
        ⟨List.forall_mem_append.mpr ⟨hcode.2, hclear.2⟩, hrest.2⟩⟩
  | unaltered _ => exact ⟨hs, fits_asks hs hps _ _⟩
  | @cleared _ _ c o _ s u _ _ hclear _ ih =>
      have hu : u.held = s.held := by
        rw [← held_clearSlot c s, hclear]
      have hrest := ih nofun hps (hu.trans hs)
      exact ⟨hrest.1, List.forall_mem_append.mpr ⟨fits_asks hs hps _ _, hrest.2⟩⟩
  | swept => exact ⟨hs, nofun⟩
  | sweeps _ _ ihfirst ihrest =>
      have hfirst := ihfirst nofun hps hs
      have hrest := ihrest nofun hps hfirst.1
      exact ⟨hrest.1, List.forall_mem_append.mpr ⟨hfirst.2, hrest.2⟩⟩
  | refused _ _ ih =>
      exact ih nofun (called (hj _ rfl) hps) hs
  | @failed _ n c hold fault _ s u _ _ hfault _ ih =>
      -- The state is unlocked before the callback that was refused is destroyed.
      have hu : (u.release (.state n)).held = s.held := by
        have hentered := held_entered n (s.withCallback hold.toList)
        rw [hfault] at hentered
        exact held_release hentered
      have hrest := ih nofun (called (hj _ rfl) hps) (hu.trans hs)
      exact ⟨hrest.1, List.forall_mem_append.mpr ⟨fits_asks hs hps _ _, hrest.2⟩⟩
  | @registers ps n c hold running o appended _ s u v w _ hrun hinstall _ ih =>
      have hentered := held_entered n (s.withCallback hold.toList)
      have hinstalled := held_install c running.registry s.callbacks.size u
      rw [hrun] at hentered
      rw [hinstall] at hinstalled
      -- From here on the state of the notifier is locked, as the pending call says.
      have hu : u.held = locksOf (.registering n c hold :: ps) :=
        hentered.trans (congrArg (List.cons _) hs)
      have hpending := called (f := .registering n c hold) (hj _ rfl) hps
      have hrest := ih nofun hpending (hinstalled.trans hu)
      refine ⟨?_, List.forall_mem_append.mpr ⟨List.forall_mem_append.mpr
        ⟨fits_asks hs hps _ _, fits_asks hu hpending _ _⟩, hrest.2⟩⟩
      split
      · exact (held_release hrest.1).trans rfl
      · exact held_release hrest.1
  | unregistered _ => exact ⟨hs, fits_asks hs hps _ _⟩
  | @unregisters ps n c running _ s u _ _ ih =>
      have hpending := called (f := .unregistering n c) (hj _ rfl) hps
      have hrest := ih nofun hpending (congrArg (List.cons _) hs)
      refine ⟨?_, List.forall_mem_append.mpr ⟨fits_asks hs hps _ _, hrest.2⟩⟩
      split
      · exact held_release hrest.1
      · exact held_release hrest.1
  | resting _ => exact ⟨(held_reapDetached _ _).trans hs, fits_asks hs hps _ _⟩
  | shuts _ _ ih =>
      -- Its state is free again when a shutdown drains the registry.
      have hrest := ih nofun (called (hj _ rfl) hps) ((held_drained _ _ _).trans hs)
      refine ⟨hrest.1, List.forall_mem_append.mpr ⟨fits_asks hs hps _ _,
        List.forall_mem_cons.mpr ⟨?_, hrest.2⟩⟩⟩
      rw [latches, hs]
      exact fits_asked_registry hps _ _
  | counts => exact ⟨hs, fits_asks hs hps _ _⟩
  | looks => exact ⟨hs, fits_asks hs hps _ _⟩
  | closes _ ih =>
      have hclear := ih nofun (called (hj _ rfl) hps) hs
      exact ⟨(held_disconnect _ _).trans hclear.1, hclear.2⟩
  | absent _ => exact ⟨hs, nofun⟩
  | shared _ _ => exact ⟨hs, nofun⟩
  | drops _ _ _ ih =>
      have hclear := ih nofun (called (hj _ rfl) hps) hs
      exact ⟨(held_disconnect _ _).trans hclear.1, hclear.2⟩
  | skips _ => exact ⟨hs, fits_asks hs hps _ _⟩
  | @returned ps c size _ taken data s u v hbegin _ hback ih =>
      -- The slot is unlocked before the body runs, and locked anew to put it back.
      have hu := held_begin c size s
      rw [hbegin] at hu
      have hbody := ih nofun (called (hj _ rfl) hps) (hu.trans hs)
      have hv : v.held = locksOf ps := hbody.1
      exact ⟨(held_putBack hback).trans hv, List.forall_mem_append.mpr
        ⟨List.forall_mem_append.mpr ⟨fits_asks hs hps _ _, hbody.2⟩, fits_asks hv hps _ _⟩⟩
  | @outdated ps c size _ _ taken data s u v w hbegin _ hback _ ihbody ihrest =>
      have hu := held_begin c size s
      rw [hbegin] at hu
      have hpending := called (f := .other _) (hj _ rfl) hps
      have hbody := ihbody nofun hpending (hu.trans hs)
      have hrest := ihrest nofun hpending hbody.1
      have hv : v.held = locksOf ps := hbody.1
      exact ⟨hrest.1, List.forall_mem_append.mpr
        ⟨List.forall_mem_append.mpr ⟨fits_asks hs hps _ _, hbody.2⟩,
          List.forall_mem_append.mpr ⟨fits_asks hv hps _ _, hrest.2⟩⟩⟩
  | @panicked ps c size _ _ _ taken data s u v w t hbegin _ _ _ ihbody ihclear ihrest =>
      have hu := held_begin c size s
      rw [hbegin] at hu
      have hpending := called (f := .other _) (hj _ rfl) hps
      have hbody := ihbody nofun hpending (hu.trans hs)
      have hclear := ihclear nofun hpending hbody.1
      have hrest := ihrest nofun hpending hclear.1
      exact ⟨hrest.1, List.forall_mem_append.mpr
        ⟨List.forall_mem_append.mpr ⟨fits_asks hs hps _ _, hbody.2⟩,
          List.forall_mem_append.mpr ⟨hclear.2, hrest.2⟩⟩⟩
  | passes => exact ⟨hs, nofun⟩

/-! ### Where code runs for certain -/

theorem Runs.code_of_code (h : Runs p ps .code s es t) : .code ps s.latches ∈ es := by
  cases h with
  | code _ => exact List.mem_cons_self

/-- However many handles there are to let go of, code comes first. -/
theorem Runs.code_of_letGo {k : CallbackKey} {hs : List ConnKey}
    (h : Runs p ps (.letGo k hs) s es t) : .code ps s.latches ∈ es := by
  cases h with
  | done hcode => exact hcode.code_of_code
  | kept hcode _ _ => exact List.mem_append_left _ hcode.code_of_code
  | closed hcode _ _ _ => exact List.mem_append_left _ (List.mem_append_left _ hcode.code_of_code)

/-- Whoever destroys a callback that is living runs code of the program. -/
theorem Runs.code_of_destroy {k : CallbackKey} (h : Runs p ps (.destroy (some k)) s es t)
    (hlive : s.isLive k = true) : .code ps s.latches ∈ es := by
  cases h with
  | spared hdead => exact absurd (hdead.symm.trans hlive) Bool.false_ne_true
  | ended _ _ hrest => exact hrest.code_of_letGo

theorem Runs.code_of_detach {q : Slot → Bool} {c : ConnKey} {k : CallbackKey}
    (h : Runs p ps (.detach q c) s es t) (hq : q (s.slot c) = true)
    (hreg : (s.slot c).registry ≠ none) (hslot : (s.slot c).callback = some k)
    (hlive : s.isLive k = true) : .code ps s.latches ∈ es := by
  cases h with
  | unaltered hnone => exact absurd (hnone hq) hreg
  | @cleared _ _ _ o _ _ u _ _ hclear hrest =>
      have hheld := held_clearSlot c s
      have hcallbacks := (tables_clearSlot c s).2.1
      rcases clearSlot_cases c s with ⟨hnone, -⟩ | ⟨conn, r, -, -, -, heq⟩
      · exact absurd hnone hreg
      · -- What the slot had is what is destroyed.
        have ho : o = some k := by
          rw [hclear, hslot, Prod.mk.injEq] at heq
          exact Option.some.inj heq.2
        rw [hclear] at hheld hcallbacks
        rw [ho] at hrest
        have hcode := hrest.code_of_destroy ((isLive_congr hcallbacks k).trans hlive)
        rw [latches, hheld] at hcode
        exact List.mem_append_right _ hcode

/-- A registration looks up its worker in a state that has the same slots and callbacks. -/
theorem entered_frame (n : NotifierKey) (s : System) :
    (s.entered n).1.callbacks = s.callbacks ∧ ∀ c, (s.entered n).1.slot c = s.slot c := by
  have hquiet : Quiet s ((s.reapDetached n).acquire (.state n)) :=
    quiet_trans (quiet_reapDetached n s) (quiet_acquire _ _)
  unfold entered
  rcases ensureRunning_cases n ((s.reapDetached n).acquire (.state n)) with
    ⟨fault, k, heq⟩ | ⟨running, u, heq, hready⟩
  · rw [heq]
    exact ⟨hquiet.callbacks, hquiet.slot⟩
  · rw [heq]
    exact ⟨hready.callbacks.trans hquiet.callbacks, fun c =>
      (slot_congr (hready.conn? c)).trans (hquiet.slot c)⟩

/-- A registration that replaces a callback runs its code with the state locked. -/
theorem Runs.code_of_replaced {n : NotifierKey} {c : ConnKey} {hold : Option ConnKey}
    {k : CallbackKey} (h : Runs p ps (.call (.set n c hold)) s es t)
    (hset : (s.setFresh n c hold).2 = .registered) (hslot : (s.slot c).callback = some k)
    (hlive : s.isLive k = true) :
    .code (.registering n c hold :: ps) (.lasting (.state n) :: s.latches) ∈ es := by
  -- Only a registration that succeeds replaces anything.
  cases h with
  | refused hclosed _ =>
      rw [setFresh_eq, hclosed, if_neg Bool.false_ne_true] at hset
      exact absurd hset (by simp only [reduceCtorEq, not_false_eq_true])
  | @failed _ _ _ _ fault _ _ u _ hopen hfault _ =>
      simp only [setFresh_eq, hopen, if_true, hfault] at hset
      exact absurd hset (faultResult_ne_registered fault)
  | @registers _ _ _ _ running o appended _ _ u v w _ hrun hinstall hrest =>
      have hentered := held_entered n (s.withCallback hold.toList)
      have hframe := entered_frame n (s.withCallback hold.toList)
      rw [hrun] at hentered hframe
      have hheld := held_install c running.registry s.callbacks.size u
      have ho : (u.install c running.registry s.callbacks.size).2.1 = some k := by
        rw [install_eq, hframe.2 c]
        exact hslot
      have hlive' : (u.install c running.registry s.callbacks.size).1.isLive k = true := by
        rcases install_frame c running.registry s.callbacks.size u with ⟨registries, -, heq⟩
        rw [heq]
        refine (isLive_congr hframe.1 k).trans ?_
        rw [isLive_withCallback, hlive, Bool.true_or]
      rw [hinstall] at hheld ho hlive'
      rw [show o = some k from ho] at hrest
      have hcode := hrest.code_of_destroy hlive'
      rw [latches, hheld, hentered] at hcode
      exact List.mem_append_right _ hcode

/-- An unregistration that clears a callback runs its code with the state locked. -/
theorem Runs.code_of_cleared {n : NotifierKey} {c : ConnKey} {k : CallbackKey}
    (h : Runs p ps (.call (.unset n c)) s es t) (hunset : (s.unsetCallback n c).2 = true)
    (hslot : (s.slot c).callback = some k) (hlive : s.isLive k = true) :
    .code (.unregistering n c :: ps) (.lasting (.state n) :: s.latches) ∈ es := by
  rcases (unsetCallback_answer n c s).mp hunset with ⟨running, hrun, hreg⟩
  cases h with
  | unregistered hnone =>
      exact absurd (hnone.symm.trans hrun) (by simp only [reduceCtorEq, not_false_eq_true])
  | @unregisters _ _ _ running' _ _ u hrun' hrest =>
      rcases Option.some.inj (hrun'.symm.trans hrun)
      exact List.mem_append_right _ (hrest.code_of_detach (beq_iff_eq.mpr hreg)
        (Option.ne_none_iff_exists'.mpr ⟨_, hreg⟩) hslot hlive)

/-- What there is to say about locks in a run of a call by a thread that held none. -/
structure StateOnly (p : Request → Prop) (a : Request) (s : System) (es : List Scene) (t : System) :
    Prop where
  /-- It holds none afterwards. -/
  free : t.held = []
  /-- Code of the program runs under the states that calls around it have locked, to
      register or to unregister, and under no other lock. -/
  code : ∀ ps locks, .code ps locks ∈ es → locks = (locksOf ps).map .lasting
  /-- A lock that the thread holds is asked for exactly where such a call has locked the
      state of a notifier, and a call inside of it wants the same state. -/
  asked : ∀ ps l locks, .asked ps l locks ∈ es →
    (l ∈ locks ↔ ∃ n, l = .lasting (.state n) ∧ .state n ∈ locksOf ps)
  /-- If nothing is registered or unregistered, code runs under no lock at all, and no
      lock is asked for that is held. -/
  quiet : (∀ b, p b → b.registers = false) →
    (∀ ps locks, .code ps locks ∈ es → locks = []) ∧
      ∀ ps l locks, .asked ps l locks ∈ es → l ∉ locks
  /-- Where a callback is replaced, its code does run under the state. -/
  replaced : ∀ n c hold k, a = .set n c hold → (s.setFresh n c hold).2 = .registered →
    (s.slot c).callback = some k → s.isLive k = true →
      .code [.registering n c hold] [.lasting (.state n)] ∈ es
  /-- And so it does where one is cleared. -/
  cleared : ∀ n c k, a = .unset n c → (s.unsetCallback n c).2 = true →
    (s.slot c).callback = some k → s.isLive k = true →
      .code [.unregistering n c] [.lasting (.state n)] ∈ es

/-- Code of the program runs under no lock of the library but the states of notifiers that
    are registering or unregistering, and under those it does run. -/
theorem locked_by_registering {a : Request} (h : Runs p [] (.call a) s es t) (ha : p a)
    (hfree : s.held = []) : StateOnly p a s es t := by
  have hfits := h.fits (fun b heq => Job.call.inj heq ▸ ha) nofun hfree
  have hlatches : s.latches = [] := by rw [latches, hfree, List.map_nil]
  -- If nobody registers nobody holds a lock of a notifier.
  have hnone : (∀ b, p b → b.registers = false) → ∀ ps : List Pending, (∀ f ∈ ps, p f.call) →
      locksOf ps = [] := by
    intro hquiet ps hps
    refine List.eq_nil_iff_forall_not_mem.mpr fun l hl => ?_
    rcases mem_locksOf.mp hl with ⟨n, -, f, hf, ⟨c, hold, rfl⟩ | ⟨c, rfl⟩⟩
    · exact Bool.false_ne_true (hquiet _ (hps _ hf)).symm
    · exact Bool.false_ne_true (hquiet _ (hps _ hf)).symm
  refine ⟨hfits.1, fun ps locks he => (hfits.2 _ he).1, fun ps l locks he => (hfits.2 _ he).1,
    fun hquiet => ⟨fun ps locks he => ?_, fun ps l locks he hl => ?_⟩, ?_, ?_⟩
  · rw [(hfits.2 _ he).1, hnone hquiet ps (hfits.2 _ he).2]
    rfl
  · rcases (hfits.2 _ he).1.mp hl with ⟨n, -, hn⟩
    rw [hnone hquiet ps (hfits.2 _ he).2] at hn
    exact absurd hn List.not_mem_nil
  · rintro n c hold k rfl hset hslot hlive
    have hcode := h.code_of_replaced hset hslot hlive
    rw [hlatches] at hcode
    exact hcode
  · rintro n c k rfl hunset hslot hlive
    have hcode := h.code_of_cleared hunset hslot hlive
    rw [hlatches] at hcode
    exact hcode

/-- A connection that has a callback with a running notifier. -/
def listening : System := run [.pair 3 4, .addNotifier .default, .set 0 0 none] (init 0)

/-- A callback is cleared, and closes its connection when it is destroyed: it runs with
    the state of the notifier locked. -/
theorem locked_by_registering_cleared : listening.held = [] ∧ ∃ es t,
    Runs (fun _ => True) [] (.call (.unset 0 0)) listening es t ∧
    StateOnly (fun _ => True) (.unset 0 0) listening es t ∧
    .code [.unregistering 0 0] [.lasting (.state 0)] ∈ es := by
  have hfree : listening.held = [] := by decide +kernel
  have hrun : listening.running? 0 = some ⟨0, 0⟩ := by decide +kernel
  have hreg : ((listening.acquire (.state 0)).slot 0).registry = some 0 := by decide +kernel
  have hclear : ((listening.acquire (.state 0)).clearSlot 0).2 = some (some 0) := by
    decide +kernel
  have hrow : ((listening.acquire (.state 0)).clearSlot 0).1.callbacks.get? 0 =
      some ⟨[], none⟩ := by decide +kernel
  have hclose : Runs (fun _ => True) [.unregistering 0 0]
      (.call (.close 0)) (((listening.acquire (.state 0)).clearSlot 0).1.endCallback 0) _ _ :=
    .closes (.unaltered fun _ => registry_clearSlot_self 0 (listening.acquire (.state 0)))
  have hruns : Runs (fun _ => True) [] (.call (.unset 0 0)) listening _ _ :=
    .unregisters hrun (.cleared (beq_iff_eq.mpr hreg) (Prod.ext rfl hclear)
      (.ended hrow rfl (.done (.code (.calls trivial hclose .returns)))))
  have honly := locked_by_registering hruns trivial hfree
  exact ⟨hfree, _, _, hruns, honly, honly.cleared 0 0 0 rfl (by decide +kernel)
    (by decide +kernel) (by decide +kernel)⟩

/-- A callback is replaced, and when it is destroyed it asks whether the notifier is
    running: it runs with the state of the notifier locked, and asks for that. -/
theorem locked_by_replacing : listening.held = [] ∧ ∃ es t,
    Runs (fun _ => True) [] (.call (.set 0 0 none)) listening es t ∧
    .code [.registering 0 0 none] [.lasting (.state 0)] ∈ es ∧
    .asked [.registering 0 0 none] (.lasting (.state 0)) [.lasting (.state 0)] ∈ es := by
  have hopen : listening.isConnected 0 = true := by decide +kernel
  have hanswer : ((listening.withCallback []).entered 0).2.toOption = some ⟨0, 0⟩ := by
    decide +kernel
  have hv : ∀ v, v = (((listening.withCallback []).entered 0).1.install 0 0
      listening.callbacks.size) → v.2.1 = some 0 ∧ v.1.callbacks.get? 0 = some ⟨[], none⟩ ∧
      v.1.held = [.state 0] := by
    rintro _ rfl
    decide +kernel
  refine ⟨by decide +kernel, ?_⟩
  rcases hrun : (listening.withCallback []).entered 0 with ⟨u, fault | running⟩
  · rw [hrun] at hanswer
    exact absurd hanswer (by simp only [Except.toOption, reduceCtorEq, not_false_eq_true])
  · rw [hrun] at hanswer hv
    rw [show running = ⟨0, 0⟩ from Option.some.inj hanswer] at hrun
    rcases hinstall : u.install 0 0 listening.callbacks.size with ⟨v, o, appended⟩
    rcases hv _ hinstall.symm with ⟨rfl, hrow, hheld⟩
    have hlocks : [.lasting (.state 0)] = v.latches := by
      rw [latches, hheld]
      rfl
    -- The one call that the destroyed callback makes is `isRunning`.
    have hcalls : Runs (fun _ => True) [.registering 0 0 none] .calls (v.endCallback 0)
        (v.asks [.registering 0 0 none] (.state 0) [] ++ []) (v.endCallback 0) :=
      .calls (a := .isRunning 0) trivial .looks .returns
    refine ⟨_, _, .registers hopen hrun hinstall (.ended hrow rfl (.done (.code hcalls))), ?_⟩
    rw [hlocks]
    exact ⟨List.mem_append_right _ List.mem_cons_self, List.mem_append_right _
      (List.mem_cons_of_mem _ (List.mem_append_left _ List.mem_cons_self))⟩

end System

end ReadNotify
