import ReadNotify.Proofs.Registration.Nesting

/-!
# Unregistering in the Middle of a Shutdown

A shutdown takes the worker out of the notifier and tells it to stop. Then it waits
for the worker, which may have callbacks to call until its cycle is over, and only
after that does it clear the registrations that are left. In between the notifier
has no worker, and the connections are still registered with the one it had.

Unregistering asks the notifier which worker it has. So in between it finds none and
clears nothing, and the worker may go on to call the callback that was to be
unregistered. At any other time, and also if another worker was started meanwhile,
unregistering clears what is registered with the worker that the notifier has. A
connection without registration has no callback in its slot, and nobody can begin
to call one until the connection is registered again.

## Main definitions

* `Stride`: A move, or a part of a shutdown.
* `System.stride`: Strides in order.
* `Stride.registers`, `System.registersIn`, `System.registeredIn`: Registering a
  callback.
* `System.Vacant`: A connection without registration and without callback.

## Theorems

* `shutdown_halves`, `endShutdown_strides`: A shutdown is made of strides.
* `vacant_stride`: What has no registration stays so until it is registered.
* `unset_midway`: A callback that is called after it was to be unregistered.
* `unset_final`: When unregistering leaves nothing to call.
-/

namespace ReadNotify

/-- A move, or one of the parts of a shutdown that no move is. -/
inductive Stride where
  | move (m : Move)
  /-- A shutdown takes the worker out of the notifier and tells it to stop. -/
  | halt (n : NotifierKey)
  /-- The wait for a worker is over, if it has ended. -/
  | join (k : WorkerKey)

namespace Stride

/-- What a stride does to the system. -/
def perform (x : Stride) (s : System) : System :=
  match x with
  | move m => m.perform s
  | halt n => (s.beginShutdown n).1
  | join k => s.updateWorker k fun w => { w with joined := w.joined || w.finished }

/-- The callback that a stride puts into the slot of a connection. -/
def registers (x : Stride) (s : System) (c : ConnKey) : Option CallbackKey :=
  match x with
  | move m => (m.installs s c).map Prod.fst
  | _ => none

/-- Whether that is done by registering with a notifier. -/
def isSet (n : NotifierKey) : Stride → Bool
  | move (.set m _ _) => m == n
  | _ => false

end Stride

namespace System

variable {s t : System} {c : ConnKey}

/-- Strides in order. -/
def stride (xs : List Stride) (s : System) : System := xs.foldl (fun s x => x.perform s) s

theorem stride_append (xs ys : List Stride) (s : System) :
    stride (xs ++ ys) s = stride ys (stride xs s) := List.foldl_append

/-- Whether one of some strides registers a callback of a connection. -/
def registersIn (c : ConnKey) : List Stride → System → Bool
  | [], _ => false
  | x :: xs, s => (x.registers s c).isSome || registersIn c xs (x.perform s)

/-- Whether one of them registers this callback with a notifier. -/
def registeredIn (n : NotifierKey) (c : ConnKey) (k : CallbackKey) : List Stride → System → Bool
  | [], _ => false
  | x :: xs, s => (x.isSet n && x.registers s c == some k) || registeredIn n c k xs (x.perform s)

/-! ### A shutdown in parts -/

/-- A shutdown by anybody but the worker itself has two parts. -/
theorem shutdown_halves (n : NotifierKey) (s : System)
    (houtside : ∀ running, (s.reapDetached n).running? n = some running →
      (s.reapDetached n).thread ≠ .worker running.worker) :
    s.shutdown n =
      match s.beginShutdown n with
      | (t, none) => t
      | (t, some running) => t.endShutdown running := by
  unfold shutdown beginShutdown endShutdown takeRunning
  rcases hrunning : (s.reapDetached n).running? n with _ | running
  · rfl
  · -- Giving up the worker and telling it to stop do not change the thread.
    let halted := ((s.reapDetached n).updateNotifier n fun x =>
      { x with running := none }).tell running.worker
    have hthread : halted.thread ≠ .worker running.worker := houtside running hrunning
    dsimp only
    rw [show stopWorker n running.worker _ = halted.joinWorker running.worker from if_neg hthread]

/-- A worker that was made to end has ended. -/
theorem finished_finishWorker {k : WorkerKey} {worker : Worker}
    (h : (s.finishWorker k).workers.get? k = some worker) : worker.finished = true := by
  unfold finishWorker at h
  rcases hrow : s.workers.get? k with _ | before
  · rw [hrow] at h
    exact absurd (hrow.symm.trans h) (by simp)
  · rw [hrow] at h
    dsimp only at h
    split at h
    · next hfinished =>
        rw [← Option.some.inj (hrow.symm.trans h)]
        exact hfinished
    · have hget := Table.get?_update s.workers k (fun x => { x with finished := true }) k
      rw [if_pos rfl, hrow] at hget
      rw [← Option.some.inj (hget.symm.trans h)]

/-- Waiting for a worker is to let it end and then to find that it has ended. -/
theorem joinWorker_strides (k : WorkerKey) (s : System) :
    s.joinWorker k = stride [.move (.finishWorker k), .join k] s := by
  have hrow : (s.finishWorker k).workers.update k (fun w => { w with joined := true }) =
      (s.finishWorker k).workers.update k
        fun w => { w with joined := w.joined || w.finished } := by
    unfold Table.update
    split
    · next hlt => simp only [finished_finishWorker (Array.getElem?_eq_getElem hlt), Bool.or_true]
    · rfl
  exact congrArg (fun workers => { s.finishWorker k with workers }) hrow

theorem detachAll_strides (r : RegistryKey) (cs : List ConnKey) (s : System) :
    s.detachAll r cs = stride (cs.map fun c => .move (.detachFrom c r)) s := by
  induction cs generalizing s with
  | nil => rfl
  | cons c cs ih => exact ih (s.detachFrom c r).1

/-- The second part waits for the end of the worker, empties its registry and clears
    one after the other what was in it. -/
theorem endShutdown_strides (running : Running) (s : System) :
    let t := s.joinWorker running.worker
    let leftovers := (t.drain running.registry).2
    s.endShutdown running =
      stride (.move (.finishWorker running.worker) :: .join running.worker ::
        .move (.onRegistry running.registry fun reg => (reg.drain t.alive).1) ::
          (leftovers.map (fun c => .move (.detachFrom c running.registry)) ++
            [.move (.note (.notifierShutDown leftovers.length))])) s := by
  intro t leftovers
  have hjoin : stride [.move (.finishWorker running.worker), .join running.worker] s = t :=
    (joinWorker_strides running.worker s).symm
  have hdrained : (t.drain running.registry).1 = (Stride.move (.onRegistry running.registry
      fun reg => (reg.drain t.alive).1)).perform t := rfl
  calc s.endShutdown running
      = (detachAll running.registry leftovers (t.drain running.registry).1).note
          (.notifierShutDown leftovers.length) := rfl
    _ = stride (leftovers.map (fun c => .move (.detachFrom c running.registry)) ++
          [.move (.note (.notifierShutDown leftovers.length))]) (t.drain running.registry).1 := by
        rw [stride_append, ← detachAll_strides]
        rfl
    _ = _ := by
        rw [hdrained, ← hjoin]
        rfl

/-! ### What has no registration -/

/-- A connection that is not registered and has no callback. -/
def Vacant (s : System) (c : ConnKey) : Prop :=
  (s.slot c).registry = none ∧ (s.slot c).callback = none

/-- The first part of a shutdown touches no slot and nothing that is out. -/
theorem beginShutdown_frame (n : NotifierKey) (s : System) :
    (∀ c, (s.beginShutdown n).1.slot c = s.slot c) ∧ (s.beginShutdown n).1.out = s.out ∧
      (s.beginShutdown n).1.callbacks = s.callbacks := by
  have hreap := quiet_reapDetached n s
  unfold beginShutdown takeRunning
  rcases (s.reapDetached n).running? n with _ | running
  · exact ⟨hreap.slot, hreap.out, hreap.callbacks⟩
  · exact ⟨hreap.slot, hreap.out, hreap.callbacks⟩

theorem Placed.congr (h : s.Placed) (hslot : ∀ c, t.slot c = s.slot c)
    (hcallbacks : t.callbacks = s.callbacks) (hout : t.out = s.out) : t.Placed := by
  refine ⟨fun c k hk => ?_, fun c k hk => ?_, fun x hx => ?_, fun c d k hc hd => ?_,
    fun c k hk x hx => ?_, hout ▸ h.nodup⟩
  · rw [hslot] at hk ⊢
    exact h.filled c k hk
  · rw [hcallbacks]
    exact h.known c k (hslot c ▸ hk)
  · rw [hcallbacks]
    exact h.knownOut x (hout ▸ hx)
  · exact h.alone c d k (hslot c ▸ hc) (hslot d ▸ hd)
  · exact h.apart c k (hslot c ▸ hk) x (hout ▸ hx)

theorem placed_stride (xs : List Stride) (h : s.Placed) : (stride xs s).Placed := by
  induction xs generalizing s with
  | nil => exact h
  | cons x xs ih =>
      refine ih ?_
      cases x with
      | move m => exact placed_perform m h
      | halt n =>
          rcases beginShutdown_frame n s with ⟨hslot, hout, hcallbacks⟩
          exact h.congr hslot hcallbacks hout
      | join k => exact h.congr (fun _ => rfl) rfl rfl

/-- Without a registration there is no callback. -/
theorem Placed.vacant (h : s.Placed) (hnone : (s.slot c).registry = none) : s.Vacant c :=
  ⟨hnone, callback_of_unregistered (h.filled c) hnone⟩

/-- A connection without registration stays so unless a stride registers it. -/
theorem vacant_stride {x : Stride} (h : s.Vacant c) (hx : x.registers s c = none) :
    (x.perform s).Vacant c := by
  cases x with
  | halt n =>
      rw [Vacant, Stride.perform, (beginShutdown_frame n s).1]
      exact h
  | join k => exact h
  | move m =>
      -- A move installs, clears or returns, or it leaves the slot alone or empties it.
      have hinstalls : m.installs s c = none := Option.map_eq_none_iff.mp hx
      rcases Move.slot_cases m s c with ⟨k, r, hsome, -⟩ | ⟨-, ⟨-, hslot⟩ | ⟨-, k, hslot, hk⟩⟩
      · exact absurd (hinstalls.symm.trans hsome) (by simp)
      · rw [Vacant, Stride.perform, hslot]
        exact ⟨rfl, rfl⟩
      · rw [Vacant, Stride.perform, hslot]
        refine ⟨h.1, ?_⟩
        rcases hk with hk | hk | hk
        · exact hk.trans h.2
        · exact hk
        · -- Nothing goes back where there is no registration.
          rcases hreturns : m.returns s c with _ | j
          · exact hk.trans hreturns
          · rcases Move.of_returns hreturns with ⟨y, -, -, -, -, -, hsome, -⟩
            rw [h.1] at hsome
            exact absurd hsome Bool.false_ne_true

/-- And whatever strides follow. -/
theorem vacant_strides (xs : List Stride) (h : s.Vacant c) (hxs : registersIn c xs s = false) :
    (stride xs s).Vacant c := by
  induction xs generalizing s with
  | nil => exact h
  | cons x xs ih =>
      rw [registersIn, Bool.or_eq_false_iff] at hxs
      exact ih (vacant_stride h (Option.not_isSome_iff_eq_none.mp (by simp [hxs.1]))) hxs.2

/-! ### Unregistering -/

/-- What unregistering leaves: nothing of a registration with the worker that the
    notifier has, and every other as it was. -/
theorem unset_cases (n : NotifierKey) (c : ConnKey) (s : System) :
    ((s.slot c).registry = (s.running? n).map Running.registry ∧
        ((s.unsetCallback n c).1.slot c).registry = none) ∨
      ((s.slot c).registry ≠ (s.running? n).map Running.registry ∧
        (s.unsetCallback n c).2 = false ∧ (s.unsetCallback n c).1.slot c = s.slot c) := by
  have hslot : (s.acquire (.state n)).slot c = s.slot c := rfl
  -- Without a worker there is no registry that it could clear from.
  rcases unsetCallback_cases n c s with ⟨hstopped, hanswer, hnoted⟩ |
    ⟨running, hrunning, hanswer, hnoted⟩
  · rw [hstopped, Option.map_none, hnoted.quiet.slot]
    by_cases hnone : (s.slot c).registry = none
    · exact Or.inl ⟨hnone, hnone⟩
    · exact Or.inr ⟨hnone, hanswer, rfl⟩
  · rw [hrunning, Option.map_some, hnoted.quiet.slot]
    unfold detachFrom at hanswer ⊢
    rw [hslot] at hanswer ⊢
    by_cases hnamed : (s.slot c).registry = some running.registry
    · rw [if_pos hnamed]
      exact Or.inl ⟨hnamed, registry_detach_self c _⟩
    · rw [if_neg hnamed] at hanswer ⊢
      exact Or.inr ⟨hnamed, hanswer, rfl⟩

/-- The worker of a notifier has two connections to dispatch. In the middle of the
    first callback somebody begins to shut the notifier down, and then the callback
    unregisters the second connection. The worker goes on with its cycle, finds
    the connection in its registry, and calls the callback all the same. -/
theorem unset_midway :
    ¬ ∀ (r : Nat) (before after : List Stride) (n : NotifierKey) (c : ConnKey)
      (k : CallbackKey) (i : Nat) (running : Running) (worker : Worker) (id : ConnId)
      (size : Nat) (x : Taken) (data : Bytes),
      let s₀ := stride before (init r)
      let s₁ := (s₀.unsetCallback n c).1
      let s := stride after s₁
      registeredIn n c k before (init r) = true → (∀ y ∈ s₀.out, y.callback ≠ k) →
        registersIn c after s₁ = false →
          (stride (before.take i) (init r)).running? n = some running →
            s.thread = .worker running.worker →
              s.workers.get? running.worker = some worker →
                s.entry? worker.loop id = some c →
                  (s.begin c size).2 = some (x, data) → x.callback ≠ k := by
  intro hfinal
  -- The loop of the worker that the first registration starts.
  let loop : PollLoop := ⟨0, 1024, 1024, Config.default.pollTimeout, 0⟩
  let before : List Stride := [.move (.pair 10 11), .move (.pair 12 13),
    .move (.addNotifier Config.default), .move (.set 0 0 none), .move (.set 0 2 none),
    .move (.write 1 [7]), .move (.write 3 [8]), .move (.switch (.worker 0) []),
    .move (.fillWindow loop), .move (.begin 0 1024), .move (.switch .caller []), .halt 0,
    .move (.switch (.worker 0) [])]
  let after : List Stride := [.move (.finish ⟨0, 0, 1, true⟩ .returned)]
  let s := stride after ((stride before (init 0)).unsetCallback 0 2).1
  rcases hworker : s.workers.get? 0 with _ | worker
  · exact absurd (congrArg Option.isSome hworker) (by decide +kernel)
  · have hloop : (s.workers.get? 0).map (fun w => (w.loop.registry, w.told, w.finished)) =
        some (0, true, false) := by decide +kernel
    rw [hworker, Option.map_some, Option.some.injEq, Prod.mk.injEq] at hloop
    have hentry : s.entry? worker.loop ⟨3, 12⟩ = some 2 := by
      unfold System.entry?
      rw [hloop.1]
      decide +kernel
    -- The notifier had the worker after the first nine strides.
    exact hfinal 0 before after 0 2 1 9 ⟨0, 0⟩ worker ⟨3, 12⟩ 1024 ⟨1, 2, 1, true⟩ [8]
      (by decide +kernel) (by decide +kernel) (by decide +kernel) (by decide +kernel)
      (by decide +kernel) hworker hentry (by decide +kernel) rfl

/-- After unregistering a connection is without registration exactly if it was
    before, or was registered with the worker that the notifier had at that moment;
    otherwise nothing has changed. Without registration it has no callback either,
    and whatever is done next, in whatever parts and on whatever threads, nobody can
    take a callback of it and no dispatch calls one, until it is registered again. -/
theorem unset_final (r : Nat) (before after : List Stride) (n : NotifierKey) (c : ConnKey) :
    let s₀ := stride before (init r)
    let s₁ := (s₀.unsetCallback n c).1
    let s := stride after s₁
    ((s₁.slot c).registry = none ↔ (s₀.slot c).registry = none ∨
        (s₀.slot c).registry = (s₀.running? n).map Running.registry) ∧
      ((s₁.slot c).registry ≠ none →
        (s₀.unsetCallback n c).2 = false ∧ s₁.slot c = s₀.slot c) ∧
      ((s₁.slot c).registry = none → registersIn c after s₁ = false →
        s.Vacant c ∧ (∀ pinned, s.take c pinned = (s, none)) ∧
          ∀ {δ : Type} (call : Handler δ) (size : Nat) (w : World δ), w.sys = s →
            w.dispatch call c size = (w, .skipped)) := by
  intro s₀ s₁ s
  have hplaced : s₁.Placed := by
    -- Unregistering is a stride itself.
    have hstride : s₁ = stride (before ++ [.move (.unset n c)]) (init r) := by
      rw [stride_append]
      rfl
    rw [hstride]
    exact placed_stride _ (placed_init r)
  have hcases := unset_cases n c s₀
  refine ⟨⟨fun hnone => ?_, fun hknown => ?_⟩, fun hsome => ?_, fun hnone hafter => ?_⟩
  · rcases hcases with ⟨hnamed, -⟩ | ⟨-, -, hsame⟩
    · exact Or.inr hnamed
    · exact Or.inl ((congrArg Slot.registry hsame).symm.trans hnone)
  · rcases hcases with ⟨-, hcleared⟩ | ⟨hother, -, hsame⟩
    · exact hcleared
    · exact (congrArg Slot.registry hsame).trans (hknown.resolve_right hother)
  · rcases hcases with ⟨-, hcleared⟩ | ⟨-, hanswer, hsame⟩
    · exact absurd hcleared hsome
    · exact ⟨hanswer, hsame⟩
  · have hvacant : s.Vacant c := vacant_strides after (hplaced.vacant hnone) hafter
    refine ⟨hvacant, take_of_none hvacant.2, fun call size w hw => World.dispatch_of_none ?_ call⟩
    rw [hw, begin_of_none hvacant.2 size]

/-- A connection is unregistered while the notifier has its worker. The worker, in
    the middle of a cycle, and a shutdown that begins then find nothing of it. -/
theorem unset_final_before_shutdown :
    let before : List Stride := [.move (.pair 10 11), .move (.addNotifier Config.default),
      .move (.set 0 0 none), .move (.write 1 [7]), .move (.switch (.worker 0) [])]
    let after : List Stride := [.move (.switch .caller []), .halt 0,
      .move (.switch (.worker 0) []), .move (.begin 0 4)]
    let s₀ := stride before (init 0)
    let s₁ := (s₀.unsetCallback 0 0).1
    let s := stride after s₁
    (s₀.slot 0).callback = some 0 ∧ (s₁.slot 0).registry = none ∧
      registersIn 0 after s₁ = false ∧ ∀ pinned, s.take 0 pinned = (s, none) := by
  intro before after s₀ s₁ s
  have hnone : (s₁.slot 0).registry = none := by decide +kernel
  have hafter : registersIn 0 after s₁ = false := by decide +kernel
  exact ⟨by decide +kernel, hnone, hafter,
    ((unset_final 0 before after 0 0).2.2 hnone hafter).2.1⟩

end System

end ReadNotify
