import ReadNotify.Proofs.Handles.Settlement
import ReadNotify.Proofs.Readiness.Indifference

/-!
# Registrations That Fail

A registration can fail before anything was locked, because the connection is closed.
It can fail while the notifier's state is locked and half of a worker is there, because
there is no descriptor, no thread or no room for a buffer. Some of these failures are
answers and some unwind. In none of these cases anything comes of it: what was opened
for the worker is given back, the lock is released, and all that is left to do is to
destroy the callback that nobody wanted.

Before it looks for a worker a registration waits for one that was set aside, and that
is not undone. Nor is what the rejected callback lets go of: it may have kept the last
handle of some connection. Whoever runs at the time has handles of its own, so it loses
nothing by that, and neither does what is in the middle of being called.

So two states are compared. In the one the registration was tried. In the other there
was nothing but the waiting and the destruction. They differ at most in interest sets
that are closed, and stay like that whatever happens to both.

## Main definitions

* `Kernel.Recedes`: No interest set is open that was not open before.
* `System.inReach`: Who runs has a handle of a connection.
* `System.awaited`: What a registration does before it looks for a worker.
* `System.Refused`: What is left of a registration that failed.
* `System.Enlisted`: What is left of one that worked.

## Theorems

* `setCallback_refused`: A registration that fails waits and destroys.
* `refused_setCallback`, `enlisted_setCallback`: What becomes of everything.
* `registration_atomic`: A registration works or leaves no trace.
-/

namespace ReadNotify

/-! ### What is opened for a worker -/

namespace Kernel

variable {k k' k'' : Kernel}

/-- Every interest set that is open was open before, under the same number. -/
def Recedes (k k' : Kernel) : Prop :=
  ∀ e fd, k'.shape? e = some (fd, true) → k.shape? e = some (fd, true)

theorem recedes_refl (k : Kernel) : Recedes k k := fun _ _ h => h

theorem Recedes.trans (h : Recedes k k') (h' : Recedes k' k'') : Recedes k k'' :=
  fun e fd hset => h e fd (h' e fd hset)

theorem recedes_of_shape (h : ∀ e, k'.shape? e = k.shape? e) : Recedes k k' :=
  fun e _ hset => (h e).symm.trans hset

/-- What a set that is closed leaves open was open before and is another one. -/
theorem shape?_closeInterest {d e : InterestKey} {fd : Nat}
    (h : (k.closeInterest d).shape? e = some (fd, true)) :
    e ≠ d ∧ k.shape? e = some (fd, true) := by
  rw [closeInterest, shape?_forget, shape?, updateInterests, Table.get?_update] at h
  by_cases hd : e = d
  · rw [if_pos hd, Option.map_map] at h
    rcases Option.map_eq_some_iff.mp h with ⟨x, -, hx⟩
    exact absurd (congrArg Prod.snd hx) Bool.false_ne_true
  · rw [if_neg hd] at h
    exact ⟨hd, h⟩

theorem recedes_closeInterest (k : Kernel) (d : InterestKey) : Recedes k (k.closeInterest d) :=
  fun _ _ hset => (shape?_closeInterest hset).2

/-- A set that is opened and closed again leaves no other one open. -/
theorem recedes_reclosed (k : Kernel) (x : InterestSet) :
    Recedes k (({ k with interests := k.interests.add x } : Kernel).closeInterest
      k.interests.size) := by
  intro e fd hset
  rcases shape?_closeInterest hset with ⟨hne, hadd⟩
  rw [shape?, Table.get?_add, if_neg hne] at hadd
  exact hadd

end Kernel

namespace Poller

variable {k k' : Kernel} {kind : BackendKind} {capacity : Nat}

theorem recedes_release (p : Poller) (k : Kernel) : k.Recedes (p.release k) := by
  cases p with
  | pollSet _ => exact Kernel.recedes_refl k
  | epoll e => exact Kernel.recedes_closeInterest k e.set

/-- A backend that cannot be opened leaves nothing open, and one that is opened and given
    back does not either. -/
theorem recedes_create (kind : BackendKind) (capacity : Nat) (k : Kernel) :
    (∀ k' fault, create kind capacity k = (k', .error fault) → k.Recedes k') ∧
      ∀ k' p, create kind capacity k = (k', .ok p) → k.Recedes (p.release k') := by
  unfold create Kernel.openInterest
  cases kind with
  | poll =>
      dsimp only
      split
      · refine ⟨fun k' fault h => ?_, fun k' p h => absurd (congrArg Prod.snd h) (by simp)⟩
        rcases Prod.mk.inj h with ⟨rfl, -⟩
        exact Kernel.recedes_refl k
      · refine ⟨fun k' fault h => absurd (congrArg Prod.snd h) (by simp), fun k' p h => ?_⟩
        rcases Prod.mk.inj h with ⟨rfl, -⟩
        exact recedes_release p k
  | epoll =>
      cases k.starved with
      | true =>
          refine ⟨fun k' fault h => ?_, fun k' p h => absurd (congrArg Prod.snd h) (by simp)⟩
          rcases Prod.mk.inj h with ⟨rfl, -⟩
          exact Kernel.recedes_refl k
      | false =>
          rw [if_neg Bool.false_ne_true]
          dsimp only
          -- Here the set is there when its buffer turns out to be too large.
          split
          · refine ⟨fun k' fault h => ?_, fun k' p h => absurd (congrArg Prod.snd h) (by simp)⟩
            rcases Prod.mk.inj h with ⟨rfl, -⟩
            exact Kernel.recedes_reclosed k _
          · refine ⟨fun k' fault h => absurd (congrArg Prod.snd h) (by simp), fun k' p h => ?_⟩
            rcases Prod.mk.inj h with ⟨rfl, hp⟩
            rcases Except.ok.inj hp
            exact Kernel.recedes_reclosed k _

end Poller

namespace System

variable {s t u : System} {n : NotifierKey} {c : ConnKey} {k : CallbackKey}

theorem recedes_joinWorker (j : WorkerKey) (s : System) :
    s.kernel.Recedes (s.joinWorker j).kernel := by
  unfold joinWorker finishWorker
  rcases s.workers.get? j with _ | worker
  · exact Kernel.recedes_refl s.kernel
  · dsimp only
    split
    · exact Kernel.recedes_refl s.kernel
    · exact worker.poller.recedes_release s.kernel

theorem recedes_reapDetached (n : NotifierKey) (s : System) :
    s.kernel.Recedes (s.reapDetached n).kernel := by
  unfold reapDetached
  rcases (s.notifiers.get? n).bind Notifier.detached with _ | j
  · exact Kernel.recedes_refl s.kernel
  · dsimp only
    split
    · exact Kernel.recedes_refl s.kernel
    · exact recedes_joinWorker j s

/-- A worker that cannot be started leaves at most interest sets that are closed. -/
theorem startWorker_refused (n : NotifierKey) (config : Config) (counters : CountersKey)
    (s : System) (fault : LaunchFault) (h : (s.startWorker n config counters).2 = .error fault) :
    ∃ i, (s.startWorker n config counters).1 = s.refit i s.workers ∧
      s.kernel.Recedes (s.kernel.refit i) := by
  rcases Poller.recedes_create config.backend config.window s.kernel with ⟨hfailed, hreleased⟩
  unfold startWorker at h ⊢
  rcases Poller.create_answer config.backend config.window s.kernel with
    ⟨-, -, heq⟩ | ⟨-, ⟨-, interests, heq⟩ | ⟨interests, p, -, heq⟩⟩
  · rw [heq]
    exact ⟨s.kernel.interests, rfl, Kernel.recedes_refl s.kernel⟩
  · rw [heq]
    exact ⟨interests, rfl, hfailed _ _ heq⟩
  · -- What fails from here on gives the backend back.
    have hrecedes := hreleased _ _ heq
    rcases release_frame p { s.kernel with interests } with ⟨i, hi⟩
    rw [hi] at hrecedes
    rw [heq] at h ⊢
    dsimp only at h ⊢
    rcases hloop : PollLoop.ofConfig s.registries.size counters p.capacity config with _ | loop
    · rw [hi]
      exact ⟨i, rfl, hrecedes⟩
    · rw [hloop] at h
      rcases hthread : threadFault { s.kernel with interests } config.threadName with _ | _
      · rw [hthread] at h
        exact absurd h (by simp only [reduceCtorEq, not_false_eq_true])
      · rw [hi]
        exact ⟨i, rfl, hrecedes⟩

theorem ensureRunning_refused (n : NotifierKey) (s : System) (fault : LaunchFault)
    (h : (s.ensureRunning n).2 = .error fault) :
    ∃ i, (s.ensureRunning n).1 = s.refit i s.workers ∧ s.kernel.Recedes (s.kernel.refit i) := by
  unfold ensureRunning at h ⊢
  rcases hrow : s.notifiers.get? n with _ | notifier
  · exact ⟨s.kernel.interests, rfl, Kernel.recedes_refl s.kernel⟩
  · rw [hrow] at h
    dsimp only at h ⊢
    rcases hrunning : notifier.running with _ | running
    · rw [hrunning] at h
      exact startWorker_refused n notifier.config notifier.counters s fault h
    · rw [hrunning] at h
      exact absurd h (by simp only [reduceCtorEq, not_false_eq_true])

/-! ### A registration that fails -/

/-- What a registration does before it looks for a worker: it waits for the one that was
    set aside, unless it finds the connection closed. -/
def awaited (n : NotifierKey) (c : ConnKey) (s : System) : System :=
  if s.isConnected c then s.reapDetached n else s

theorem quiet_awaited (n : NotifierKey) (c : ConnKey) (s : System) : Quiet s (s.awaited n c) := by
  unfold awaited
  split
  · exact quiet_reapDetached n s
  · exact quiet_refl s

/-- Waiting concerns workers, and with them interest sets. -/
theorem awaited_effect (n : NotifierKey) (c : ConnKey) (s : System) :
    (∃ interests notifiers workers, s.awaited n c =
        { s with kernel := { s.kernel with interests }, notifiers, workers }) ∧
      s.kernel.Recedes (s.awaited n c).kernel ∧ ∀ m, (s.awaited n c).obstacle m = s.obstacle m := by
  unfold awaited
  split
  · rcases reapDetached_effect n s with ⟨interests, workers, heq, -⟩
    exact ⟨⟨interests, _, workers, heq⟩, recedes_reapDetached n s, obstacle_reapDetached n s⟩
  · exact ⟨⟨s.kernel.interests, s.notifiers, s.workers, rfl⟩, Kernel.recedes_refl s.kernel,
      fun _ => rfl⟩

/-- A registration that fails waits and destroys the callback. In between it may have
    opened interest sets and closed them again. -/
theorem setCallback_refused (h : (s.setCallback n c k).2 ≠ .registered) :
    ∃ i, (s.setCallback n c k).1 =
        ((s.awaited n c).refit i (s.awaited n c).workers).destroy k ∧
      (s.awaited n c).kernel.Recedes ((s.awaited n c).kernel.refit i) := by
  unfold setCallback register registerOn awaited at *
  by_cases hopen : s.isConnected c = true
  · rw [if_pos hopen] at h
    rw [if_pos hopen, if_pos hopen]
    dsimp only at h ⊢
    rcases hensure : ((s.reapDetached n).acquire (.state n)).ensureRunning n with
        ⟨v, fault | running⟩
    · rcases ensureRunning_refused n ((s.reapDetached n).acquire (.state n)) fault
        (by rw [hensure]) with ⟨i, hv, hrecedes⟩
      rw [hensure] at hv
      refine ⟨i, ?_, hrecedes⟩
      -- The lock goes before the callback does.
      have hreleased : v.release (.state n) =
          (s.reapDetached n).refit i (s.reapDetached n).workers := by
        rw [show v = _ from hv]
        exact release_acquire (.state n) ((s.reapDetached n).refit i (s.reapDetached n).workers)
      rw [← hreleased]
    · rw [hensure] at h
      exact absurd rfl h
  · rw [if_neg hopen, if_neg hopen]
    exact ⟨s.kernel.interests, rfl, Kernel.recedes_refl s.kernel⟩

/-! ### The callback -/

/-- A callback is living and has no place yet. -/
structure Loose (s : System) (k : CallbackKey) : Prop where
  live : s.isLive k = true
  slots : ∀ d, (s.slot d).callback ≠ some k
  out : ∀ x ∈ s.out, x.callback ≠ k

/-- A new callback, under the next number. It keeps handles that it shares with others,
    and handles that the program has given away to it. -/
def capture (shared given : List ConnKey) (s : System) : System :=
  given.foldl (fun s d => s.disown d) (s.withCallback (shared ++ given))

/-- A callback that is made has no place yet, and all else stays in order: what the
    program has given away somebody still keeps. -/
theorem capture_loose (h : s.Orderly) (hplaces : s.LivePlaces) (hwired : s.Wired)
    (shared given : List ConnKey) :
    (s.capture shared given).Orderly ∧ (s.capture shared given).LivePlaces ∧
      (s.capture shared given).Wired ∧ (s.capture shared given).Loose s.callbacks.size := by
  rcases livePlaces_withCallback hplaces (shared ++ given) with ⟨hplaces', hlive, hslots, hout⟩
  have hkeeps : (s.withCallback (shared ++ given)).keeps s.callbacks.size = shared ++ given := by
    rw [keeps, withCallback, Table.get?_add, if_pos rfl]
  -- Handles are given away one by one, and the callback has all of them from the start.
  have hfold : ∀ (ds : List ConnKey) (u : System), u.Orderly → u.LivePlaces → u.Wired →
      u.Loose s.callbacks.size → (∀ d ∈ ds, d ∈ u.keeps s.callbacks.size) →
        (ds.foldl (fun s d => s.disown d) u).Orderly ∧
          (ds.foldl (fun s d => s.disown d) u).LivePlaces ∧
          (ds.foldl (fun s d => s.disown d) u).Wired ∧
            (ds.foldl (fun s d => s.disown d) u).Loose s.callbacks.size := by
    intro ds
    induction ds with
    | nil => exact fun u ho hv hw hl _ => ⟨ho, hv, hw, hl⟩
    | cons d ds ih =>
        intro u ho hv hw hl hds
        have hframe := frame_disown d u
        have hheld : (u.disown d).isHeld d = true :=
          (isHeld_iff_keeps _ d).mpr (Or.inr ⟨_, hds d List.mem_cons_self⟩)
        have hidle : Idle u (u.disown d) :=
          idle_updateConn d (f := fun x => { x with owned := false }) (fun _ => rfl) (fun _ => rfl)
            (fun _ => rfl) u
        refine ih (u.disown d) (orderly_disown ho hheld)
          (hv.congr (fun e => congrArg Slot.callback (hframe e).1) rfl rfl)
          (wired_steady hw hidle.still.steady) ⟨hl.live, fun e => ?_, hl.out⟩
          fun e he => hds e (List.mem_cons_of_mem d he)
        rw [(hframe e).1]
        exact hl.slots e
  have hidle : Idle s (s.withCallback (shared ++ given)) := idle_of_tables rfl rfl rfl
  refine hfold given _ (orderly_withCallback h _) hplaces' (wired_steady hwired hidle.still.steady)
    ⟨hlive, hslots, hout⟩ fun d hd => ?_
  rw [hkeeps]
  exact List.mem_append_right shared hd

/-! ### Who runs -/

/-- Who runs has a handle of a connection: the program, or a callback that is being
    called. -/
def inReach (s : System) (d : ConnKey) : Prop :=
  s.isOwned d = true ∨ ∃ x ∈ s.out, d ∈ s.keeps x.callback

/-- What is living has let go of nothing. -/
theorem ChainSteps.kept (h : ChainSteps s t) {j : CallbackKey} (hlive : t.isLive j = true) :
    t.keeps j = s.keeps j := by
  induction h with
  | refl => rfl
  | @tail u v hsteps hstep ih =>
      have hlast : Unwinds u v := Relation.ReflTransGen.single hstep.link
      have hlive' : u.isLive j = true := hlast.isLive hlive
      rw [← ih hlive']
      cases hstep with
      | ended i hi => exact keeps_endCallback i u j
      | released i d hdead =>
          rw [keeps_letGo, if_neg]
          rintro rfl
          exact Bool.false_ne_true (hdead.symm.trans hlive')
      | cleared d => exact keeps_congr (tables_clearSlot d u).2.1 j
      | disconnected d _ => exact keeps_congr (tables_disconnect d u).1 j

/-- A registration takes no handle from what is living, and none from the program. -/
theorem kept_setCallback (n : NotifierKey) (c : ConnKey) (k : CallbackKey) (s : System) :
    (∀ j, (s.setCallback n c k).1.isLive j = true →
      (s.setCallback n c k).1.keeps j = s.keeps j) ∧
    (∀ d, (s.conn? d).isSome = true → (s.setCallback n c k).1.isOwned d = s.isOwned d) ∧
    (s.setCallback n c k).1.out = s.out := by
  have howned : ∀ {u : System}, Quiet s u → ∀ d, (s.conn? d).isSome = true →
      u.isOwned d = s.isOwned d := by
    intro u hquiet d hd
    rcases Option.isSome_iff_exists.mp hd with ⟨conn, hconn⟩
    rcases hquiet.kept d conn hconn with ⟨conn', hconn', -, -, -, -, hsame⟩
    rw [isOwned, isOwned, hconn, hconn']
    exact hsame
  rcases setCallback_cases n c k s with
    ⟨-, u, hquiet, heq⟩ | ⟨-, -, running, u, v, hquiet, hready, hnoted⟩
  · have hsteps : ChainSteps u (u.destroy k) := (destroys_destroy k u).chainSteps
    rw [heq]
    refine ⟨fun j hj => (hsteps.kept hj).trans (keeps_congr hquiet.callbacks j), fun d hd => ?_,
      (ChainSteps.unwinds hsteps).unwound.out.trans hquiet.out⟩
    rw [(ChainSteps.unwinds hsteps).unwound.owned d, howned hquiet d hd]
  · -- Besides slots and registries only what was replaced is touched.
    rcases install_frame c running.registry k v with ⟨registries, -, hframe⟩
    have hinstall := frame_updateSlot v c fun x => ⟨some k, some running.registry, x.generation + 1⟩
    have hfells : Fells (fun _ => False) (v.install c running.registry k).1
        (v.attach c running.registry k).1 := fells_destroyAny (v.slot c).callback _
    have hsteps := hfells.chainSteps
    rcases hnoted with ⟨held, log, hend⟩
    rw [hend]
    refine ⟨fun j hj => (hsteps.kept hj).trans ?_, fun d hd => ?_, ?_⟩
    · rw [hframe]
      exact keeps_congr (hready.callbacks.trans hquiet.callbacks) j
    · refine ((ChainSteps.unwinds hsteps).unwound.owned d).trans ?_
      rw [hframe]
      refine ((hinstall d).2.2.1).trans ?_
      rw [isOwned_congr (hready.conn? d), howned hquiet d hd]
    · refine (ChainSteps.unwinds hsteps).unwound.out.trans ?_
      rw [hframe]
      exact hready.out.trans hquiet.out

/-- Who runs loses no connection by a registration. -/
theorem isConnected_of_inReach (h : s.LivePlaces) (n : NotifierKey) (c : ConnKey) (hk : s.Loose k)
    {d : ConnKey} (hopen : s.isConnected d = true) (hd : s.inReach d) :
    (s.setCallback n c k).1.isConnected d = true := by
  have hplaces := livePlaces_setCallback h n c hk.live hk.slots hk.out
  have hsheds : Sheds (fun _ => False) s (s.setCallback n c k).1 := sheds_setCallback n c k s
  rcases kept_setCallback n c k s with ⟨hkeeps, howned, hsame⟩
  refine hsheds.stays d id hopen ((isHeld_iff_keeps _ d).mpr ?_)
  refine hd.imp (fun hd => (howned d (isSome_of_isConnected hopen)).trans hd) ?_
  -- What is being called is living, before and after.
  rintro ⟨x, hx, hkept⟩
  exact ⟨x.callback, hkeeps x.callback (hplaces.taken x (hsame ▸ hx)) ▸ hkept⟩

/-! ### What becomes of everything -/

/-- What is left of a registration that failed. Up to interest sets all is as if the
    worker that was set aside had been waited for and the callback destroyed, and no
    interest set is left open. No lock is held, no worker was started or stopped, and
    what is in the way of further registrations is what was in the way before. What is
    being called can go on as it would have. Registries have lost at most entries of
    connections that the callback kept the last handles of, directly or through others,
    and these are closed as by anybody; all other connections are what they were. -/
structure Refused (n : NotifierKey) (c : ConnKey) (k : CallbackKey) (s t : System) : Prop where
  alike : Alike ((s.awaited n c).destroy k) t
  recedes : s.kernel.Recedes t.kernel
  held : t.held = s.held
  running : ∀ m, t.running? m = s.running? m
  obstacle : ∀ m, t.obstacle m = s.obstacle m
  out : t.out = s.out
  called : ∀ x ∈ s.out, t.isLive x.callback = true ∧ t.keeps x.callback = s.keeps x.callback
  aligned : ∀ q, (s.registry q).Aligned (t.registry q)
  cut : ∀ d, s.isConnected d = true → t.isConnected d = false → Cut s t d ∧ ¬ s.inReach d
  spared : ∀ d, t.isConnected d = s.isConnected d → Spared s t d
  light : s.keeps k = [] → t.connections = s.connections ∧ t.registries = s.registries ∧
    t.kernel.sockets = s.kernel.sockets

/-- What destroying a callback leaves alone. -/
theorem destroy_effect (h : s.Enrolled) (hwired : s.Wired) (k : CallbackKey) :
    s.kernel.Recedes (s.destroy k).kernel ∧ (s.destroy k).held = s.held ∧
      ∀ m, (s.destroy k).obstacle m = s.obstacle m := by
  have hsteps : ChainSteps s (s.destroy k) := (destroys_destroy k s).chainSteps
  rcases recorded_chainSteps_of_sound hsteps (fun v hv => (enrolled_unwinds hv h).sound) with
    ⟨ks, cs, hrecorded⟩
  -- Of the kernel it touches sockets and what watches them.
  have hrazed := Kernel.razed_closes (hrecorded.closable hwired)
  rw [← hrecorded.kernel] at hrazed
  refine ⟨Kernel.recedes_of_shape hrazed.shape, hrecorded.held, fun m => ?_⟩
  rcases hrazed.frame with ⟨sockets, interests, hkernel⟩
  rw [obstacle, obstacle, (ChainSteps.unwinds hsteps).unwound.notifiers, hkernel]
  rfl

/-- A callback that keeps nothing takes nothing along. -/
theorem destroy_of_keeps_nil (hlive : s.isLive k = true) (hnone : s.keeps k = []) :
    s.destroy k = s.endCallback k := by
  rcases hrow : s.callbacks.get? k with _ | cb
  · rw [isLive, hrow] at hlive
    exact absurd hlive Bool.false_ne_true
  · rw [isLive_of_get? hrow, Option.isNone_iff_eq_none] at hlive
    rw [keeps_of_get? hrow] at hnone
    rw [destroy_eq hrow hlive, hnone, List.foldl_nil]

/-- A registration that fails leaves no trace. -/
theorem refused_setCallback (h : s.Orderly) (hplaces : s.LivePlaces) (hwired : s.Wired)
    (hk : s.Loose k) (hfailed : (s.setCallback n c k).2 ≠ .registered) :
    Refused n c k s (s.setCallback n c k).1 := by
  have htw := wired_closings (closings_setCallback n c k s) hwired
  have htv := livePlaces_setCallback hplaces n c hk.live hk.slots hk.out
  have hto := orderly_setCallback h n c k
  rcases kept_setCallback n c k s with ⟨hkeeps, -, hsame⟩
  have hreach := fun d => isConnected_of_inReach hplaces n c hk (d := d)
  rcases setCallback_refused hfailed with ⟨i, heq, hrecedes⟩
  rcases awaited_effect n c s with ⟨⟨interests, notifiers, workers, hawaited⟩, hwaited, hobstacle⟩
  have hquiet := quiet_awaited n c s
  generalize hu : (s.awaited n c).refit i (s.awaited n c).workers = u at heq
  rw [heq] at htw htv hto hkeeps hsame hreach ⊢
  -- Up to the destruction nothing has happened to connections and registries.
  have houtset : Outset (fun _ => False) s u := by
    rw [← hu, hawaited]
    exact outset_of_tables (h.coherent.enrolled.congr (fun _ => rfl) rfl) rfl rfl fun _ => rfl
  have hcollapse : Collapses (fun _ => False) s (u.destroy k) :=
    houtset.collapses (fells_destroy k u) (trails_refl _)
  rcases destroy_effect houtset.enrolled (houtset.wired hwired) k with ⟨hclosed, hheld, hsteady⟩
  have hnotifiers : (u.destroy k).notifiers = (s.awaited n c).notifiers := by
    rw [(unwinds_destroy k u).unwound.notifiers, ← hu]
    rfl
  refine ⟨?_, ?_, ?_, fun m => ?_, fun m => ?_, hsame, fun x hx => ?_, hcollapse.aligned,
    fun d hopen hshut => ⟨?_, fun hd => ?_⟩, fun d => ?_, fun hnone => ?_⟩
  · rw [← hu]
    exact (alike_refit i (s.awaited n c)).map (destroy k) fun s i w => destroy_refit k s i w
  · refine (hwaited.trans hrecedes).trans ?_
    rw [← hu] at hclosed ⊢
    exact hclosed
  · rw [hheld, ← hu, hawaited]
    rfl
  · rw [← hquiet.running m, running?, running?, hnotifiers]
  · rw [hsteady, ← hu, ← hobstacle]
    rfl
  · have hx' := htv.taken x (hsame ▸ hx)
    exact ⟨hx', hkeeps x.callback hx'⟩
  · exact hcollapse.cut hwired hto.coherent.enrolled htw.1 hopen hshut
  · exact Bool.false_ne_true (hshut.symm.trans (hreach d hopen hd))
  · exact hcollapse.spared h.coherent.enrolled hwired htw.1 htw.2 id
  · have hlive' : u.isLive k = true := by
      rw [← hu, hawaited]
      exact hk.live
    have hnone' : u.keeps k = [] := by
      rw [← hu, hawaited]
      exact hnone
    rw [destroy_of_keeps_nil hlive' hnone', ← hu, hawaited]
    exact ⟨rfl, rfl, rfl⟩

/-- What is left of a registration that worked: the notifier is running, the callback is
    in the slot, and the connection is listed with this notifier and nowhere else. -/
structure Enlisted (n : NotifierKey) (c : ConnKey) (k : CallbackKey) (running : Running)
    (s t : System) : Prop where
  serves : t.running? n = some running
  slot : t.slot c = ⟨some k, some running.registry, (s.slot c).generation + 1⟩
  live : t.isLive k = true
  listed : ∀ id, t.ident c = some id → ∀ q, id ∈ (t.registry q).order ↔ q = running.registry
  alone : ∀ m other, t.running? m = some other → other.registry = running.registry → m = n

/-- A registration that works registers the connection with this notifier and no other. -/
theorem enlisted_setCallback (h : s.Orderly) (hplaces : s.LivePlaces) (hk : s.Loose k)
    (hworked : (s.setCallback n c k).2 = .registered)
    (hopen : (s.setCallback n c k).1.isConnected c = true) :
    ∃ running, Enlisted n c k running s (s.setCallback n c k).1 := by
  have htv := livePlaces_setCallback hplaces n c hk.live hk.slots hk.out
  have hto := (orderly_setCallback h n c k).coherent
  rcases setCallback_cases n c k s with
    ⟨hfailed, -⟩ | ⟨-, hopen', running, u, v, hquiet, hready, hnoted⟩
  · exact absurd hworked hfailed
  · generalize (s.setCallback n c k).1 = t at hopen htv hto hnoted ⊢
    have hexists : (v.conn? c).isSome = true := by
      rcases Option.isSome_iff_exists.mp (isSome_of_isConnected hopen') with ⟨conn, hconn⟩
      rcases hquiet.kept c conn hconn with ⟨conn', hconn', -⟩
      rw [hready.conn? c, hconn']
      rfl
    -- What is destroyed afterwards leaves the slot alone, since the connection is open.
    have hslot : t.slot c = ⟨some k, some running.registry, (s.slot c).generation + 1⟩ := by
      rcases hnoted with ⟨held, log, rfl⟩
      refine (slot_destroyAny (v.slot c).callback (v.install c running.registry k).1
        c hopen).trans ?_
      rw [slot_install, if_pos ⟨rfl, hexists⟩, slot_congr (hready.conn? c), hquiet.slot]
    have hrunning : t.running? n = some running := by
      rcases hnoted with ⟨held, log, rfl⟩
      rcases install_frame c running.registry k v with ⟨registries, -, hframe⟩
      have hnotifiers : (v.attach c running.registry k).1.notifiers = v.notifiers := by
        refine (unwinds_destroyAny (v.slot c).callback
          (v.install c running.registry k).1).unwound.notifiers.trans ?_
        rw [hframe]
        rfl
      rw [← hready.serves, running?, running?, ← hnotifiers]
    refine ⟨running, hrunning, hslot, htv.seated c k (by rw [hslot]), fun id hid q => ?_,
      fun m other hm hsame => hto.apart m n other running hm hrunning hsame⟩
    rw [(hto.sound q).mem_order_iff]
    constructor
    · rintro ⟨d, he⟩
      rcases hto.entry q id d he with ⟨hidd, hreg⟩
      rw [hto.ident_inj hidd hid, hslot] at hreg
      exact (Option.some.inj hreg).symm
    · rintro rfl
      rcases hto.listed c running.registry (by rw [hslot]) (Option.some_ne_none _) with ⟨id', he⟩
      rw [← Option.some.inj ((hto.entry _ id' c he).1.symm.trans hid)]
      exact ⟨c, he⟩

/-- A registration works or leaves no trace. In every state that can be reached, with
    whatever handles the callback keeps, it works exactly if the connection is open and
    nothing is in the way of the worker. If it fails nothing has happened but that the
    callback is destroyed, whether it was answered with an error or panicked: whatever
    is done afterwards, including further registrations, ends as if it had not been
    tried. If it works the connection is registered with this notifier and no other. It
    is still open unless what was replaced kept the only handle of it, which who runs
    does not let happen. -/
theorem registration_atomic (r : Nat) (ms : List Move) (hms : ∀ m ∈ ms, m.isInternal = false)
    (shared given : List ConnKey) (n : NotifierKey) (c : ConnKey) :
    let s := (run ms (init r)).capture shared given
    let k := (run ms (init r)).callbacks.size
    let t := (s.setCallback n c k).1
    let answer := (s.setCallback n c k).2
    (answer = .registered ↔ s.isConnected c = true ∧ s.obstacle n = none) ∧
    (answer ≠ .registered → Refused n c k s t ∧
      (∀ m d j, (t.setCallback m d j).2 = .registered ↔
        t.isConnected d = true ∧ s.obstacle m = none) ∧
      ∀ later, (∀ m ∈ later, m.isIndifferent = true) →
        let u := run later ((s.awaited n c).destroy k)
        let v := run later t
        Alike u v ∧ ∀ m d j, (v.setCallback m d j).2 = (u.setCallback m d j).2 ∧
          Alike (u.setCallback m d j).1 (v.setCallback m d j).1) ∧
    (answer = .registered → (s.inReach c → t.isConnected c = true) ∧
      (t.isConnected c = true → ∃ running, Enlisted n c k running s t)) := by
  intro s k t answer
  rcases capture_loose (orderly_run ms hms (orderly_init r))
    (livePlaces_run ms hms (livePlaces_init r)) (wired_run r ms) shared given with
    ⟨h, hplaces, hwired, hk⟩
  have hcriterion := setCallback_eq_registered n c k s
  refine ⟨hcriterion, fun hfailed => ?_, fun hworked => ⟨fun hreach => ?_, fun hopen => ?_⟩⟩
  · have hrefused : Refused n c k s t := refused_setCallback h hplaces hwired hk hfailed
    -- Later runs start from alike states, and a registration is one more step of them.
    refine ⟨hrefused, fun m d j => ?_, fun later hlater => ?_⟩
    · rw [← hrefused.obstacle m]
      exact setCallback_eq_registered m d j t
    · have halike := alike_run hlater hrefused.alike
      exact ⟨halike, fun m d j => (alike_setCallback halike m d j).symm⟩
  · exact isConnected_of_inReach hplaces n c hk (hcriterion.mp hworked).1 hreach
  · exact enlisted_setCallback h hplaces hk hworked hopen

/-- A connection is registered with one notifier and in the middle of its callback when
    it is to be registered with another one, for which there is no descriptor. The
    rejected callback kept the last handle of a third connection, which is closed. As
    soon as there are descriptors again the registration works. -/
theorem registration_atomic_starved :
    let ms : List Move := [.pair 10 11, .pair 12 13, .addNotifier .default,
      .addNotifier { Config.default with backend := .epoll }, .set 0 0 none, .write 1 [97],
      .begin 0 16, .starve true]
    let s := (run ms (init 0)).capture [] [2]
    let t := (s.setCallback 1 0 1).1
    (∀ m ∈ ms, m.isInternal = false) ∧
      (s.setCallback 1 0 1).2 = .refused (.backend (.os IoError.descriptorLimit)) ∧
      Refused 1 0 1 s t ∧ t.slot 0 = s.slot 0 ∧ s.out.length = 1 ∧
      s.isConnected 2 = true ∧ t.isConnected 2 = false ∧
      ((run [.starve false] t).setFresh 1 0 none).2 = .registered := by
  intro ms s t
  have hms : ∀ m ∈ ms, m.isInternal = false := by decide
  have hanswer : (s.setCallback 1 0 1).2 = .refused (.backend (.os IoError.descriptorLimit)) := by
    decide +kernel
  have hfailed : (s.setCallback 1 0 1).2 ≠ .registered := by
    rw [hanswer]
    simp only [ne_eq, reduceCtorEq, not_false_eq_true]
  have hkey : (run ms (init 0)).callbacks.size = 1 := by decide +kernel
  have hrefused := ((registration_atomic 0 ms hms [] [2] 1 0).2.1 (by rw [hkey]; exact hfailed)).1
  rw [hkey] at hrefused
  refine ⟨hms, hanswer, hrefused, ?_, ?_, ?_, ?_, ?_⟩
  · decide +kernel
  · decide +kernel
  · decide +kernel
  · decide +kernel
  · decide +kernel

end System

end ReadNotify
