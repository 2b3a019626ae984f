import ReadNotify.Proofs.System.SameStaff
import Mathlib.Logic.Function.Basic

/-!
# Who Works for Whom

Of a whole state the workers' lives depend on little: which worker a notifier has
running, which one it has set aside, and what every worker was started for, whether
it was told to stop and whether somebody has waited for its end. That is the
*staff*. Five things can happen to it. A notifier is made; a worker is started;
a running worker is told to stop and waited for; one that is told to stop from its
own thread is set aside; and one that was set aside is waited for by another
thread. Every move of the system is a sequence of such shifts, and all other steps
of it leave the staff as it is.

A worker shares its counters with the notifier that has started it and with no
other, which says whose worker it is after the notifier has given it up as well.

Waiting for a worker twice could not be told from waiting once by the state
alone. The shifts are therefore labelled with the workers that are waited for, and
`Move.joins` says of a move which these are, in order.

## Main definitions

* `Duty`, `Staff`, `System.staff`: What the lives of workers depend on.
* `Staff.Shift`, `Staff.Shifts`: What can happen to a staff on some thread.
* `System.reaps`, `System.halts`, `Move.joins`: The workers that are waited for.

## Theorems

* `shift_reapDetached`, `shift_stopWorker`, `shifts_ensureRunning`: Shifts.
* `Move.shifts_perform`: Every move is a sequence of shifts.
-/

namespace ReadNotify

/-- What a worker was started for and what others have done about it. -/
structure Duty where
  loop : PollLoop
  /-- A stop message was sent to it. -/
  told : Bool
  /-- Somebody has waited for its end. -/
  joined : Bool

def Worker.duty (w : Worker) : Duty := ⟨w.loop, w.told, w.joined⟩

/-- What the lives of workers depend on. -/
@[ext]
structure Staff where
  running : NotifierKey → Option Running
  detached : NotifierKey → Option WorkerKey
  /-- The counters of a notifier. -/
  payroll : NotifierKey → Option CountersKey
  duty : WorkerKey → Option Duty
  /-- How many sets of counters there are. -/
  counters : Nat

namespace Staff

/-- One thing that happens to a staff on a thread, labelled with the worker that the
    thread waits for. -/
inductive Shift (thread : Thread) : List WorkerKey → Staff → Staff → Prop where
  /-- More counters, for something else. -/
  | idle {x : Staff} {k : Nat} (h : x.counters ≤ k) : Shift thread [] x { x with counters := k }
  /-- A notifier is made. -/
  | founded {x : Staff} {n : NotifierKey} (hrunning : x.running n = none)
      (hdetached : x.detached n = none) (hpayroll : x.payroll n = none) :
      Shift thread [] x
        { x with
          payroll := Function.update x.payroll n (some x.counters)
          counters := x.counters + 1 }
  /-- A worker is started for a notifier that is not running. -/
  | started {x : Staff} {n : NotifierKey} {running : Running} {loop : PollLoop}
      (hvacant : x.running n = none) (hpaid : x.payroll n = some loop.counters)
      (hserves : loop.registry = running.registry) (hnew : x.duty running.worker = none) :
      Shift thread [] x
        { x with
          running := Function.update x.running n (some running)
          duty := Function.update x.duty running.worker (some ⟨loop, false, false⟩) }
  /-- The running worker is told to stop by itself, where nothing is set aside but
      what is this thread. -/
  | setAside {x : Staff} {n : NotifierKey} {running : Running}
      (hrunning : x.running n = some running) (hself : thread = .worker running.worker)
      (hreaped : ∀ k, x.detached n = some k → thread = .worker k) :
      Shift thread [] x
        { x with
          running := Function.update x.running n none
          detached := Function.update x.detached n (some running.worker)
          duty := Function.update x.duty running.worker
            ((x.duty running.worker).map fun d => { d with told := true }) }
  /-- The running worker is told to stop and waited for. -/
  | halted {x : Staff} {n : NotifierKey} {running : Running}
      (hrunning : x.running n = some running) (hother : thread ≠ .worker running.worker) :
      Shift thread [running.worker] x
        { x with
          running := Function.update x.running n none
          duty := Function.update x.duty running.worker
            ((x.duty running.worker).map fun d => { d with told := true, joined := true }) }
  /-- The worker that was set aside is waited for. -/
  | reaped {x : Staff} {n : NotifierKey} {k : WorkerKey} (hdetached : x.detached n = some k)
      (hother : thread ≠ .worker k) :
      Shift thread [k] x
        { x with
          detached := Function.update x.detached n none
          duty := Function.update x.duty k
            ((x.duty k).map fun d => { d with joined := true }) }

/-- Any number of shifts, with everybody that is waited for. -/
inductive Shifts (thread : Thread) : List WorkerKey → Staff → Staff → Prop where
  | none (x : Staff) : Shifts thread [] x x
  | more {x y z : Staff} {js ks : List WorkerKey} (h : Shift thread js x y)
      (h' : Shifts thread ks y z) : Shifts thread (js ++ ks) x z

theorem Shift.shifts {thread : Thread} {js : List WorkerKey} {x y : Staff}
    (h : Shift thread js x y) : Shifts thread js x y :=
  List.append_nil js ▸ .more h (.none y)

/-- One sequence of shifts after another waits for those of the first and then for those
    of the second. -/
theorem Shifts.trans {thread : Thread} {js ks : List WorkerKey} {x y z : Staff}
    (h : Shifts thread js x y) (h' : Shifts thread ks y z) : Shifts thread (js ++ ks) x z := by
  -- Along the first sequence.
  induction h with
  | none x => exact h'
  | more hshift _ ih =>
      rw [List.append_assoc]
      exact .more hshift (ih h')

/-- What every shift preserves is preserved by sequences of shifts. -/
theorem Shifts.preserves {thread : Thread} {p : List WorkerKey → Staff → Prop}
    (hstep : ∀ js ks x y, Shift thread ks x y → p js x → p (js ++ ks) y)
    {js ks : List WorkerKey} {x y : Staff} (h : Shifts thread ks x y) (hx : p js x) :
    p (js ++ ks) y := by
  induction h generalizing js with
  | none x =>
      rw [List.append_nil]
      exact hx
  | more hshift _ ih =>
      rw [← List.append_assoc]
      exact ih (hstep _ _ _ _ hshift hx)

end Staff

namespace System

variable {s t : System}

/-- The worker that a notifier has set aside. -/
def detached? (s : System) (n : NotifierKey) : Option WorkerKey :=
  (s.notifiers.get? n).bind Notifier.detached

/-- The staff of a state. -/
def staff (s : System) : Staff where
  running := s.running?
  detached := s.detached?
  payroll n := (s.notifiers.get? n).map Notifier.counters
  duty k := (s.workers.get? k).map Worker.duty
  counters := s.counters.size

/-- The worker set aside that a reaping waits for: none that is asking itself. -/
def reaps (n : NotifierKey) (s : System) : Option WorkerKey :=
  match s.detached? n with
  | none => none
  | some k => if s.thread = .worker k then none else some k

/-- The running worker that a shutdown waits for: none that is asking itself. -/
def halts (n : NotifierKey) (s : System) : Option WorkerKey :=
  match s.running? n with
  | none => none
  | some running => if s.thread = .worker running.worker then none else some running.worker

/-- The staff is read off the notifiers, the workers and the number of counters alone.
    -/
theorem staff_congr (hnotifiers : t.notifiers = s.notifiers) (hworkers : t.workers = s.workers)
    (hcounters : t.counters.size = s.counters.size) : t.staff = s.staff := by
  have hrunning : t.running? = s.running? := by
    funext n
    simp only [running?, hnotifiers]
  have hdetached : t.detached? = s.detached? := by
    funext n
    simp only [detached?, hnotifiers]
  simp only [staff, hrunning, hdetached, hnotifiers, hworkers, hcounters]

theorem SameStaff.staff (h : SameStaff s t) : t.staff = s.staff :=
  staff_congr h.notifiers h.workers (congrArg Table.size h.counters)

theorem SameStaff.reaps (h : SameStaff s t) (n : NotifierKey) : t.reaps n = s.reaps n := by
  simp only [System.reaps, detached?, h.notifiers, h.thread]

/-! ### Rewriting rows -/

/-- A staff after one worker was rewritten. -/
theorem staff_updateWorker (k : WorkerKey) (f : Worker → Worker) (g : Duty → Duty)
    (hf : ∀ w, (f w).duty = g w.duty) (s : System) :
    (s.updateWorker k f).staff =
      { s.staff with duty := Function.update s.staff.duty k ((s.staff.duty k).map g) } := by
  have hduty : (s.updateWorker k f).staff.duty =
      Function.update s.staff.duty k ((s.staff.duty k).map g) := by
    funext j
    simp only [staff, updateWorker, Table.get?_update, Function.update_apply]
    by_cases hj : j = k
    · rw [if_pos hj, if_pos hj, Option.map_map, Option.map_map]
      exact congrArg (fun h => Option.map h (s.workers.get? k)) (funext hf)
    · rw [if_neg hj, if_neg hj]
  rw [← hduty]
  rfl

/-- Rewriting a worker that keeps its duty leaves the staff as it is. -/
theorem staff_updateWorker_of_duty (k : WorkerKey) (f : Worker → Worker)
    (hf : ∀ w, (f w).duty = w.duty) (s : System) : (s.updateWorker k f).staff = s.staff := by
  rw [staff_updateWorker k f id hf, Option.map_id_fun, id_eq, Function.update_eq_self]

/-- That a worker has ended is no part of its duty. -/
theorem staff_finishWorker (k : WorkerKey) (s : System) : (s.finishWorker k).staff = s.staff := by
  unfold finishWorker
  rcases s.workers.get? k with _ | worker
  · rfl
  · dsimp only
    split
    · rfl
    · exact staff_updateWorker_of_duty k (fun x => { x with finished := true }) (fun _ => rfl) s

/-- Waiting for a worker writes down that somebody has waited. -/
theorem staff_joinWorker (k : WorkerKey) (s : System) :
    (s.joinWorker k).staff =
      { s.staff with
        duty := Function.update s.staff.duty k
          ((s.staff.duty k).map fun d => { d with joined := true }) } := by
  rw [joinWorker, staff_updateWorker k (fun x => { x with joined := true })
    (fun d => { d with joined := true }) (fun _ => rfl), staff_finishWorker]

theorem thread_finishWorker (k : WorkerKey) (s : System) :
    (s.finishWorker k).thread = s.thread := by
  unfold finishWorker
  rcases s.workers.get? k with _ | worker
  · rfl
  · dsimp only
    split
    · rfl
    · rfl

/-- The thread that waits goes on where it was. -/
theorem thread_joinWorker (k : WorkerKey) (s : System) : (s.joinWorker k).thread = s.thread :=
  thread_finishWorker k s

theorem detached?_updateNotifier (n : NotifierKey) (f : Notifier → Notifier) (s : System)
    (m : NotifierKey) :
    (s.updateNotifier n f).detached? m =
      if m = n then (s.notifiers.get? n).bind fun x => (f x).detached else s.detached? m := by
  simp only [detached?, updateNotifier, Table.get?_update]
  by_cases hm : m = n
  · rw [if_pos hm, if_pos hm, Option.bind_map]
    rfl
  · rw [if_neg hm, if_neg hm]

/-- A notifier that has a worker running or set aside exists. -/
theorem exists_of_running? {n : NotifierKey} {running : Running}
    (h : s.running? n = some running) :
    ∃ notifier, s.notifiers.get? n = some notifier ∧ notifier.running = some running :=
  Option.bind_eq_some_iff.mp h

theorem exists_of_detached? {n : NotifierKey} {k : WorkerKey} (h : s.detached? n = some k) :
    ∃ notifier, s.notifiers.get? n = some notifier ∧ notifier.detached = some k :=
  Option.bind_eq_some_iff.mp h

/-- A staff after one notifier was rewritten, which keeps its counters. -/
theorem staff_updateNotifier {n : NotifierKey} {notifier : Notifier}
    (hrow : s.notifiers.get? n = some notifier) {f : Notifier → Notifier}
    (hf : (f notifier).counters = notifier.counters) :
    (s.updateNotifier n f).staff =
      { s.staff with
        running := Function.update s.staff.running n (f notifier).running
        detached := Function.update s.staff.detached n (f notifier).detached } := by
  refine Staff.ext (funext fun m => ?_) (funext fun m => ?_) (funext fun m => ?_) rfl rfl
  · -- The two places are written, the counters are what they were.
    change (s.updateNotifier n f).running? m = Function.update s.running? n _ m
    rw [running?_updateNotifier, Function.update_apply, hrow, Option.bind_some]
  · change (s.updateNotifier n f).detached? m = Function.update s.detached? n _ m
    rw [detached?_updateNotifier, Function.update_apply, hrow, Option.bind_some]
  · simp only [staff, updateNotifier, Table.get?_update]
    split
    · rename_i hm
      rw [hm, hrow, Option.map_some, Option.map_some, Option.map_some, hf]
    · rfl

/-- Setting the running worker of a notifier. -/
theorem staff_setRunning {n : NotifierKey} {notifier : Notifier}
    (hrow : s.notifiers.get? n = some notifier) (running : Option Running) :
    (s.updateNotifier n fun x => { x with running }).staff =
      { s.staff with running := Function.update s.staff.running n running } := by
  have hsame : notifier.detached = s.staff.detached n := by
    change _ = s.detached? n
    rw [detached?, hrow, Option.bind_some]
  rw [staff_updateNotifier hrow rfl, hsame, Function.update_eq_self]

/-- Setting the worker that a notifier has set aside. -/
theorem staff_setDetached {n : NotifierKey} {notifier : Notifier}
    (hrow : s.notifiers.get? n = some notifier) (detached : Option WorkerKey) :
    (s.updateNotifier n fun x => { x with detached }).staff =
      { s.staff with detached := Function.update s.staff.detached n detached } := by
  have hsame : notifier.running = s.staff.running n := by
    change _ = s.running? n
    rw [running?, hrow, Option.bind_some]
  rw [staff_updateNotifier hrow rfl, hsame, Function.update_eq_self]

/-- A new notifier has nobody, just as one that does not exist. -/
theorem bind_addNotifier {α : Type} {f : Notifier → Option α} {config : Config}
    (hf : f ⟨config, none, none, s.counters.size⟩ = none) (m : NotifierKey) :
    ((s.addNotifier config).1.notifiers.get? m).bind f = (s.notifiers.get? m).bind f := by
  rw [addNotifier, Table.get?_add]
  split
  · rename_i hm
    rw [hm, show s.notifiers.get? s.notifiers.size = none from
      Array.getElem?_eq_none (Nat.le_refl _), Option.bind_some, hf, Option.bind_none]
  · rfl

/-! ### Reaping, stopping and starting -/

/-- A reaping leaves the state as it is, with nothing set aside but the thread that
    asks, or waits for what was set aside and clears the place. -/
theorem reapDetached_cases (n : NotifierKey) (s : System) :
    (s.reaps n = none ∧ s.reapDetached n = s ∧
      ∀ k, s.detached? n = some k → s.thread = .worker k) ∨
    ∃ k, s.reaps n = some k ∧ s.detached? n = some k ∧ s.thread ≠ .worker k ∧
      s.reapDetached n =
        (s.joinWorker k).updateNotifier n fun x => { x with detached := none } := by
  unfold reaps reapDetached
  rw [← detached?]
  rcases hk : s.detached? n with _ | k
  · exact Or.inl ⟨rfl, rfl, fun k h => absurd h (by simp only [reduceCtorEq, not_false_eq_true])⟩
  · dsimp only
    by_cases hself : s.thread = .worker k
    · rw [if_pos hself, if_pos hself]
      exact Or.inl ⟨rfl, rfl, fun j hj => Option.some.inj hj ▸ hself⟩
    · rw [if_neg hself, if_neg hself]
      exact Or.inr ⟨k, rfl, rfl, hself, rfl⟩

theorem notifiers_joinWorker (k : WorkerKey) (s : System) :
    (s.joinWorker k).notifiers = s.notifiers := by
  unfold joinWorker finishWorker
  rcases s.workers.get? k with _ | worker
  · rfl
  · dsimp only
    split
    · rfl
    · rfl

/-- Reaping waits for the worker that was set aside, and leaves none there but one
    that is asking itself. -/
theorem shifts_reapDetached (n : NotifierKey) (s : System) :
    Staff.Shifts s.thread (s.reaps n).toList s.staff (s.reapDetached n).staff ∧
      (s.reapDetached n).thread = s.thread ∧
      ∀ k, (s.reapDetached n).detached? n = some k →
        s.detached? n = some k ∧ s.thread = .worker k := by
  rcases reapDetached_cases n s with ⟨hnone, heq, hself⟩ | ⟨k, hsome, hdetached, hother, heq⟩
  · rw [hnone, heq]
    exact ⟨.none _, rfl, fun k hk => ⟨hk, hself k hk⟩⟩
  · rcases exists_of_detached? hdetached with ⟨notifier, hrow, -⟩
    have hjoined : (s.joinWorker k).notifiers.get? n = some notifier := by
      rw [notifiers_joinWorker, hrow]
    refine ⟨?_, by rw [heq]; exact thread_joinWorker k s, fun j hj => ?_⟩
    · rw [hsome, heq, staff_setDetached hjoined, staff_joinWorker]
      exact (Staff.Shift.reaped hdetached hother).shifts
    · -- The place was cleared, so nothing is found in it.
      rw [heq, detached?_updateNotifier, if_pos rfl, hjoined] at hj
      exact absurd hj (by simp only [Option.bind_some, reduceCtorEq, not_false_eq_true])

/-- A reaping does not concern what is running. -/
theorem halts_reapDetached (n m : NotifierKey) (s : System) :
    (s.reapDetached n).halts m = s.halts m := by
  unfold halts
  rw [(quiet_reapDetached n s).running m, (shifts_reapDetached n s).2.1]

/-- Telling a worker to stop writes down that it was told. -/
theorem staff_tell (k : WorkerKey) (s : System) :
    (s.tell k).staff =
      { s.staff with
        duty := Function.update s.staff.duty k
          ((s.staff.duty k).map fun d => { d with told := true }) } :=
  staff_updateWorker k (fun x => { x with told := true }) (fun d => { d with told := true })
    (fun _ => rfl) s

/-- Stopping the running worker of a notifier. -/
theorem staff_stopWorker {n : NotifierKey} {running : Running}
    (hrunning : s.running? n = some running) :
    ((s.updateNotifier n fun x => { x with running := none }).stopWorker n running.worker).staff =
      if s.thread = .worker running.worker then
        { s.staff with
          running := Function.update s.staff.running n none
          detached := Function.update s.staff.detached n (some running.worker)
          duty := Function.update s.staff.duty running.worker
            ((s.staff.duty running.worker).map fun d => { d with told := true }) }
      else
        { s.staff with
          running := Function.update s.staff.running n none
          duty := Function.update s.staff.duty running.worker
            ((s.staff.duty running.worker).map fun d =>
              { d with told := true, joined := true }) } := by
  rcases exists_of_running? hrunning with ⟨notifier, hrow, -⟩
  -- The place is cleared before the worker is told, so both are shown already.
  have htold := staff_tell running.worker (s.updateNotifier n fun x => { x with running := none })
  rw [staff_setRunning hrow] at htold
  have hthread : ((s.updateNotifier n fun x => { x with running := none }).tell
      running.worker).thread = s.thread := rfl
  unfold stopWorker
  dsimp only
  rw [hthread]
  by_cases hself : s.thread = .worker running.worker
  · -- A worker that stops itself is set aside, and the notifier is still there for that.
    rw [if_pos hself, if_pos hself]
    have hrow' : ((((s.updateNotifier n fun x => { x with running := none }).tell
        running.worker).note .shutdownFromWorker).notifiers.get? n) =
          some { notifier with running := none } := by
      simp only [note, tell, updateWorker, updateNotifier, Table.get?_update, if_true, hrow,
        Option.map_some]
    rw [staff_setDetached hrow', (sameStaff_note _ _).staff, htold]
  · -- Told and joined are two updates of one duty.
    rw [if_neg hself, if_neg hself, staff_joinWorker, htold]
    simp only [Function.update_self, Function.update_idem, Option.map_map, Function.comp_def]

/-- Stopping the running worker waits for it or sets it aside. -/
theorem shifts_stopWorker {n : NotifierKey} {running : Running}
    (hrunning : s.running? n = some running)
    (hreaped : ∀ k, s.detached? n = some k → s.thread = .worker k) :
    Staff.Shifts s.thread (s.halts n).toList s.staff
      ((s.updateNotifier n fun x => { x with running := none }).stopWorker n
        running.worker).staff := by
  rw [staff_stopWorker hrunning, halts, hrunning]
  dsimp only
  by_cases hself : s.thread = .worker running.worker
  · rw [if_pos hself, if_pos hself]
    exact (Staff.Shift.setAside (x := s.staff) hrunning hself hreaped).shifts
  · rw [if_neg hself, if_neg hself]
    exact (Staff.Shift.halted (x := s.staff) hrunning hself).shifts

/-- A worker is started with a registry and counters that its loop has, or the
    staff stays what it is. -/
theorem staff_startWorker {n : NotifierKey} {notifier : Notifier}
    (hrow : s.notifiers.get? n = some notifier) :
    (s.startWorker n notifier.config notifier.counters).1.staff = s.staff ∨
      ∃ running loop, loop.registry = running.registry ∧ loop.counters = notifier.counters ∧
        s.staff.duty running.worker = none ∧
        (s.startWorker n notifier.config notifier.counters).1.staff =
          { s.staff with
            running := Function.update s.staff.running n (some running)
            duty := Function.update s.staff.duty running.worker (some ⟨loop, false, false⟩) } := by
  unfold startWorker
  rcases Poller.create notifier.config.backend notifier.config.window s.kernel with
    ⟨k, fault | poller⟩
  · exact Or.inl rfl
  · dsimp only
    rcases hloop : PollLoop.ofConfig s.registries.size notifier.counters poller.capacity
      notifier.config with fault | loop
    · exact Or.inl rfl
    · rcases threadFault k notifier.config.threadName with _ | fault
      · dsimp only
        -- The loop was made for the new registry and the notifier's counters.
        have hmade : loop.registry = s.registries.size ∧ loop.counters = notifier.counters := by
          unfold PollLoop.ofConfig at hloop
          dsimp only at hloop
          split at hloop
          · exact absurd hloop (by simp only [reduceCtorEq, not_false_eq_true])
          · rw [← Except.ok.inj hloop]
            exact ⟨rfl, rfl⟩
        have hnew : (s.workers.get? s.workers.size).map Worker.duty = none :=
          Option.map_eq_none_iff.mpr (Array.getElem?_eq_none (Nat.le_refl _))
        -- The new worker has the next free number, where no duty was.
        refine Or.inr ⟨⟨s.registries.size, s.workers.size⟩, loop, hmade.1, hmade.2, hnew, ?_⟩
        refine (@staff_setRunning _ n notifier ?_ _).trans ?_
        · exact hrow
        · refine Staff.ext rfl rfl rfl (funext fun j => ?_) rfl
          simp only [staff, note, Table.get?_add, Function.update_apply]
          split
          · rfl
          · rfl
      · exact Or.inl rfl

/-- Finding or starting the worker of a notifier starts one at most. -/
theorem shifts_ensureRunning (n : NotifierKey) (s : System) :
    Staff.Shifts s.thread [] s.staff (s.ensureRunning n).1.staff ∧
      (s.ensureRunning n).1.detached? = s.detached? := by
  unfold ensureRunning
  rcases hrow : s.notifiers.get? n with _ | notifier
  · exact ⟨.none _, rfl⟩
  · dsimp only
    rcases hrunning : notifier.running with _ | running
    · have hvacant : s.running? n = none := by
        rw [running?, hrow, Option.bind_some, hrunning]
      rcases staff_startWorker hrow with heq | ⟨running, loop, hserves, hpaid, hnew, heq⟩
      · exact ⟨by rw [heq]; exact .none _, congrArg Staff.detached heq⟩
      · refine ⟨?_, congrArg Staff.detached heq⟩
        rw [heq]
        have hpaid' : (s.notifiers.get? n).map Notifier.counters = some loop.counters := by
          rw [hrow, Option.map_some, hpaid]
        exact (Staff.Shift.started (x := s.staff) hvacant hpaid' hserves hnew).shifts
    · exact ⟨.none _, rfl⟩

/-- What registering does to the staff: reaping, and then finding or starting the
    worker. -/
theorem staff_setFresh (n : NotifierKey) (c : ConnKey) (hold : Option ConnKey) (s : System) :
    ∃ u, SameStaff s u ∧
      (s.setFresh n c hold).1.staff =
        if s.isConnected c then (((u.reapDetached n).acquire (.state n)).ensureRunning n).1.staff
        else s.staff := by
  have hfresh : SameStaff s (s.addCallback hold).1 := ⟨rfl, rfl, rfl, rfl⟩
  refine ⟨_, hfresh, ?_⟩
  unfold setFresh setCallback register registerOn
  rw [show (s.addCallback hold).1.isConnected c = s.isConnected c from rfl]
  by_cases hconn : s.isConnected c = true
  · rw [if_pos hconn, if_pos hconn]
    dsimp only
    -- What follows fills a slot and destroys callbacks at most.
    rcases (((s.addCallback hold).1.reapDetached n).acquire (.state n)).ensureRunning n
      with ⟨v, fault | running⟩
    · exact (sameStaff_trans (t := v.release (.state n)) ⟨rfl, rfl, rfl, rfl⟩
        (sameStaff_unwinds (unwinds_destroy _ _))).staff
    · have hattach := (sameStaff_attach c running.registry (s.addCallback hold).2 v).staff
      dsimp only
      split
      · exact hattach
      · exact hattach
  · rw [if_neg hconn, if_neg hconn]
    exact (sameStaff_trans hfresh (sameStaff_unwinds (unwinds_destroy _ _))).staff

/-- Registering waits for what a reaping waits for, and for nobody on a closed
    connection. -/
theorem shifts_setFresh (n : NotifierKey) (c : ConnKey) (hold : Option ConnKey) (s : System) :
    Staff.Shifts s.thread (if s.isConnected c then (s.reaps n).toList else []) s.staff
      (s.setFresh n c hold).1.staff := by
  rcases staff_setFresh n c hold s with ⟨u, hspares, heq⟩
  rw [heq]
  by_cases hconn : s.isConnected c = true
  · -- The lock on the state is taken in between, which is no shift.
    rw [if_pos hconn, if_pos hconn, ← hspares.staff, ← hspares.reaps]
    have hreap := shifts_reapDetached n u
    have hstart := (shifts_ensureRunning n ((u.reapDetached n).acquire (.state n))).1
    have hthread : ((u.reapDetached n).acquire (.state n)).thread = u.thread := hreap.2.1
    rw [hthread] at hstart
    rw [← hspares.thread, ← List.append_nil (u.reaps n).toList]
    exact hreap.1.trans hstart
  · rw [if_neg hconn, if_neg hconn]
    exact .none _

/-- Registering on an open connection reaps what is set aside, and changes nothing
    else of it. -/
theorem detached?_setFresh {n : NotifierKey} {c : ConnKey} (hopen : s.isConnected c = true)
    (hold : Option ConnKey) {k : WorkerKey}
    (h : (s.setFresh n c hold).1.detached? n = some k) :
    s.detached? n = some k ∧ s.thread = .worker k := by
  rcases staff_setFresh n c hold s with ⟨u, hspares, heq⟩
  rw [if_pos hopen] at heq
  have hens := (shifts_ensureRunning n ((u.reapDetached n).acquire (.state n))).2
  -- Starting a worker sets nothing aside, so what is there after it was there before.
  have hreaped : (u.reapDetached n).detached? n = some k := by
    rw [← h]
    exact (congrFun ((congrArg Staff.detached heq).trans hens) n).symm
  rcases (shifts_reapDetached n u).2.2 k hreaped with ⟨hdetached, hself⟩
  exact ⟨(congrFun (congrArg Staff.detached hspares.staff) n).symm.trans hdetached,
    hspares.thread ▸ hself⟩

/-- What a shutdown does to the staff: reaping, and then stopping the worker. -/
theorem staff_shutdown (n : NotifierKey) (s : System) :
    (s.shutdown n).staff =
      match s.running? n with
      | none => (s.reapDetached n).staff
      | some running =>
          (((s.reapDetached n).updateNotifier n fun x =>
            { x with running := none }).stopWorker n running.worker).staff := by
  unfold shutdown clearLeft takeRunning
  rw [(quiet_reapDetached n s).running n]
  rcases s.running? n with _ | running
  · rfl
  · -- Clearing what is left concerns no worker.
    refine SameStaff.staff ?_
    exact sameStaff_trans (sameStaff_trans (t := (((s.reapDetached n).updateNotifier n fun x =>
        { x with running := none }).stopWorker n running.worker |>.drain running.registry).1)
      ⟨rfl, rfl, rfl, rfl⟩ (sameStaff_unwinds (unwinds_detachAll _ _ _))) (sameStaff_note _ _)

/-- A shutdown waits for what was set aside first and for the running worker after it.
    -/
theorem shifts_shutdown (n : NotifierKey) (s : System) :
    Staff.Shifts s.thread ((s.reaps n).toList ++ (s.halts n).toList) s.staff
      (s.shutdown n).staff := by
  rcases shifts_reapDetached n s with ⟨hreap, hthread, hself⟩
  have hhalts := halts_reapDetached n n s
  have hrunning := (quiet_reapDetached n s).running n
  rw [staff_shutdown]
  rcases hcase : s.running? n with _ | running
  · rw [halts, hcase, Option.toList_none, List.append_nil]
    exact hreap
  · -- After the reaping nothing is set aside but what asks, as stopping needs it.
    have hstop := shifts_stopWorker (hrunning.trans hcase)
      (fun k hk => hthread.trans (hself k hk).2)
    rw [hthread, hhalts] at hstop
    exact hreap.trans hstop

/-- A shutdown sets aside the worker that is asking for it, and leaves nothing else
    there but what is asking. -/
theorem detached?_shutdown (n : NotifierKey) (s : System) :
    (∀ running, s.running? n = some running → s.thread = .worker running.worker →
      (s.shutdown n).detached? n = some running.worker) ∧
    ∀ k, (s.shutdown n).detached? n = some k →
      s.thread = .worker k ∧
        (s.detached? n = some k ∨ ∃ running, s.running? n = some running ∧ running.worker = k) := by
  rcases shifts_reapDetached n s with ⟨-, hthread, hself⟩
  have hrunning := (quiet_reapDetached n s).running n
  have hstaff := congrArg Staff.detached (staff_shutdown n s)
  rcases hcase : s.running? n with _ | running
  · -- Nothing was running, so the reaping is all that happened.
    rw [hcase] at hstaff
    refine ⟨fun _ h => absurd h (by simp only [reduceCtorEq, not_false_eq_true]), fun k hk => ?_⟩
    rcases hself k ((congrFun hstaff n).symm.trans hk) with ⟨hdetached, hthis⟩
    exact ⟨hthis, Or.inl hdetached⟩
  · rw [hcase] at hstaff
    dsimp only at hstaff
    rw [staff_stopWorker (hrunning.trans hcase), hthread] at hstaff
    by_cases hasks : s.thread = .worker running.worker
    · -- The worker itself asks, so it is what is set aside now.
      rw [if_pos hasks] at hstaff
      have hset : (s.shutdown n).detached? n = some running.worker :=
        (congrFun hstaff n).trans (Function.update_self _ _ _)
      refine ⟨fun r hr _ => hset.trans (congrArg _ (congrArg _ (Option.some.inj hr))),
        fun k hk => ?_⟩
      have hk' : running.worker = k := Option.some.inj (hset.symm.trans hk)
      exact ⟨hk' ▸ hasks, Or.inr ⟨running, rfl, hk'⟩⟩
    · -- Another thread asks, so the place is as the reaping has left it.
      rw [if_neg hasks] at hstaff
      refine ⟨fun r hr hthis => absurd hthis (Option.some.inj hr ▸ hasks), fun k hk => ?_⟩
      rcases hself k ((congrFun hstaff n).symm.trans hk) with ⟨hdetached, hthis⟩
      exact ⟨hthis, Or.inl hdetached⟩

end System

namespace Move

/-- The workers that are waited for in the course of a move, in order. -/
def joins (m : Move) (s : System) : List WorkerKey :=
  match m with
  | set n c _ => if s.isConnected c then (s.reaps n).toList else []
  | shutdown n => (s.reaps n).toList ++ (s.halts n).toList
  | _ => []

/-- A move that spares the staff waits for nobody. -/
theorem joins_of_sparesStaff {m : Move} (h : m.sparesStaff = true) (s : System) :
    m.joins s = [] := by
  cases m with
  | set n c hold => exact absurd h Bool.false_ne_true
  | shutdown n => exact absurd h Bool.false_ne_true
  | _ => rfl

/-- Every move is a sequence of shifts on the thread that is running, and waits for
    nobody else. -/
theorem shifts_perform (m : Move) (s : System) :
    Staff.Shifts s.thread (m.joins s) s.staff (m.perform s).staff := by
  by_cases hspares : m.sparesStaff = true
  · rw [joins_of_sparesStaff hspares, (sameStaff_perform hspares s).staff]
    exact .none _
  · -- What is left are the moves that start, stop or wait for workers, and those on their
    -- counters.
    cases m with
    | addNotifier config =>
        have hnone : s.notifiers.get? s.notifiers.size = none :=
          Array.getElem?_eq_none (Nat.le_refl _)
        have hrunning : s.running? s.notifiers.size = none := by
          rw [System.running?, hnone, Option.bind_none]
        have hdetached : s.detached? s.notifiers.size = none := by
          rw [System.detached?, hnone, Option.bind_none]
        have hpayroll : (s.notifiers.get? s.notifiers.size).map Notifier.counters = none := by
          rw [hnone, Option.map_none]
        have hshift : Staff.Shift s.thread [] s.staff _ :=
          Staff.Shift.founded hrunning hdetached hpayroll
        refine cast (congrArg _ ?_) hshift.shifts
        -- The new notifier has no worker, so both places read as before.
        refine Staff.ext (funext fun m => (System.bind_addNotifier rfl m).symm)
          (funext fun m => (System.bind_addNotifier rfl m).symm) (funext fun m => ?_) rfl
          (Table.size_add _ _).symm
        simp only [perform, System.addNotifier, System.staff, Table.get?_add,
          Function.update_apply]
        split
        · rfl
        · rfl
    | set n c hold => exact System.shifts_setFresh n c hold s
    | shutdown n => exact System.shifts_shutdown n s
    | countCycle l =>
        rw [show ((countCycle l).perform s).staff = s.staff from
          System.staff_congr rfl rfl (Table.size_update _ _ _)]
        exact .none _
    | countDispatches l k =>
        rw [show ((countDispatches l k).perform s).staff = s.staff from
          System.staff_congr rfl rfl (Table.size_update _ _ _)]
        exact .none _
    | addCounters =>
        have hsize : s.staff.counters ≤ (s.counters.add .zero).size := by
          rw [Table.size_add]
          exact Nat.le_succ _
        exact (Staff.Shift.idle hsize).shifts
    | keepPoller k p =>
        rw [show ((keepPoller k p).perform s).staff = s.staff from
          System.staff_updateWorker_of_duty k (fun x => { x with poller := p }) (fun _ => rfl) s]
        exact .none _
    | finishWorker k =>
        rw [show ((finishWorker k).perform s).staff = s.staff from System.staff_finishWorker k s]
        exact .none _
    | switch thread held => exact .none _
    | _ => exact absurd rfl hspares

end Move

end ReadNotify
