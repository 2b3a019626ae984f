import ReadNotify.System.Errands
import ReadNotify.Proofs.Workers.Staff

/-!
# What Calls Do to Workers

Of the workers of a notifier little matters for who can wait for whom: which of them is
running, which one is set aside, who was told to stop, who has not ended, and how many
there are, since a new worker gets the next number. That is the *roll* of a notifier.
The pieces that registrations and shutdowns are made of change it in few ways, and
nothing else does but the end of a worker.

## Main definitions

* `Roll`, `System.roll`: What matters of the workers of a notifier.

## Theorems

* `takeDetached_cases`, `roll_registerOn`, `halt_cases`: What the pieces do.
* `roll_joinWorker`, `roll_clearLeft`: What does nothing.
* `roll_perform`: Nor does any move that is none of them.
-/

namespace ReadNotify

/-- What waiting for the workers of one notifier depends on. -/
@[ext]
structure Roll where
  running : Option WorkerKey
  detached : Option WorkerKey
  /-- A worker exists and was told to stop. -/
  told : WorkerKey → Bool
  /-- A worker exists and has not ended. -/
  up : WorkerKey → Bool
  /-- How many workers there are. -/
  size : Nat

namespace System

variable {s t : System} {n : NotifierKey}

/-- Whether a worker exists that was told to stop. -/
def isTold (s : System) (k : WorkerKey) : Bool := (s.workers.get? k).any Worker.told

/-- Whether a worker exists that has not ended. -/
def isUp (s : System) (k : WorkerKey) : Bool := (s.workers.get? k).any fun w => !w.finished

/-- What waiting for the workers of a notifier depends on. -/
def roll (n : NotifierKey) (s : System) : Roll where
  running := (s.running? n).map Running.worker
  detached := s.detached? n
  told := s.isTold
  up := s.isUp
  size := s.workers.size

/-! ### What the pieces of a call do -/

theorem SameStaff.roll (h : SameStaff s t) (n : NotifierKey) : t.roll n = s.roll n := by
  have hrunning : t.running? n = s.running? n := by simp only [running?, h.notifiers]
  have hdetached : t.detached? n = s.detached? n := by simp only [detached?, h.notifiers]
  refine Roll.ext (congrArg (Option.map Running.worker) hrunning) hdetached
    (funext fun k => ?_) (funext fun k => ?_) (congrArg Table.size h.workers)
  · simp only [System.roll, isTold, h.workers]
  · simp only [System.roll, isUp, h.workers]

/-- Where something is true of a row there is one. -/
theorem lt_size_of_any {α : Type} {t : Table α} {k : Nat} {p : α → Bool}
    (h : (t.get? k).any p = true) : k < t.size := by
  by_contra hge
  rw [show t.get? k = none from Array.getElem?_eq_none (Nat.le_of_not_lt hge)] at h
  exact absurd h Bool.false_ne_true

/-- A roll after one worker was rewritten. -/
theorem roll_updateWorker (k : WorkerKey) (f : Worker → Worker) (s : System) :
    (s.updateWorker k f).roll n =
      { s.roll n with
        told := Function.update s.isTold k ((s.workers.get? k).any fun w => (f w).told)
        up := Function.update s.isUp k ((s.workers.get? k).any fun w => !(f w).finished) } := by
  refine Roll.ext rfl rfl (funext fun j => ?_) (funext fun j => ?_) (Table.size_update _ _ _)
  · simp only [roll, isTold, updateWorker, Table.get?_update, Function.update_apply]
    -- All other workers are as they were.
    by_cases hj : j = k
    · rw [if_pos hj, if_pos hj, Option.any_map]
    · rw [if_neg hj, if_neg hj]
  · simp only [roll, isUp, updateWorker, Table.get?_update, Function.update_apply]
    by_cases hj : j = k
    · rw [if_pos hj, if_pos hj, Option.any_map]
    · rw [if_neg hj, if_neg hj]

/-- Rewriting a worker in another respect leaves the roll as it is. -/
theorem roll_updateWorker_of_same (k : WorkerKey) (f : Worker → Worker)
    (htold : ∀ w, (f w).told = w.told) (hfinished : ∀ w, (f w).finished = w.finished)
    (s : System) : (s.updateWorker k f).roll n = s.roll n := by
  have htold' : ((s.workers.get? k).any fun w => (f w).told) = s.isTold k := by
    simp only [htold, isTold]
  have hup : ((s.workers.get? k).any fun w => !(f w).finished) = s.isUp k := by
    simp only [hfinished, isUp]
  rw [roll_updateWorker, htold', hup, Function.update_eq_self, Function.update_eq_self]
  rfl

/-- Telling a worker to stop. -/
theorem roll_tell {k : WorkerKey} (hk : k < s.workers.size) :
    (s.tell k).roll n =
      { s.roll n with told := Function.update s.isTold k true } := by
  have hrow : ∃ worker, s.workers.get? k = some worker := ⟨_, Array.getElem?_eq_getElem hk⟩
  rcases hrow with ⟨worker, hrow⟩
  have hup : (s.workers.get? k).any (fun w => !w.finished) = s.isUp k := rfl
  rw [tell, roll_updateWorker, hrow]
  simp only [hrow, Option.any_some] at hup ⊢
  rw [hup, Function.update_eq_self]
  rfl

theorem roll_finishWorker (k : WorkerKey) (s : System) :
    (s.finishWorker k).roll n = { s.roll n with up := Function.update s.isUp k false } := by
  -- A worker that is down stays as it is.
  have hsame : s.isUp k = false →
      s.roll n = { s.roll n with up := Function.update s.isUp k false } := by
    intro hdown
    rw [← hdown, Function.update_eq_self]
    rfl
  unfold finishWorker
  rcases hrow : s.workers.get? k with _ | worker
  · exact hsame (by simp only [isUp, hrow, Option.any_none])
  · dsimp only
    by_cases hended : worker.finished = true
    · rw [if_pos hended]
      exact hsame (by simp only [isUp, hrow, Option.any_some, hended, Bool.not_true])
    · rw [if_neg hended]
      refine (roll_updateWorker k (fun x => { x with finished := true }) s).trans ?_
      have htold : worker.told = s.isTold k := by simp only [isTold, hrow, Option.any_some]
      simp only [hrow, Option.any_some, Bool.not_true, htold, Function.update_eq_self]
      rfl

/-- Waiting for somebody who has ended changes nothing that matters here. -/
theorem roll_joinWorker {k : WorkerKey} (hdown : s.isUp k = false) :
    (s.joinWorker k).roll n = s.roll n := by
  rw [joinWorker, roll_updateWorker_of_same k (fun x => { x with joined := true }) (fun _ => rfl)
    (fun _ => rfl), roll_finishWorker, ← hdown, Function.update_eq_self]
  rfl

theorem roll_joinAny {k : Option WorkerKey} (hdown : ∀ j, k = some j → s.isUp j = false) :
    (s.joinAny k).roll n = s.roll n := by
  rcases k with _ | k
  · rfl
  · exact roll_joinWorker (hdown k rfl)

/-- A roll after the notifier was rewritten. -/
theorem roll_updateNotifier {notifier : Notifier} (hrow : s.notifiers.get? n = some notifier)
    (f : Notifier → Notifier) :
    (s.updateNotifier n f).roll n =
      { s.roll n with
        running := (f notifier).running.map Running.worker
        detached := (f notifier).detached } := by
  refine Roll.ext ?_ ?_ rfl rfl rfl
  · change Option.map _ ((s.updateNotifier n f).running? n) = _
    rw [running?_updateNotifier, if_pos rfl, hrow, Option.bind_some]
  · change (s.updateNotifier n f).detached? n = _
    rw [detached?_updateNotifier, if_pos rfl, hrow, Option.bind_some]

theorem roll_of_row {notifier : Notifier} (hrow : s.notifiers.get? n = some notifier) :
    (s.roll n).running = notifier.running.map Running.worker ∧
      (s.roll n).detached = notifier.detached := by
  constructor
  · rw [roll, running?, hrow, Option.bind_some]
  · rw [roll, detached?, hrow, Option.bind_some]

theorem takeDetached_cases (n : NotifierKey) (s : System) :
    s.takeDetached n = (s, none) ∨
      ∃ k, s.detached? n = some k ∧ s.thread ≠ .worker k ∧ (s.takeDetached n).2 = some k ∧
        (s.takeDetached n).1.roll n = { s.roll n with detached := none } := by
  unfold takeDetached
  rw [← detached?]
  rcases hk : s.detached? n with _ | k
  · exact Or.inl rfl
  · dsimp only
    -- The worker that asks leaves itself where it is.
    by_cases hself : s.thread = .worker k
    · rw [if_pos hself]
      exact Or.inl rfl
    · rw [if_neg hself]
      refine Or.inr ⟨k, rfl, hself, rfl, ?_⟩
      rcases exists_of_detached? hk with ⟨notifier, hrow, -⟩
      rw [roll_updateNotifier hrow, (roll_of_row hrow).1]

/-- A registration finds the running worker, or starts one under the next number. -/
theorem roll_ensureRunning (n : NotifierKey) (s : System) :
    (s.ensureRunning n).1.roll n = s.roll n ∨
      ((s.roll n).running = none ∧ (s.ensureRunning n).1.roll n =
        { s.roll n with
          running := some (s.roll n).size
          up := Function.update (s.roll n).up (s.roll n).size true
          size := (s.roll n).size + 1 }) := by
  unfold ensureRunning
  rcases hrow : s.notifiers.get? n with _ | notifier
  · exact Or.inl rfl
  · dsimp only
    rcases hrunning : notifier.running with _ | running
    · have hvacant : (s.roll n).running = none := by
        rw [(roll_of_row hrow).1, hrunning, Option.map_none]
      have hnew : s.workers.get? s.workers.size = none := Array.getElem?_eq_none (Nat.le_refl _)
      dsimp only
      unfold startWorker
      rcases Poller.create notifier.config.backend notifier.config.window s.kernel with
        ⟨k, fault | poller⟩
      · exact Or.inl rfl
      · dsimp only
        rcases PollLoop.ofConfig s.registries.size notifier.counters poller.capacity
          notifier.config with fault | loop
        · exact Or.inl rfl
        · rcases threadFault k notifier.config.threadName with _ | fault
          · refine Or.inr ⟨hvacant, (@roll_updateNotifier _ n notifier ?_ _).trans ?_⟩
            · exact hrow
            · refine Roll.ext rfl (roll_of_row hrow).2.symm (funext fun j => ?_)
                (funext fun j => ?_) (Table.size_add _ _)
              · -- Nobody has told the new one to stop.
                simp only [roll, isTold, note, Table.get?_add]
                split
                · rename_i hj
                  rw [hj, hnew]
                  rfl
                · rfl
              · simp only [roll, isUp, note, Table.get?_add, Function.update_apply]
                split
                · rfl
                · rfl
          · exact Or.inl rfl
    · exact Or.inl rfl

theorem roll_registerOn (n : NotifierKey) (c : ConnKey) (k : CallbackKey) (s : System) :
    (s.registerOn n c k).1.roll n = s.roll n ∨
      ((s.roll n).running = none ∧ (s.registerOn n c k).1.roll n =
        { s.roll n with
          running := some (s.roll n).size
          up := Function.update (s.roll n).up (s.roll n).size true
          size := (s.roll n).size + 1 }) := by
  -- What follows fills a slot and destroys callbacks at most.
  have hrest : (s.registerOn n c k).1.roll n =
      ((s.acquire (.state n)).ensureRunning n).1.roll n := by
    unfold registerOn
    rcases (s.acquire (.state n)).ensureRunning n with ⟨v, fault | running⟩
    · exact (sameStaff_trans (t := v.release (.state n)) ⟨rfl, rfl, rfl, rfl⟩
        (sameStaff_unwinds (unwinds_destroy _ _))).roll n
    · have hattach := (sameStaff_attach c running.registry k v).roll n
      dsimp only
      split
      · exact hattach
      · exact hattach
  rw [hrest]
  exact roll_ensureRunning n (s.acquire (.state n))

theorem roll_clearLeft (running : Running) (s : System) :
    (s.clearLeft running).roll n = s.roll n := by
  unfold clearLeft
  exact (sameStaff_trans (sameStaff_trans (t := (s.drain running.registry).1) ⟨rfl, rfl, rfl, rfl⟩
    (sameStaff_unwinds (unwinds_detachAll _ _ _))) (sameStaff_note _ _)).roll n

/-- A shutdown finds nobody running, or sets itself aside, or has told somebody else to
    stop for whom it waits. -/
theorem halt_cases (n : NotifierKey) (s : System)
    (hlisted : ∀ k, (s.roll n).running = some k → k < (s.roll n).size) :
    s.halt n = (s, none) ∨
    ∃ running, (s.roll n).running = some running.worker ∧
      ((s.thread = .worker running.worker ∧ (s.halt n).2 = none ∧
        (s.halt n).1.roll n =
          { s.roll n with
            running := none
            detached := some running.worker
            told := Function.update (s.roll n).told running.worker true }) ∨
      (s.thread ≠ .worker running.worker ∧ (s.halt n).2 = some running ∧
        (s.halt n).1.roll n =
          { s.roll n with
            running := none
            told := Function.update (s.roll n).told running.worker true })) := by
  unfold halt takeRunning
  rcases hrunning : s.running? n with _ | running
  · exact Or.inl rfl
  · rcases exists_of_running? hrunning with ⟨notifier, hrow, -⟩
    have hworker : (s.roll n).running = some running.worker := by
      rw [roll, hrunning, Option.map_some]
    -- The place is cleared first, and then the worker is told.
    have htold := roll_tell (n := n) (s := s.updateNotifier n fun x => { x with running := none })
      (hlisted _ hworker)
    rw [roll_updateNotifier hrow, ← (roll_of_row hrow).2] at htold
    refine Or.inr ⟨running, hworker, ?_⟩
    dsimp only
    by_cases hself : s.thread = .worker running.worker
    · -- It asks itself, so it is set aside and what is left is cleared at once.
      rw [if_pos (show (s.updateNotifier n _).thread = _ from hself)]
      refine Or.inl ⟨hself, rfl, ?_⟩
      rw [roll_clearLeft, stopWorker,
        if_pos (show (tell _ (s.updateNotifier n _)).thread = _ from hself)]
      refine (@roll_updateNotifier _ n { notifier with running := none } ?_ _).trans ?_
      · simp only [note, tell, updateWorker, updateNotifier, Table.get?_update, if_true, hrow,
          Option.map_some]
      · rw [(sameStaff_note _ _).roll, htold]
        rfl
    · rw [if_neg (show ¬ (s.updateNotifier n _).thread = _ from hself)]
      exact Or.inr ⟨hself, rfl, htold⟩

end System

namespace Move

/-- The moves that are neither calls of a notifier nor the end of a worker. -/
def leavesWorkers : Move → Bool
  | set .. | shutdown _ | finishWorker _ | switch .. => false
  | _ => true

theorem roll_perform {m : Move} (h : m.leavesWorkers = true) (n : NotifierKey) (s : System) :
    (m.perform s).roll n = s.roll n := by
  by_cases hspares : m.sparesStaff = true
  · exact (sameStaff_perform hspares s).roll n
  · -- Moves on the counters and the backends of workers are on no roll.
    cases m with
    | addNotifier config =>
        exact Roll.ext (congrArg (Option.map Running.worker) (System.bind_addNotifier rfl n))
          (System.bind_addNotifier rfl n) rfl rfl rfl
    | keepPoller k p =>
        exact System.roll_updateWorker_of_same k (fun x => { x with poller := p }) (fun _ => rfl)
          (fun _ => rfl) s
    | countCycle l => rfl
    | countDispatches l k => rfl
    | addCounters => rfl
    | set n c hold => exact absurd h Bool.false_ne_true
    | shutdown n => exact absurd h Bool.false_ne_true
    | finishWorker k => exact absurd h Bool.false_ne_true
    | switch thread held => exact absurd h Bool.false_ne_true
    | _ => exact absurd rfl hspares

end Move

end ReadNotify
