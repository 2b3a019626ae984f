import ReadNotify.System.Notifier
/-!
# Calls That Wait

Registering and shutting down wait for workers: both for one that was set aside, and
a shutdown for the running one as well, which it has told to stop. While a call waits
others run. Here the two calls are cut where they wait. What a call has left to do
from there on is its *errand*; it names the worker that has to end first, and there
need not be one.

A call takes a worker that was set aside before it waits for it. From then on nobody
else finds it there.

If nobody who is waited for is held up, the pieces are `setCallback` and `shutdown`
again.

## Main definitions

* `Errand`, `Wait`: What a call has left to do, and whom it waits for.
* `Progress`: How far a call has got.
* `System.takeDetached`, `System.joinAny`, `System.halt`: The pieces.
* `System.startSet`, `System.startShutdown`: A call up to where it waits first.
* `System.goOn`: A call from where it waits to where it waits next, or to its end.
* `System.advance`: A call up to where it waits for somebody who is held up.

## Theorems

* `System.advance_startSet`, `System.advance_startShutdown`: Where nobody is held up,
  that is the whole call.
-/

namespace ReadNotify

/-- What a call has left to do where it waits. -/
inductive Errand where
  /-- A registration that has looked for a worker set aside. -/
  | registering (reaped : Option WorkerKey) (c : ConnKey) (k : CallbackKey)
  /-- A shutdown that has looked for a worker set aside. -/
  | stopping (reaped : Option WorkerKey)
  /-- A shutdown that has told the running worker to stop. -/
  | clearing (running : Running)
  deriving DecidableEq, Repr

/-- A worker that is waited for, because it was set aside or because it was running. -/
inductive Wait where
  | reap (k : WorkerKey)
  | halt (k : WorkerKey)
  deriving DecidableEq, Repr

namespace Wait

/-- The worker. -/
def worker : Wait → WorkerKey
  | reap k => k
  | halt k => k

end Wait

namespace Errand

/-- What has to be waited for first, if anything. -/
def wait? : Errand → Option Wait
  | registering reaped _ _ => reaped.map .reap
  | stopping reaped => reaped.map .reap
  | clearing running => some (.halt running.worker)

end Errand

/-- How far a call has got. -/
inductive Progress where
  | waits (errand : Errand)
  /-- A registration is over. -/
  | set (result : SetResult)
  /-- A shutdown is over. -/
  | shutDown
  deriving DecidableEq, Repr

namespace Progress

/-- What is left to do. -/
def errand? : Progress → Option Errand
  | waits errand => some errand
  | _ => none

end Progress

namespace System

/-- Takes the worker that a notifier has set aside, unless it is the one that is
    asking. -/
def takeDetached (n : NotifierKey) (s : System) : System × Option WorkerKey :=
  match (s.notifiers.get? n).bind Notifier.detached with
  | none => (s, none)
  | some k =>
    if s.thread = .worker k then (s, none)
    -- It is taken before it is waited for, so nobody else waits for it too.
    else (s.updateNotifier n fun x => { x with detached := none }, some k)

/-- Waits for a worker, if there is one to wait for. -/
def joinAny (k : Option WorkerKey) (s : System) : System :=
  match k with
  | none => s
  | some k => s.joinWorker k

/-- A shutdown behind its reaping. It ends here if there is nobody running, or if that
    is the one that is asking; otherwise it has somebody to wait for. -/
def halt (n : NotifierKey) (s : System) : System × Option Running :=
  match s.takeRunning n with
  | (s, none) => (s, none)
  | (s, some running) =>
    -- The worker that is asking waits for nobody.
    if s.thread = .worker running.worker then
      ((s.stopWorker n running.worker).clearLeft running, none)
    else (s.tell running.worker, some running)

/-- A registration up to where it waits. -/
def startSet (n : NotifierKey) (c : ConnKey) (k : CallbackKey) (s : System) :
    System × Progress :=
  if s.isConnected c then
    let (s, reaped) := s.takeDetached n
    (s, .waits (.registering reaped c k))
  else (s.destroy k, .set (.refused .notConnected))

/-- A shutdown up to where it waits first. -/
def startShutdown (n : NotifierKey) (s : System) : System × Progress :=
  let (s, reaped) := s.takeDetached n
  (s, .waits (.stopping reaped))

/-- A call from where it waits, once whom it waits for has ended. -/
def goOn (n : NotifierKey) (e : Errand) (s : System) : System × Progress :=
  match e with
  | .registering reaped c k =>
    let (s, result) := (s.joinAny reaped).registerOn n c k
    (s, .set result)
  -- Whoever is running now is stopped, somebody else than before it may be.
  | .stopping reaped =>
    match (s.joinAny reaped).halt n with
    | (s, none) => (s, .shutDown)
    | (s, some running) => (s, .waits (.clearing running))
  | .clearing running => (s.endShutdown running, .shutDown)

/-- A call goes on until it is over or waits for a worker that is held up, over so
    many waits at most. -/
def advance (heldUp : WorkerKey → Bool) (n : NotifierKey) :
    Nat → System × Progress → System × Progress
  | waits + 1, (s, .waits e) =>
    if e.wait?.any fun w => heldUp w.worker then (s, .waits e)
    else advance heldUp n waits (s.goOn n e)
  | _, x => x

/-! ### Calls that need not wait -/

/-- Reaping is taking what was set aside and waiting for it. -/
theorem reapDetached_eq (n : NotifierKey) (s : System) :
    s.reapDetached n = (s.takeDetached n).1.joinAny (s.takeDetached n).2 := by
  unfold reapDetached takeDetached
  rcases (s.notifiers.get? n).bind Notifier.detached with _ | k
  · rfl
  · dsimp only
    by_cases hself : s.thread = .worker k
    · rw [if_pos hself, if_pos hself]
      rfl
    · rw [if_neg hself, if_neg hself]
      -- The end of a worker and the books of a notifier are apart.
      simp only [joinAny, joinWorker, finishWorker, updateNotifier, updateWorker]
      rcases s.workers.get? k with _ | worker
      · rfl
      · dsimp only
        split <;> rfl

/-- A registration that need not wait runs through. -/
theorem advance_startSet (n : NotifierKey) (c : ConnKey) (k : CallbackKey) (s : System) :
    advance (fun _ => false) n 1 (s.startSet n c k) =
      ((s.setCallback n c k).1, .set (s.setCallback n c k).2) := by
  unfold startSet setCallback register
  by_cases hopen : s.isConnected c = true
  · rw [if_pos hopen, if_pos hopen, reapDetached_eq]
    simp only [advance, Option.any_false, Bool.false_eq_true, if_false, goOn]
  · rw [if_neg hopen, if_neg hopen]
    rfl

/-- And so does a shutdown. -/
theorem advance_startShutdown (n : NotifierKey) (s : System) :
    advance (fun _ => false) n 2 (s.startShutdown n) = (s.shutdown n, .shutDown) := by
  unfold startShutdown shutdown
  rw [reapDetached_eq]
  simp only [advance, Option.any_false, Bool.false_eq_true, if_false, goOn, halt]
  rcases ((s.takeDetached n).1.joinAny (s.takeDetached n).2).takeRunning n with ⟨t, _ | running⟩
  · rfl
  · dsimp only
    by_cases hself : t.thread = .worker running.worker
    · rw [if_pos hself]
      rfl
    · rw [if_neg hself]
      -- Whoever is not the worker waits for it.
      have hwaits : t.stopWorker n running.worker =
          (t.tell running.worker).joinWorker running.worker := by
        unfold stopWorker
        exact if_neg hself
      simp only [advance, Option.any_false, Bool.false_eq_true, if_false, goOn, hwaits]
      rfl

end System

end ReadNotify
