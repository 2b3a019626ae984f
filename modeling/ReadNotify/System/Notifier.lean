import ReadNotify.System.Cycle
/-!
# Notifiers

A notifier delivers what arrives on its connections to their callbacks. The
worker that does so is started by the first registration and stopped by a
shutdown; the next registration starts another one, with a registry of its
own.

A shutdown waits for the worker to end. From inside one of its callbacks that
would never happen, so there the worker is only told to stop and set aside as
*detached*; the next shutdown or registration made by anybody else waits for
it then.

Registering and unregistering hold the notifier's state lock all the while, in
particular while a replaced or cleared callback is destroyed. If the worker
cannot be started the lock is released first and the rejected callback is
destroyed afterwards.

## Main definitions

* `LaunchFault`: Why a worker could not be started.
* `System.startWorker`: Opens the backend, the registry and the thread.
* `System.joinWorker`, `System.reapDetached`: Waiting for workers.
* `System.setCallback`, `System.unsetCallback`: Registering and unregistering.
* `System.register`: Registering once the connection was found open.
* `System.registerOn`: Registering behind the reaping.
* `System.shutdown`: Stops the worker and clears what is registered.
* `System.beginShutdown`, `System.endShutdown`: The same by somebody else, while the
  worker is in the middle of a cycle.
* `World.workerCycle`: One cycle of a worker, on its own thread.
-/

namespace ReadNotify

/-- How a registration ended. -/
inductive SetResult where
  | registered
  | refused (e : NotifyError)
  | panicked (text : String)
  deriving DecidableEq, Repr

/-- Why a worker could not be started: something it needs could not be set up, or
    the system has no thread for it. -/
inductive LaunchFault where
  | setup (fault : StartFault)
  | spawn (e : IoError)
  deriving DecidableEq, Repr

namespace System

/-- Adds a notifier that is not running. -/
def addNotifier (config : Config) (s : System) : System × NotifierKey :=
  ({ s with
      notifiers := s.notifiers.add ⟨config, none, none, s.counters.size⟩,
      counters := s.counters.add .zero }, s.notifiers.size)

/-- Rewrites one notifier. -/
def updateNotifier (s : System) (n : NotifierKey) (f : Notifier → Notifier) : System :=
  { s with notifiers := s.notifiers.update n f }

/-- Rewrites one worker. -/
def updateWorker (s : System) (k : WorkerKey) (f : Worker → Worker) : System :=
  { s with workers := s.workers.update k f }

/-- The running worker of a notifier with its registry. -/
def running? (s : System) (n : NotifierKey) : Option Running :=
  (s.notifiers.get? n).bind Notifier.running

/-- Whether a notifier has a worker that was not told to stop. -/
def isRunning (s : System) (n : NotifierKey) : Bool := (s.running? n).isSome

/-- How many connections have a callback with a notifier. -/
def registered (s : System) (n : NotifierKey) : Nat :=
  match s.running? n with
  | some running => (s.registry running.registry).size
  | none => 0

/-- What a notifier's workers have done. -/
def notifierStats (s : System) (n : NotifierKey) : Stats :=
  match s.notifiers.get? n with
  | some notifier => s.stats notifier.counters
  | none => .zero

/-- A notifier as it is printed. -/
def notifierRecord (s : System) (n : NotifierKey) : Record :=
  match s.notifiers.get? n with
  | some notifier => notifier.config.notifierRecord (s.isRunning n) (s.registered n)
  | none => .atom ""

/-- What naming a thread by a text with a zero byte in it ends with. -/
def threadNameFault (name : String) : Option StartFault :=
  let bytes := name.toUTF8.toList
  if bytes.contains 0 then
    let list := ", ".intercalate (bytes.map fun b => toString b.toNat)
    some (.panic ("thread name may not contain interior null bytes: NulError(" ++
      toString (bytes.idxOf 0) ++ ", [" ++ list ++ "])"))
  else none

/-- Why a thread of some name cannot be started, if it cannot. The name is looked
    at before the system is asked. -/
def threadFault (k : Kernel) (name : String) : Option LaunchFault :=
  ((threadNameFault name).map .setup).or (k.threadError.map fun code => .spawn (.os code))

/-- Ends a worker: it leaves its loop and gives its backend back. -/
def finishWorker (k : WorkerKey) (s : System) : System :=
  match s.workers.get? k with
  | none => s
  | some worker =>
    -- The backend is given back once.
    if worker.finished then s
    else
      { s.updateWorker k fun x => { x with finished := true } with
        kernel := worker.poller.release s.kernel }

/-- Waits for the end of a worker. -/
def joinWorker (k : WorkerKey) (s : System) : System :=
  (s.finishWorker k).updateWorker k fun x => { x with joined := true }

/-- Waits for a detached worker, unless it is the one that is asking. -/
def reapDetached (n : NotifierKey) (s : System) : System :=
  match (s.notifiers.get? n).bind Notifier.detached with
  | none => s
  | some k =>
    -- Its own end it would wait for without end.
    if s.thread = .worker k then s
    else (s.joinWorker k).updateNotifier n fun x => { x with detached := none }

/-- Starts a worker with a new registry. Nothing is left behind if that fails. -/
def startWorker (n : NotifierKey) (config : Config) (counters : CountersKey) (s : System) :
    System × Except LaunchFault Running :=
  match Poller.create config.backend config.window s.kernel with
  | (k, .error fault) => ({ s with kernel := k }, .error (.setup fault))
  | (k, .ok poller) =>
    let r := s.registries.size
    match PollLoop.ofConfig r counters poller.capacity config, threadFault k config.threadName with
    | .error fault, _ => ({ s with kernel := poller.release k }, .error (.setup fault))
    -- The thread is asked for last, so the backend is given back for it as well.
    | .ok _, some fault => ({ s with kernel := poller.release k }, .error fault)
    | .ok loop, none =>
      -- From here on nothing fails.
      let running : Running := ⟨r, s.workers.size⟩
      let s :=
        { s with
          kernel := k
          registries := s.registries.add .empty
          workers := s.workers.add ⟨loop, poller, false, false, false⟩ }
      let s := s.note (.workerSpawned config.backend)
      (s.updateNotifier n fun x => { x with running := some running }, .ok running)

/-- The running worker of a notifier, started if there is none. -/
def ensureRunning (n : NotifierKey) (s : System) : System × Except LaunchFault Running :=
  match s.notifiers.get? n with
  | none => (s, .error (.setup (.panic "")))
  | some notifier =>
    match notifier.running with
    | some running => (s, .ok running)
    | none => s.startWorker n notifier.config notifier.counters

/-- How a registration ends that could not start the worker. -/
def faultResult : LaunchFault → SetResult
  | .setup (.io e) => .refused (.backend e)
  | .setup (.panic text) => .panicked text
  | .spawn e => .refused (.spawn e)

/-- What registering does under the state lock. -/
def registerOn (n : NotifierKey) (c : ConnKey) (k : CallbackKey) (s : System) :
    System × SetResult :=
  match (s.acquire (.state n)).ensureRunning n with
  | (s, .error fault) => ((s.release (.state n)).destroy k, faultResult fault)
  | (s, .ok running) =>
    let (s, appended) := s.attach c running.registry k
    -- A registration that is there already is not logged again.
    let s := if appended then s.note (.callbackRegistered (s.label c)) else s
    (s.release (.state n), .registered)

/-- What registering does once it has seen the connection open. -/
def register (n : NotifierKey) (c : ConnKey) (k : CallbackKey) (s : System) :
    System × SetResult :=
  (s.reapDetached n).registerOn n c k

/-- Registers a callback for a connection with a notifier and with no other. If
    that is refused the callback is destroyed. -/
def setCallback (n : NotifierKey) (c : ConnKey) (k : CallbackKey) (s : System) :
    System × SetResult :=
  if s.isConnected c then s.register n c k else (s.destroy k, .refused .notConnected)

/-- Unregisters a connection if it is registered with this notifier, and answers
    whether it was. -/
def unsetCallback (n : NotifierKey) (c : ConnKey) (s : System) : System × Bool :=
  let s := s.acquire (.state n)
  match s.running? n with
  -- What is still registered with a worker that was stopped is left to the shutdown.
  | none => (s.release (.state n), false)
  | some running =>
    let (s, removed) := s.detachFrom c running.registry
    let s := if removed then s.note (.callbackUnregistered (s.label c)) else s
    (s.release (.state n), removed)

/-- Takes the running worker out of a notifier. -/
def takeRunning (n : NotifierKey) (s : System) : System × Option Running :=
  match s.running? n with
  | none => (s, none)
  | some running => (s.updateNotifier n fun x => { x with running := none }, some running)

/-- Tells a worker to stop. -/
def tell (k : WorkerKey) (s : System) : System :=
  s.updateWorker k fun x => { x with told := true }

/-- Tells a worker to stop and waits for its end, or sets it aside if it is the
    one that is asking. -/
def stopWorker (n : NotifierKey) (k : WorkerKey) (s : System) : System :=
  let s := s.tell k
  -- From one of its own callbacks it cannot be waited for.
  if s.thread = .worker k then
    (s.note .shutdownFromWorker).updateNotifier n fun x => { x with detached := some k }
  else s.joinWorker k

/-- Empties a registry and answers the connections that were alive. -/
def drain (r : RegistryKey) (s : System) : System × List ConnKey :=
  s.onRegistry r (Registry.drain s.alive)

/-- Clears the registrations of connections with a registry, one after the
    other. -/
def detachAll (r : RegistryKey) : List ConnKey → System → System
  | [], s => s
  | c :: rest, s => detachAll r rest (s.detachFrom c r).1

/-- Clears what is left registered with a worker that was stopped. -/
def clearLeft (running : Running) (s : System) : System :=
  let (s, leftovers) := s.drain running.registry
  (s.detachAll running.registry leftovers).note (.notifierShutDown leftovers.length)

/-- Stops the worker of a notifier and clears every registration with it. -/
def shutdown (n : NotifierKey) (s : System) : System :=
  match (s.reapDetached n).takeRunning n with
  | (s, none) => s
  -- The worker has ended, or has only the rest of a cycle, when the entries are cleared.
  | (s, some running) => (s.stopWorker n running.worker).clearLeft running

/-- A shutdown up to where it waits: the notifier gives up its worker, which is told
    to stop. -/
def beginShutdown (n : NotifierKey) (s : System) : System × Option Running :=
  match (s.reapDetached n).takeRunning n with
  | (s, none) => (s, none)
  | (s, some running) => (s.tell running.worker, some running)

/-- A shutdown from where it waits: once the worker has ended, every registration
    that is left with it is cleared. -/
def endShutdown (running : Running) (s : System) : System :=
  (s.joinWorker running.worker).clearLeft running

/-- Whether a worker still has cycles to run. -/
def isServing (s : System) (k : WorkerKey) : Bool :=
  match s.workers.get? k with
  | some worker => !worker.told && !worker.finished
  | none => false

/-- The workers that still have cycles to run. -/
def serving (s : System) : List WorkerKey :=
  (List.range s.workers.size).filter s.isServing

end System

namespace World

variable {δ : Type}

/-- One cycle of a worker on its own thread, which holds no locks when it
    starts. A worker that was told to stop during the cycle ends after it. -/
def workerCycle (call : Handler δ) (k : WorkerKey) (w : World δ) : World δ :=
  match w.sys.workers.get? k with
  | none => w
  | some worker =>
    if w.sys.isServing k then
      -- Whoever was running goes on behind the cycle, with his locks.
      let thread := w.sys.thread
      let held := w.sys.held
      let w := w.onSys fun s => { s with thread := .worker k, held := [] }
      let (w, poller, _) := w.runOnce checkPoller call worker.loop worker.poller
      let w := w.onSys fun s =>
        { s.updateWorker k fun x => { x with poller } with thread, held }
      -- A callback may have told it to stop.
      if w.sys.isServing k then w else w.onSys (System.finishWorker k)
    else w

end World

end ReadNotify
