import ReadNotify.System.World
/-!
# Poll Cycles

Registered connections are served in cycles. A cycle takes the next window of
the registry, asks a readiness backend which members can be read, and
dispatches those one after the other. The next cycle continues where the
window ended.

Between the question and a member's turn the callbacks of other members have
run, and they may have unregistered it. A member is therefore looked up again
by its identity when its turn comes, and skipped if it is no longer an entry
or no longer alive. If the readiness check fails, nothing is dispatched.

The backend is left open, because a program may supply its own: a function
that is asked about a window and may do anything to the world meanwhile.

## Main definitions

* `PollLoop.ofConfig`: A loop for some registry.
* `System.fillWindow`: The next window of a loop's registry.
* `Check`: What asking a backend does.
* `World.dispatchReady`: The turns of the ready members.
* `World.runOnce`: One cycle.
* `System.checkPoller`, `World.checkPoller`: Asking one of the two backends.
-/

namespace ReadNotify

/-- What asking a backend with state `π` about a window does. -/
abbrev Check (π δ : Type) :=
  List ConnId → Duration → π → World δ → World δ × π × Except IoError (List ConnId)

namespace PollLoop

/-- Bytes per member of the lists a loop keeps of its window. -/
def memberSize : Nat := 16

/-- A loop that serves a registry. It looks at no more connections at once than
    its backend can, and at one at least. Its buffers may be too large to be
    had. -/
def ofConfig (registry : RegistryKey) (counters : CountersKey) (backendCapacity : Nat)
    (config : Config) : Except StartFault PollLoop :=
  -- A window of nothing would never serve anybody.
  let capacity := max (min config.window backendCapacity) 1
  if maxBuffer < memberSize * capacity ∨ maxBuffer < config.bufferSize then
    .error (.panic overflowText)
  else
    .ok ⟨registry, capacity, config.bufferSize, config.pollTimeout, counters⟩

end PollLoop

namespace System

/-- The next window of a loop's registry. -/
def fillWindow (l : PollLoop) (s : System) : System × List ConnId :=
  s.onRegistry l.registry (Registry.fillWindow s.alive l.capacity)

/-- The counters of a loop. -/
def stats (s : System) (k : CountersKey) : Stats := (s.counters.get? k).getD .zero

/-- Counts a cycle. -/
def countCycle (l : PollLoop) (s : System) : System :=
  { s with counters := s.counters.update l.counters fun x => { x with cycles := x.cycles + 1 } }

/-- Counts invoked callbacks. -/
def countDispatches (l : PollLoop) (n : Nat) (s : System) : System :=
  { s with
    counters := s.counters.update l.counters fun x => { x with dispatches := x.dispatches + n } }

/-- The connection of an entry of a loop's registry, if it is alive. -/
def entry? (l : PollLoop) (id : ConnId) (s : System) : Option ConnKey :=
  (s.registry l.registry).get? s.alive id

/-- Logs what a backend noticed. -/
def notePolls (notes : List PollNote) (s : System) : System :=
  notes.foldl
    (fun s n =>
      match n with
      | .invalid id => s.note (.invalidHandle (s.labelOf id))
      | .rejected r => s.note (.handleRejected (s.labelOf r.id) r.cause)
      | .left x => s.note (.deleteFailed x.fd x.cause))
    s

/-- Asks one of the two backends about a window. -/
def checkPoller (window : List ConnId) (p : Poller) (s : System) :
    System × Poller × List ConnId :=
  let (p, k, ready, notes) := p.check window s.kernel
  ({ s with kernel := k }.notePolls notes, p, ready)

end System

namespace World

variable {π δ : Type}

/-- Asks one of the two backends about a window. Neither fails once it is
    open, and the timeout only bounds how long they wait. -/
def checkPoller : Check Poller δ := fun window _ p w =>
  let (s, p, ready) := w.sys.checkPoller window p
  ({ w with sys := s }, p, .ok ready)

/-- The turns of the ready members in order, and how many callbacks they
    invoked. -/
def dispatchReady (call : Handler δ) (l : PollLoop) : List ConnId → World δ → World δ × Nat
  | [], w => (w, 0)
  | id :: rest, w =>
    match w.sys.entry? l id with
    -- It is no entry any more, or nobody has it: an earlier turn may have seen to that.
    | none => dispatchReady call l rest w
    | some c =>
      let (w, outcome) := w.dispatch call c l.bufferSize
      let (w, n) := dispatchReady call l rest w
      -- A callback that panicked was invoked as well.
      (w, if outcome = .skipped then n else n + 1)

/-- One cycle of a loop, and how many callbacks it invoked. The backend is not
    asked about an empty window. -/
def runOnce (check : Check π δ) (call : Handler δ) (l : PollLoop) (p : π) (w : World δ) :
    World δ × π × Nat :=
  let (s, window) := w.sys.fillWindow l
  -- A cycle counts from its start, even if its window is empty.
  let w := { w with sys := s.countCycle l }
  if window = [] then (w, p, 0)
  else
    match check window l.timeout p w with
    -- The window is lost; the next one is filled from where this one ended.
    | (w, p, .error e) => (w.onSys fun s => s.note (.checkFailed e window.length), p, 0)
    | (w, p, .ok ready) =>
      let (w, n) := w.dispatchReady call l ready
      (w.onSys fun s => s.countDispatches l n, p, n)

end World

end ReadNotify
