import ReadNotify.Scenario.Named
import ReadNotify.Scenario.Step
import ReadNotify.System.Errands
/-!
# The Program Behind a Scenario

The program that performs a scenario keeps what the library does not know: the
names of things, what its callbacks do, the callbacks it has taken out of
their slots, and the events that were raised. All of that is the *desk*, the
program's own state next to the system.

A name of a connection stands for a handle as long as the program has not
given the handle up. After that it can still be used by the steps of a callback
that keeps a handle of its own, but not by whatever else runs meanwhile, such
as another callback or a script. Some steps need no handle and take any name
that was ever given.

Performing a step is an action on both parts of the world. It ends with an
answer, or it is cut short: because it was refused, or because code of the
library panicked and nobody caught it.

## Main definitions

* `Body`, `Frame`, `Loop`, `StopChannel`, `Desk`: The program's own state.
* `Joining`, `Suspended`: Steps and workers that wait for a worker.
* `Act`: An action that can be cut short; `Stop` says by what.
* `Act.handle`, `Act.known`: Connections by name.
* `Act.flush`, `Act.raise`: Events, destroyed callbacks among them.
-/

namespace ReadNotify

/-- What a callback does and what it has seen. -/
structure Body where
  tag : String
  actions : List Step
  dropEvent : Bool
  /-- How often it was called. -/
  calls : Nat
  /-- Its last delivery was empty. -/
  lastEmpty : Bool

/-- A callback that is running: its bytes and the connection it keeps. -/
structure Frame where
  data : Bytes
  hold : Option ConnKey

/-- The backend of a loop the program runs itself. -/
inductive LoopPoller where
  | standard (p : Poller)
  | script (capacity : Nat) (entries : List (ScriptEntry Step))

/-- A loop the program runs itself. -/
structure Loop where
  loop : PollLoop
  poller : LoopPoller

/-- The channel that stops a loop: at most one message, and whether somebody is
    left who could send one. -/
structure StopChannel where
  message : Bool
  sender : Bool

namespace StopChannel

/-- Whether a loop that looks at the channel stops. -/
def stops (ch : StopChannel) : Bool := ch.message || !ch.sender

end StopChannel

/-- A step in the middle of which somebody waits for a worker to end: a call of a
    notifier, what the step answers if that is a shutdown, and whether the process is
    short of descriptors meanwhile. -/
structure Joining where
  notifier : NotifierKey
  errand : Errand
  answer : Answer
  starved : Bool

/-- A call of a callback as far as it has got. -/
structure OpenCall where
  callback : CallbackKey
  tag : String
  /-- Which call of the callback it is. -/
  number : Nat
  frame : Frame
  /-- What the steps have answered that were performed so far. -/
  results : List Answer

/-- A worker that waits for another one in the middle of a callback. -/
structure Suspended where
  worker : WorkerKey
  joining : Joining
  call : OpenCall
  /-- The steps behind the one that waits. -/
  rest : List Step
  /-- The callback, if it was still registered when it was left. -/
  taken : Option Taken
  /-- What the worker has read for other callbacks. -/
  later : List (CallbackKey × Bytes)

/-- The program's own state. -/
structure Desk where
  /-- How many registries the program made. -/
  registries : Nat
  /-- The names of the connections, in the order of their numbers. -/
  names : Table (Option String)
  bodies : Table Body
  /-- The callback that is performing steps, if it is one that does. -/
  frame : Option Frame
  taken : Named Taken
  scratches : Named Nat
  backends : Named Poller
  loops : Named Loop
  notifiers : Named NotifierKey
  /-- The channels of the loops that run until they are stopped, the innermost
      first. -/
  channels : List StopChannel
  /-- The next descriptor number for a pair. -/
  nextFd : Nat
  /-- The events of this thread, the latest first. -/
  events : List Event
  /-- The events of workers that nobody has asked for, the latest first. -/
  arrived : List Event
  /-- Deliveries to callbacks so far. -/
  deliveries : Nat
  /-- A panic that a scripted backend could not let through. -/
  unwinding : Option String
  /-- The steps that the program has not begun. -/
  program : List Step
  /-- The reports of those it has performed, the latest first. -/
  reports : List Report
  /-- The program has performed a step and has not begun the next one. -/
  between : Bool
  /-- The workers in a callback that takes a while. -/
  busy : List WorkerKey
  /-- The workers that wait for another one in a callback. -/
  suspended : List Suspended
  /-- The step in which the program waits for one of them. -/
  joining : Option Joining

/-- What cuts an action short. -/
inductive Stop where
  | refused (r : Refusal)
  | panicked (text : String)

/-- An action on the system and the desk. -/
abbrev Act (α : Type) := ExceptT Stop (StateM (World Desk)) α

namespace Desk

/-- The desk at the start of a scenario. -/
def init (registries : Nat) (program : List Step) : Desk where
  registries := registries
  names := .empty
  bodies := .empty
  frame := none
  taken := .empty
  scratches := .empty
  backends := .empty
  loops := .empty
  notifiers := .empty
  channels := []
  nextFd := 200
  events := []
  arrived := []
  deliveries := 0
  unwinding := none
  program := program
  reports := []
  between := false
  busy := []
  suspended := []
  joining := none

/-- The connection that was given a name. -/
def named? (d : Desk) (name : String) : Option ConnKey :=
  d.names.find? fun x => x == some name

/-- Whether a worker waits for another one. -/
def isSuspended (d : Desk) (k : WorkerKey) : Bool := d.suspended.any fun x => x.worker == k

/-- Whether a worker is held up in the middle of a callback. -/
def isHeldUp (d : Desk) (k : WorkerKey) : Bool := d.busy.contains k || d.isSuspended k

/-- Whether a call waits for a worker that is held up. -/
def isWaiting (d : Desk) (j : Joining) : Bool := j.errand.wait?.any fun w => d.isHeldUp w.worker

/-- Changes what is kept of a worker that waits. -/
def updateSuspended (d : Desk) (k : WorkerKey) (f : Suspended → Suspended) : Desk :=
  { d with suspended := d.suspended.map fun x => if x.worker == k then f x else x }

/-- The name of a connection. -/
def nameOf (d : Desk) (c : ConnKey) : String :=
  ((d.names.get? c).bind id).getD ""

end Desk

namespace Act

/-- Performs an action. -/
def perform {α : Type} (act : Act α) (w : World Desk) : Except Stop α × World Desk :=
  act.run.run w

/-- Looks at the system. -/
def sys : Act System := do return (← get).sys

/-- Looks at the desk. -/
def desk : Act Desk := do return (← get).desk

/-- Changes the desk. -/
def onDesk (f : Desk → Desk) : Act Unit :=
  modify fun w => { w with desk := f w.desk }

/-- Changes the system. -/
def onSys (f : System → System) : Act Unit :=
  modify fun w => w.onSys f

/-- Changes the system and answers something. -/
def callSys {α : Type} (f : System → System × α) : Act α :=
  modifyGet fun w =>
    let (s, a) := f w.sys
    (a, { w with sys := s })

/-- Changes the world and answers something. -/
def callWorld {α : Type} (f : World Desk → World Desk × α) : Act α :=
  modifyGet fun w =>
    let (w, a) := f w
    (a, w)

/-- Refuses the step. -/
def refuse {α : Type} (r : Refusal) : Act α := throw (.refused r)

/-- A value the step needs. -/
def need {α : Type} (a : Arg α) : Act α :=
  match a with
  | .ok x => pure x
  | .error r => refuse r

/-- A value that is there, or a refusal. -/
def orRefuse {α : Type} (a : Option α) (r : Refusal) : Act α :=
  match a with
  | some x => pure x
  | none => refuse r

/-- The connection whose handle a name stands for here, if it does. -/
def handle? (name : String) : Act (Option ConnKey) := do
  let w ← get
  match w.desk.named? name with
  | none => return none
  | some c =>
    let owned := ((w.sys.conn? c).map Connection.owned).getD false
    if owned || w.desk.frame.any fun f => f.hold == some c then return some c
    else return none

/-- The connection whose handle a name stands for here. -/
def handle (name : Arg String) : Act ConnKey := do
  let name ← need name
  orRefuse (← handle? name) (.noHandle name)

/-- The connection that was given a name. -/
def known (name : Arg String) : Act ConnKey := do
  let name ← need name
  orRefuse ((← desk).named? name) (.noId name)

/-- The identity of a connection. -/
def idOf (c : ConnKey) : Act ConnId := do
  return (((← sys).conn? c).map Connection.id).getD ⟨0, 0⟩

/-- A registry by its number. -/
def registry (r : Nat) : Act RegistryKey := do
  if r < (← desk).registries then return r else refuse .noRegistry

/-- A notifier by its name. -/
def notifier (name : Arg String) : Act NotifierKey := do
  let name ← need name
  orRefuse ((← desk).notifiers.find? name) .noNotifier

/-- A name for a new connection, which nobody may have. -/
def freshName (name : Arg String) : Act String := do
  let name ← need name
  if ((← desk).named? name).isSome then refuse (.nameTaken name) else return name

/-- Gives a name to the connection that was made last, or to the next without a
    name. -/
def giveName (name : Option String) : Act Unit :=
  onDesk fun d => { d with names := d.names.add name }

/-- Makes the callback of a specification. The handle it keeps must exist. -/
def callback (spec : Except Refusal (CallbackSpec Step)) : Act CallbackKey := do
  let spec ← need spec
  let hold ← match spec.hold with
    | none => pure none
    | some name => some <$> handle (.ok name)
  let k ← callSys fun s => s.addCallback hold
  onDesk fun d =>
    { d with bodies := d.bodies.add ⟨spec.tag, spec.actions, spec.dropEvent, 0, false⟩ }
  return k

/-- Raises the events of the callbacks that were destroyed since the last
    time. -/
def flush : Act Unit :=
  modify fun w =>
    let tags := w.sys.unreported.filterMap fun k =>
      (w.desk.bodies.get? k).bind fun b => if b.dropEvent then some (Event.dropped b.tag) else none
    { sys := { w.sys with unreported := [] }
      desk := { w.desk with events := tags ++ w.desk.events } }

/-- Raises an event behind those of destroyed callbacks. -/
def raise (e : Event) : Act Unit := do
  flush
  onDesk fun d => { d with events := e :: d.events }

end Act

end ReadNotify
