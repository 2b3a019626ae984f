import ReadNotify.Scenario.Calls
/-!
# The Program Beside Its Workers

The steps of a scenario are performed one after the other. What each of them
caused is reported, and then the workers get their turns.

A callback of a worker may be held up for a while. The program does not wait for
it: it goes on with its next steps, and the other workers with theirs, until it is
held up itself. That is so when it waits for what has not come, since only the
worker can still bring it, and when it waits in the middle of a step for the worker
to end.

## Main definitions

* `Act.performTop`: A step of the scenario itself.
* `Act.conclude`: Its report, and the turns of the workers.
* `Act.heldUp`: Steps that wait before they do anything.
* `Act.turn`, `Act.turns`: The program goes on.
* `Act.meanwhile`: What happens while a callback is held up.
-/

namespace ReadNotify

namespace Act

/-- What the program itself does for a step. A panic of the library that nobody
    caught is an answer here. -/
def performTop (act : Act Answer) : Act Answer :=
  tryCatch act fun
    | .refused r => return .refused r
    | .panicked text => return .panicked text

/-- The size of each registry of the program and whether its scan is at the
    end. -/
def registryView (w : World Desk) : List (Nat × Bool) :=
  (List.range w.desk.registries).map fun r =>
    ((w.sys.registry r).size, (w.sys.registry r).exhausted)

/-- Reports a step with its answer. The workers get their turns afterwards. -/
def conclude (perform : Step → Act Answer) (answer : Answer) : Act Unit := do
  flush
  modify fun w =>
    let report : Report :=
      { answer, events := w.desk.events.reverse, log := w.sys.log.reverse.map LogRecord.text,
        registries := registryView w }
    { sys := { w.sys with log := [] }
      desk :=
        { w.desk with events := [], reports := report :: w.desk.reports, between := true } }
  settle perform
  onDesk fun d => { d with between := false }

/-- Whether nothing can be read from a connection. -/
def unreadable (name : String) : Act Bool := do
  match ← handle? name with
  | none => return false
  | some c => return !(← sys).canRead c

/-- Whether a step waits, before it does anything, for something that has not
    come. -/
def wants : Op Step → Act Bool
  | .read (.ok name) _ true => unreadable name
  | .readExact (.ok name) _ => unreadable name
  | .await (.ok k) => do return (← desk).arrived.length < k
  | .notifierStats (.ok name) least => do
      match (← desk).notifiers.find? name with
      | none => return false
      | some n => return ((← sys).notifierStats n).dispatches < least
  | .waitCallback (.ok name) value => do
      match ← handle? name with
      | none => return false
      | some c => return (← sys).hasCallback c != value
  | _ => return false

/-- Whether the program is held up before a step, by a worker that is held up
    itself. -/
def heldUp (step : Step) : Act Bool := do
  if (← desk).busy.isEmpty then return false else wants step.op

/-- The next thing the program does: it goes on with the step it is waiting in, or
    performs one. Answers whether there was anything it could do. -/
def turn (perform : Step → Act Answer) : Act Bool := do
  match (← desk).joining, (← desk).program with
  | some j, _ =>
    if (← desk).isWaiting j then return false
    onDesk fun d => { d with joining := none }
    match ← goOn j with
    | .waits errand => onDesk fun d => { d with joining := some { j with errand } }
    | progress => conclude perform (← performTop (joined j progress))
    return true
  | none, [] => return false
  | none, step :: rest =>
    if ← heldUp step then return false
    onDesk fun d => { d with program := rest }
    match ← joins step with
    | some j => onDesk fun d => { d with joining := some j }
    | none => conclude perform (← performTop (perform step))
    return true

/-- The program goes on until it is held up or done, with so many turns at
    most. -/
def turns (perform : Step → Act Answer) : Nat → Act Unit
  | 0 => return ()
  | n + 1 => do if ← turn perform then turns perform n

/-- The program goes on until it is held up or done. No step takes more than three
    turns, since none waits more than twice. -/
def proceed (perform : Step → Act Answer) : Act Unit := do
  turns perform (3 * (← desk).program.length + 2)

/-- What happens while a callback is held up. If it is one of a worker, the other
    workers get their turns and the program goes on, on its own thread and with no
    locks held, unless it is in the middle of a step. -/
def meanwhile (perform : Step → Act Answer) : Act Unit := do
  match (← sys).thread with
  | .caller => return ()
  | .worker k =>
    if !(← desk).between then return ()
    flush
    let before ← get
    modify fun w =>
      { sys := { w.sys with thread := .caller, held := [], log := [] }
        desk :=
          { w.desk with
            frame := none, events := [], arrived := w.desk.events ++ w.desk.arrived,
            busy := k :: w.desk.busy } }
    settle perform
    onDesk fun d => { d with between := false }
    proceed perform
    modify fun w =>
      { sys := { w.sys with thread := before.sys.thread, held := before.sys.held,
                            log := before.sys.log }
        desk :=
          { w.desk with
            frame := before.desk.frame, between := true, busy := before.desk.busy } }

end Act

end ReadNotify
