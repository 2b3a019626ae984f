import ReadNotify.Scenario.Joins
/-!
# Calling the Callbacks of a Scenario

A callback of a scenario performs its steps in order, leaving out those meant
for another call, and raises an event when it is done. A panic ends the list;
the event says so. A panic of the library inside a nested step unwinds through
the callback, which then raises no event.

Workers run beside the program. Their callbacks are the same, with one
difference: an empty delivery right behind an empty delivery of the same
callback is passed over, since a worker repeats it in every cycle for as long
as the connection stays at its end.

When exactly a worker gets its turn is not fixed. Here every worker gets as
many cycles as it takes until none of them has anything to deliver, whenever
the program waits for something. The events of workers are kept apart, and
what workers log is not shown.

A callback of a worker may have to wait for another worker. It is left where it is
then, and goes on when the other one is no longer held up. Meanwhile its worker does
nothing; what it has read for other callbacks is kept.

How nested steps are performed is an argument throughout.

## Main definitions

* `Act.attempt`: An action whose refusal is an answer.
* `Act.actions`: The steps of a callback.
* `Act.callBody`, `Act.handler`: One call of a callback.
* `Act.revive`: The rest of a call that was left.
* `Act.settle`: The turns of all workers.
-/

namespace ReadNotify

namespace Act

/-- An action whose refusal is an answer. -/
def attempt (act : Act Answer) : Act Answer :=
  tryCatch act fun
    | .refused r => return .refused r
    | .panicked text => throw (.panicked text)

/-- How the steps of a callback ended: with the call, or at one that waits. -/
inductive Ending where
  | exit (e : Exit)
  | waits (j : Joining) (rest : List Step)

/-- Performs the steps of a callback that are meant for one call of it in
    order, up to a panic or to a step that has to wait for a worker if the callback
    may be left there, and answers how they ended. -/
def actions (perform : Step → Act Answer) (mayWait : Bool) (call : Nat) :
    List Step → Act (List Answer × Ending)
  | [] => return ([], .exit .returned)
  | step :: rest =>
    if !step.isFor call then actions perform mayWait call rest
    else
      match step.op with
      | .panic => return ([], .exit .panicked)
      | _ => do
        match ← if mayWait then joins step else pure none with
        | some j => return ([], .waits j rest)
        | none =>
          let answer ← perform step
          let (more, ending) ← actions perform mayWait call rest
          return (answer :: more, ending)

/-- The worker that is running, if it is one. -/
def worker? : Act (Option WorkerKey) := do
  match (← sys).thread with
  | .caller => return none
  | .worker k => return some k

/-- Whether the running thread is a worker. -/
def onWorker : Act Bool := do return (← worker?).isSome

/-- Goes on with a call. If it has to wait it is left where it is. -/
def goThrough (x : OpenCall) (act : Act (List Answer × Ending)) : Act Exit := do
  let outer := (← desk).frame
  onDesk fun d => { d with frame := some x.frame }
  let result ← tryCatch (some <$> act) fun _ => return none
  onDesk fun d => { d with frame := outer }
  match result with
  | none => return .panicked
  | some (results, .exit exit) =>
    raise (.called x.tag x.frame.data (x.results ++ results) (exit == .panicked))
    return exit
  | some (results, .waits j rest) =>
    match ← worker? with
    | none => return .returned
    | some k =>
      let call := { x with results := x.results ++ results }
      onDesk fun d => { d with suspended := ⟨k, j, call, rest, none, []⟩ :: d.suspended }
      return .returned

/-- Keeps what a worker has read while it waits for another one, and answers whether
    it does. -/
def keep (k : CallbackKey) (data : Bytes) : Act Bool := do
  match ← worker? with
  | none => return false
  | some i =>
    if !(← desk).isSuspended i then return false
    onDesk fun d => d.updateSuspended i fun x => { x with later := x.later ++ [(k, data)] }
    return true

/-- One call of a callback. A worker may have to wait in it, unless it was called by
    what another callback of that worker does. -/
def callBody (perform : Step → Act Answer) (k : CallbackKey) (data : Bytes) : Act Exit := do
  match (← desk).bodies.get? k with
  | none => return .returned
  | some body =>
    if ← keep k data then return .returned
    if (← onWorker) && data.isEmpty && body.lastEmpty then return .returned
    let number := body.calls + 1
    let hold := ((← sys).callbacks.get? k).bind fun cb => cb.holds.head?
    let mayWait := (← onWorker) && (← desk).frame.isNone
    onDesk fun d =>
      { d with
        bodies := d.bodies.update k fun b => { b with calls := number, lastEmpty := data.isEmpty }
        deliveries := d.deliveries + 1 }
    goThrough ⟨k, body.tag, number, ⟨data, hold⟩, []⟩
      (actions perform mayWait number body.actions)

/-- What calling a callback does. -/
def handler (perform : Step → Act Answer) : Handler Desk := fun k data w =>
  match (callBody perform k data).perform w with
  | (.ok exit, w) => (w, exit)
  | (.error _, w) => (w, .panicked)

/-- Takes a callback out of the slot that it is in. -/
def takeBack (k : CallbackKey) (s : System) : System × Option Taken :=
  match s.connections.find? fun x => x.slot.callback == some k with
  | some c => s.take c true
  | none => (s, none)

/-- A callback that was left in the middle is out of its slot. -/
def leaveOut (k : WorkerKey) (w : World Desk) : World Desk :=
  match w.desk.suspended.find? fun x => x.worker == k with
  | none => w
  | some x =>
    let (s, taken) := takeBack x.call.callback w.sys
    ⟨s, w.desk.updateSuspended k fun x => { x with taken }⟩

/-- So many cycles of one worker, until it has to wait for another one. -/
def cycles (call : Handler Desk) (k : WorkerKey) : Nat → World Desk → World Desk
  | 0, w => w
  | n + 1, w =>
    if w.desk.isSuspended k then w else cycles call k n (leaveOut k (w.workerCycle call k))

/-- How many cycles of a worker look at every connection it serves. -/
def fullPass (w : World Desk) (k : WorkerKey) : Nat :=
  match w.sys.workers.get? k with
  | some worker => (w.sys.registry worker.loop.registry).size / worker.loop.capacity + 2
  | none => 0

/-- One full pass of every worker that still serves and is not held up. -/
def sweep (call : Handler Desk) (w : World Desk) : World Desk :=
  (w.sys.serving.filter fun k => !w.desk.isHeldUp k).foldl
    (fun w k => cycles call k (fullPass w k) w) w

/-- Full passes until one delivers nothing, but no more than so many. -/
def sweeps (call : Handler Desk) : Nat → World Desk → World Desk
  | 0, w => w
  | n + 1, w =>
    let w' := sweep call w
    if w'.desk.deliveries = w.desk.deliveries then w' else sweeps call n w'

/-- How many passes the workers are given: every delivery but an empty one
    consumes a byte that has arrived. -/
def patience (w : World Desk) : Nat :=
  w.sys.kernel.sockets.toList.foldl (fun n s => n + s.inbox.length) 4096

/-- What happens to a callback after a call, if it is out of its slot. -/
def putAway (taken : Option Taken) (exit : Exit) : Act Unit :=
  match taken, exit with
  | none, _ => return ()
  | some t, .returned => onSys fun s => (s.putBack t).1
  | some t, .panicked => onSys fun s => s.giveUp t

/-- Calls a callback with bytes that were read for it before. -/
def deliver (perform : Step → Act Answer) (k : CallbackKey) (data : Bytes) : Act Unit := do
  let taken ← callSys (takeBack k)
  putAway taken (← callBody perform k data)

/-- A worker goes on that has waited for another one: with its callback, and with what
    else it has read. It may have to wait again. -/
def revive (perform : Step → Act Answer) (x : Suspended) : Act Unit := do
  let before ← sys
  onSys fun s => { s with thread := .worker x.worker, held := [] }
  onDesk fun d => { d with suspended := d.suspended.filter fun y => y.worker != x.worker }
  match ← goOn x.joining with
  | .waits errand =>
    let x := { x with joining := { x.joining with errand } }
    onDesk fun d => { d with suspended := x :: d.suspended }
  | progress =>
    let exit ← goThrough x.call do
      let answer ← attempt (joined x.joining progress)
      let (more, ending) ← actions perform true x.call.number x.rest
      return (answer :: more, ending)
    if (← desk).isSuspended x.worker then
      onDesk fun d =>
        d.updateSuspended x.worker fun y => { y with taken := x.taken, later := x.later }
    else
      putAway x.taken exit
      x.later.forM fun (k, data) => deliver perform k data
      modify (leaveOut x.worker)
  onSys fun s => { s with thread := before.thread, held := before.held }

/-- The workers run until nobody has anything to deliver and whoever waits for another
    one has to, but no more than so often. -/
def rounds (perform : Step → Act Answer) : Nat → Act Unit
  | 0 => return ()
  | n + 1 => do
    modify fun w => sweeps (handler perform) (patience w) w
    let d ← desk
    match d.suspended.find? fun x => !d.isWaiting x.joining with
    | none => return ()
    | some x =>
      revive perform x
      rounds perform n

/-- The turns of all workers. Their events are kept apart, and what they log is
    not shown. -/
def settle (perform : Step → Act Answer) : Act Unit := do
  flush
  let before ← get
  modify fun w => { w with desk := { w.desk with events := [], frame := none } }
  rounds perform (patience before)
  flush
  modify fun w =>
    { sys := { w.sys with log := before.sys.log }
      desk :=
        { w.desk with
          arrived := w.desk.events ++ w.desk.arrived
          events := before.desk.events
          frame := before.desk.frame } }

/-- The turns of all workers, if it is the program that waits. -/
def settleHere (perform : Step → Act Answer) : Act Unit := do
  if !(← onWorker) then settle perform

end Act

end ReadNotify
