import ReadNotify.Scenario.Registries
/-!
# Steps on Backends and Poll Loops

The program may ask a readiness backend about a window of connections, and it
may run cycles of a poll loop over one of its registries by itself. Every
question such a loop asks its backend raises an event.

A loop may also have a *scripted* backend. Each question is answered by the
next entry of the script: some steps are performed, then the window, or other
connections, are reported ready, or the question fails. What a script reports
need not have anything to do with the window.

A loop that is in use is out of reach for nested steps. A loop that runs until
it is stopped looks at its channel before each cycle and after it.

## Main definitions

* `Act.backendStep`, `Act.pollStep`: Backends by name.
* `Act.scriptActions`, `Act.checkLoop`: Asking the backend of a loop.
* `Act.loopStep`, `Act.runOnceStep`, `Act.statsStep`, `Act.runStep`: Loops.
* `Act.stopStep`, `Act.stopDropStep`: Stopping the innermost running loop.
-/

namespace ReadNotify

namespace Act

/-- The identities of connections by name. -/
def idsOf (names : List String) : Act (List ConnId) :=
  names.mapM fun name => do idOf (← known (.ok name))

/-- Gives back what a backend under some name holds of the system. -/
def releaseBackend (name : String) : Act Unit := do
  match (← desk).backends.find? name with
  | some p => onSys fun s => { s with kernel := p.release s.kernel }
  | none => pure ()

/-- Opens a backend. -/
def createPoller (kind : BackendKind) (capacity : Nat) : Act (Except IoError Poller) := do
  match ← callSys fun s =>
      let (k, r) := Poller.create kind capacity s.kernel
      ({ s with kernel := k }, r) with
  | .ok p => return .ok p
  | .error (.io e) => return .error e
  | .error (.panic text) => throw (.panicked text)

/-- Opens a backend under a name. -/
def backendStep (name : Arg String) (kind : Arg BackendKind) (capacity : Arg Nat) :
    Act Answer := do
  let name ← need name
  let kind ← need kind
  let capacity ← need capacity
  match ← createPoller kind capacity with
  | .error e => return .failed e
  | .ok p =>
    releaseBackend name
    onDesk fun d => { d with backends := d.backends.insert name p }
    return .count p.capacity

/-- Asks a backend about a window. What the list of ready members held before
    is gone by the answer, but it has to name connections. -/
def pollStep (name : Arg String) (window : Arg (List String)) (before : List String) :
    Act Answer := do
  let window ← idsOf (← need window)
  let _ ← idsOf before
  let name ← need name
  let p ← orRefuse ((← desk).backends.find? name) .noBackend
  let (p, ready) ← callSys fun s => s.checkPoller window p
  onDesk fun d => { d with backends := d.backends.insert name p }
  return .names (← ready.mapM nameOfId)

/-- The members a script reports by name: none of them if one is not known. -/
def scriptedReady (names : List String) : Act (List ConnId) := do
  let d ← desk
  match names.mapM d.named? with
  | some conns => conns.mapM idOf
  | none => return []

/-- Performs the steps of a script in order. They are no steps of the callback
    that may be running, so they have neither its bytes nor its handle, and
    they cannot panic in its place. -/
def scriptActions (perform : Step → Act Answer) (steps : List Step) : Act (List Answer) := do
  let outer := (← desk).frame
  onDesk fun d => { d with frame := none }
  let results ← steps.mapM perform
  onDesk fun d => { d with frame := outer }
  return results

/-- One question to the backend of a loop. -/
def askLoop (perform : Step → Act Answer) (name : String) (window : List ConnId)
    (timeout : Duration) (p : LoopPoller) :
    Act (LoopPoller × Except IoError (List ConnId)) := do
  let windowNames ← window.mapM nameOfId
  match p with
  | .standard p =>
    let (p, ready) ← callSys fun s => s.checkPoller window p
    raise (.polled name windowNames (.ok (← ready.mapM nameOfId)) none)
    return (.standard p, .ok ready)
  | .script capacity entries =>
    let entry := entries.headD .empty
    let results ← scriptActions perform entry.actions
    let listed ← scriptedReady entry.ready
    let ready := (if entry.all then window else []) ++ listed
    let answer : Except IoError (List ConnId) :=
      match entry.failure with
      | some code => .error (.os code)
      | none => .ok ready
    let shown : Except IoError (List String) ←
      match answer with
      | .ok ready => .ok <$> ready.mapM nameOfId
      | .error e => pure (.error e)
    raise (.polled name windowNames shown (some (timeout, results)))
    return (.script capacity entries.tail, answer)

/-- What asking the backend of a loop does. A panic inside a script is kept
    until the cycle is over. -/
def checkLoop (perform : Step → Act Answer) (name : String) : Check LoopPoller Desk :=
  fun window timeout p w =>
    match (askLoop perform name window timeout p).perform w with
    | (.ok (p, answer), w) => (w, p, answer)
    | (.error (.panicked text), w) =>
        ({ w with desk := { w.desk with unwinding := some text } }, p, .ok [])
    | (.error (.refused _), w) => (w, p, .ok [])

/-- The capacity of a loop's backend. -/
def pollerCapacity : LoopPoller → Nat
  | .standard p => p.capacity
  | .script capacity _ => capacity

/-- Opens the backend of a loop. -/
def createLoopPoller (backend : LoopBackend Step) (capacity : Nat) :
    Act (Except IoError LoopPoller) := do
  match backend with
  | .standard kind =>
    match ← createPoller kind capacity with
    | .ok p => return .ok (.standard p)
    | .error e => return .error e
  | .script entries => return .ok (.script capacity entries)

/-- Gives back what the backend of a loop holds of the system. -/
def releaseLoop (l : Loop) : Act Unit := do
  match l.poller with
  | .standard p => onSys fun s => { s with kernel := p.release s.kernel }
  | .script .. => pure ()

/-- Makes a loop over a registry. -/
def loopStep (name : Arg String) (backend : Except Refusal (LoopBackend Step))
    (reg window buffer : Nat) (timeout : Duration) (capacity : Nat) : Act Answer := do
  let name ← need name
  let r ← registry reg
  let backend ← need backend
  match ← createLoopPoller backend capacity with
  | .error e => return .failed e
  | .ok poller =>
    let config : Config :=
      { Config.default with window, bufferSize := buffer, pollTimeout := timeout }
    let counters := (← sys).counters.size
    match PollLoop.ofConfig r counters (pollerCapacity poller) config with
    | .error (.io e) => return .failed e
    | .error (.panic text) =>
      releaseLoop ⟨⟨r, 1, 0, timeout, counters⟩, poller⟩
      throw (.panicked text)
    | .ok loop =>
      onSys fun s => { s with counters := s.counters.add .zero }
      match (← desk).loops.find? name with
      | some old => releaseLoop old
      | none => pure ()
      onDesk fun d => { d with loops := d.loops.insert name ⟨loop, poller⟩ }
      return .ok

/-- A loop by its name. -/
def loopNamed (name : Arg String) : Act (String × Loop) := do
  let name ← need name
  let l ← orRefuse ((← desk).loops.find? name) .noLoop
  return (name, l)

/-- One cycle of a loop that is out of its table. -/
def cycle (perform : Step → Act Answer) (name : String) (l : Loop) : Act (Loop × Nat) := do
  let (poller, n) ← callWorld fun w =>
    let (w, poller, n) := w.runOnce (checkLoop perform name) (handler perform) l.loop l.poller
    (w, poller, n)
  match (← desk).unwinding with
  | some text =>
    onDesk fun d => { d with unwinding := none }
    throw (.panicked text)
  | none => return ({ l with poller }, n)

/-- So many cycles of a loop, and how many callbacks each invoked. -/
def cyclesOf (perform : Step → Act Answer) (name : String) : Nat → Loop → Act (Loop × List Nat)
  | 0, l => return (l, [])
  | k + 1, l => do
    let (l, n) ← cycle perform name l
    let (l, more) ← cyclesOf perform name k l
    return (l, n :: more)

/-- Runs cycles of a loop: one, or a number of them. -/
def runOnceStep (perform : Step → Act Answer) (name : Arg String) (times : Option Nat) :
    Act Answer := do
  let (name, l) ← loopNamed name
  onDesk fun d => { d with loops := d.loops.erase name }
  let (l, ns) ← cyclesOf perform name (times.getD 1) l
  onDesk fun d => { d with loops := d.loops.insert name l }
  match times with
  | none => return .count (ns.headD 0)
  | some _ => return .counts ns

/-- What a loop has done. -/
def statsStep (name : Arg String) : Act Answer := do
  let (_, l) ← loopNamed name
  return .stats ((← sys).stats l.loop.counters)

/-- Whether the channel of the innermost running loop stops it. -/
def stopped : Act Bool := do
  match (← desk).channels with
  | [] => return true
  | ch :: _ => return ch.stops

/-- Cycles of a loop until its channel stops it, but no more than so many. -/
def runUntilStopped (perform : Step → Act Answer) (name : String) : Nat → Loop → Act Loop
  | 0, l => return l
  | fuel + 1, l => do
    if ← stopped then return l
    let (l, _) ← cycle perform name l
    runUntilStopped perform name fuel l

/-- How many cycles a running loop is given: enough for every entry of a script
    and every byte that has arrived. -/
def runPatience (l : Loop) : Act Nat := do
  let entries := match l.poller with
    | .script _ entries => entries.length
    | .standard _ => 0
  return patience (← get) + entries

/-- Runs a loop until it is stopped, which uses it up. -/
def runStep (perform : Step → Act Answer) (name : Arg String) (stop : StopSource) :
    Act Answer := do
  let (name, l) ← loopNamed name
  let channel : StopChannel := ⟨stop == .sent, stop != .dropped⟩
  onDesk fun d =>
    { d with loops := d.loops.erase name, channels := channel :: d.channels }
  onSys fun s => s.note (.workerStarted l.loop.capacity l.loop.bufferSize)
  let result : Except Stop Loop ← tryCatch
    (.ok <$> (do runUntilStopped perform name (← runPatience l) l))
    fun e => return .error e
  onDesk fun d => { d with channels := d.channels.drop 1 }
  match result with
  | .error e => throw e
  | .ok l =>
    let stats := (← sys).stats l.loop.counters
    onSys fun s => s.note (.workerStopped stats)
    releaseLoop l
    return .stats stats

/-- Sends a stop message to the innermost running loop, if there is room. -/
def stopStep : Act Answer := do
  match (← desk).channels with
  | [] => return .flag false
  | ch :: rest =>
    if ch.sender && !ch.message then
      onDesk fun d => { d with channels := { ch with message := true } :: rest }
      return .flag true
    else return .flag false

/-- Gives up the only means of stopping the innermost running loop, which stops
    it as well. -/
def stopDropStep : Act Answer := do
  match (← desk).channels with
  | [] => return .flag false
  | ch :: rest =>
    onDesk fun d => { d with channels := { ch with sender := false } :: rest }
    return .flag ch.sender

end Act

end ReadNotify
