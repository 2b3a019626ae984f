import ReadNotify.Scenario.Calls
/-!
# Steps on Notifiers

Notifiers by name, registrations with them, and waiting for what their workers
deliver. A registration that ends in a panic of the library unwinds through
whatever performed the step.

Waiting gives the workers their turns. What came by then is answered; if it is
less than was waited for, the answer says that time ran out.

## Main definitions

* `Act.notifierStep`, `Act.dropNotifierStep`: The life of a notifier.
* `Act.setStep`, `Act.unsetStep`, `Act.shutdownStep`: What it does.
* `Act.awaitStep`, `Act.notifierStatsStep`, `Act.waitCallback`: Waiting.
-/

namespace ReadNotify

namespace Act

/-- Makes a notifier of some settings, if all of them could be read. -/
def notifierStep (name : Arg String) (settings : Except String (List Setting)) :
    Act Answer := do
  let name ← need name
  if (← desk).notifiers.contains name then refuse .notifierNameTaken
  match settings with
  | .error message => return .invalid message
  | .ok settings =>
    match Config.build settings with
    | .error e => return .rejected e
    | .ok config =>
      let n ← callSys fun s => s.addNotifier config
      onDesk fun d => { d with notifiers := d.notifiers.insert name n }
      return .ok

/-- Registers a callback with a notifier. -/
def setStep (name c : Arg String) (cb : Except Refusal (CallbackSpec Step)) : Act Answer := do
  let n ← notifier name
  let c ← handle c
  let k ← callback cb
  registrationAnswer (← callSys fun s => s.setCallback n c k)

/-- Unregisters a connection. -/
def unsetStep (name c : Arg String) : Act Answer := do
  let n ← notifier name
  let c ← handle c
  return .flag (← callSys fun s => s.unsetCallback n c)

/-- Shuts a notifier down. -/
def shutdownStep (name : Arg String) : Act Answer := do
  let n ← notifier name
  onSys fun s => s.shutdown n
  return .ok

/-- Gives a notifier up, which shuts it down. -/
def dropNotifierStep (name : Arg String) : Act Answer := do
  let name ← need name
  match (← desk).notifiers.find? name with
  | none => return .flag false
  | some n =>
    onDesk fun d => { d with notifiers := d.notifiers.erase name }
    onSys fun s => s.shutdown n
    return .flag true

/-- Whether a notifier is running, and with how many registrations. -/
def notifierStateStep (name : Arg String) : Act Answer := do
  let n ← notifier name
  let s ← sys
  return .notifierState (s.isRunning n) (s.registered n)

/-- A notifier as it is printed. -/
def notifierDebugStep (name : Arg String) : Act Answer := do
  let n ← notifier name
  return .text ((← sys).notifierRecord n).inline

/-- Waits until so many events of workers came, and answers them by tag. -/
def awaitStep (perform : Step → Act Answer) (k : Arg Nat) : Act Answer := do
  let k ← need k
  settleHere perform
  let events := (← desk).arrived.reverse
  onDesk fun d => { d with arrived := [] }
  return .awaited (Event.sorted events) (events.length < k)

/-- Waits until a notifier's workers invoked so many callbacks. -/
def notifierStatsStep (perform : Step → Act Answer) (name : Arg String) (least : Nat) :
    Act Answer := do
  let n ← notifier name
  if 0 < least then settleHere perform
  let stats := (← sys).notifierStats n
  return .notifierStats stats.dispatches (0 < stats.cycles)

/-- Waits until a connection has a callback, or has none. -/
def waitCallback (perform : Step → Act Answer) (c : Arg String) (value : Bool) :
    Act Answer := do
  let c ← handle c
  settleHere perform
  return .flag ((← sys).hasCallback c == value)

end Act

end ReadNotify
