import ReadNotify.Scenario.Desk
/-!
# Steps That Wait for a Worker

A step that registers with a notifier or shuts it down may have to wait for a worker.
As a rule the worker is between its cycles and ends at once. If it is held up in the
middle of a callback, because the callback takes a while or waits for another worker
itself, the step stops there. It goes on when the worker is no longer held up.

## Main definitions

* `Act.withLimit`: An action while the process may be short of descriptors.
* `Act.joins`: A step up to where it waits, if it has to.
* `Act.goOn`, `Act.joined`: The rest of it, and what it answers.
-/

namespace ReadNotify

namespace Act

/-- Performs an action while the process may be short of descriptors. -/
def withLimit {α : Type} (starved : Bool) (act : Act α) : Act α := do
  let before := (← sys).kernel.starved
  let limit (b : Bool) : Act Unit :=
    onSys fun s => { s with kernel := { s.kernel with starved := b } }
  limit (before || starved)
  let result : Except Stop α ← tryCatch (.ok <$> act) fun e => return .error e
  limit before
  match result with
  | .ok a => return a
  | .error e => throw e

/-- What a registration answers. A panic of the library unwinds. -/
def registrationAnswer : SetResult → Act Answer
  | .registered => return .ok
  | .refused e => return .rejected e
  | .panicked text => throw (.panicked text)

/-- A shutdown up to where it waits for a worker that is held up, if it does. -/
def joinsShutdown (name : String) (answer : Answer) : Act (Option Joining) := do
  let d ← desk
  match d.notifiers.find? name with
  | none => return none
  | some n =>
    let s ← sys
    match System.advance d.isHeldUp n 2 (s.startShutdown n) with
    | (s, .waits errand) =>
      onSys fun _ => s
      return some ⟨n, errand, answer, false⟩
    | _ => return none

/-- A registration up to where it waits for a worker that was set aside, if that is
    held up. The connection has been found open by then. -/
def joinsRegistration (name c : String) (cb : Except Refusal (CallbackSpec Step))
    (starved : Bool) : Act (Option Joining) := do
  let d ← desk
  match d.notifiers.find? name, ← handle? c with
  | some n, some c =>
    let s ← sys
    if !(s.isConnected c && (s.takeDetached n).2.any d.isHeldUp) then return none
    let cb : Option CallbackKey ← tryCatch (some <$> callback cb) fun _ => return none
    match cb with
    | none => return none
    | some k =>
      match ← callSys fun s => s.startSet n c k with
      | .waits errand => return some ⟨n, errand, .ok, starved⟩
      | _ => return none
  | _, _ => return none

/-- A step up to where it waits for a worker that is held up, if it does. -/
def joins (step : Step) : Act (Option Joining) := do
  match step.op with
  | .shutdown (.ok name) => joinsShutdown name .ok
  | .dropNotifier (.ok name) => do
      let j ← joinsShutdown name (.flag true)
      if j.isSome then onDesk fun d => { d with notifiers := d.notifiers.erase name }
      return j
  | .set (.ok name) (.ok c) cb => joinsRegistration name c cb step.starved
  | _ => return none

/-- The rest of a step after the worker it has waited for. It may have to wait
    again. -/
def goOn (j : Joining) : Act Progress :=
  withLimit j.starved (callSys fun s => s.goOn j.notifier j.errand)

/-- What a step answers that has waited. -/
def joined (j : Joining) : Progress → Act Answer
  | .set result => registrationAnswer result
  | _ => return j.answer

end Act

end ReadNotify
