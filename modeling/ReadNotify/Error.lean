import ReadNotify.IoError
/-!
# Errors of a Notifier

Why a notifier could not be built or could not take a registration. Failures
of connections themselves are plain system errors and never appear here.

A notifier's error can be handed on as a system error: a failure that came
from the system is passed through unchanged, a closed connection becomes the
kind for that, and a refused setting becomes invalid input with the reason as
its text.

## Main definitions

* `NotifyError`: The four causes.
* `NotifyError.message`: The text of an error.
* `NotifyError.source?`: The text of the system error behind it.
* `NotifyError.toIoError`: The error as a system error.
-/

namespace ReadNotify

/-- Why a notifier refused. -/
inductive NotifyError where
  /-- The connection was closed before a callback could be registered. -/
  | notConnected
  /-- The worker could not be spawned. -/
  | spawn (cause : IoError)
  /-- The readiness backend could not be opened. -/
  | backend (cause : IoError)
  /-- A setting is out of range. -/
  | config (reason : String)
  deriving DecidableEq, Repr

namespace NotifyError

/-- The name of the cause. -/
def name : NotifyError → String
  | notConnected => "NotConnected"
  | spawn _ => "Spawn"
  | backend _ => "Backend"
  | config _ => "Config"

/-- The text of an error, the cause at its end. -/
def message : NotifyError → String
  | notConnected => "connection is closed"
  | spawn cause => "failed to spawn notification worker: " ++ cause.message
  | backend cause => "failed to open readiness backend: " ++ cause.message
  | config reason => "invalid notifier configuration: " ++ reason

/-- The text of the system error behind an error, if there is one. -/
def source? : NotifyError → Option String
  | spawn cause => some cause.message
  | backend cause => some cause.message
  | _ => none

/-- The error as a system error. -/
def toIoError : NotifyError → IoError
  | notConnected => .plain .notConnected
  | spawn cause => cause
  | backend cause => cause
  | config reason => .custom .invalidInput reason

end NotifyError

end ReadNotify
