import ReadNotify.Config
import ReadNotify.Connection.Id
import ReadNotify.Readiness.Poller
/-!
# The Log

What the library reports about its own work, one record for each occasion.
A record is written as a line: its level, a fixed message, and the values that
belong to it, each with its name, in a fixed order.

## Main definitions

* `Stats`: What a worker has done so far.
* `LogRecord`: The occasions.
* `LogRecord.text`: The line of a record.
-/

namespace ReadNotify

/-- What a worker has done since its notifier was built. -/
structure Stats where
  /-- Cycles begun. -/
  cycles : Nat
  /-- Callbacks invoked, those that panicked included. -/
  dispatches : Nat
  deriving DecidableEq, Repr

namespace Stats

/-- Nothing yet. -/
def zero : Stats := ⟨0, 0⟩

/-- The numbers as a record. -/
def record (s : Stats) : Record :=
  .fields "Stats" [("cycles", .number s.cycles), ("dispatches", .number s.dispatches)]

end Stats

/-- The occasions on which something is logged. -/
inductive LogRecord where
  | connectionClosed (id : ConnLabel)
  | dispatching (id : ConnLabel) (bytes : Nat)
  | callbackPanicked (id : ConnLabel)
  | invalidHandle (id : ConnLabel)
  | handleRejected (id : ConnLabel) (cause : IoError)
  | deleteFailed (fd : Nat) (cause : IoError)
  | connectFailed (address : String) (cause : IoError)
  | dualStackFailed (cause : IoError)
  | workerSpawned (backend : BackendKind)
  | callbackRegistered (id : ConnLabel)
  | callbackUnregistered (id : ConnLabel)
  | shutdownFromWorker
  | notifierShutDown (cleared : Nat)
  | checkFailed (cause : IoError) (window : Nat)
  | workerStarted (window buffer : Nat)
  | workerStopped (stats : Stats)
  deriving DecidableEq, Repr

namespace LogRecord

/-- A value behind its name. -/
def field (name value : String) : String := " " ++ name ++ "=" ++ value

/-- The line of a record. -/
def text : LogRecord → String
  | connectionClosed id => "DEBUG connection closed" ++ field "id" id.text
  | dispatching id bytes =>
      "TRACE dispatching read callback" ++ field "id" id.text ++ field "bytes" (toString bytes)
  | callbackPanicked id =>
      "ERROR read callback panicked, unregistering it" ++ field "id" id.text
  | invalidHandle id => "TRACE skipping invalid handle" ++ field "id" id.text
  | handleRejected id cause =>
      "TRACE skipping handle epoll rejected" ++ field "id" id.text ++ field "err" cause.message
  | deleteFailed fd cause =>
      "TRACE epoll delete failed" ++ field "fd" (toString fd) ++ field "err" cause.message
  | connectFailed address cause =>
      "DEBUG connect attempt failed" ++ field "addr" address ++ field "error" cause.message
  | dualStackFailed cause =>
      "DEBUG dual-stack listen failed, falling back to IPv4" ++ field "port" "_" ++
        field "error" cause.message
  | workerSpawned backend =>
      "DEBUG notification worker spawned" ++ field "backend" backend.name
  | callbackRegistered id => "DEBUG read callback registered" ++ field "id" id.text
  | callbackUnregistered id => "DEBUG read callback unregistered" ++ field "id" id.text
  | shutdownFromWorker => "DEBUG shutdown requested from the worker thread, not joining"
  | notifierShutDown cleared =>
      "DEBUG notifier shut down" ++ field "cleared" (toString cleared)
  | checkFailed cause window =>
      "WARN readiness check failed" ++ field "err" cause.message ++
        field "window" (toString window)
  | workerStarted window buffer =>
      "DEBUG notification worker started" ++ field "window" (toString window) ++
        field "buffer" (toString buffer)
  | workerStopped stats =>
      "DEBUG notification worker stopped" ++ field "stats" stats.record.inline

end LogRecord

end ReadNotify
