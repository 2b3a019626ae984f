import ReadNotify.Duration
import ReadNotify.Error
import ReadNotify.Text.Quoted
import ReadNotify.Text.Record
/-!
# Settings of a Notifier

A notifier is built from defaults and a list of settings, of which a later
one of the same name wins. Values are taken as they come; only the finished
configuration is looked at, and the first fault in a fixed order is reported:
an empty window, an empty buffer, a readiness timeout of a second or more.

Nothing else is checked here. A thread name the system refuses, or a size no
buffer can have, is found out when the worker is started.

## Main definitions

* `BackendKind`: Which readiness backend a worker uses.
* `Config`: A resolved configuration; `Config.default` holds the defaults.
* `Setting`: One named setting; `Config.apply` enters it.
* `Config.validate`, `Config.build`: Accepting a configuration.
* `Config.record`: The configuration as it is printed.

## Theorems

* `Config.validate_eq_ok_iff`: What a configuration has to be in order to be accepted.
-/

namespace ReadNotify

/-- Which readiness backend a worker uses. -/
inductive BackendKind where
  | poll
  | epoll
  deriving DecidableEq, Repr

namespace BackendKind

/-- The name settings and log lines use. -/
def name : BackendKind → String
  | poll => "poll"
  | epoll => "epoll"

/-- The name the printed configuration uses. -/
def title : BackendKind → String
  | poll => "Poll"
  | epoll => "Epoll"

/-- The backend of a name. -/
def ofName? : String → Option BackendKind
  | "poll" => some poll
  | "epoll" => some epoll
  | _ => none

end BackendKind

/-- A resolved configuration. -/
structure Config where
  /-- Connections checked per cycle at most. -/
  window : Nat
  /-- Bytes read per delivery at most. -/
  bufferSize : Nat
  /-- Longest a single readiness check may wait. -/
  pollTimeout : Duration
  /-- Pause between cycles. -/
  idleInterval : Duration
  backend : BackendKind
  threadName : String
  deriving DecidableEq

/-- One named setting. -/
inductive Setting where
  | window (n : Nat)
  | bufferSize (n : Nat)
  | pollTimeout (t : Duration)
  | idleInterval (t : Duration)
  | backend (b : BackendKind)
  | threadName (name : String)

namespace Config

/-- The settings of a notifier nobody configured. -/
def default : Config where
  window := 1024
  bufferSize := 1024
  pollTimeout := { Duration.zero with nanos := 250000, nanos_lt := by decide }
  idleInterval := { Duration.zero with nanos := 25000000, nanos_lt := by decide }
  backend := .poll
  threadName := "sal-notifier"

/-- Enters one setting. -/
def apply (c : Config) : Setting → Config
  | .window n => { c with window := n }
  | .bufferSize n => { c with bufferSize := n }
  | .pollTimeout t => { c with pollTimeout := t }
  | .idleInterval t => { c with idleInterval := t }
  | .backend b => { c with backend := b }
  | .threadName name => { c with threadName := name }

/-- The defaults with the settings entered in order. -/
def ofSettings (settings : List Setting) : Config :=
  settings.foldl apply default

/-- The first fault of a configuration, if it has one. -/
def validate (c : Config) : Except NotifyError Unit :=
  if c.window = 0 then .error (.config "window must be > 0")
  else if c.bufferSize = 0 then .error (.config "buffer_size must be > 0")
  else if Duration.second ≤ c.pollTimeout then
    .error (.config "poll_timeout must be under one second")
  else .ok ()

/-- What a configuration has to be in order to be accepted. -/
theorem validate_eq_ok_iff (c : Config) :
    c.validate = .ok () ↔
      0 < c.window ∧ 0 < c.bufferSize ∧ ¬ Duration.second ≤ c.pollTimeout := by
  unfold validate
  by_cases hwindow : c.window = 0
  · rw [if_pos hwindow]
    exact iff_of_false (by simp only [reduceCtorEq, not_false_eq_true]) fun h => by omega
  by_cases hbuffer : c.bufferSize = 0
  · rw [if_neg hwindow, if_pos hbuffer]
    exact iff_of_false (by simp only [reduceCtorEq, not_false_eq_true]) fun h => by omega
  by_cases htimeout : Duration.second ≤ c.pollTimeout
  · rw [if_neg hwindow, if_neg hbuffer, if_pos htimeout]
    exact iff_of_false (by simp only [reduceCtorEq, not_false_eq_true]) fun h => h.2.2 htimeout
  · rw [if_neg hwindow, if_neg hbuffer, if_neg htimeout]
    exact iff_of_true rfl ⟨Nat.pos_of_ne_zero hwindow, Nat.pos_of_ne_zero hbuffer, htimeout⟩

/-- The configuration a list of settings builds. -/
def build (settings : List Setting) : Except NotifyError Config :=
  let c := ofSettings settings
  match c.validate with
  | .ok () => .ok c
  | .error e => .error e

/-- The configuration as it is printed. -/
def record (c : Config) : Record :=
  .fields "Config"
    [("window", .number c.window),
     ("buffer_size", .number c.bufferSize),
     ("poll_timeout", .atom c.pollTimeout.text),
     ("idle_interval", .atom c.idleInterval.text),
     ("backend", .atom c.backend.title),
     ("thread_name", .atom (Quoted.text c.threadName))]

/-- A notifier of this configuration as it is printed. -/
def notifierRecord (c : Config) (running : Bool) (registered : Nat) : Record :=
  .fields "Notifier"
    [("config", c.record), ("running", .flag running), ("registered", .number registered)]

end Config

end ReadNotify
