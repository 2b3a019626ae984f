import ReadNotify.System.Notifier
/-!
# Answers and Events

What a scenario shows of itself. Every step has an answer, and callbacks,
destroyed callbacks and readiness checks raise events. An event of a callback
that performed steps of its own carries their answers, so answers and events
are defined together.

A step can also be refused: it names something that is not there, or lacks a
value it needs. A refused step has changed nothing.

## Main definitions

* `Refusal`: Why a step was refused; `Refusal.text` words it.
* `Answer`, `Event`: What a step and a callback show.
* `Event.tag`: What events are sorted by.
-/

namespace ReadNotify

/-- Why a step was refused. -/
inductive Refusal where
  | noHandle (name : String)
  | noId (name : String)
  | nameTaken (name : String)
  | handleInUse (fd : Nat)
  | noRegistry
  | noLoop
  | noScratch
  | noBackend
  | noNotifier
  | notifierNameTaken
  | notHeld
  | heldTaken
  | unknownStep (name : String)
  | missing (key : String)
  | noData
  | badHex
  /-- Steps are nested too deeply. -/
  | tooDeep
  deriving DecidableEq, Repr

namespace Refusal

/-- The text of a refusal. -/
def text : Refusal → String
  | noHandle name => "no handle " ++ name
  | noId name => "no id \"" ++ name ++ "\""
  | nameTaken name => "name " ++ name ++ " taken"
  | handleInUse fd => "handle " ++ toString fd ++ " in use"
  | noRegistry => "no registry"
  | noLoop => "no loop"
  | noScratch => "no scratch"
  | noBackend => "no backend"
  | noNotifier => "no notifier"
  | notifierNameTaken => "notifier name taken"
  | notHeld => "not held"
  | heldTaken => "taken"
  | unknownStep name => "unknown step " ++ name
  | missing key => key ++ "?"
  | noData => "data?"
  | badHex => "hex"
  | tooDeep => "too deep"

end Refusal

mutual

/-- What a step answers. -/
inductive Answer where
  | ok
  | absent
  | flag (b : Bool)
  | count (n : Nat)
  | counts (ns : List Nat)
  | text (s : String)
  | name (s : String)
  | names (ns : List String)
  | data (bytes : Bytes)
  | wouldBlock
  | failed (e : IoError)
  | rejected (e : NotifyError)
  | invalid (message : String)
  | panicked (text : String)
  | refused (r : Refusal)
  | state (connected hasCallback : Bool) (lastError : Option IoError)
  | identity (id : ConnId) (connected : Bool)
  | order (ordering : Ordering) (equal : Bool)
  | bulk (written : Except IoError Unit) (read : Nat) (equal : Bool)
  | returned (b : Bool)
  | outcome (o : Outcome)
  | stats (s : Stats)
  | notifierState (running : Bool) (registered : Nat)
  | notifierStats (dispatches : Nat) (cycled : Bool)
  | accepted (ip : IpAddress) (portMatches : Option Bool)
  | address (ip : IpAddress) (portNonzero : Bool)
  | incomparable
  | awaited (events : List Event) (timeout : Bool)

/-- What is raised while steps are performed. -/
inductive Event where
  /-- A callback was called with some bytes, performed steps, and may have
      panicked. -/
  | called (tag : String) (data : Bytes) (results : List Answer) (panicked : Bool)
  /-- A callback was destroyed. -/
  | dropped (tag : String)
  /-- A loop asked its backend about a window. A scripted backend also tells
      its timeout and what its steps answered. -/
  | polled (loop : String) (window : List String) (ready : Except IoError (List String))
      (script : Option (Duration × List Answer))

end

namespace Event

/-- What events are sorted by: the tag of the callback, or the loop's name. -/
def tag : Event → String
  | called tag .. => tag
  | dropped tag => tag
  | polled loop .. => loop

/-- Events by tag, events of one tag in the order in which they came. -/
def sorted (events : List Event) : List Event :=
  events.mergeSort fun a b => !(b.tag < a.tag)

end Event

/-- What is seen after one step of a scenario. -/
structure Report where
  answer : Answer
  events : List Event
  log : List String
  /-- The size of each registry and whether its scan is at the end. -/
  registries : List (Nat × Bool)

end ReadNotify
