import ReadNotify.Scenario.Answer
/-!
# Steps of a Scenario

A scenario is a list of steps that create connections, use them and register
callbacks. What a callback does when it is called is a list of steps again, so
steps are nested to any depth.

A value that a step needs and does not have is not an error by itself: it only
counts when the step gets to it, after everything that is looked up before it.
A step therefore keeps, in place of such a value, the refusal it will lead to.

## Main definitions

* `Arg`: A value, or the refusal for want of it.
* `CallbackSpec`, `ScriptEntry`: What callbacks and scripted backends do.
* `Op`: What a step does, over any type of nested steps.
* `Step`: A step, with the call of its callback it is meant for and whether
  the process is short of descriptors meanwhile.
* `Scenario`: Steps, registries, and what is shown.
-/

namespace ReadNotify

/-- A value a step needs, or the refusal for want of it. -/
abbrev Arg (α : Type) := Except Refusal α

/-- What a callback does. -/
structure CallbackSpec (σ : Type) where
  tag : String
  actions : List σ
  /-- The connection of which it keeps a handle. -/
  hold : Option String
  /-- It raises an event when it is destroyed. -/
  dropEvent : Bool

/-- What a scripted backend does in one call. -/
structure ScriptEntry (σ : Type) where
  actions : List σ
  /-- The whole window is ready. -/
  all : Bool
  /-- What else is ready, by name. -/
  ready : List String
  /-- The call fails with this number. -/
  failure : Option Int

namespace ScriptEntry

/-- An entry that does nothing. -/
def empty {σ : Type} : ScriptEntry σ := ⟨[], false, [], none⟩

end ScriptEntry

/-- Which backend a loop asks. -/
inductive LoopBackend (σ : Type) where
  | standard (kind : BackendKind)
  | script (entries : List (ScriptEntry σ))

/-- How a loop that runs until it is stopped gets its message. -/
inductive StopSource where
  /-- A nested step sends it. -/
  | nested
  /-- It is there before. -/
  | sent
  /-- Nobody is left who could send one. -/
  | dropped
  deriving DecidableEq, Repr

/-- Where a port number comes from. -/
inductive PortSource where
  | number (n : Nat)
  /-- The own port of a connection. -/
  | ofConnection (name : String)
  /-- A port nobody listens on. -/
  | unused
  deriving DecidableEq, Repr

/-- What a step does, with nested steps of type `σ`. -/
inductive Op (σ : Type) where
  -- Connections.
  | pair (a b : Arg String) (fdA fdB : Option Nat) (auto : Bool)
  | write (c : Arg String) (data : Arg Bytes)
  | echo (c : Arg String)
  | read (c : Arg String) (n : Arg Nat) (wait : Bool)
  | readExact (c : Arg String) (n : Arg Nat)
  | recv (c : Arg String) (n : Arg Nat)
  | close (c : Arg String)
  | drop (c : Arg String)
  | state (c : Arg String)
  | identify (c : Arg String)
  | compare (a b : Arg String)
  | sort (ids : Arg (List String))
  | blockedRead (c : Arg String) (n : Arg Nat)
  | blockedAccept (c : Arg String)
  | interruptedRead (c peer : Arg String) (data : Arg Bytes) (n : Arg Nat)
  | interruptedAccept (c : Arg String)
  | bigWrite (c peer : Arg String) (n : Arg Nat)
  -- The callback slot of a connection.
  | attach (c : Arg String) (reg : Nat) (cb : Except Refusal (CallbackSpec σ))
  | detach (c : Arg String)
  | detachFrom (c : Arg String) (reg : Nat)
  | detachGeneration (c : Arg String) (generation : Arg Nat)
  | take (c into : Arg String)
  | invoke (source : Arg String) (data : Arg Bytes)
  | restore (source : Arg String) (generation : Option Nat)
  | forget (source : Arg String)
  -- Registries.
  | append (c : Arg String) (reg : Nat)
  | remove (c : Arg String) (reg : Nat)
  | get (c : Arg String) (reg : Nat)
  | iterate (reg : Nat) (n : Option Nat)
  | rewind (reg : Nat)
  | size (reg : Nat)
  | exhausted (reg : Nat)
  | drain (reg : Nat)
  -- Dispatching.
  | scratch (name : Arg String) (size : Arg Nat)
  | dispatch (c scratch : Arg String)
  -- Readiness backends.
  | backend (name : Arg String) (kind : Arg BackendKind) (capacity : Arg Nat)
  | poll (name : Arg String) (window : Arg (List String)) (before : List String)
  -- Poll loops.
  | loop (name : Arg String) (backend : Except Refusal (LoopBackend σ)) (reg window buffer : Nat)
      (timeout : Duration) (capacity : Nat)
  | runOnce (name : Arg String) (times : Option Nat)
  | stats (name : Arg String)
  | run (name : Arg String) (stop : StopSource)
  | stop
  | stopDrop
  -- Notifiers.
  | notifier (name : Arg String) (settings : Except String (List Setting))
  | set (name c : Arg String) (cb : Except Refusal (CallbackSpec σ))
  | unset (name c : Arg String)
  | shutdown (name : Arg String)
  | dropNotifier (name : Arg String)
  | notifierState (name : Arg String)
  | notifierDebug (name : Arg String)
  | await (k : Arg Nat)
  | notifierStats (name : Arg String) (least : Nat)
  | waitCallback (c : Arg String) (value : Bool)
  -- Internet sockets.
  | listen (c : Arg String) (port : PortSource)
  | listenOn (c : Arg String) (ip : Arg IpAddress) (port : PortSource)
  | connect (c host : Arg String) (port : PortSource)
  | connectAddr (c : Arg String) (ip : Arg IpAddress) (port : PortSource)
  | connectLoopback (c : Arg String) (port : PortSource)
  | listenLocal (c client : Arg String)
  | accept (source c : Arg String) (client : Option String)
  | address (c : Arg String) (peer : Bool)
  | sameAddress (a b : Arg String)
  -- Neither of them.
  | panic
  | unknown (name : Arg String)

/-- A step. -/
inductive Step where
  /-- A step that is meant for one call of its callback, or for every call, and
      during which the process may be short of descriptors. -/
  | mk (call : Option Nat) (starved : Bool) (op : Op Step)

namespace Step

/-- The call of its callback a step is meant for; every call without one. -/
def call : Step → Option Nat
  | mk call _ _ => call

/-- Whether a step is meant for one call of its callback. -/
def isFor (s : Step) (k : Nat) : Bool :=
  match s.call with
  | some j => j == k
  | none => true

/-- Whether the process can open no descriptor during the step. -/
def starved : Step → Bool
  | mk _ starved _ => starved

/-- What the step does. -/
def op : Step → Op Step
  | mk _ _ op => op

end Step

/-- A list of steps, the number of registries they start with, and what is
    shown besides the answers. -/
structure Scenario where
  steps : List Step
  registries : Nat
  showLog : Bool
  showRegistries : Bool

end ReadNotify
