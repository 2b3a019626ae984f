import ReadNotify.Kernel.Other
import ReadNotify.Proofs.System.Unwinding

/-!
# Everything That Can Happen

The operations on the system in one type, so that histories can be talked
about. A *move* is one operation that runs to completion. A dispatch is two of
them: it begins with taking the callback, reading and calling, and is finished
when the call has ended, and any moves can stand between the two. That covers
callbacks that use the library again, to any depth, and several threads whose
operations alternate in any order.

What is out of its slot belongs to the dispatch that took it. A move that
finishes a dispatch names what it took, and does nothing if that is not out.
For the same reason a callback is made when it is registered: nobody registers
one callback twice. It is made with one handle at most, and may be given any
number of others.

Some moves are *internal*: they are the pieces that notifiers are made of, and
a program that uses only notifiers has no access to them.

## Main definitions

* `Move`, `Move.perform`, `System.run`: Moves and sequences of them.
* `Move.isInternal`: Whether only the library itself can make a move.
* `System.Leads`: A state follows another by moves of some kind.
* `System.Reached`: A state follows the one in which nothing has happened.

## Theorems

* `take_cases`, `begin_cases`: What taking and beginning a dispatch can do.
* `take_of_none`, `begin_of_none`: That is nothing where the slot is empty.
* `run_preserves`: What holds along sequences of moves.
-/

namespace ReadNotify

/-- One operation on the system. -/
inductive Move where
  | pair (fdA fdB : Nat)
  | freshPair
  | listenOn (a : Address)
  | listen (port : Nat)
  | listenLocal
  | connectAddr (a : Address)
  | connect (host : String) (port : Nat)
  | accept (c : ConnKey) (signalled : Bool)
  | write (c : ConnKey) (data : Bytes)
  | receive (c : ConnKey) (n : Nat)
  | close (c : ConnKey)
  | drop (c : ConnKey)
  | addNotifier (config : Config)
  /-- A new callback that may keep a handle is registered with a notifier. -/
  | set (n : NotifierKey) (c : ConnKey) (hold : Option ConnKey)
  /-- A callback gets one more handle to keep. -/
  | entrust (k : CallbackKey) (c : ConnKey)
  | unset (n : NotifierKey) (c : ConnKey)
  | shutdown (n : NotifierKey)
  /-- A dispatch takes the callback, reads and calls. -/
  | begin (c : ConnKey) (size : Nat)
  /-- The call of a dispatch has ended. -/
  | finish (t : Taken) (exit : Exit)
  /-- A new callback is registered with a registry. -/
  | attach (c : ConnKey) (r : RegistryKey) (hold : Option ConnKey)
  | detach (c : ConnKey)
  | detachFrom (c : ConnKey) (r : RegistryKey)
  | detachGeneration (c : ConnKey) (generation : UInt64)
  | take (c : ConnKey) (pinned : Bool)
  | forget (t : Taken)
  | onRegistry (r : RegistryKey) (f : Registry → Registry)
  | fillWindow (l : PollLoop)
  | countCycle (l : PollLoop)
  | countDispatches (l : PollLoop) (n : Nat)
  | addCounters
  | openPoller (kind : BackendKind) (capacity : Nat)
  | releasePoller (p : Poller)
  | checkPoller (window : List ConnId) (p : Poller)
  | keepPoller (k : WorkerKey) (p : Poller)
  | finishWorker (k : WorkerKey)
  /-- Another thread runs, with other locks held. -/
  | switch (thread : Thread) (held : List Lock)
  /-- The process reaches its limit of descriptors, or gets below it. -/
  | starve (starved : Bool)
  /-- The system has no more threads to give, or has some again. -/
  | refuseThreads (error : Option Int)
  /-- The program opens a file that is neither a connection nor a backend. -/
  | openOther (pollable : Bool)
  | closeOther (o : OtherKey)
  /-- Something arrives at such a file, or all there was is read. -/
  | setReadable (o : OtherKey) (readable : Bool)
  | note (record : LogRecord)

namespace System

/-- A new callback that keeps any number of handles, under the next number. -/
def withCallback (holds : List ConnKey) (s : System) : System :=
  { s with callbacks := s.callbacks.add ⟨holds, none⟩ }

/-- Registers a new callback with a notifier. -/
def setFresh (n : NotifierKey) (c : ConnKey) (hold : Option ConnKey) (s : System) :
    System × SetResult :=
  (s.addCallback hold).1.setCallback n c (s.addCallback hold).2

/-- Registers a new callback with a registry. -/
def attachFresh (c : ConnKey) (r : RegistryKey) (hold : Option ConnKey) (s : System) :
    System × Bool :=
  (s.addCallback hold).1.attach c r (s.addCallback hold).2

/-- Gives a callback one more handle of a connection that somebody has a handle
    of. What was destroyed gets nothing. -/
def entrust (k : CallbackKey) (c : ConnKey) (s : System) : System :=
  if s.isLive k ∧ s.isHeld c then
    { s with callbacks := s.callbacks.update k fun cb => { cb with holds := cb.holds ++ [c] } }
  else s

/-- A dispatch up to the call: takes the callback and reads. Answers what was
    taken and read, if there was a callback in the slot. -/
def begin (c : ConnKey) (size : Nat) (s : System) : System × Option (Taken × Bytes) :=
  match s.take c true with
  | (_, none) => (s, none)
  | (s, some t) =>
    let (s, data) := s.receive c size
    (s.note (.dispatching (s.label c) data.length), some (t, data))

/-- A dispatch after the call: the callback goes back into its slot, or its
    registration is cleared. -/
def finish (t : Taken) (exit : Exit) (s : System) : System :=
  match exit with
  | .returned => (s.putBack t).1
  | .panicked => s.giveUp t

/-- Giving a callback a handle touches what the callback keeps and nothing
    else. -/
theorem entrust_frame (k : CallbackKey) (c : ConnKey) (s : System) :
    ∃ callbacks, s.entrust k c = { s with callbacks } ∧ callbacks.size = s.callbacks.size := by
  unfold entrust
  split
  · exact ⟨_, rfl, Table.size_update _ _ _⟩
  · exact ⟨s.callbacks, rfl, rfl⟩

/-- The system after something was taken out of its slot. -/
def takenOut (t : Taken) (s : System) : System :=
  { s.updateSlot t.conn fun x => { x with callback := none } with out := t :: s.out }

/-- Everything taking a callback out can do. -/
theorem take_cases (c : ConnKey) (pinned : Bool) (s : System) :
    ((s.slot c).callback = none ∧ s.take c pinned = (s, none)) ∨
      ∃ t : Taken, (s.slot c).callback = some t.callback ∧ t.conn = c ∧
        t.generation = (s.slot c).generation ∧ s.take c pinned = (s.takenOut t, some t) := by
  unfold take
  rcases (s.slot c).callback with _ | k
  · exact Or.inl ⟨rfl, rfl⟩
  · exact Or.inr ⟨⟨k, c, (s.slot c).generation, pinned⟩, rfl, rfl, rfl, rfl⟩

/-- A dispatch begins with taking and reading, and is otherwise quiet. -/
theorem begin_cases (c : ConnKey) (size : Nat) (s : System) :
    ((s.slot c).callback = none ∧ s.begin c size = (s, none)) ∨
      ∃ t : Taken, (s.slot c).callback = some t.callback ∧ t.conn = c ∧
        t.generation = (s.slot c).generation ∧
        (s.begin c size).2 = some (t, ((s.takenOut t).receive c size).2) ∧
        ∃ record, (s.begin c size).1 = ((s.takenOut t).receive c size).1.note record := by
  unfold begin
  rcases take_cases c true s with ⟨hnone, htake⟩ | ⟨t, hsome, hconn, hgen, htake⟩
  · rw [htake]
    exact Or.inl ⟨hnone, rfl⟩
  · rw [htake]
    exact Or.inr ⟨t, hsome, hconn, hgen, rfl, _, rfl⟩

/-- Nothing is taken from an empty slot. -/
theorem take_of_none {c : ConnKey} {s : System} (h : (s.slot c).callback = none)
    (pinned : Bool) : s.take c pinned = (s, none) := by
  rcases take_cases c pinned s with ⟨-, heq⟩ | ⟨t, hsome, -, -, -⟩
  · exact heq
  · rw [h] at hsome
    exact absurd hsome (by simp)

/-- And no dispatch begins there. -/
theorem begin_of_none {c : ConnKey} {s : System} (h : (s.slot c).callback = none)
    (size : Nat) : s.begin c size = (s, none) := by
  rw [begin, take_of_none h]

/-- What a dispatch has taken was in the slot, and is out. -/
theorem begin_some {c : ConnKey} {size : Nat} {s s' : System} {t : Taken} {data : Bytes}
    (h : s.begin c size = (s', some (t, data))) :
    (s.slot c).callback = some t.callback ∧ s'.out = t :: s.out := by
  rcases begin_cases c size s with ⟨-, hnone⟩ | ⟨t', hslot, -, -, hanswer, record, hstate⟩
  · exact absurd (h.symm.trans hnone) (by simp only [Prod.mk.injEq, reduceCtorEq, and_false,
      not_false_eq_true])
  · rw [h] at hanswer hstate
    have ht : t = t' := congrArg Prod.fst (Option.some.inj hanswer)
    -- Reading and logging leave what is out alone.
    have hout : s'.out = t' :: s.out := by
      rw [show s' = _ from hstate]
      exact (quiet_receive c size (s.takenOut t')).out
    rw [ht]
    exact ⟨hslot, hout⟩

end System

namespace Move

/-- What a move does to the system. -/
def perform (m : Move) (s : System) : System :=
  match m with
  | pair fdA fdB => (s.pair fdA fdB).1
  | freshPair => s.freshPair.1
  | listenOn a => (s.listenOn a).1
  | listen port => (s.listen port).1
  | listenLocal => s.listenLocal.1
  | connectAddr a => (s.connectAddr a).1
  | connect host port => (s.connect host port).1
  | accept c signalled => (s.accept c signalled).1
  | write c data => (s.write c data).1
  | receive c n => (s.receive c n).1
  | close c => s.close c
  | drop c => (s.dropHandle c).1
  | addNotifier config => (s.addNotifier config).1
  | set n c hold => (s.setFresh n c hold).1
  | entrust k c => s.entrust k c
  | unset n c => (s.unsetCallback n c).1
  | shutdown n => s.shutdown n
  | begin c size => (s.begin c size).1
  | finish t exit => if t ∈ s.out then s.finish t exit else s
  | attach c r hold => (s.attachFresh c r hold).1
  | detach c => (s.detach c).1
  | detachFrom c r => (s.detachFrom c r).1
  | detachGeneration c generation => (s.detachGeneration c generation).1
  | take c pinned => (s.take c pinned).1
  | forget t => if t ∈ s.out then s.forget t else s
  | onRegistry r f => (s.onRegistry r fun reg => (f reg, ())).1
  | fillWindow l => (s.fillWindow l).1
  | countCycle l => s.countCycle l
  | countDispatches l n => s.countDispatches l n
  | addCounters => { s with counters := s.counters.add .zero }
  | openPoller kind capacity => { s with kernel := (Poller.create kind capacity s.kernel).1 }
  | releasePoller p => { s with kernel := p.release s.kernel }
  | checkPoller window p => (s.checkPoller window p).1
  | keepPoller k p => s.updateWorker k fun x => { x with poller := p }
  | finishWorker k => s.finishWorker k
  | switch thread held => { s with thread, held }
  | starve starved => { s with kernel := { s.kernel with starved } }
  | refuseThreads error => { s with kernel := { s.kernel with threadError := error } }
  | openOther pollable => { s with kernel := (s.kernel.openOther pollable).1 }
  | closeOther o => { s with kernel := s.kernel.closeOther o }
  | setReadable o readable => { s with kernel := s.kernel.setReadable o readable }
  | note record => s.note record

/-- Whether a move touches slots or registries in another way than through a
    notifier, a dispatch or a close. -/
def isInternal : Move → Bool
  | attach .. | detach _ | detachFrom .. | detachGeneration .. | take .. | forget _
  | onRegistry .. => true
  | _ => false

end Move

namespace System

variable {s t u : System} {p : Move → Prop}

/-- Moves in order. -/
def run (ms : List Move) (s : System) : System := ms.foldl (fun s m => m.perform s) s

theorem run_cons (m : Move) (ms : List Move) (s : System) :
    run (m :: ms) s = run ms (m.perform s) := rfl

/-- Moves one after the other. -/
theorem run_append (ms ms' : List Move) (s : System) :
    run (ms ++ ms') s = run ms' (run ms s) := List.foldl_append

/-- What every move preserves is preserved by sequences of moves. -/
theorem run_preserves {q : System → Prop} {ms : List Move}
    (hstep : ∀ m ∈ ms, ∀ s, q s → q (m.perform s)) (hs : q s) : q (run ms s) := by
  induction ms generalizing s with
  | nil => exact hs
  | cons m ms ih =>
      rw [run_cons]
      exact ih (fun m' hm' => hstep m' (List.mem_cons_of_mem m hm'))
        (hstep m List.mem_cons_self s hs)

/-- A state follows another by moves of some kind. -/
def Leads (p : Move → Prop) (s t : System) : Prop := ∃ ms, (∀ m ∈ ms, p m) ∧ t = run ms s

theorem leads_refl (p : Move → Prop) (s : System) : Leads p s s :=
  ⟨[], fun _ h => absurd h List.not_mem_nil, rfl⟩

/-- One run after another. -/
theorem leads_trans (h : Leads p s t) (h' : Leads p t u) : Leads p s u := by
  rcases h with ⟨ms, hms, rfl⟩
  rcases h' with ⟨ms', hms', rfl⟩
  refine ⟨ms ++ ms', fun m hm => ?_, (run_append ms ms' s).symm⟩
  -- Every move is of one run or of the other.
  rcases List.mem_append.mp hm with hm | hm
  · exact hms m hm
  · exact hms' m hm

theorem leads_perform {m : Move} (hm : p m) (s : System) : Leads p s (m.perform s) :=
  ⟨[m], fun _ hm' => List.mem_singleton.mp hm' ▸ hm, rfl⟩

/-- A state follows the one in which nothing has happened. -/
def Reached (s : System) : Prop := ∃ n ms, s = run ms (init n)

theorem Reached.leads (h : s.Reached) (h' : Leads p s t) : t.Reached := by
  rcases h with ⟨n, ms, rfl⟩
  rcases h' with ⟨ms', -, rfl⟩
  exact ⟨n, ms ++ ms', (run_append ms ms' (init n)).symm⟩

theorem Reached.run (h : s.Reached) (ms : List Move) : (System.run ms s).Reached :=
  h.leads (p := fun _ => True) ⟨ms, fun _ _ => trivial, rfl⟩

end System

end ReadNotify
