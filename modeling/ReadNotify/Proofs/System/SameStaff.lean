import ReadNotify.Proofs.System.Operations

/-!
# What Does Not Concern the Workers

Who works for whom is a matter of few operations. Opening connections, moving
bytes, registering and clearing registrations, destroying callbacks with all
that follows: none of that starts, stops or waits for a worker, counts anything,
or hands the turn to another thread. `SameStaff` says so, and it is what the
arguments about workers and counters use in place of what those operations do.

## Main definitions

* `System.SameStaff`: Notifiers, workers, counters and the thread are what they were.
* `Move.sparesStaff`: The moves of which that can be said.

## Theorems

* `sameStaff_refl`, `sameStaff_trans`: Several steps.
* `sameStaff_unwinds`: No chain of closes concerns the workers.
* `sameStaff_perform`: Nor does any move of the kind.
-/

namespace ReadNotify

namespace System

variable {s t u : System}

/-- Notifiers, workers, counters and the thread are what they were. -/
structure SameStaff (s t : System) : Prop where
  notifiers : t.notifiers = s.notifiers
  workers : t.workers = s.workers
  counters : t.counters = s.counters
  thread : t.thread = s.thread

/-- Nothing at all concerns no worker. -/
theorem sameStaff_refl (s : System) : SameStaff s s := ⟨rfl, rfl, rfl, rfl⟩

theorem sameStaff_trans (h : SameStaff s t) (h' : SameStaff t u) : SameStaff s u :=
  ⟨h'.notifiers.trans h.notifiers, h'.workers.trans h.workers, h'.counters.trans h.counters,
    h'.thread.trans h.thread⟩

/-! ### Moving bytes -/

/-- An error may be remembered, and that is a matter of the connection. -/
theorem sameStaff_receive (c : ConnKey) (n : Nat) (s : System) : SameStaff s (s.receive c n).1 := by
  unfold receive
  rcases s.socket? c with _ | q
  · exact sameStaff_refl s
  · dsimp only
    -- Bytes, or an error that the connection remembers.
    rcases s.kernel.receive q n with ⟨k, data | code⟩
    · exact ⟨rfl, rfl, rfl, rfl⟩
    · exact ⟨rfl, rfl, rfl, rfl⟩

theorem sameStaff_endWrite (c : ConnKey) (ending : WriteEnd) (s : System) :
    SameStaff s (s.endWrite c ending).1 := by
  cases ending with
  | failed e => exact ⟨rfl, rfl, rfl, rfl⟩
  | finished => exact sameStaff_refl s
  | waiting => exact sameStaff_refl s

theorem sameStaff_write (c : ConnKey) (data : Bytes) (s : System) :
    SameStaff s (s.write c data).1 := by
  unfold write
  rcases s.socket? c with _ | q
  · exact sameStaff_refl s
  · dsimp only
    split
    · exact sameStaff_refl s
    · exact sameStaff_trans (t := { s with kernel := (s.kernel.send q data).1 })
        ⟨rfl, rfl, rfl, rfl⟩ (sameStaff_endWrite c _ _)

/-! ### Opening connections -/

/-- A new connection is nobody's work yet. -/
theorem sameStaff_accept (c : ConnKey) (signalled : Bool) (s : System) :
    SameStaff s (s.accept c signalled).1 := by
  unfold accept
  rcases s.socket? c with _ | q
  · exact sameStaff_refl s
  · dsimp only
    rcases s.kernel.accept q signalled with ⟨k, code | peer⟩
    · exact ⟨rfl, rfl, rfl, rfl⟩
    · dsimp only
      split
      · exact ⟨rfl, rfl, rfl, rfl⟩
      · exact ⟨rfl, rfl, rfl, rfl⟩

/-- Nor is one that was opened. -/
theorem sameStaff_adoptResult (result : Kernel × Except Int SocketKey) (s : System) :
    SameStaff s (s.adoptResult result).1 := by
  rcases result with ⟨k, code | q⟩
  · exact ⟨rfl, rfl, rfl, rfl⟩
  · exact ⟨rfl, rfl, rfl, rfl⟩

theorem sameStaff_note (record : LogRecord) (s : System) : SameStaff s (s.note record) :=
  ⟨rfl, rfl, rfl, rfl⟩

/-- Both families may be tried. -/
theorem sameStaff_listen (port : Nat) (s : System) : SameStaff s (s.listen port).1 := by
  have hfirst := sameStaff_adoptResult (s.kernel.listen ⟨.anywhere6, port⟩) s
  unfold listen listenOn
  -- After a failure the other family is tried.
  rcases hr : s.adoptResult (s.kernel.listen ⟨.anywhere6, port⟩) with ⟨u, e | c⟩ <;>
    rw [hr] at hfirst
  · exact sameStaff_trans (sameStaff_trans hfirst (sameStaff_note _ u)) (sameStaff_adoptResult _ _)
  · exact hfirst

/-- And any number of addresses. -/
theorem sameStaff_connectAny (port : Nat) (ips : List IpAddress) (last : IoError) (s : System) :
    SameStaff s (connectAny port ips last s).1 := by
  -- The addresses are tried in order, each in the state the last one left.
  induction ips generalizing last s with
  | nil => exact sameStaff_refl s
  | cons ip rest ih =>
      have hfirst := sameStaff_adoptResult (s.kernel.connect ⟨ip, port⟩) s
      unfold connectAny connectAddr
      rcases hr : s.adoptResult (s.kernel.connect ⟨ip, port⟩) with ⟨u, e | c⟩ <;>
        rw [hr] at hfirst
      · exact sameStaff_trans (sameStaff_trans hfirst (sameStaff_note _ u)) (ih e _)
      · exact hfirst

theorem sameStaff_connect (host : String) (port : Nat) (s : System) :
    SameStaff s (s.connect host port).1 := by
  unfold connect
  rcases resolve host with e | ips
  · exact sameStaff_refl s
  · exact sameStaff_connectAny port ips _ s

theorem sameStaff_freshPair (s : System) : SameStaff s s.freshPair.1 := by
  unfold freshPair
  split
  · exact sameStaff_refl s
  · exact ⟨rfl, rfl, rfl, rfl⟩

theorem sameStaff_listenLocal (s : System) : SameStaff s s.listenLocal.1 := by
  unfold listenLocal
  rcases s.kernel.listenLocal with ⟨k, code | ⟨l, client⟩⟩
  · exact ⟨rfl, rfl, rfl, rfl⟩
  · exact ⟨rfl, rfl, rfl, rfl⟩

/-- To ask a backend concerns the worker that has it no more than anybody else. -/
theorem sameStaff_checkPoller (window : List ConnId) (p : Poller) (s : System) :
    SameStaff s (s.checkPoller window p).1 := by
  -- Each note is a line of the log.
  have hnotes : ∀ (notes : List PollNote) (v : System), SameStaff v (v.notePolls notes) := by
    intro notes
    induction notes with
    | nil => exact sameStaff_refl
    | cons note rest ih =>
        intro v
        cases note with
        | invalid id => exact sameStaff_trans (sameStaff_note _ v) (ih _)
        | rejected r => exact sameStaff_trans (sameStaff_note _ v) (ih _)
        | left x => exact sameStaff_trans (sameStaff_note _ v) (ih _)
  exact sameStaff_trans (t := { s with kernel := (p.check window s.kernel).2.1 })
    ⟨rfl, rfl, rfl, rfl⟩ (hnotes _ _)

/-! ### Registrations and callbacks -/

/-- A worker finds out by itself that a connection has closed. -/
theorem sameStaff_disconnect (c : ConnKey) (s : System) : SameStaff s (s.disconnect c) := by
  unfold disconnect markClosed
  -- What is closed already is left alone.
  by_cases hopen : s.isConnected c = true
  · rw [if_pos hopen]
    simp only [releaseSocket]
    rcases ((s.updateConn c fun x => { x with connected := false }).conn? c).bind
      Connection.socket with _ | q
    · exact ⟨rfl, rfl, rfl, rfl⟩
    · exact ⟨rfl, rfl, rfl, rfl⟩
  · rw [if_neg hopen]
    exact sameStaff_refl s

/-- No link of a chain of closes concerns the workers. -/
theorem sameStaff_link (h : Link s t) : SameStaff s t := by
  cases h with
  | ended k => exact ⟨rfl, rfl, rfl, rfl⟩
  | released k c => exact ⟨rfl, rfl, rfl, rfl⟩
  | cleared c =>
      rcases clearSlot_cases c s with ⟨-, heq⟩ | ⟨conn, r, -, -, -, heq⟩
      · rw [heq]
        exact sameStaff_refl s
      · rw [heq]
        exact ⟨rfl, rfl, rfl, rfl⟩
  | disconnected c h => exact sameStaff_disconnect c s
  | noted held log => exact ⟨rfl, rfl, rfl, rfl⟩

/-- Nor does the whole chain. -/
theorem sameStaff_unwinds (h : Unwinds s t) : SameStaff s t := by
  induction h with
  | refl => exact sameStaff_refl s
  | tail _ hlink ih => exact sameStaff_trans ih (sameStaff_link hlink)

/-- A registration is entered in the registry, where workers look for it. -/
theorem sameStaff_attach (c : ConnKey) (r : RegistryKey) (k : CallbackKey) (s : System) :
    SameStaff s (s.attach c r k).1 := by
  rcases install_frame c r k s with ⟨registries, -, hinstall⟩
  have hfilled : SameStaff s (s.install c r k).1 := by
    rw [hinstall]
    exact ⟨rfl, rfl, rfl, rfl⟩
  exact sameStaff_trans hfilled (sameStaff_unwinds (unwinds_destroyAny _ _))

/-- What a dispatch takes out of a slot is noted with the system. -/
theorem sameStaff_take (c : ConnKey) (pinned : Bool) (s : System) :
    SameStaff s (s.take c pinned).1 := by
  rcases take_cases c pinned s with ⟨-, heq⟩ | ⟨t, -, -, -, heq⟩
  · rw [heq]
    exact sameStaff_refl s
  · rw [heq]
    exact ⟨rfl, rfl, rfl, rfl⟩

/-- It reads and writes to the log besides. -/
theorem sameStaff_begin (c : ConnKey) (size : Nat) (s : System) :
    SameStaff s (s.begin c size).1 := by
  rcases begin_cases c size s with ⟨-, heq⟩ | ⟨t, -, -, -, -, record, heq⟩
  · rw [heq]
    exact sameStaff_refl s
  · rw [heq]
    -- Taking, reading and logging, one after the other.
    exact sameStaff_trans (sameStaff_trans (t := s.takenOut t) ⟨rfl, rfl, rfl, rfl⟩
      (sameStaff_receive c size _)) (sameStaff_note record _)

theorem sameStaff_settleTaken (k : CallbackKey) (s : System) : SameStaff s (s.settleTaken k) :=
  ⟨rfl, rfl, rfl, rfl⟩

/-- The end of a dispatch may destroy callbacks, but no worker. -/
theorem sameStaff_finish (t : Taken) (exit : Exit) (s : System) :
    SameStaff s (s.finish t exit) := by
  cases exit with
  | returned =>
      rcases putBack_cases t s with ⟨-, -, heq⟩ | ⟨-, -, heq⟩
      · rw [finish, heq]
        exact ⟨rfl, rfl, rfl, rfl⟩
      · rw [finish, heq]
        exact sameStaff_trans (sameStaff_unwinds (unwinds_destroy t.callback s))
          (sameStaff_settleTaken _ _)
  | panicked =>
      rcases giveUp_eq t s with ⟨v, hnoted, heq⟩
      rw [finish, heq]
      exact sameStaff_trans (sameStaff_unwinds ((hnoted.unwinds.trans
        (unwinds_detachGeneration _ _ v)).trans (unwinds_destroy _ _))) (sameStaff_settleTaken _ _)

/-- Nor does the close that follows the last handle. -/
theorem sameStaff_dropHandle (c : ConnKey) (s : System) : SameStaff s (s.dropHandle c).1 := by
  have hdisown : SameStaff s (s.disown c) := ⟨rfl, rfl, rfl, rfl⟩
  rcases dropHandle_cases c s with heq | ⟨-, heq⟩ | ⟨-, heq⟩
  · rw [heq]
    exact sameStaff_refl s
  · rw [heq]
    exact hdisown
  · rw [heq]
    exact sameStaff_trans hdisown (sameStaff_unwinds (unwinds_close c _))

theorem sameStaff_entrust (k : CallbackKey) (c : ConnKey) (s : System) :
    SameStaff s (s.entrust k c) := by
  rcases entrust_frame k c s with ⟨callbacks, heq, -⟩
  rw [heq]
  exact ⟨rfl, rfl, rfl, rfl⟩

end System

namespace Move

/-- The moves that concern no worker, no counter and no thread. -/
def sparesStaff : Move → Bool
  | addNotifier _ | set .. | shutdown _ | countCycle _ | countDispatches .. | addCounters
  | keepPoller .. | finishWorker _ | switch .. => false
  | _ => true

theorem sameStaff_perform {m : Move} (h : m.sparesStaff = true) (s : System) :
    System.SameStaff s (m.perform s) := by
  cases m with
  | pair fdA fdB => exact ⟨rfl, rfl, rfl, rfl⟩
  | freshPair => exact System.sameStaff_freshPair s
  | listenOn a => exact System.sameStaff_adoptResult _ s
  | listen port => exact System.sameStaff_listen port s
  | listenLocal => exact System.sameStaff_listenLocal s
  | connectAddr a => exact System.sameStaff_adoptResult _ s
  | connect host port => exact System.sameStaff_connect host port s
  | accept c signalled => exact System.sameStaff_accept c signalled s
  | write c data => exact System.sameStaff_write c data s
  | receive c n => exact System.sameStaff_receive c n s
  | close c => exact System.sameStaff_unwinds (System.unwinds_close c s)
  | drop c => exact System.sameStaff_dropHandle c s
  | entrust k c => exact System.sameStaff_entrust k c s
  | unset n c => exact System.sameStaff_unwinds (System.unwinds_unsetCallback n c s)
  | begin c size => exact System.sameStaff_begin c size s
  | finish t exit =>
      simp only [perform]
      split
      · exact System.sameStaff_finish t exit s
      · exact System.sameStaff_refl s
  | attach c r hold =>
      exact System.sameStaff_trans (t := (s.addCallback hold).1) ⟨rfl, rfl, rfl, rfl⟩
        (System.sameStaff_attach c r _ _)
  | detach c => exact System.sameStaff_unwinds (System.unwinds_detach c s)
  | detachFrom c r => exact System.sameStaff_unwinds (System.unwinds_detachFrom c r s)
  | detachGeneration c g => exact System.sameStaff_unwinds (System.unwinds_detachGeneration c g s)
  | take c pinned => exact System.sameStaff_take c pinned s
  | forget t =>
      simp only [perform]
      split
      · have hdestroy := System.sameStaff_unwinds (System.unwinds_destroy t.callback s)
        exact System.sameStaff_trans hdestroy (System.sameStaff_settleTaken _ _)
      · exact System.sameStaff_refl s
  | onRegistry r f => exact ⟨rfl, rfl, rfl, rfl⟩
  | fillWindow l => exact ⟨rfl, rfl, rfl, rfl⟩
  | openPoller kind capacity => exact ⟨rfl, rfl, rfl, rfl⟩
  | releasePoller p => exact ⟨rfl, rfl, rfl, rfl⟩
  | checkPoller window p => exact System.sameStaff_checkPoller window p s
  | starve starved => exact ⟨rfl, rfl, rfl, rfl⟩
  | refuseThreads error => exact ⟨rfl, rfl, rfl, rfl⟩
  | openOther pollable => exact ⟨rfl, rfl, rfl, rfl⟩
  | closeOther o => exact ⟨rfl, rfl, rfl, rfl⟩
  | setReadable o readable => exact ⟨rfl, rfl, rfl, rfl⟩
  | note record => exact System.sameStaff_note record s
  | _ => exact absurd h Bool.false_ne_true

end Move

end ReadNotify
