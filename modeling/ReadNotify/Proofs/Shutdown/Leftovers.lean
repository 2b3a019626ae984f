import ReadNotify.Proofs.Shutdown.LivePlaces
import ReadNotify.Proofs.Streams.Traffic
import ReadNotify.Proofs.Streams.Teardown

/-!
# What a Shutdown Finds

A shutdown stops the worker, takes the registry away from the notifier and
empties it, and then clears the registrations of what was in it, the leftovers.
In which order these come is up to the registry. So a shutdown is described by a
relation that has the order as a parameter, and the one that is carried out
takes the order in which they were registered.

## Main definitions

* `System.stopped`, `System.drained`: A notifier on its way down.
* `System.leftovers`: Whatever is registered with it and alive.
* `System.ShutsDown`: A shutdown that finds the leftovers in some order.

## Theorems

* `shutsDown_shutdown`: The one that is carried out.
* `exists_shutsDown`: In every order it comes to an end.
* `clearable_drained`: What is known when the leftovers are cleared.
* `Recorded.closable`: The sockets that are closed on the way.
-/

namespace ReadNotify

namespace System

variable {s t : System} {n : NotifierKey} {running : Running} {cs : List ConnKey}

/-- A notifier whose worker has stopped, or was told to. -/
def stopped (n : NotifierKey) (running : Running) (s : System) : System :=
  ((s.reapDetached n).updateNotifier n fun x => { x with running := none }).stopWorker n
    running.worker

/-- A notifier that has stopped and whose registry was emptied. -/
def drained (n : NotifierKey) (running : Running) (s : System) : System :=
  ((s.stopped n running).drain running.registry).1

/-- What was in the registry of a notifier and is alive. -/
def leftovers (n : NotifierKey) (s : System) : List ConnKey :=
  match s.running? n with
  | none => []
  | some running => ((s.stopped n running).drain running.registry).2

/-- A shutdown that finds the leftovers in some order. -/
inductive ShutsDown (n : NotifierKey) (cs : List ConnKey) (s t : System) : Prop where
  | idle (hstopped : s.running? n = none) (heq : t = s.reapDetached n)
  | emptied {running : Running} {v : System} (hrunning : s.running? n = some running)
      (hclears : Clears running.registry cs (s.drained n running) v)
      (heq : t = v.note (.notifierShutDown cs.length))

theorem shutdown_eq (hrunning : s.running? n = some running) :
    s.shutdown n = ((s.drained n running).detachAll running.registry (s.leftovers n)).note
      (.notifierShutDown (s.leftovers n).length) := by
  unfold shutdown clearLeft takeRunning leftovers
  rw [(quiet_reapDetached n s).running n, hrunning]
  rfl

/-- A shutdown comes to an end in whatever order it finds the leftovers. -/
theorem exists_shutsDown (n : NotifierKey) (cs : List ConnKey) (s : System) :
    ∃ t, ShutsDown n cs s t := by
  rcases hrunning : s.running? n with _ | running
  · exact ⟨_, .idle hrunning rfl⟩
  · exact ⟨_, .emptied hrunning (clears_detachAll running.registry cs _) rfl⟩

/-- The shutdown that is carried out finds them in the order of the registry. -/
theorem shutsDown_shutdown (n : NotifierKey) (s : System) :
    ShutsDown n (s.leftovers n) s (s.shutdown n) := by
  rcases hrunning : s.running? n with _ | running
  · refine .idle hrunning ?_
    unfold shutdown clearLeft takeRunning
    rw [(quiet_reapDetached n s).running n, hrunning]
  · exact .emptied hrunning (clears_detachAll running.registry _ _) (shutdown_eq hrunning)

/-! ### Stopping -/

/-- Giving a backend back touches interest sets only. -/
theorem release_frame (p : Poller) (k : Kernel) :
    ∃ interests, p.release k = { k with interests } := by
  cases p with
  | pollSet _ => exact ⟨_, rfl⟩
  | epoll e => exact ⟨_, rfl⟩

/-- Waiting for a worker touches interest sets, and notes that it has ended. -/
theorem joinWorker_frame (k : WorkerKey) (s : System) :
    ∃ interests workers, s.joinWorker k =
      { s with kernel := { s.kernel with interests }, workers } := by
  unfold joinWorker finishWorker
  rcases s.workers.get? k with _ | worker
  · exact ⟨s.kernel.interests, _, rfl⟩
  · dsimp only
    split
    · exact ⟨s.kernel.interests, _, rfl⟩
    · rcases release_frame worker.poller s.kernel with ⟨interests, heq⟩
      rw [heq]
      exact ⟨interests, _, rfl⟩

theorem reapDetached_frame (n : NotifierKey) (s : System) :
    ∃ interests notifiers workers, s.reapDetached n =
      { s with kernel := { s.kernel with interests }, notifiers, workers } := by
  unfold reapDetached
  rcases (s.notifiers.get? n).bind Notifier.detached with _ | k
  · exact ⟨s.kernel.interests, _, _, rfl⟩
  · dsimp only
    split
    · exact ⟨s.kernel.interests, _, _, rfl⟩
    · rcases joinWorker_frame k s with ⟨interests, workers, heq⟩
      rw [heq]
      exact ⟨interests, _, _, rfl⟩

theorem stopWorker_frame (n : NotifierKey) (k : WorkerKey) (s : System) :
    ∃ interests notifiers workers log, s.stopWorker n k =
      { s with kernel := { s.kernel with interests }, notifiers, workers, log } := by
  unfold stopWorker
  dsimp only
  split
  · exact ⟨s.kernel.interests, _, _, _, rfl⟩
  · rcases joinWorker_frame k (s.tell k) with ⟨interests, workers, heq⟩
    rw [heq]
    exact ⟨interests, _, _, _, rfl⟩

/-- Up to where the leftovers are cleared nothing is touched but interest sets,
    notifiers, workers, the registry and the log. -/
theorem drained_frame (n : NotifierKey) (running : Running) (s : System) :
    ∃ interests notifiers workers registries log, s.drained n running =
      { s with kernel := { s.kernel with interests }, notifiers, workers, registries, log } := by
  unfold drained stopped
  rcases reapDetached_frame n s with ⟨_, _, _, hreap⟩
  rw [hreap]
  rcases stopWorker_frame n running.worker
    (({ s with
      kernel := { s.kernel with interests := _ }, notifiers := _, workers := _ } :
      System).updateNotifier n fun x => { x with running := none })
    with ⟨interests, notifiers, workers, log, heq⟩
  rw [heq]
  exact ⟨interests, _, _, _, _, rfl⟩

/-- Emptying a registry leaves it without entries and the others as they were. -/
theorem registry_drain (r : RegistryKey) (s : System) (q : RegistryKey) :
    (s.drain r).1.registry q = if q = r then .empty else s.registry q := by
  rw [drain, registry_onRegistry]
  by_cases hq : q = r
  · rw [if_pos hq]
    split
    · rfl
    · next hsize =>
        -- A registry that does not exist has no entries either.
        have hnone : s.registries.get? r = none :=
          Array.getElem?_eq_none (Nat.le_of_not_lt fun h => hsize ⟨hq, h⟩)
        rw [hq, registry, hnone]
        rfl
  · rw [if_neg hq, if_neg fun h => hq h.1]

theorem registry_drained (n : NotifierKey) (running : Running) (s : System) (q : RegistryKey) :
    (s.drained n running).registry q = if q = running.registry then .empty else s.registry q := by
  have hquiet := quiet_trans (quiet_reapDetached n s) (quiet_refl _)
  have hsame : (s.stopped n running).registry q = s.registry q := by
    refine ((quiet_stopWorker n running.worker _).registry q).trans ?_
    exact hquiet.registry q
  rw [drained, registry_drain, hsame]

theorem running?_drained (n : NotifierKey) (running : Running) (s : System) (m : NotifierKey) :
    (s.drained n running).running? m = if m = n then none else s.running? m := by
  have hstop := (quiet_stopWorker n running.worker
    ((s.reapDetached n).updateNotifier n fun x => { x with running := none })).running m
  have hdrained : (s.drained n running).running? m = (s.stopped n running).running? m := rfl
  rw [hdrained, stopped, hstop, running?_updateNotifier]
  split
  · cases (s.reapDetached n).notifiers.get? n with
    | none => rfl
    | some x => rfl
  · exact (quiet_reapDetached n s).running m

/-- Interest sets are no sockets. -/
theorem still_drained (n : NotifierKey) (running : Running) (s : System) :
    Still s (s.drained n running) := by
  rcases drained_frame n running s with ⟨interests, notifiers, workers, registries, log, heq⟩
  rw [heq]
  exact still_of_connections rfl rfl

/-! ### What is known then -/

/-- All that is known of a state of a program. -/
structure Sane (s : System) : Prop where
  orderly : s.Orderly
  livePlaces : s.LivePlaces
  wired : s.Wired

theorem sane_run (r : Nat) (ms : List Move) (hms : ∀ m ∈ ms, m.isInternal = false) :
    (run ms (init r)).Sane :=
  ⟨orderly_run ms hms (orderly_init r), livePlaces_run ms hms (livePlaces_init r), wired_run r ms⟩

/-- When the leftovers are cleared, all that names the registry is among them,
    in whatever order they come. -/
theorem clearable_drained (h : s.Sane) (hrunning : s.running? n = some running)
    (hcs : cs.Perm (s.leftovers n)) : Clearable running.registry cs (s.drained n running) := by
  rcases h.orderly.drain hrunning (quiet_reapDetached n s) (quiet_stopWorker n running.worker _)
    with ⟨hcoherent, hheld, hall⟩
  rcases drained_frame n running s with ⟨interests, notifiers, workers, registries, log, heq⟩
  refine ⟨?_, hcoherent, hheld, fun c hc => hcs.mem_iff.mpr ?_⟩
  · rw [heq]
    exact h.livePlaces.rested
  · have hmem := hall c hc
    rwa [leftovers, hrunning]

theorem livePlaces_drained (h : s.LivePlaces) (n : NotifierKey) (running : Running) :
    (s.drained n running).LivePlaces := by
  rcases drained_frame n running s with ⟨interests, notifiers, workers, registries, log, heq⟩
  exact h.congr (fun c => by rw [heq]; rfl) (by rw [heq]) (by rw [heq])

/-- The sockets of connections that were closed may be closed together. -/
theorem Recorded.closable {ks : List CallbackKey} (h : Recorded ks cs s t) (hs : s.Wired) :
    s.kernel.Closable (cs.reverse.filterMap s.socket?) := by
  have hmem : ∀ q, q ∈ cs.reverse.filterMap s.socket? → ∃ c, s.socket? c = some q := by
    intro q hq
    rcases List.mem_filterMap.mp hq with ⟨c, -, hc⟩
    exact ⟨c, hc⟩
  refine ⟨hs.kernel, ?_, fun q hq => ?_, fun q hq l w hw => ?_⟩
  · -- No two connections have one socket.
    refine List.Nodup.filterMap (fun c d q hc hd => ?_) (List.nodup_reverse.mpr h.closedOnce)
    exact hs.distinct c d q hc hd
  · rcases hmem q hq with ⟨c, hc⟩
    exact hs.isOpen c q hc
  · rcases hmem q hq with ⟨c, hc⟩
    exact hs.free c q l w hc hw

end System

end ReadNotify
