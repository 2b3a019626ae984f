import ReadNotify.Proofs.Registration.Starting

/-!
# What Does Not Depend on Backends

Workers look at interest sets to find out what is ready. Nothing else looks at them:
which callback is registered where, what is destroyed and closed, what is in the queues
and what operations answer is the same whatever interest sets there are and whatever
backends the workers have. So two states that differ in nothing else stay like that
under everything that neither asks a backend nor takes a new descriptor number, and
every operation answers the same in both.

It is enough to follow one state and see what becomes of it when its interest sets and
its workers are replaced by others. Operations that leave workers alone carry them
along; starting, stopping and waiting do to each worker what they would have done to
the other one.

## Main definitions

* `Kernel.refit`, `System.refit`: The same state with other interest sets and workers.
* `Worker.bare`: A worker without its backend.
* `System.Alike`: States that differ in interest sets and backends only.
* `Move.isIndifferent`: What neither asks backends nor takes descriptor numbers.

## Theorems

* `destroy_refit`, `attach_refit`: Operations do not look at backends.
* `Alike.obstacle`, `alike_setCallback`: Registrations end in the same way.
* `alike_perform`, `alike_run`: Alike states stay alike.
-/

namespace ReadNotify

/-! ### The system below -/

namespace Kernel

variable {k : Kernel} {i : Table InterestSet}

/-- The same files with other interest sets. -/
def refit (i : Table InterestSet) (k : Kernel) : Kernel := { k with interests := i }

/-- Taking notice concerns interest sets only. -/
theorem wakeWithin_frame (n : Nat) (f : OpenFile) (k : Kernel) :
    ∃ j, wakeWithin n f k = k.refit j := by
  induction n generalizing f k with
  | zero => exact ⟨k.interests, rfl⟩
  | succ n ih =>
      unfold wakeWithin
      -- Each watcher in turn, and so all of them.
      generalize k.watchers f = es
      induction es generalizing k with
      | nil => exact ⟨k.interests, rfl⟩
      | cons e rest step =>
          rw [List.foldl_cons]
          rcases ih (.interests e) (k.updateInterests e (InterestSet.queue f)) with ⟨j, hwake⟩
          rcases step (k.refit j) with ⟨j', hrest⟩
          rw [hwake]
          exact ⟨j', hrest⟩

/-- At the depth that the sets themselves have. -/
theorem wake_frame (k : Kernel) (f : OpenFile) : ∃ j, k.wake f = k.refit j :=
  wakeWithin_frame k.interests.size f k

/-- Who takes notice differs with the sets, but only sets are changed by it. -/
theorem wake_refit (i : Table InterestSet) (f : OpenFile) (k : Kernel) :
    ∃ j, (k.refit i).wake f = (k.wake f).refit j := by
  rcases wake_frame (k.refit i) f with ⟨j, heq⟩
  rcases wake_frame k f with ⟨j', heq'⟩
  rw [heq, heq']
  exact ⟨j, rfl⟩

/-- Reading wakes nobody, so the sets stay what they are. -/
theorem receive_refit (i : Table InterestSet) (q : SocketKey) (n : Nat) (k : Kernel) :
    (k.refit i).receive q n = ((k.receive q n).1.refit i, (k.receive q n).2) := by
  have hsocket : (k.refit i).socket? q = k.socket? q := rfl
  unfold receive
  rw [hsocket]
  rcases k.socket? q with _ | sock
  · rfl
  · dsimp only
    -- No byte, nothing arriving any more, or an error that is reported once: these are read off
    -- the socket.
    split
    · rfl
    · split
      · rfl
      · rcases sock.pendingError with _ | code
        · dsimp only
          split
          · rfl
          · rfl
        · rfl

/-- What arrives wakes the peer's watchers. The answer does not depend on who they are.
    -/
theorem send_refit (i : Table InterestSet) (q : SocketKey) (data : Bytes) (k : Kernel) :
    ∃ j, (k.refit i).send q data = ((k.send q data).1.refit j, (k.send q data).2) := by
  have hsocket : (k.refit i).socket? q = k.socket? q := rfl
  have hopen : ∀ p, (k.refit i).isOpen p = k.isOpen p := fun _ => rfl
  unfold send
  rw [hsocket]
  rcases k.socket? q with _ | sock
  · exact ⟨i, rfl⟩
  · dsimp only
    split
    · exact ⟨i, rfl⟩
    · split
      · exact ⟨i, rfl⟩
      · split
        · exact ⟨i, rfl⟩
        · split
          · exact ⟨i, rfl⟩
          · -- There is a peer that is open, so something arrives and its watchers are woken.
            next p _ =>
              rw [hopen]
              split
              · rcases wake_refit i (.socket p)
                  (k.updateSocket p fun x => { x with inbox := x.inbox ++ data }) with ⟨j, hwake⟩
                exact ⟨j, congrArg (·, _) hwake⟩
              · exact ⟨i, rfl⟩

/-- The peer's watchers are woken, and the closed socket leaves whatever sets there are.
    -/
theorem closeOne_refit (abandoned : Bool) (i : Table InterestSet) (q : SocketKey) (k : Kernel) :
    ∃ j, closeOne abandoned (k.refit i) q = (closeOne abandoned k q).refit j := by
  have hsocket : (k.refit i).socket? q = k.socket? q := rfl
  unfold closeOne
  rw [hsocket]
  rcases k.socket? q with _ | sock
  · exact ⟨i, rfl⟩
  · dsimp only
    split
    · exact ⟨i, rfl⟩
    · rcases sock.peer with _ | p
      · exact ⟨_, rfl⟩
      · -- The mark of the peer changes before its watchers are woken.
        rcases wake_refit i (.socket p) (k.updateSocket p (cutOff sock abandoned)) with ⟨j, hwake⟩
        change ∃ j, (((((k.updateSocket p (cutOff sock abandoned)).refit i).wake
          (.socket p)).updateSocket q _).forget _) = _
        rw [hwake]
        exact ⟨_, rfl⟩

/-- A listener closes what waits at it, one after the other, and then itself. -/
theorem close_refit (i : Table InterestSet) (q : SocketKey) (k : Kernel) :
    ∃ j, (k.refit i).close q = (k.close q).refit j := by
  have hfold : ∀ (qs : List SocketKey) (k : Kernel) (i : Table InterestSet),
      ∃ j, qs.foldl (closeOne true) (k.refit i) = (qs.foldl (closeOne true) k).refit j := by
    intro qs
    induction qs with
    | nil => exact fun k i => ⟨i, rfl⟩
    | cons p rest ih =>
        intro k i
        rcases closeOne_refit true i p k with ⟨j, hone⟩
        rw [List.foldl_cons, List.foldl_cons, hone]
        exact ih _ j
  have hsocket : (k.refit i).socket? q = k.socket? q := rfl
  unfold close
  rw [hsocket]
  dsimp only
  -- What waits to be accepted goes first.
  rcases hfold _ k i with ⟨j, hwaiting⟩
  rw [hwaiting]
  exact closeOne_refit false j q _

theorem setReadable_refit (o : OtherKey) (readable : Bool) (i : Table InterestSet) (k : Kernel) :
    ∃ j, (k.refit i).setReadable o readable = (k.setReadable o readable).refit j := by
  unfold setReadable
  cases readable with
  | true => exact wake_refit i (.other o) (k.updateOther o fun x => { x with readable := true })
  | false => exact ⟨i, rfl⟩

end Kernel

namespace System

variable {s t u : System} {i : Table InterestSet} {w : Table Worker}

/-- The same state with other interest sets and other workers. -/
def refit (i : Table InterestSet) (w : Table Worker) (s : System) : System :=
  { s with kernel := s.kernel.refit i, workers := w }

/-! ### Connections -/

theorem clearSlot_refit (c : ConnKey) (s : System) (i : Table InterestSet) (w : Table Worker) :
    (s.refit i w).clearSlot c = ((s.clearSlot c).1.refit i w, (s.clearSlot c).2) := by
  have hconn : (s.refit i w).conn? c = s.conn? c := rfl
  unfold clearSlot
  rw [hconn]
  rcases s.conn? c with _ | conn
  · rfl
  · dsimp only
    rcases conn.slot.registry with _ | r
    · rfl
    · rfl

theorem markClosed_refit (c : ConnKey) (s : System) (i : Table InterestSet) (w : Table Worker) :
    (s.refit i w).markClosed c = ((s.markClosed c).1.refit i w, (s.markClosed c).2) := by
  have hopen : (s.refit i w).isConnected c = s.isConnected c := rfl
  unfold markClosed
  rw [hopen]
  split
  · rfl
  · rfl

/-- The first operation on connections that gets to the sets, through the socket that is
    closed. -/
theorem releaseSocket_refit (c : ConnKey) (s : System) (i : Table InterestSet)
    (w : Table Worker) : ∃ j, (s.refit i w).releaseSocket c = (s.releaseSocket c).refit j w := by
  have hconn : (s.refit i w).conn? c = s.conn? c := rfl
  unfold releaseSocket
  rw [hconn]
  rcases (s.conn? c).bind Connection.socket with _ | q
  · exact ⟨i, rfl⟩
  · rcases Kernel.close_refit i q s.kernel with ⟨j, hclose⟩
    refine ⟨j, ?_⟩
    -- The connection loses its socket in the same step.
    change ({ s.updateConn c _ with
        kernel := (s.kernel.refit i).close q, workers := w } : System) = _
    rw [hclose]
    rfl

/-- Whether there is a socket to release is decided by the mark alone. -/
theorem disconnect_refit (c : ConnKey) (s : System) (i : Table InterestSet) (w : Table Worker) :
    ∃ j, (s.refit i w).disconnect c = (s.disconnect c).refit j w := by
  unfold disconnect
  rw [markClosed_refit]
  rcases s.markClosed c with ⟨u, _ | _⟩
  · exact ⟨i, rfl⟩
  · rcases releaseSocket_refit c u i w with ⟨j, hrelease⟩
    dsimp only
    rw [hrelease]
    exact ⟨j, rfl⟩

/-! ### Callbacks -/

/-- Closing what has lost its last handle does not look at backends if what destroys
    callbacks does not. -/
theorem closeUnheld_refit {destroy : CallbackKey → System → System}
    (hdestroy : ∀ k s i w, ∃ j, destroy k (refit i w s) = (destroy k s).refit j w)
    (h : ConnKey) (s : System) (i : Table InterestSet) (w : Table Worker) :
    ∃ j, closeUnheld destroy h (s.refit i w) = (closeUnheld destroy h s).refit j w := by
  have hheld : (s.refit i w).isHeld h = s.isHeld h := rfl
  unfold closeUnheld
  rw [hheld, clearSlot_refit]
  split
  · exact ⟨i, rfl⟩
  · rcases s.clearSlot h with ⟨u, _ | _ | inner⟩
    · exact disconnect_refit h u i w
    · exact disconnect_refit h u i w
    · rcases hdestroy inner u i w with ⟨j, hinner⟩
      dsimp only
      rw [hinner]
      exact disconnect_refit h _ j w

/-- A chain of any depth. Each close in it may rewrite sets, so the sets go along from
    handle to handle. -/
theorem destroyWithin_refit (n : Nat) (k : CallbackKey) (s : System) (i : Table InterestSet)
    (w : Table Worker) :
    ∃ j, destroyWithin n k (s.refit i w) = (destroyWithin n k s).refit j w := by
  induction n generalizing k s i w with
  | zero => exact ⟨i, rfl⟩
  | succ n ih =>
      -- The handles are let go of one after the other.
      have hfold : ∀ (hs : List ConnKey) (s : System) (i : Table InterestSet), ∃ j,
          hs.foldl (fun s h => closeUnheld (destroyWithin n) h (s.letGo k h)) (s.refit i w) =
            (hs.foldl (fun s h => closeUnheld (destroyWithin n) h (s.letGo k h)) s).refit j w := by
        intro hs
        induction hs with
        | nil => exact fun s i => ⟨i, rfl⟩
        | cons h rest step =>
            intro s i
            rcases closeUnheld_refit ih h (s.letGo k h) i w with ⟨j, hone⟩
            rw [List.foldl_cons, List.foldl_cons, show (s.refit i w).letGo k h =
              (s.letGo k h).refit i w from rfl, hone]
            exact step _ j
      -- The callback itself is found in a table that neither of them rewrites.
      have hrow : (s.refit i w).callbacks.get? k = s.callbacks.get? k := rfl
      unfold destroyWithin
      rw [hrow]
      rcases s.callbacks.get? k with _ | cb
      · exact ⟨i, rfl⟩
      · dsimp only
        split
        · exact ⟨i, rfl⟩
        · exact hfold cb.holds (s.endCallback k) i

/-- At the depth that destroying uses. -/
theorem destroy_refit (k : CallbackKey) (s : System) (i : Table InterestSet) (w : Table Worker) :
    ∃ j, (s.refit i w).destroy k = (s.destroy k).refit j w :=
  destroyWithin_refit (s.callbacks.size + 1) k s i w

theorem destroyAny_refit (k : Option CallbackKey) (s : System) (i : Table InterestSet)
    (w : Table Worker) : ∃ j, (s.refit i w).destroyAny k = (s.destroyAny k).refit j w := by
  cases k with
  | none => exact ⟨i, rfl⟩
  | some k => exact destroy_refit k s i w

/-! ### Registrations -/

/-- What was in the slot ends in both states or in neither. -/
theorem detach_refit (c : ConnKey) (s : System) (i : Table InterestSet) (w : Table Worker) :
    ∃ j, (s.refit i w).detach c = ((s.detach c).1.refit j w, (s.detach c).2) := by
  unfold detach
  rw [clearSlot_refit]
  rcases s.clearSlot c with ⟨u, _ | callback⟩
  · exact ⟨i, rfl⟩
  · rcases destroyAny_refit callback u i w with ⟨j, hdestroy⟩
    exact ⟨j, congrArg (·, true) hdestroy⟩

theorem detachFrom_refit (c : ConnKey) (r : RegistryKey) (s : System) (i : Table InterestSet)
    (w : Table Worker) :
    ∃ j, (s.refit i w).detachFrom c r = ((s.detachFrom c r).1.refit j w, (s.detachFrom c r).2) := by
  have hslot : (s.refit i w).slot c = s.slot c := rfl
  unfold detachFrom
  rw [hslot]
  split
  · exact detach_refit c s i w
  · exact ⟨i, rfl⟩

theorem detachGeneration_refit (c : ConnKey) (g : UInt64) (s : System) (i : Table InterestSet)
    (w : Table Worker) : ∃ j, (s.refit i w).detachGeneration c g =
      ((s.detachGeneration c g).1.refit j w, (s.detachGeneration c g).2) := by
  have hslot : (s.refit i w).slot c = s.slot c := rfl
  unfold detachGeneration
  rw [hslot]
  split
  · exact detach_refit c s i w
  · exact ⟨i, rfl⟩

/-- Clearing registrations one by one carries the sets from each to the next. -/
theorem detachAll_refit (r : RegistryKey) (cs : List ConnKey) (s : System)
    (i : Table InterestSet) (w : Table Worker) :
    ∃ j, (s.refit i w).detachAll r cs = (s.detachAll r cs).refit j w := by
  induction cs generalizing s i with
  | nil => exact ⟨i, rfl⟩
  | cons c rest ih =>
      rcases detachFrom_refit c r s i w with ⟨j, hone⟩
      rw [detachAll, detachAll, hone]
      exact ih _ j

/-- Closing a connection clears its registration first. -/
theorem close_refit (c : ConnKey) (s : System) (i : Table InterestSet) (w : Table Worker) :
    ∃ j, (s.refit i w).close c = (s.close c).refit j w := by
  rcases detach_refit c s i w with ⟨j, hdetach⟩
  rw [close, close, hdetach]
  exact disconnect_refit c _ j w

/-- Whether a handle was the last one is told by connections and callbacks. -/
theorem dropHandle_refit (c : ConnKey) (s : System) (i : Table InterestSet) (w : Table Worker) :
    ∃ j, (s.refit i w).dropHandle c = ((s.dropHandle c).1.refit j w, (s.dropHandle c).2) := by
  have hconn : (s.refit i w).conn? c = s.conn? c := rfl
  unfold dropHandle
  rw [hconn]
  rcases s.conn? c with _ | conn
  · exact ⟨i, rfl⟩
  · dsimp only
    split
    · rw [show ((s.refit i w).updateConn c fun x => { x with owned := false }).isHeld c =
        (s.updateConn c fun x => { x with owned := false }).isHeld c from rfl]
      -- Whoever else keeps a handle is found among callbacks, which are the same.
      split
      · exact ⟨i, rfl⟩
      · rcases close_refit c (s.updateConn c fun x => { x with owned := false }) i w with
            ⟨j, hclose⟩
        exact ⟨j, congrArg (·, true) hclose⟩
    · exact ⟨i, rfl⟩

/-- Registries and slots are rewritten without a look at the sets. -/
theorem install_refit (c : ConnKey) (r : RegistryKey) (k : CallbackKey) (s : System)
    (i : Table InterestSet) (w : Table Worker) :
    (s.refit i w).install c r k = ((s.install c r k).1.refit i w, (s.install c r k).2) := by
  have hslot : (s.refit i w).slot c = s.slot c := rfl
  have henlist : ∀ u : System,
      (u.refit i w).enlist c r = ((u.enlist c r).1.refit i w, (u.enlist c r).2) := by
    intro u
    have hconn : (u.refit i w).conn? c = u.conn? c := rfl
    unfold enlist
    rw [hconn]
    rcases u.conn? c with _ | conn
    · rfl
    · rfl
  have hstrike : ∀ (u : System) (q : RegistryKey),
      ((u.refit i w).strike c q).1 = (u.strike c q).1.refit i w := by
    intro u q
    have hconn : (u.refit i w).conn? c = u.conn? c := rfl
    unfold strike
    rw [hconn]
    rcases u.conn? c with _ | conn
    · rfl
    · rfl
  -- The entry of the registry that is left is struck, then the new one is added.
  unfold install
  rw [hslot, show (s.refit i w).acquire (.slot c) = (s.acquire (.slot c)).refit i w from rfl]
  dsimp only
  rcases (s.slot c).registry with _ | current
  · dsimp only
    rw [henlist]
    rfl
  · dsimp only
    split
    · rfl
    · rw [hstrike, henlist]
      rfl

/-- The callback that is replaced ends outside of the slot's lock. -/
theorem attach_refit (c : ConnKey) (r : RegistryKey) (k : CallbackKey) (s : System)
    (i : Table InterestSet) (w : Table Worker) :
    ∃ j, (s.refit i w).attach c r k = ((s.attach c r k).1.refit j w, (s.attach c r k).2) := by
  unfold attach
  rw [install_refit]
  rcases s.install c r k with ⟨u, replaced, appended⟩
  rcases destroyAny_refit replaced u i w with ⟨j, hdestroy⟩
  exact ⟨j, congrArg (·, appended) hdestroy⟩

/-- Whether a callback may go back is decided by its slot. -/
theorem putBack_refit (x : Taken) (s : System) (i : Table InterestSet) (w : Table Worker) :
    ∃ j, (s.refit i w).putBack x = ((s.putBack x).1.refit j w, (s.putBack x).2) := by
  have hmay : (s.refit i w).mayReturn x = s.mayReturn x := rfl
  unfold putBack restore
  rw [hmay]
  cases s.mayReturn x with
  | true => exact ⟨i, rfl⟩
  | false =>
      rcases destroy_refit x.callback s i w with ⟨j, hdestroy⟩
      exact ⟨j, congrArg (fun u => (u.settleTaken x.callback, false)) hdestroy⟩

/-- After a panic the registration is cleared if its count still stands, and the
    callback ends. -/
theorem giveUp_refit (x : Taken) (s : System) (i : Table InterestSet) (w : Table Worker) :
    ∃ j, (s.refit i w).giveUp x = (s.giveUp x).refit j w := by
  have hlabel : (s.refit i w).label x.conn = s.label x.conn := rfl
  unfold giveUp
  dsimp only
  rw [hlabel]
  rcases detachGeneration_refit x.conn x.generation
    (s.note (.callbackPanicked (s.label x.conn))) i w with ⟨j, hdetach⟩
  rw [show (s.refit i w).note (.callbackPanicked (s.label x.conn)) =
    (s.note (.callbackPanicked (s.label x.conn))).refit i w from rfl, hdetach]
  rcases destroy_refit x.callback (((s.note (.callbackPanicked (s.label x.conn))).detachGeneration
    x.conn x.generation).1) j w with ⟨j', hdestroy⟩
  exact ⟨j', congrArg (settleTaken x.callback) hdestroy⟩

theorem finish_refit (x : Taken) (exit : Exit) (s : System) (i : Table InterestSet)
    (w : Table Worker) : ∃ j, (s.refit i w).finish x exit = (s.finish x exit).refit j w := by
  cases exit with
  | returned =>
      rcases putBack_refit x s i w with ⟨j, hback⟩
      exact ⟨j, congrArg Prod.fst hback⟩
  | panicked => exact giveUp_refit x s i w

theorem forget_refit (x : Taken) (s : System) (i : Table InterestSet) (w : Table Worker) :
    ∃ j, (s.refit i w).forget x = (s.forget x).refit j w := by
  rcases destroy_refit x.callback s i w with ⟨j, hdestroy⟩
  exact ⟨j, congrArg (settleTaken x.callback) hdestroy⟩

/-! ### Traffic -/

theorem receive_refit (c : ConnKey) (n : Nat) (s : System) (i : Table InterestSet)
    (w : Table Worker) :
    (s.refit i w).receive c n = ((s.receive c n).1.refit i w, (s.receive c n).2) := by
  have hsocket : (s.refit i w).socket? c = s.socket? c := rfl
  unfold receive
  rw [hsocket]
  rcases s.socket? c with _ | q
  · rfl
  · dsimp only
    rw [show (s.refit i w).kernel = s.kernel.refit i from rfl, Kernel.receive_refit]
    rcases s.kernel.receive q n with ⟨k, data | code⟩
    · rfl
    · rfl

/-- One answer of the socket is all that writing depends on. -/
theorem write_refit (c : ConnKey) (data : Bytes) (s : System) (i : Table InterestSet)
    (w : Table Worker) :
    ∃ j, (s.refit i w).write c data = ((s.write c data).1.refit j w, (s.write c data).2) := by
  have hsocket : (s.refit i w).socket? c = s.socket? c := rfl
  unfold write
  rw [hsocket]
  rcases s.socket? c with _ | q
  · exact ⟨i, rfl⟩
  · dsimp only
    split
    · exact ⟨i, rfl⟩
    · rcases Kernel.send_refit i q data s.kernel with ⟨j, hsend⟩
      rw [show (s.refit i w).kernel = s.kernel.refit i from rfl, hsend]
      rcases s.kernel.send q data with ⟨k, reply⟩
      dsimp only
      unfold endWrite
      rcases (sendAll [reply] data).2 with _ | e | _
      · exact ⟨j, rfl⟩
      · exact ⟨j, rfl⟩
      · exact ⟨j, rfl⟩

theorem begin_refit (c : ConnKey) (n : Nat) (s : System) (i : Table InterestSet)
    (w : Table Worker) :
    (s.refit i w).begin c n = ((s.begin c n).1.refit i w, (s.begin c n).2) := by
  have hslot : (s.refit i w).slot c = s.slot c := rfl
  unfold begin take
  rw [hslot]
  rcases (s.slot c).callback with _ | k
  · rfl
  · dsimp only
    rw [show ∀ x : Taken, ({ (s.refit i w).updateSlot c fun y => { y with callback := none } with
        out := x :: (s.refit i w).out } : System) =
      ({ s.updateSlot c fun y => { y with callback := none } with out := x :: s.out } :
        System).refit i w from fun _ => rfl, receive_refit]
    rfl

/-- Unsetting looks at the notifier and at the slot. -/
theorem unsetCallback_refit (n : NotifierKey) (c : ConnKey) (s : System)
    (i : Table InterestSet) (w : Table Worker) : ∃ j, (s.refit i w).unsetCallback n c =
      ((s.unsetCallback n c).1.refit j w, (s.unsetCallback n c).2) := by
  have hrunning : ((s.refit i w).acquire (.state n)).running? n =
      (s.acquire (.state n)).running? n := rfl
  unfold unsetCallback
  dsimp only
  rw [hrunning]
  rcases (s.acquire (.state n)).running? n with _ | running
  · exact ⟨i, rfl⟩
  · dsimp only
    rcases detachFrom_refit c running.registry (s.acquire (.state n)) i w with ⟨j, hdetach⟩
    rw [show (s.refit i w).acquire (.state n) = (s.acquire (.state n)).refit i w from rfl, hdetach]
    rcases (s.acquire (.state n)).detachFrom c running.registry with ⟨u, removed⟩
    cases removed with
    | true => exact ⟨j, rfl⟩
    | false => exact ⟨j, rfl⟩

end System

/-! ### Workers -/

/-- A worker without its backend. -/
def Worker.bare (x : Worker) : Worker := { x with poller := .pollSet ⟨0⟩ }

/-- A backend opens on other interest sets as it does on these. -/
theorem Poller.create_refit (kind : BackendKind) (capacity : Nat) (i : Table InterestSet)
    (k : Kernel) :
    (∃ k' j fault, create kind capacity k = (k', .error fault) ∧
      create kind capacity (k.refit i) = (k'.refit j, .error fault)) ∨
    ∃ k' j p p', create kind capacity k = (k', .ok p) ∧
      create kind capacity (k.refit i) = (k'.refit j, .ok p') ∧ p'.capacity = p.capacity := by
  have hstarved : (k.refit i).starved = k.starved := rfl
  unfold create Kernel.openInterest
  rw [hstarved]
  cases kind with
  | poll =>
      dsimp only
      split
      · exact Or.inl ⟨k, i, _, rfl, rfl⟩
      · exact Or.inr ⟨k, i, _, _, rfl, rfl, rfl⟩
  | epoll =>
      cases k.starved with
      | true => exact Or.inl ⟨k, i, _, rfl, rfl⟩
      | false =>
          rw [if_neg Bool.false_ne_true, if_neg Bool.false_ne_true]
          dsimp only
          split
          · exact Or.inl ⟨_, _, _, rfl, rfl⟩
          · -- The new set has a number of its own in each state.
            exact Or.inr ⟨_, _, _, _, rfl, rfl, rfl⟩

namespace System

variable {s t u : System} {α : Type}

/-- Two states that differ in interest sets and in the backends of workers only. -/
structure Alike (s t : System) : Prop where
  rest : ∃ i w, t = s.refit i w
  size : t.workers.size = s.workers.size
  workers : ∀ j, (t.workers.get? j).map Worker.bare = (s.workers.get? j).map Worker.bare

/-- A state is like itself. -/
theorem alike_refl (s : System) : Alike s s :=
  ⟨⟨s.kernel.interests, s.workers, rfl⟩, rfl, fun _ => rfl⟩

/-- Which of the two is called the other makes no difference. -/
theorem alike_symm (h : Alike s t) : Alike t s := by
  rcases h.rest with ⟨i, w, rfl⟩
  exact ⟨⟨s.kernel.interests, s.workers, rfl⟩, h.size.symm, fun j => (h.workers j).symm⟩

/-- Only the last sets and workers count. -/
theorem alike_trans (h : Alike s t) (h' : Alike t u) : Alike s u := by
  rcases h.rest with ⟨i, w, rfl⟩
  rcases h'.rest with ⟨i', w', rfl⟩
  exact ⟨⟨i', w', rfl⟩, h'.size.trans h.size, fun j => (h'.workers j).trans (h.workers j)⟩

/-- Other sets alone make no difference. -/
theorem alike_refit (i : Table InterestSet) (s : System) : Alike s (s.refit i s.workers) :=
  ⟨⟨i, s.workers, rfl⟩, rfl, fun _ => rfl⟩

/-- Nothing that is not an interest set or a worker tells alike states apart. -/
theorem Alike.eq (h : Alike s t) (f : System → α) (hf : ∀ s i w, f (refit i w s) = f s) :
    f t = f s := by
  rcases h.rest with ⟨i, w, rfl⟩
  exact hf s i w

/-- What does not look at backends leaves alike states alike. -/
theorem Alike.map (h : Alike s t) (f : System → System)
    (hf : ∀ s i w, ∃ j, f (refit i w s) = (f s).refit j w) : Alike (f s) (f t) := by
  rcases h.rest with ⟨i, w, rfl⟩
  rcases hf s i w with ⟨j, heq⟩
  -- It leaves workers alone, since it carries any others along.
  rcases hf s s.kernel.interests s.workers with ⟨j', hself⟩
  have hworkers : (f s).workers = ((f s).refit j' s.workers).workers :=
    congrArg System.workers hself
  rw [heq]
  refine ⟨⟨j, w, rfl⟩, ?_, fun k => ?_⟩
  · rw [hworkers]
    exact h.size
  · rw [hworkers]
    exact h.workers k

/-- And it answers the same. -/
theorem Alike.mapWith (h : Alike s t) (f : System → System × α)
    (hf : ∀ s i w, ∃ j, f (refit i w s) = ((f s).1.refit j w, (f s).2)) :
    Alike (f s).1 (f t).1 ∧ (f t).2 = (f s).2 := by
  refine ⟨h.map (fun s => (f s).1) fun s i w => (hf s i w).imp fun j heq => congrArg Prod.fst heq,
    ?_⟩
  rcases h.rest with ⟨i, w, rfl⟩
  rcases hf s i w with ⟨j, heq⟩
  rw [heq]

theorem alike_updateNotifier (h : Alike s t) (n : NotifierKey) (f : Notifier → Notifier) :
    Alike (s.updateNotifier n f) (t.updateNotifier n f) :=
  h.map (updateNotifier · n f) fun _ i _ => ⟨i, rfl⟩

theorem alike_note (h : Alike s t) (record : LogRecord) : Alike (s.note record) (t.note record) :=
  h.map (note · record) fun _ i _ => ⟨i, rfl⟩

/-- The same is done to a worker and to the one in its place. -/
theorem alike_updateWorker (h : Alike s t) (k : WorkerKey) {f : Worker → Worker}
    (hf : ∀ x, (f x).bare = f x.bare) : Alike (s.updateWorker k f) (t.updateWorker k f) := by
  have hbare : ∀ row : Option Worker,
      (row.map f).map Worker.bare = (row.map Worker.bare).map f := by
    intro row
    rcases row with _ | x
    · rfl
    · exact congrArg some (hf x)
  rcases h with ⟨⟨i, w, rfl⟩, hsize, hworkers⟩
  refine ⟨⟨i, _, rfl⟩, ?_, fun j => ?_⟩
  · exact (Table.size_update _ _ _).trans (hsize.trans (Table.size_update _ _ _).symm)
  · change ((w.update k f).get? j).map Worker.bare = ((s.workers.update k f).get? j).map Worker.bare
    rw [Table.get?_update, Table.get?_update]
    split
    · rw [hbare, hbare]
      exact congrArg (Option.map f) (hworkers k)
    · exact hworkers j

/-- A worker that ends gives its backend back, whatever that is. -/
theorem alike_finishWorker (h : Alike s t) (k : WorkerKey) :
    Alike (s.finishWorker k) (t.finishWorker k) := by
  have hrow := h.workers k
  unfold finishWorker
  rcases hs : s.workers.get? k with _ | x
  · rw [hs, Option.map_none, Option.map_eq_none_iff] at hrow
    rw [hrow]
    exact h
  · rw [hs, Option.map_some, Option.map_eq_some_iff] at hrow
    rcases hrow with ⟨y, ht, hbare⟩
    rw [ht]
    dsimp only
    have hfinished : y.bare.finished = x.bare.finished := by rw [hbare]
    rw [show y.finished = x.finished from hfinished]
    split
    · exact h
    · -- Both give back what they have, and that concerns interest sets only.
      rcases release_frame x.poller s.kernel with ⟨i, hi⟩
      rcases release_frame y.poller t.kernel with ⟨i', hi'⟩
      rw [hi, hi']
      have hmarked := alike_updateWorker h k (f := fun x => { x with finished := true })
        fun _ => rfl
      exact alike_trans (alike_symm (alike_refit i _))
        (alike_trans hmarked (alike_refit i' _))

theorem alike_joinWorker (h : Alike s t) (k : WorkerKey) :
    Alike (s.joinWorker k) (t.joinWorker k) :=
  alike_updateWorker (alike_finishWorker h k) k fun _ => rfl

/-- Who is to be joined stands in the notifier, and who does it is the running thread.
    -/
theorem alike_reapDetached (h : Alike s t) (n : NotifierKey) :
    Alike (s.reapDetached n) (t.reapDetached n) := by
  have hdetached : (t.notifiers.get? n).bind Notifier.detached =
      (s.notifiers.get? n).bind Notifier.detached :=
    h.eq (fun s => (s.notifiers.get? n).bind Notifier.detached) fun _ _ _ => rfl
  have hthread : t.thread = s.thread := h.eq System.thread fun _ _ _ => rfl
  unfold reapDetached
  rw [hdetached, hthread]
  rcases (s.notifiers.get? n).bind Notifier.detached with _ | k
  · exact h
  · dsimp only
    split
    · exact h
    · exact alike_updateNotifier (alike_joinWorker h k) n _

/-- A worker starts in both states or in neither. The backends are opened on different
    sets, but report the same capacity, which is all that the loop takes from them. -/
theorem alike_startWorker (h : Alike s t) (n : NotifierKey) (config : Config)
    (counters : CountersKey) :
    Alike (s.startWorker n config counters).1 (t.startWorker n config counters).1 ∧
      (t.startWorker n config counters).2 = (s.startWorker n config counters).2 := by
  rcases h with ⟨⟨i, w, rfl⟩, hsize, hworkers⟩
  have hrest : ∀ (k : Kernel) (j : Table InterestSet),
      Alike { s with kernel := k } { s.refit i w with kernel := k.refit j } :=
    fun k j => ⟨⟨j, w, rfl⟩, hsize, hworkers⟩
  unfold startWorker
  rcases Poller.create_refit config.backend config.window i s.kernel with
    ⟨k, j, fault, heq, heq'⟩ | ⟨k, j, p, p', heq, heq', hcapacity⟩
  · rw [show (s.refit i w).kernel = s.kernel.refit i from rfl, heq, heq']
    exact ⟨hrest k j, rfl⟩
  · rw [show (s.refit i w).kernel = s.kernel.refit i from rfl, heq, heq']
    dsimp only
    rw [show (s.refit i w).registries = s.registries from rfl, hcapacity,
      show threadFault (k.refit j) config.threadName = threadFault k config.threadName from rfl]
    -- Whichever of the later steps fails, the backend is given back.
    rcases release_frame p k with ⟨e, he⟩
    rcases release_frame p' (k.refit j) with ⟨e', he'⟩
    rw [he, he']
    rcases PollLoop.ofConfig s.registries.size counters p.capacity config with fault | loop
    · exact ⟨hrest _ _, rfl⟩
    · rcases threadFault k config.threadName with _ | fault
      · -- Both get a worker more, of the same number.
        dsimp only
        have hcount : w.size = s.workers.size := hsize
        rw [show (s.refit i w).workers = w from rfl, hcount]
        refine ⟨⟨⟨j, _, rfl⟩, ?_, fun m => ?_⟩, rfl⟩
        · change (w.add _).size = (s.workers.add _).size
          rw [Table.size_add, Table.size_add, hcount]
        · change ((w.add _).get? m).map Worker.bare = ((s.workers.add _).get? m).map Worker.bare
          rw [Table.get?_add, Table.get?_add, hcount]
          split
          · rfl
          · exact hworkers m
      · exact ⟨hrest _ _, rfl⟩

/-- A worker is started in both states, or both have one. -/
theorem alike_ensureRunning (h : Alike s t) (n : NotifierKey) :
    Alike (s.ensureRunning n).1 (t.ensureRunning n).1 ∧
      (t.ensureRunning n).2 = (s.ensureRunning n).2 := by
  have hrow : t.notifiers.get? n = s.notifiers.get? n :=
    h.eq (fun s => s.notifiers.get? n) fun _ _ _ => rfl
  unfold ensureRunning
  rw [hrow]
  rcases s.notifiers.get? n with _ | notifier
  · exact ⟨h, rfl⟩
  · dsimp only
    rcases notifier.running with _ | running
    · exact alike_startWorker h n notifier.config notifier.counters
    · exact ⟨h, rfl⟩

/-- Registering does the same in alike states, and ends in the same way. -/
theorem alike_setCallback (h : Alike s t) (n : NotifierKey) (c : ConnKey) (k : CallbackKey) :
    Alike (s.setCallback n c k).1 (t.setCallback n c k).1 ∧
      (t.setCallback n c k).2 = (s.setCallback n c k).2 := by
  have hopen : t.isConnected c = s.isConnected c := h.eq (isConnected · c) fun _ _ _ => rfl
  have hdestroy : ∀ {s t : System}, Alike s t → Alike (s.destroy k) (t.destroy k) := fun h =>
    h.map (destroy k) fun s i w => destroy_refit k s i w
  unfold setCallback register registerOn
  rw [hopen]
  split
  · have hlocked : Alike ((s.reapDetached n).acquire (.state n))
        ((t.reapDetached n).acquire (.state n)) :=
      (alike_reapDetached h n).map (acquire · (.state n)) fun _ i _ => ⟨i, rfl⟩
    rcases alike_ensureRunning hlocked n with ⟨hensure, hanswer⟩
    dsimp only
    rcases hs : ((s.reapDetached n).acquire (.state n)).ensureRunning n with ⟨u, r⟩
    rcases ht : ((t.reapDetached n).acquire (.state n)).ensureRunning n with ⟨v, r'⟩
    rw [hs, ht] at hensure hanswer
    rcases (show r' = r from hanswer)
    -- Either a worker is there now, or the callback ends with the error.
    rcases r with fault | running
    · have hreleased : Alike (u.release (.state n)) (v.release (.state n)) :=
        Alike.map hensure (release · (.state n)) fun _ i _ => ⟨i, rfl⟩
      exact ⟨hdestroy hreleased, rfl⟩
    · have hattach := Alike.mapWith hensure (attach c running.registry k) fun s i w =>
        attach_refit c running.registry k s i w
      dsimp only
      rcases hu : u.attach c running.registry k with ⟨u', appended⟩
      rcases hv : v.attach c running.registry k with ⟨v', appended'⟩
      rw [hu, hv] at hattach
      rcases hattach with ⟨hattached, hsame⟩
      rcases (show appended' = appended from hsame)
      -- A connection that is new in the registry is logged.
      cases appended with
      | true =>
          have hlabel : v'.label c = u'.label c := hattached.eq (label · c) fun _ _ _ => rfl
          dsimp only [if_true]
          rw [if_pos rfl, if_pos rfl, hlabel]
          exact ⟨Alike.map (alike_note hattached _) (release · (.state n)) fun _ i _ => ⟨i, rfl⟩,
            rfl⟩
      | false => exact ⟨hattached.map (release · (.state n)) fun _ i _ => ⟨i, rfl⟩, rfl⟩
  · exact ⟨hdestroy h, rfl⟩

/-- Told, and then joined or set aside by the same rule. -/
theorem alike_stopWorker (h : Alike s t) (n : NotifierKey) (k : WorkerKey) :
    Alike (s.stopWorker n k) (t.stopWorker n k) := by
  have htold : Alike (s.tell k) (t.tell k) :=
    alike_updateWorker h k (f := fun x => { x with told := true }) fun _ => rfl
  have hthread : (t.tell k).thread = (s.tell k).thread :=
    htold.eq System.thread fun _ _ _ => rfl
  unfold stopWorker
  dsimp only
  rw [hthread]
  -- The running worker cannot wait for itself.
  split
  · exact alike_updateNotifier (alike_note htold _) n _
  · exact alike_joinWorker htold k

/-- Both drain the same connections in the same order, since registries are the same. -/
theorem alike_shutdown (h : Alike s t) (n : NotifierKey) : Alike (s.shutdown n) (t.shutdown n) := by
  have hreap := alike_reapDetached h n
  have hrunning : (t.reapDetached n).running? n = (s.reapDetached n).running? n :=
    hreap.eq (running? · n) fun _ _ _ => rfl
  unfold shutdown clearLeft takeRunning
  rw [hrunning]
  rcases (s.reapDetached n).running? n with _ | running
  · exact hreap
  · dsimp only
    have hstop :=
      alike_stopWorker (alike_updateNotifier hreap n fun x => { x with running := none })
      n running.worker
    have hdrain := hstop.mapWith (drain running.registry) fun _ i _ => ⟨i, rfl⟩
    rcases hs : (((s.reapDetached n).updateNotifier n fun x =>
      { x with running := none }).stopWorker n running.worker).drain running.registry with ⟨u, cs⟩
    rcases ht : (((t.reapDetached n).updateNotifier n fun x =>
      { x with running := none }).stopWorker n running.worker).drain running.registry with ⟨v, cs'⟩
    rw [hs, ht] at hdrain
    rcases hdrain with ⟨hdrained, hsame⟩
    rcases (show cs' = cs from hsame)
    exact alike_note (hdrained.map (detachAll running.registry cs) fun s i w =>
      detachAll_refit running.registry cs s i w) _

/-- What is in the way of a registration is the same in alike states. -/
theorem Alike.obstacle (h : Alike s t) (n : NotifierKey) : t.obstacle n = s.obstacle n :=
  h.eq (System.obstacle n) fun _ _ _ => rfl

end System

/-- Whether a move neither asks backends nor takes descriptor numbers from the system. -/
def Move.isIndifferent : Move → Bool
  | .freshPair | .listenOn _ | .listen _ | .listenLocal | .connectAddr _ | .connect .. | .accept ..
  | .openPoller .. | .releasePoller _ | .checkPoller .. | .keepPoller .. | .openOther _ => false
  | _ => true

namespace System

variable {s t : System}

/-- Alike states stay alike. -/
theorem alike_perform {m : Move} (hm : m.isIndifferent = true) (h : Alike s t) :
    Alike (m.perform s) (m.perform t) := by
  -- Both have the same callbacks taken out, so a move on one of them branches alike.
  have hout : t.out = s.out := h.eq System.out fun _ _ _ => rfl
  cases m with
  | pair fdA fdB => exact h.map (Move.pair fdA fdB).perform fun _ i _ => ⟨i, rfl⟩
  | write c data =>
      exact (h.mapWith (write c data) fun s i w => write_refit c data s i w).1
  | receive c n => exact (h.mapWith (receive c n) fun s i w => ⟨i, receive_refit c n s i w⟩).1
  | close c => exact h.map (close c) fun s i w => close_refit c s i w
  | drop c => exact (h.mapWith (dropHandle c) fun s i w => dropHandle_refit c s i w).1
  | addNotifier config => exact h.map (Move.addNotifier config).perform fun _ i _ => ⟨i, rfl⟩
  | set n c hold =>
      have hfresh : Alike (s.addCallback hold).1 (t.addCallback hold).1 :=
        h.map (fun s => (s.addCallback hold).1) fun _ i _ => ⟨i, rfl⟩
      have hkey : (t.addCallback hold).2 = (s.addCallback hold).2 :=
        h.eq (fun s => (s.addCallback hold).2) fun _ _ _ => rfl
      simp only [Move.perform, setFresh, hkey]
      exact (alike_setCallback hfresh n c _).1
  | entrust k c =>
      refine h.map (entrust k c) fun s i w => ⟨i, ?_⟩
      unfold entrust
      rw [show (s.refit i w).isLive k = s.isLive k from rfl,
        show (s.refit i w).isHeld c = s.isHeld c from rfl]
      split
      · rfl
      · rfl
  | unset n c => exact (h.mapWith (unsetCallback n c) fun s i w => unsetCallback_refit n c s i w).1
  | shutdown n => exact alike_shutdown h n
  | begin c n => exact (h.mapWith (begin c n) fun s i w => ⟨i, begin_refit c n s i w⟩).1
  | finish x exit =>
      simp only [Move.perform, hout]
      split
      · exact h.map (fun s => s.finish x exit) fun s i w => finish_refit x exit s i w
      · exact h
  | attach c r hold =>
      refine (h.mapWith (fun s => s.attachFresh c r hold) fun s i w => ?_).1
      exact attach_refit c r _ (s.addCallback hold).1 i w
  | detach c => exact (h.mapWith (detach c) fun s i w => detach_refit c s i w).1
  | detachFrom c r => exact (h.mapWith (detachFrom c r) fun s i w => detachFrom_refit c r s i w).1
  | detachGeneration c g =>
      exact (h.mapWith (detachGeneration c g) fun s i w => detachGeneration_refit c g s i w).1
  | take c pinned =>
      refine (h.mapWith (take c pinned) fun s i w => ⟨i, ?_⟩).1
      unfold take
      rw [show (s.refit i w).slot c = s.slot c from rfl]
      rcases (s.slot c).callback with _ | k
      · rfl
      · rfl
  | forget x =>
      simp only [Move.perform, hout]
      split
      · exact h.map (forget x) fun s i w => forget_refit x s i w
      · exact h
  | onRegistry r f => exact h.map (Move.onRegistry r f).perform fun _ i _ => ⟨i, rfl⟩
  | fillWindow l => exact h.map (Move.fillWindow l).perform fun _ i _ => ⟨i, rfl⟩
  | countCycle l => exact h.map (Move.countCycle l).perform fun _ i _ => ⟨i, rfl⟩
  | countDispatches l n => exact h.map (Move.countDispatches l n).perform fun _ i _ => ⟨i, rfl⟩
  | addCounters => exact h.map (Move.addCounters).perform fun _ i _ => ⟨i, rfl⟩
  | finishWorker k => exact alike_finishWorker h k
  | switch thread held => exact h.map (Move.switch thread held).perform fun _ i _ => ⟨i, rfl⟩
  | starve starved => exact h.map (Move.starve starved).perform fun _ i _ => ⟨i, rfl⟩
  | refuseThreads error =>
      exact h.map (Move.refuseThreads error).perform fun _ i _ => ⟨i, rfl⟩
  | closeOther o => exact h.map (Move.closeOther o).perform fun _ i _ => ⟨_, rfl⟩
  | setReadable o readable =>
      refine h.map (Move.setReadable o readable).perform fun s i w => ?_
      rcases Kernel.setReadable_refit o readable i s.kernel with ⟨j, hkernel⟩
      exact ⟨j, congrArg (fun k => { s with kernel := k, workers := w }) hkernel⟩
  | note record => exact alike_note h record
  | _ => exact absurd hm Bool.false_ne_true

/-- And so they do under any number of such moves. -/
theorem alike_run {ms : List Move} (hms : ∀ m ∈ ms, m.isIndifferent = true) (h : Alike s t) :
    Alike (run ms s) (run ms t) := by
  induction ms generalizing s t with
  | nil => exact h
  | cons m ms ih =>
      exact ih (fun m' hm' => hms m' (List.mem_cons_of_mem m hm'))
        (alike_perform (hms m List.mem_cons_self) h)

end System

end ReadNotify
