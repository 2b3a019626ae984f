import ReadNotify.Proofs.System.Moves

/-!
# What the Operations Do to Registrations

The operations on slots are put together from a few steps, and here each of
them is taken apart again. Putting a callback into a slot moves an entry and
then fills the slot. Putting one back either fills the slot it came from or
destroys the callback. Registering with a notifier has the most parts: a
detached worker is waited for, a worker is started if there is none, the
callback is put into the slot, and what it replaced is destroyed.

Whatever destroys callbacks may close connections on the way. `Swept` says
what can be said of a slot all the same: it is what the operation was meant to
leave there, unless the connection was closed meanwhile, and then it was
cleared.

## Main definitions

* `System.relist`, `System.takenOut`, `System.disown`: Parts of operations.
* `System.Readied`: A notifier has a running worker, perhaps a new one.
* `System.Swept`: A slot is what was aimed at, or cleared by a close.

## Theorems

* `registry_relist`: What becomes of a registry when an entry is moved.
* `putBack_cases`, `giveUp_eq`, `dropHandle_cases`: Everything these can do.
* `setCallback_cases`, `shutdown_cases`: Everything these two can do.
* `swept_destroy`, `swept_detach`, `swept_close`: Slots afterwards.
-/

namespace ReadNotify

namespace System

variable {s t u : System}

/-! ### Putting in and putting back -/

theorem release_acquire (l : Lock) (s : System) : (s.acquire l).release l = s := by
  rw [release, acquire, List.erase_cons_head]

-- Entering and striking do not depend on the locks held.
theorem enlist_acquire (c : ConnKey) (r : RegistryKey) (l : Lock) (s : System) :
    (s.acquire l).enlist c r = ((s.enlist c r).1.acquire l, (s.enlist c r).2) := by
  have hconn : (s.acquire l).conn? c = s.conn? c := rfl
  unfold enlist
  rw [hconn]
  cases s.conn? c with
  | none => rfl
  | some conn => rfl

theorem strike_acquire (c : ConnKey) (r : RegistryKey) (l : Lock) (s : System) :
    (s.acquire l).strike c r = ((s.strike c r).1.acquire l, (s.strike c r).2) := by
  have hconn : (s.acquire l).conn? c = s.conn? c := rfl
  unfold strike
  rw [hconn]
  cases s.conn? c with
  | none => rfl
  | some conn => rfl

/-- Moves the entry of a connection to a registry, and answers whether it is
    new there. -/
def relist (c : ConnKey) (r : RegistryKey) (s : System) : System × Bool :=
  match (s.slot c).registry with
  | some current => if current = r then (s, false) else (s.strike c current).1.enlist c r
  | none => s.enlist c r

/-- Putting a callback into a slot moves the entry and then fills the slot. -/
theorem install_eq (c : ConnKey) (r : RegistryKey) (k : CallbackKey) (s : System) :
    s.install c r k =
      ((s.relist c r).1.updateSlot c fun x => ⟨some k, some r, x.generation + 1⟩,
        (s.slot c).callback, (s.relist c r).2) := by
  -- The lock of the slot is taken for the update alone.
  have hfill : ∀ v : System,
      ((v.acquire (.slot c)).updateSlot c fun x => ⟨some k, some r, x.generation + 1⟩).release
        (.slot c) = v.updateSlot c fun x => ⟨some k, some r, x.generation + 1⟩ := fun v =>
    release_acquire (.slot c) (v.updateSlot c fun x => ⟨some k, some r, x.generation + 1⟩)
  unfold install relist
  dsimp only
  rcases (s.slot c).registry with _ | current
  · simp only [enlist_acquire, hfill]
  · -- Within one registry nothing moves; between two the old entry goes first.
    by_cases hsame : current = r
    · simp only [if_pos hsame, hfill]
    · simp only [if_neg hsame, strike_acquire, enlist_acquire, hfill]

/-- Moving an entry touches nothing but two registries. -/
theorem relist_frame (c : ConnKey) (r : RegistryKey) (s : System) :
    ∃ registries, (s.relist c r).1 = { s with registries } ∧
      registries.size = s.registries.size := by
  have henlist : ∀ v : System, ∃ registries, (v.enlist c r).1 = { v with registries } ∧
      registries.size = v.registries.size := by
    intro v
    unfold enlist
    rcases v.conn? c with _ | conn
    · exact ⟨v.registries, rfl, rfl⟩
    · exact ⟨_, rfl, Table.size_update _ _ _⟩
  have hstrike : ∀ (q : RegistryKey) (v : System), ∃ registries,
      (v.strike c q).1 = { v with registries } ∧ registries.size = v.registries.size := by
    intro q v
    unfold strike
    rcases v.conn? c with _ | conn
    · exact ⟨v.registries, rfl, rfl⟩
    · exact ⟨_, rfl, Table.size_update _ _ _⟩
  unfold relist
  rcases (s.slot c).registry with _ | current
  · exact henlist s
  · dsimp only
    by_cases hsame : current = r
    · rw [if_pos hsame]
      exact ⟨s.registries, rfl, rfl⟩
    · rw [if_neg hsame]
      -- The entry leaves one registry before it enters the other.
      rcases hstrike current s with ⟨regs, hs, hsize⟩
      rcases henlist (s.strike c current).1 with ⟨regs', hs', hsize'⟩
      refine ⟨regs', ?_, ?_⟩
      · rw [hs', hs]
      · rw [hsize', hs, hsize]

/-- What becomes of a registry when a connection is entered in one: it stays, or that
    one gets the entry. -/
theorem registry_enlist (c : ConnKey) (r : RegistryKey) (s : System) (q : RegistryKey) :
    (s.enlist c r).1.registry q = s.registry q ∨ q = r ∧ ∃ id, s.ident c = some id ∧
      (s.enlist c r).1.registry q = ((s.registry q).append id c).1 := by
  unfold enlist ident
  rcases s.conn? c with _ | conn
  · exact Or.inl rfl
  · dsimp only
    rw [registry_onRegistry]
    split
    · next hq => exact Or.inr ⟨hq.1, conn.id, rfl, by rw [hq.1]⟩
    · exact Or.inl rfl

/-- When one is struck from a registry, that one loses the entry. -/
theorem registry_strike {c : ConnKey} {conn : Connection} (hc : s.conn? c = some conn)
    (r q : RegistryKey) : (s.strike c r).1.registry q =
      if q = r then ((s.registry q).remove conn.id).1 else s.registry q := by
  simp only [strike, hc, registry_onRegistry]
  by_cases hq : q = r
  · rw [if_pos hq, hq]
    split
    · rfl
    · next hr =>
        -- A registry that was never made has no entry to lose.
        have hnone : s.registries.get? r = none :=
          Array.getElem?_eq_none (Nat.le_of_not_lt fun hlt => hr ⟨rfl, hlt⟩)
        rw [registry, hnone]
        rfl
  · rw [if_neg hq, if_neg fun h => hq h.1]

/-- What becomes of a registry when the entry of a connection is moved to one: it stays
    as it is, or it is the one that loses the entry, or the one that gets it. -/
theorem registry_relist (c : ConnKey) (r : RegistryKey) (s : System) (q : RegistryKey) :
    ((s.relist c r).1.registry q = s.registry q ∧ ((s.slot c).registry = some q → q = r)) ∨
    ((s.slot c).registry = some q ∧ ∃ id, s.ident c = some id ∧
      (s.relist c r).1.registry q = ((s.registry q).remove id).1) ∨
    (q = r ∧ (s.slot c).registry ≠ some q ∧ ∃ id, s.ident c = some id ∧
      (s.relist c r).1.registry q = ((s.registry q).append id c).1) := by
  unfold relist
  rcases hslot : (s.slot c).registry with _ | current
  · have hno : (none : Option RegistryKey) ≠ some q := by
      simp only [ne_eq, reduceCtorEq, not_false_eq_true]
    rcases registry_enlist c r s q with hsame | ⟨hq, hadded⟩
    · exact Or.inl ⟨hsame, fun h => absurd h hno⟩
    · exact Or.inr (Or.inr ⟨hq, hno, hadded⟩)
  · dsimp only
    by_cases hsame : current = r
    · rw [if_pos hsame]
      exact Or.inl ⟨rfl, fun h => (Option.some.inj h).symm.trans hsame⟩
    · rw [if_neg hsame]
      rcases hc : s.conn? c with _ | conn
      · -- What does not exist is not registered.
        rw [slot_of_none hc] at hslot
        exact absurd hslot (by simp only [Slot.empty, reduceCtorEq, not_false_eq_true])
      · have hstrike := registry_strike hc current q
        have hident : (s.strike c current).1.ident c = s.ident c := by
          simp only [strike, hc]
          rfl
        rcases registry_enlist c r (s.strike c current).1 q with hkept | ⟨hq, id, hid, hadded⟩
        · rw [hkept, hstrike]
          by_cases hq : q = current
          · rw [if_pos hq]
            exact Or.inr (Or.inl ⟨congrArg some hq.symm, conn.id,
              by rw [ident, hc, Option.map_some], rfl⟩)
          · rw [if_neg hq]
            exact Or.inl ⟨rfl, fun h => absurd (Option.some.inj h).symm hq⟩
        · -- No registry both loses the entry and gets it.
          have hne : q ≠ current := fun h => hsame (h.symm.trans hq)
          rw [hadded, hstrike, if_neg hne]
          exact Or.inr (Or.inr ⟨hq, fun h => hne (Option.some.inj h).symm, id, hident ▸ hid, rfl⟩)

/-- What putting a callback into a slot touches: that slot and two registries. -/
theorem install_frame (c : ConnKey) (r : RegistryKey) (k : CallbackKey) (s : System) :
    ∃ registries, registries.size = s.registries.size ∧ (s.install c r k).1 =
      { s.updateSlot c fun x => ⟨some k, some r, x.generation + 1⟩ with registries } := by
  rcases relist_frame c r s with ⟨registries, hs, hsize⟩
  refine ⟨registries, hsize, ?_⟩
  rw [install_eq, hs]
  rfl

theorem slot_install (c : ConnKey) (r : RegistryKey) (k : CallbackKey) (s : System)
    (d : ConnKey) :
    (s.install c r k).1.slot d =
      if d = c ∧ (s.conn? c).isSome then ⟨some k, some r, (s.slot c).generation + 1⟩
      else s.slot d := by
  rcases install_frame c r k s with ⟨registries, -, hs⟩
  rw [hs]
  exact slot_updateSlot s c (fun x => ⟨some k, some r, x.generation + 1⟩) d

/-! ### Putting back and giving up -/

theorem out_settleTaken (k : CallbackKey) (s : System) :
    (s.settleTaken k).out = s.out.filter fun x => x.callback != k := rfl

theorem callbacks_settleTaken (k : CallbackKey) (s : System) :
    (s.settleTaken k).callbacks = s.callbacks := rfl

theorem running?_settleTaken (k : CallbackKey) (s : System) (n : NotifierKey) :
    (s.settleTaken k).running? n = s.running? n := rfl

/-- What may go back goes back to a connection that exists. -/
theorem isSome_of_mayReturn {t : Taken} (h : s.mayReturn t = true) :
    (s.conn? t.conn).isSome = true := by
  simp only [mayReturn, Bool.and_eq_true] at h
  rcases Option.isSome_iff_exists.mp h.1.2 with ⟨r, hr⟩
  rcases exists_conn_of_registry hr with ⟨conn, hconn, -⟩
  exact Option.isSome_iff_exists.mpr ⟨conn, hconn⟩

/-- Everything putting a callback back can do. -/
theorem putBack_cases (t : Taken) (s : System) :
    (s.mayReturn t = true ∧ (s.restore t).2 = true ∧ (s.putBack t).1 =
      (s.updateSlot t.conn fun x => { x with callback := some t.callback }).settleTaken
        t.callback) ∨
    (s.mayReturn t = false ∧ s.restore t = (s, false) ∧
      s.putBack t = ((s.destroy t.callback).settleTaken t.callback, false)) := by
  unfold putBack restore
  cases s.mayReturn t with
  | true => exact Or.inl ⟨rfl, rfl, rfl⟩
  | false => exact Or.inr ⟨rfl, rfl, rfl⟩

/-- Giving up clears a registration that is still the same, and destroys. -/
theorem giveUp_eq (t : Taken) (s : System) : ∃ v, Noted s v ∧
    s.giveUp t = (((v.detachGeneration t.conn t.generation).1).destroy t.callback).settleTaken
      t.callback :=
  ⟨_, ⟨s.held, _, rfl⟩, rfl⟩

/-- The system after the program has given a handle up. -/
def disown (c : ConnKey) (s : System) : System := s.updateConn c fun x => { x with owned := false }

/-- Giving a handle up closes the connection if there is no other one. -/
theorem dropHandle_eq (c : ConnKey) (s : System) :
    (s.dropHandle c).1 = if s.isOwned c then
      if (s.disown c).isHeld c then s.disown c else (s.disown c).close c else s := by
  unfold dropHandle isOwned
  rcases s.conn? c with _ | conn
  · rfl
  · dsimp only
    split
    · rfl
    · rfl

/-- Everything giving a handle up can do. -/
theorem dropHandle_cases (c : ConnKey) (s : System) :
    (s.dropHandle c).1 = s ∨
    ((s.disown c).isHeld c = true ∧ (s.dropHandle c).1 = s.disown c) ∨
    ((s.disown c).isHeld c = false ∧ (s.dropHandle c).1 = (s.disown c).close c) := by
  rw [dropHandle_eq]
  split
  · cases hheld : (s.disown c).isHeld c with
    | true => exact Or.inr (Or.inl ⟨rfl, if_pos rfl⟩)
    | false => exact Or.inr (Or.inr ⟨rfl, if_neg Bool.false_ne_true⟩)
  · exact Or.inl rfl

/-- Nothing but the mark itself depends on whether the program has a handle. -/
theorem frame_disown (c : ConnKey) (s : System) (d : ConnKey) :
    (s.disown c).slot d = s.slot d ∧ (s.disown c).ident d = s.ident d ∧
      (s.disown c).isConnected d = s.isConnected d ∧ (s.disown c).socket? d = s.socket? d ∧
      (d ≠ c → (s.disown c).isOwned d = s.isOwned d) := by
  unfold slot ident isConnected socket? isOwned disown
  -- Everything asked for here is read off the connection.
  rw [conn?_updateConn]
  by_cases hd : d = c
  · rw [if_pos hd, hd]
    cases s.conn? c with
    | none => exact ⟨rfl, rfl, rfl, rfl, fun h => absurd rfl h⟩
    | some conn => exact ⟨rfl, rfl, rfl, rfl, fun h => absurd rfl h⟩
  · rw [if_neg hd]
    exact ⟨rfl, rfl, rfl, rfl, fun _ => rfl⟩

theorem slot_takenOut (t : Taken) (s : System) (c : ConnKey) (h : t.conn = c)
    (hsome : (s.slot c).callback = some t.callback) (d : ConnKey) :
    (s.takenOut t).slot d =
      if d = c then { s.slot c with callback := none } else s.slot d := by
  have hslot := slot_updateSlot s t.conn (fun x => { x with callback := none }) d
  -- What has a callback in its slot exists.
  have hexists : (s.conn? t.conn).isSome = true := by
    rw [h]
    rcases hc : s.conn? c with _ | conn
    · rw [slot_of_none hc] at hsome
      exact absurd hsome (by simp only [Slot.empty, reduceCtorEq, not_false_eq_true])
    · rfl
  rw [show (s.takenOut t).slot d = _ from hslot, hexists, h]
  simp only [and_true]

/-! ### Registering with a notifier -/

/-- A notifier has a running worker: it had one, or a new one was started with
    a new registry. -/
structure Readied (n : NotifierKey) (running : Running) (s t : System) : Prop where
  connections : t.connections = s.connections
  callbacks : t.callbacks = s.callbacks
  out : t.out = s.out
  unreported : t.unreported = s.unreported
  serves : t.running? n = some running
  started : (s.running? n = some running ∧ t.registries = s.registries ∧
      ∀ m, t.running? m = s.running? m) ∨
    (s.running? n = none ∧ t.registries = s.registries.add .empty ∧
      running.registry = s.registries.size ∧ ∀ m, m ≠ n → t.running? m = s.running? m)

theorem Readied.conn? {n : NotifierKey} {running : Running} (h : Readied n running s t)
    (c : ConnKey) : t.conn? c = s.conn? c := by
  simp only [System.conn?, h.connections]

theorem running?_updateNotifier (n : NotifierKey) (f : Notifier → Notifier) (s : System)
    (m : NotifierKey) :
    (s.updateNotifier n f).running? m =
      if m = n then (s.notifiers.get? n).bind fun x => (f x).running else s.running? m := by
  simp only [running?, updateNotifier, Table.get?_update]
  by_cases hm : m = n
  · rw [if_pos hm, if_pos hm, Option.bind_map]
    rfl
  · rw [if_neg hm, if_neg hm]

/-- Everything starting a worker can do. -/
theorem startWorker_cases (n : NotifierKey) (config : Config) (counters : CountersKey)
    (s : System) (notifier : Notifier) (hrow : s.notifiers.get? n = some notifier)
    (hstopped : notifier.running = none) :
    (∃ fault k, s.startWorker n config counters = ({ s with kernel := k }, .error fault)) ∨
      ∃ running u, s.startWorker n config counters = (u, .ok running) ∧
        Readied n running s u := by
  unfold startWorker
  -- Three things can fail, and what was opened until then is released.
  rcases Poller.create config.backend config.window s.kernel with ⟨k, fault | poller⟩
  · exact Or.inl ⟨_, k, rfl⟩
  · dsimp only
    rcases PollLoop.ofConfig s.registries.size counters poller.capacity config with fault | loop
    · exact Or.inl ⟨_, _, rfl⟩
    · rcases threadFault k config.threadName with _ | fault
      · have hnone : s.running? n = none := by rw [running?, hrow, Option.bind_some, hstopped]
        refine Or.inr ⟨⟨s.registries.size, s.workers.size⟩, _, rfl, rfl, rfl, rfl, rfl, ?_, Or.inr
          ⟨hnone, rfl, rfl, fun m hm => ?_⟩⟩
        · rw [running?_updateNotifier, if_pos rfl]
          simp only [note, hrow, Option.bind_some]
        · rw [running?_updateNotifier, if_neg hm]
          rfl
      · exact Or.inl ⟨_, _, rfl⟩

theorem readied_of_running {n : NotifierKey} {running : Running} (h : s.running? n = some running) :
    Readied n running s s := ⟨rfl, rfl, rfl, rfl, h, Or.inl ⟨h, rfl, fun _ => rfl⟩⟩

/-- Everything finding or starting the worker of a notifier can do. -/
theorem ensureRunning_cases (n : NotifierKey) (s : System) :
    (∃ fault k, s.ensureRunning n = ({ s with kernel := k }, .error fault)) ∨
      ∃ running u, s.ensureRunning n = (u, .ok running) ∧ Readied n running s u := by
  unfold ensureRunning
  rcases hrow : s.notifiers.get? n with _ | notifier
  · exact Or.inl ⟨_, s.kernel, rfl⟩
  · dsimp only
    rcases hrunning : notifier.running with _ | running
    · exact startWorker_cases n notifier.config notifier.counters s notifier hrow hrunning
    · have hsome : s.running? n = some running := by
        rw [running?, hrow, Option.bind_some, hrunning]
      exact Or.inr ⟨running, s, rfl, readied_of_running hsome⟩

/-- No fault ends with a registration. -/
theorem faultResult_ne_registered (fault : LaunchFault) : faultResult fault ≠ .registered := by
  rcases fault with (e | text) | e
  · simp only [faultResult, ne_eq, reduceCtorEq, not_false_eq_true]
  · simp only [faultResult, ne_eq, reduceCtorEq, not_false_eq_true]
  · simp only [faultResult, ne_eq, reduceCtorEq, not_false_eq_true]

/-- Everything registering with a notifier can do. It is refused, and then the
    callback is destroyed in a state that is otherwise what it was; or the
    connection is open and the callback attached in a state in which the
    notifier has a running worker. -/
theorem setCallback_cases (n : NotifierKey) (c : ConnKey) (k : CallbackKey) (s : System) :
    ((s.setCallback n c k).2 ≠ .registered ∧ ∃ u, Quiet s u ∧
      (s.setCallback n c k).1 = u.destroy k) ∨
    ((s.setCallback n c k).2 = .registered ∧ s.isConnected c = true ∧
      ∃ running u v, Quiet s u ∧ Readied n running u v ∧
        Noted (v.attach c running.registry k).1 (s.setCallback n c k).1) := by
  unfold setCallback register registerOn
  cases hopen : s.isConnected c with
  | false =>
      rw [if_neg Bool.false_ne_true]
      exact Or.inl ⟨by simp only [ne_eq, reduceCtorEq, not_false_eq_true], s, quiet_refl s, rfl⟩
  | true =>
      rw [if_pos rfl]
      dsimp only
      have hready : Quiet s ((s.reapDetached n).acquire (.state n)) :=
        quiet_trans (quiet_reapDetached n s) (quiet_acquire _ _)
      -- Without a worker there is nothing to attach to.
      rcases ensureRunning_cases n ((s.reapDetached n).acquire (.state n)) with
        ⟨fault, kernel, heq⟩ | ⟨running, v, heq, hv⟩
      · rw [heq]
        exact Or.inl ⟨faultResult_ne_registered fault, _, quiet_trans hready
          (quiet_trans (quiet_kernel kernel _) (quiet_release _ _)), rfl⟩
      · rw [heq]
        refine Or.inr ⟨rfl, rfl, running, _, v, hready, hv, ?_⟩
        dsimp only
        split
        · exact ⟨_, _, rfl⟩
        · exact ⟨_, _, rfl⟩

/-- Everything a shutdown can do. If the notifier is running, its worker is
    taken out and stopped, its registry is drained and what was in it is
    cleared. -/
theorem shutdown_cases (n : NotifierKey) (s : System) :
    (s.running? n = none ∧ Quiet s (s.shutdown n)) ∨
    ∃ running u v, s.running? n = some running ∧ Quiet s u ∧
      Quiet (u.updateNotifier n fun x => { x with running := none }) v ∧
      Noted ((v.drain running.registry).1.detachAll running.registry
        (v.drain running.registry).2) (s.shutdown n) := by
  have hreap := quiet_reapDetached n s
  unfold shutdown clearLeft takeRunning
  -- Waiting for a detached worker does not start or stop another one.
  rw [hreap.running n]
  rcases s.running? n with _ | running
  · exact Or.inl ⟨rfl, hreap⟩
  · exact Or.inr ⟨running, _, _, rfl, hreap, quiet_stopWorker n running.worker _, _, _, rfl⟩

/-! ### Slots that are swept along -/

/-- The slot of a connection is what it was aimed to be, or was cleared because
    the connection was closed. -/
def Swept (x : Slot) (t : System) (c : ConnKey) : Prop :=
  t.slot c = x ∨
    (x.registry.isSome = true ∧ t.slot c = x.cleared ∧ t.isConnected c = false)

theorem swept_settleTaken {x : Slot} {c : ConnKey} (h : Swept x s c) (k : CallbackKey) :
    Swept x (s.settleTaken k) c := h

theorem swept_of_unwound {c : ConnKey} (h : Unwound s t)
    (hopen : t.isConnected c = true → t.slot c = s.slot c) : Swept (s.slot c) t c := by
  rcases h.slots c with hsame | ⟨hreg, hclear⟩
  · exact Or.inl hsame
  · -- Of a connection that is still open the slot is what `hopen` says.
    cases hconn : t.isConnected c with
    | false => exact Or.inr ⟨hreg, hclear, hconn⟩
    | true => exact Or.inl (hopen hconn)

theorem Swept.noted {x : Slot} {c : ConnKey} (h : Swept x s c) (hnoted : Noted s t) :
    Swept x t c := by
  rcases hnoted with ⟨held, log, rfl⟩
  exact h

theorem swept_destroy (k : CallbackKey) (s : System) (c : ConnKey) :
    Swept (s.slot c) (s.destroy k) c :=
  swept_of_unwound (unwinds_destroy k s).unwound (slot_destroy k s c)

theorem swept_destroyAny (k : Option CallbackKey) (s : System) (c : ConnKey) :
    Swept (s.slot c) (s.destroyAny k) c :=
  swept_of_unwound (unwinds_destroyAny k s).unwound (slot_destroyAny k s c)

theorem swept_detach (c : ConnKey) (s : System) (d : ConnKey) :
    Swept (if d = c ∧ (s.slot d).registry.isSome then (s.slot d).cleared else s.slot d)
      (s.detach c).1 d := by
  by_cases h : d = c ∧ (s.slot d).registry.isSome
  · -- The slot named a registry before and names none now, so it was cleared.
    rcases h with ⟨rfl, hsome⟩
    rw [if_pos ⟨rfl, hsome⟩]
    rcases (unwinds_detach d s).unwound.slots d with hsame | ⟨-, hclear⟩
    · have hnone := registry_detach_self d s
      rw [hsame] at hnone
      rw [hnone] at hsome
      exact absurd hsome Bool.false_ne_true
    · exact Or.inl hclear
  · rw [if_neg h]
    refine swept_of_unwound (unwinds_detach c s).unwound fun hopen => ?_
    rw [slot_detach c s d hopen, if_neg]
    rintro ⟨rfl, hsome⟩
    exact h ⟨rfl, hsome⟩

theorem swept_detachFrom (c : ConnKey) (r : RegistryKey) (s : System) (d : ConnKey) :
    Swept (if d = c ∧ (s.slot d).registry = some r then (s.slot d).cleared else s.slot d)
      (s.detachFrom c r).1 d := by
  have hdetach := swept_detach c s d
  unfold detachFrom
  by_cases hd : d = c
  · -- Detaching was asked for exactly if the slot names this registry.
    subst hd
    by_cases hr : (s.slot d).registry = some r
    · rw [if_pos hr]
      simpa only [hr, Option.isSome_some, and_true] using hdetach
    · rw [if_neg hr, if_neg fun h => hr h.2]
      exact Or.inl rfl
  · rw [if_neg fun h => hd h.1] at hdetach ⊢
    split
    · exact hdetach
    · exact Or.inl rfl

theorem swept_detachGeneration (c : ConnKey) (g : UInt64) (s : System) (d : ConnKey) :
    Swept (if d = c ∧ (s.slot d).registry.isSome ∧ (s.slot d).generation = g then
        (s.slot d).cleared else s.slot d) (s.detachGeneration c g).1 d := by
  have hdetach := swept_detach c s d
  unfold detachGeneration
  by_cases hd : d = c
  · subst hd
    by_cases hg : (s.slot d).generation = g
    · rw [if_pos hg]
      simpa only [hg, and_true] using hdetach
    · rw [if_neg hg, if_neg fun h => hg h.2.2]
      exact Or.inl rfl
  · rw [if_neg fun h => hd h.1] at hdetach ⊢
    split
    · exact hdetach
    · exact Or.inl rfl

theorem swept_close (c : ConnKey) (s : System) (d : ConnKey) :
    Swept (s.slot d) (s.close c) d := by
  refine swept_of_unwound (unwinds_close c s).unwound fun hopen => ?_
  rcases frame_disconnect c (s.detach c).1 d with ⟨hslot, -, -, hconn⟩
  rw [close, hconn, Bool.and_eq_true, decide_eq_true_eq] at hopen
  rw [close, hslot, slot_detach c s d hopen.1, if_neg fun h => hopen.2 h.1]

/-- Clearing what is with one registry leaves every other open connection its
    registration. -/
theorem slot_detachAll (r : RegistryKey) (cs : List ConnKey) (s : System) (c : ConnKey)
    (hother : (s.slot c).registry ≠ some r)
    (hopen : (s.detachAll r cs).isConnected c = true) :
    (s.detachAll r cs).slot c = s.slot c := by
  induction cs generalizing s with
  | nil => rfl
  | cons d rest ih =>
      have hrest := unwinds_detachAll r rest (s.detachFrom d r).1
      have hfirst : (s.detachFrom d r).1.slot c = s.slot c := by
        -- The first detach may close others, but closed connections stay closed.
        rcases swept_detachFrom d r s c with hsame | ⟨-, -, hshut⟩
        · rw [hsame, if_neg fun h => hother h.2]
        · rw [hrest.unwound.shut c hopen] at hshut
          exact absurd hshut.symm Bool.false_ne_true
      rw [detachAll, ih _ (hfirst ▸ hother) hopen, hfirst]

/-- A slot that may have been aimed at something else by a first step is swept
    along by a second. -/
theorem Swept.trans {x : Slot} {c : ConnKey} (h : Swept x s c) (h' : Swept (s.slot c) t c)
    (hshut : t.isConnected c = true → s.isConnected c = true) : Swept x t c := by
  rcases h with hsame | ⟨hreg, hclear, hclosed⟩
  · rw [← hsame]
    exact h'
  · -- A slot that is cleared already names no registry to be cleared of.
    rcases h' with hsame' | ⟨hreg', -, -⟩
    · refine Or.inr ⟨hreg, hsame'.trans hclear, ?_⟩
      cases hconn : t.isConnected c with
      | false => rfl
      | true => exact absurd (hclosed.symm.trans (hshut hconn)) Bool.false_ne_true
    · rw [hclear] at hreg'
      exact absurd hreg' Bool.false_ne_true

end System

end ReadNotify
