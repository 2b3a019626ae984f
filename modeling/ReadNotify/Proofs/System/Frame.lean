import ReadNotify.System.Notifier
import Mathlib.Tactic.Common

/-!
# What Operations Leave Alone

Most operations of the system have nothing to do with registrations. Moving
bytes, asking a backend, starting or joining a thread, writing a record to the
log: each of them changes tables that no registration depends on, or adds a
connection that is not registered yet. `Quiet` says what all of them have in
common, and it is what later arguments use in place of their definitions.

The other operations are put together from few pieces that change a slot, a
callback or the mark that a connection is open. For each piece this module
says what can be observed afterwards: of every slot, every identity, every mark
and every registry, not only of the one the piece is about.

## Main definitions

* `System.ident`: The identity of a connection.
* `System.isOwned`: Whether the program keeps a handle.
* `Slot.cleared`: A slot after its registration was cleared.
* `Quiet`: Nothing happened to any registration.

## Theorems

* `slot_updateSlot`, `frame_updateSlot`: What depends on a slot.
* `registry_onRegistry`: Registries afterwards.
* `quiet_trans`, `quiet_of_same`, `quiet_adopt`: What is quiet.
* `quiet_receive`, `quiet_write`, `quiet_reapDetached`: Quiet operations.
-/

namespace ReadNotify

/-- The slot after its registration was cleared. -/
def Slot.cleared (x : Slot) : Slot := ⟨none, none, x.generation + 1⟩

namespace System

variable {s t u : System}

/-- The identity of a connection. -/
def ident (s : System) (c : ConnKey) : Option ConnId := (s.conn? c).map Connection.id

/-- Whether the program keeps a handle of a connection. -/
def isOwned (s : System) (c : ConnKey) : Bool :=
  match s.conn? c with
  | some conn => conn.owned
  | none => false

/-- The slot of a connection that exists. -/
theorem slot_of_conn? {c : ConnKey} {conn : Connection} (h : s.conn? c = some conn) :
    s.slot c = conn.slot := by
  simp only [slot, h]

/-- A connection that does not exist has the empty slot, so that every name has one. -/
theorem slot_of_none {c : ConnKey} (h : s.conn? c = none) : s.slot c = .empty := by
  simp only [slot, h]

/-- The mark of a connection that exists. -/
theorem isConnected_of_conn? {c : ConnKey} {conn : Connection} (h : s.conn? c = some conn) :
    s.isConnected c = conn.connected := by
  simp only [isConnected, h]

/-- What does not exist is not open. -/
theorem isConnected_of_none {c : ConnKey} (h : s.conn? c = none) : s.isConnected c = false := by
  simp only [isConnected, h]

/-- Where only registered slots have a callback, one without a registry has none. -/
theorem callback_of_unregistered {c : ConnKey}
    (hfilled : ∀ k, (s.slot c).callback = some k → (s.slot c).registry.isSome = true)
    (hnone : (s.slot c).registry = none) : (s.slot c).callback = none := by
  rcases hslot : (s.slot c).callback with _ | k
  · rfl
  · have hsome := hfilled k hslot
    rw [hnone] at hsome
    exact absurd hsome Bool.false_ne_true

/-- Everything that is asked of a connection is read off its row. -/
theorem slot_congr {c : ConnKey} (h : t.conn? c = s.conn? c) : t.slot c = s.slot c := by
  simp only [slot, h]

theorem ident_congr {c : ConnKey} (h : t.conn? c = s.conn? c) : t.ident c = s.ident c := by
  simp only [ident, h]

theorem isConnected_congr {c : ConnKey} (h : t.conn? c = s.conn? c) :
    t.isConnected c = s.isConnected c := by
  simp only [isConnected, h]

theorem isOwned_congr {c : ConnKey} (h : t.conn? c = s.conn? c) : t.isOwned c = s.isOwned c := by
  simp only [isOwned, h]

theorem socket?_congr {c : ConnKey} (h : t.conn? c = s.conn? c) : t.socket? c = s.socket? c := by
  simp only [socket?, h]

/-- A registered connection exists. -/
theorem exists_conn_of_registry {c : ConnKey} {r : RegistryKey}
    (h : (s.slot c).registry = some r) : ∃ conn, s.conn? c = some conn ∧ conn.slot = s.slot c := by
  rcases hc : s.conn? c with _ | conn
  · rw [slot_of_none hc] at h
    exact absurd h (by simp only [Slot.empty, reduceCtorEq, not_false_eq_true])
  · exact ⟨conn, rfl, (slot_of_conn? hc).symm⟩

/-- A look at a slot after one was rewritten. Of a connection that does not exist
    nothing is rewritten. -/
theorem slot_updateSlot (s : System) (c : ConnKey) (f : Slot → Slot) (d : ConnKey) :
    (s.updateSlot c f).slot d =
      if d = c ∧ (s.conn? c).isSome then f (s.slot c) else s.slot d := by
  by_cases hd : d = c
  · subst hd
    -- A connection that does not exist has the empty slot on both sides.
    rcases hc : s.conn? d with _ | conn
    · have hnew : (s.updateSlot d f).conn? d = none := by
        rw [conn?_updateSlot, if_pos rfl, hc, Option.map_none]
      rw [slot_of_none hnew, slot_of_none hc, if_neg (by simp)]
    · have hnew : (s.updateSlot d f).conn? d = some { conn with slot := f conn.slot } := by
        rw [conn?_updateSlot, if_pos rfl, hc, Option.map_some]
      rw [slot_of_conn? hnew, slot_of_conn? hc, if_pos (by simp)]
  · have hother : (s.updateSlot c f).conn? d = s.conn? d := by
      rw [conn?_updateSlot, if_neg hd]
    rw [slot_congr hother, if_neg fun h => hd h.1]

/-- Nothing but the slot of a connection depends on its slot. -/
theorem frame_updateSlot (s : System) (c : ConnKey) (f : Slot → Slot) (d : ConnKey) :
    (s.updateSlot c f).ident d = s.ident d ∧ (s.updateSlot c f).isConnected d = s.isConnected d ∧
      (s.updateSlot c f).isOwned d = s.isOwned d ∧
      (s.updateSlot c f).socket? d = s.socket? d := by
  unfold ident isConnected isOwned socket?
  rw [conn?_updateSlot]
  by_cases hd : d = c
  · rw [if_pos hd, hd]
    cases s.conn? c with
    | none => exact ⟨rfl, rfl, rfl, rfl⟩
    | some conn => exact ⟨rfl, rfl, rfl, rfl⟩
  · rw [if_neg hd]
    exact ⟨rfl, rfl, rfl, rfl⟩

/-- A registry after an operation on one of them. A registry that was never
    made stays empty. -/
theorem registry_onRegistry {α : Type} (s : System) (r : RegistryKey)
    (f : Registry → Registry × α) (q : RegistryKey) :
    (s.onRegistry r f).1.registry q =
      if q = r ∧ r < s.registries.size then (f (s.registry r)).1 else s.registry q := by
  simp only [registry, onRegistry, Table.get?_update]
  by_cases hq : q = r
  · subst hq
    -- Beyond the table nothing is updated and both look-ups fall back alike.
    by_cases hlt : q < s.registries.size
    · have hrow : ∃ reg, s.registries.get? q = some reg :=
        ⟨_, Array.getElem?_eq_getElem hlt⟩
      rcases hrow with ⟨reg, hreg⟩
      rw [if_pos rfl, if_pos ⟨rfl, hlt⟩, hreg, Option.map_some, Option.getD_some]
    · have hnone : s.registries.get? q = none :=
        Array.getElem?_eq_none (Nat.le_of_not_lt hlt)
      rw [if_pos rfl, if_neg fun h => hlt h.2, hnone, Option.map_none]
  · rw [if_neg hq, if_neg fun h => hq h.1]

/-- Nothing happened to any registration: slots, callbacks, registries and
    running workers are what they were, nothing was destroyed, and every connection
    is what it was, up to its last error. A connection that is new is open, owned
    and not registered. -/
structure Quiet (s t : System) : Prop where
  kept : ∀ c conn, s.conn? c = some conn → ∃ conn', t.conn? c = some conn' ∧
    conn'.id = conn.id ∧ conn'.socket = conn.socket ∧ conn'.connected = conn.connected ∧
    conn'.slot = conn.slot ∧ conn'.owned = conn.owned
  fresh : ∀ c conn, s.conn? c = none → t.conn? c = some conn →
    conn.id.serial = c + 1 ∧ conn.slot = .empty ∧ conn.connected = true ∧ conn.owned = true
  callbacks : t.callbacks = s.callbacks
  registries : t.registries = s.registries
  running : ∀ n, t.running? n = s.running? n
  out : t.out = s.out
  unreported : t.unreported = s.unreported

/-- Identities are kept, since connections are never removed. -/
theorem Quiet.ident (h : Quiet s t) {c : ConnKey} {id : ConnId} (hid : s.ident c = some id) :
    t.ident c = some id := by
  rcases Option.map_eq_some_iff.mp hid with ⟨conn, hc, rfl⟩
  rcases h.kept c conn hc with ⟨conn', hc', hid', -⟩
  rw [System.ident, hc', Option.map_some, hid']

/-- What does not touch the tables of connections, callbacks, registries and
    running workers is quiet. -/
theorem quiet_of_same (hconns : t.connections = s.connections)
    (hcallbacks : t.callbacks = s.callbacks) (hregistries : t.registries = s.registries)
    (hrunning : ∀ n, t.running? n = s.running? n) (hout : t.out = s.out)
    (hunreported : t.unreported = s.unreported) : Quiet s t := by
  have hconn : ∀ c, t.conn? c = s.conn? c := fun c => by simp only [conn?, hconns]
  refine ⟨fun c conn h => ⟨conn, (hconn c).trans h, rfl, rfl, rfl, rfl, rfl⟩, ?_, hcallbacks,
    hregistries, hrunning, hout, hunreported⟩
  intro c conn hnone hsome
  rw [hconn, hnone] at hsome
  exact absurd hsome (by simp only [reduceCtorEq, not_false_eq_true])

/-- Nothing at all is quiet. -/
theorem quiet_refl (s : System) : Quiet s s := quiet_of_same rfl rfl rfl (fun _ => rfl) rfl rfl

/-- Quiet operations one after the other. A connection may have come with the first and
    is kept by the second. -/
theorem quiet_trans (h : Quiet s t) (h' : Quiet t u) : Quiet s u := by
  refine ⟨?_, ?_, h'.callbacks.trans h.callbacks, h'.registries.trans h.registries,
    fun n => (h'.running n).trans (h.running n), h'.out.trans h.out,
    h'.unreported.trans h.unreported⟩
  · intro c conn hc
    rcases h.kept c conn hc with ⟨conn₁, hc₁, hid, hsocket, hopen, hslot, howned⟩
    rcases h'.kept c conn₁ hc₁ with ⟨conn₂, hc₂, hid', hsocket', hopen', hslot', howned'⟩
    exact ⟨conn₂, hc₂, hid'.trans hid, hsocket'.trans hsocket, hopen'.trans hopen,
      hslot'.trans hslot, howned'.trans howned⟩
  · intro c conn hnone hsome
    rcases hc : t.conn? c with _ | conn₁
    · exact h'.fresh c conn hc hsome
    · -- It was new in the middle, and has stayed what it was there.
      rcases h.fresh c conn₁ hnone hc with ⟨hserial, hslot, hopen, howned⟩
      rcases h'.kept c conn₁ hc with ⟨conn₂, hc₂, hid, -, hopen', hslot', howned'⟩
      have heq : conn₂ = conn := Option.some.inj (hc₂.symm.trans hsome)
      rw [← heq]
      exact ⟨by rw [hid]; exact hserial, hslot'.trans hslot, hopen'.trans hopen,
        howned'.trans howned⟩

/-- To remember an error is quiet: the last error is no part of a registration. -/
theorem quiet_record (c : ConnKey) (e : IoError) (s : System) : Quiet s (s.record c e) := by
  refine ⟨?_, ?_, rfl, rfl, fun _ => rfl, rfl, rfl⟩
  · intro d conn hd
    by_cases hdc : d = c
    · -- Only the last error of this one is another.
      refine ⟨{ conn with lastError := some e.recorded }, ?_, rfl, rfl, rfl, rfl, rfl⟩
      rw [record, conn?_updateConn, if_pos hdc, ← hdc, hd, Option.map_some]
    · refine ⟨conn, ?_, rfl, rfl, rfl, rfl, rfl⟩
      rw [record, conn?_updateConn, if_neg hdc, hd]
  · intro d conn hnone hsome
    rw [record, conn?_updateConn] at hsome
    by_cases hdc : d = c
    · rw [if_pos hdc, ← hdc, hnone, Option.map_none] at hsome
      exact absurd hsome (by simp only [reduceCtorEq, not_false_eq_true])
    · rw [if_neg hdc, hnone] at hsome
      exact absurd hsome (by simp only [reduceCtorEq, not_false_eq_true])

/-- A look-up after a new connection finds it under the next number. -/
theorem conn?_adopt (q : SocketKey) (numbered : Bool) (s : System) (c : ConnKey) :
    (s.adopt q numbered).1.conn? c =
      if c = s.connections.size then
        some
          { id := ⟨s.connections.size + 1, ((s.kernel.socket? q).bind fun x => x.fd).getD 0⟩,
            socket := some q, connected := true, lastError := none, slot := .empty,
            owned := true, numbered }
      else s.conn? c := by
  simp only [adopt, conn?, Table.get?_add]

/-- The next number is nobody's yet. -/
theorem conn?_size (s : System) : s.conn? s.connections.size = none :=
  Array.getElem?_eq_none (Nat.le_refl _)

/-- A new connection has an empty slot, and those that were there are left alone. -/
theorem quiet_adopt (q : SocketKey) (numbered : Bool) (s : System) :
    Quiet s (s.adopt q numbered).1 := by
  refine ⟨?_, ?_, rfl, rfl, fun _ => rfl, rfl, rfl⟩
  · intro c conn hc
    -- The new number is beyond the table, so no old connection has it.
    have hne : c ≠ s.connections.size := by
      intro heq
      rw [heq, conn?_size] at hc
      exact absurd hc (by simp only [reduceCtorEq, not_false_eq_true])
    exact ⟨conn, by rw [conn?_adopt, if_neg hne, hc], rfl, rfl, rfl, rfl, rfl⟩
  · intro c conn hnone hsome
    rw [conn?_adopt] at hsome
    by_cases heq : c = s.connections.size
    · rw [if_pos heq, Option.some.injEq] at hsome
      rw [← hsome, heq]
      exact ⟨rfl, rfl, rfl, rfl⟩
    · rw [if_neg heq, hnone] at hsome
      exact absurd hsome (by simp only [reduceCtorEq, not_false_eq_true])

/-! ### Quiet operations -/

/-- What does not touch any table but the kernel is quiet. -/
theorem quiet_kernel (k : Kernel) (s : System) : Quiet s { s with kernel := k } :=
  quiet_of_same rfl rfl rfl (fun _ => rfl) rfl rfl

/-- The log is nobody's business. -/
theorem quiet_note (record : LogRecord) (s : System) : Quiet s (s.note record) :=
  quiet_of_same rfl rfl rfl (fun _ => rfl) rfl rfl

/-- Nor are locks, which only tell who would have to wait. -/
theorem quiet_acquire (l : Lock) (s : System) : Quiet s (s.acquire l) :=
  quiet_of_same rfl rfl rfl (fun _ => rfl) rfl rfl

theorem quiet_release (l : Lock) (s : System) : Quiet s (s.release l) :=
  quiet_of_same rfl rfl rfl (fun _ => rfl) rfl rfl

/-- A failure is remembered, and nothing else of the connection changes. -/
theorem quiet_receive (c : ConnKey) (n : Nat) (s : System) : Quiet s (s.receive c n).1 := by
  unfold receive
  rcases s.socket? c with _ | q
  · exact quiet_refl s
  · dsimp only
    rcases s.kernel.receive q n with ⟨k, data | code⟩
    · exact quiet_kernel k s
    · exact quiet_trans (quiet_kernel k s) (quiet_record c _ _)

theorem quiet_endWrite (c : ConnKey) (ending : WriteEnd) (s : System) :
    Quiet s (s.endWrite c ending).1 := by
  cases ending with
  | failed e => exact quiet_record c e s
  | finished => exact quiet_refl s
  | waiting => exact quiet_refl s

theorem quiet_write (c : ConnKey) (data : Bytes) (s : System) : Quiet s (s.write c data).1 := by
  unfold write
  rcases s.socket? c with _ | q
  · exact quiet_refl s
  · dsimp only
    by_cases hdata : data = []
    · rw [if_pos hdata]
      exact quiet_refl s
    · rw [if_neg hdata]
      -- One call of the socket, and what it answers is remembered if it is an error.
      rcases s.kernel.send q data with ⟨k, reply⟩
      exact quiet_trans (quiet_kernel k s) (quiet_endWrite c _ _)

/-- A connection that is accepted is adopted like any other that is new. -/
theorem quiet_accept (c : ConnKey) (signalled : Bool) (s : System) :
    Quiet s (s.accept c signalled).1 := by
  unfold accept
  rcases s.socket? c with _ | q
  · exact quiet_refl s
  · dsimp only
    rcases s.kernel.accept q signalled with ⟨k, code | peer⟩
    · exact quiet_trans (quiet_kernel k s) (quiet_record c _ _)
    · dsimp only
      split
      · exact quiet_trans (quiet_kernel k s) (quiet_adopt peer false _)
      · -- A peer without an address of its own is closed again.
        exact quiet_kernel _ s

theorem quiet_adoptResult (result : Kernel × Except Int SocketKey) (s : System) :
    Quiet s (s.adoptResult result).1 := by
  rcases result with ⟨k, code | q⟩
  · exact quiet_kernel k s
  · exact quiet_trans (quiet_kernel k s) (quiet_adopt q false _)

theorem quiet_listen (port : Nat) (s : System) : Quiet s (s.listen port).1 := by
  have hfirst := quiet_adoptResult (s.kernel.listen ⟨.anywhere6, port⟩) s
  unfold listen listenOn
  -- After a failure the other family is tried, in a log that has grown.
  rcases hr : s.adoptResult (s.kernel.listen ⟨.anywhere6, port⟩) with ⟨u, e | c⟩ <;>
    rw [hr] at hfirst
  · exact quiet_trans (quiet_trans hfirst (quiet_note _ u)) (quiet_adoptResult _ _)
  · exact hfirst

/-- Any number of addresses may be tried. Only the last one leaves a connection. -/
theorem quiet_connectAny (port : Nat) (ips : List IpAddress) (last : IoError) (s : System) :
    Quiet s (connectAny port ips last s).1 := by
  -- The addresses are tried in order, each in the state the last one left.
  induction ips generalizing last s with
  | nil => exact quiet_refl s
  | cons ip rest ih =>
      have hfirst := quiet_adoptResult (s.kernel.connect ⟨ip, port⟩) s
      unfold connectAny connectAddr
      rcases hr : s.adoptResult (s.kernel.connect ⟨ip, port⟩) with ⟨u, e | c⟩ <;>
        rw [hr] at hfirst
      · exact quiet_trans (quiet_trans hfirst (quiet_note _ u)) (ih e _)
      · exact hfirst

theorem quiet_connect (host : String) (port : Nat) (s : System) :
    Quiet s (s.connect host port).1 := by
  unfold connect
  rcases resolve host with e | ips
  · exact quiet_refl s
  · exact quiet_connectAny port ips _ s

/-- Two connections made of two sockets, one after the other. -/
theorem quiet_adoptTwo (k : Kernel) (a b : SocketKey) (na nb : Bool) (s : System) :
    Quiet s (({ s with kernel := k }.adopt a na).1.adopt b nb).1 :=
  quiet_trans (quiet_trans (quiet_kernel k s) (quiet_adopt a na _)) (quiet_adopt b nb _)

theorem quiet_freshPair (s : System) : Quiet s s.freshPair.1 := by
  unfold freshPair
  by_cases hstarved : s.kernel.starved = true
  · rw [if_pos hstarved]
    exact quiet_refl s
  · rw [if_neg hstarved]
    exact quiet_adoptTwo _ _ _ false false s

theorem quiet_listenLocal (s : System) : Quiet s s.listenLocal.1 := by
  unfold listenLocal
  rcases s.kernel.listenLocal with ⟨k, code | ⟨l, client⟩⟩
  · exact quiet_kernel k s
  · exact quiet_adoptTwo k l client false false s

/-- Rewriting a notifier is quiet if its running worker stays. -/
theorem quiet_updateNotifier (n : NotifierKey) (f : Notifier → Notifier)
    (hf : ∀ x, (f x).running = x.running) (s : System) : Quiet s (s.updateNotifier n f) := by
  refine quiet_of_same rfl rfl rfl (fun m => ?_) rfl rfl
  simp only [running?, updateNotifier, Table.get?_update]
  by_cases hm : m = n
  · rw [if_pos hm, hm]
    cases s.notifiers.get? n with
    | none => rfl
    | some x => exact hf x
  · rw [if_neg hm]

/-- A notifier that was just made has no worker. -/
theorem quiet_addNotifier (config : Config) (s : System) :
    Quiet s (s.addNotifier config).1 := by
  refine quiet_of_same rfl rfl rfl (fun m => ?_) rfl rfl
  simp only [running?, addNotifier, Table.get?_add]
  by_cases hm : m = s.notifiers.size
  · -- A notifier that is new is not running, just as one that does not exist.
    have hnone : s.notifiers.get? m = none :=
      Array.getElem?_eq_none (Nat.le_of_eq hm.symm)
    rw [if_pos hm, hnone]
    rfl
  · rw [if_neg hm]

theorem quiet_updateWorker (k : WorkerKey) (f : Worker → Worker) (s : System) :
    Quiet s (s.updateWorker k f) := quiet_of_same rfl rfl rfl (fun _ => rfl) rfl rfl

/-- Workers come and go without a look at slots. -/
theorem quiet_finishWorker (k : WorkerKey) (s : System) : Quiet s (s.finishWorker k) := by
  unfold finishWorker
  rcases s.workers.get? k with _ | worker
  · exact quiet_refl s
  · dsimp only
    by_cases hdone : worker.finished = true
    · rw [if_pos hdone]
      exact quiet_refl s
    · rw [if_neg hdone]
      exact quiet_of_same rfl rfl rfl (fun _ => rfl) rfl rfl

theorem quiet_joinWorker (k : WorkerKey) (s : System) : Quiet s (s.joinWorker k) :=
  quiet_trans (quiet_finishWorker k s) (quiet_updateWorker k _ _)

/-- A worker that was set aside is joined by the next registration, unless it runs that
    itself. -/
theorem quiet_reapDetached (n : NotifierKey) (s : System) : Quiet s (s.reapDetached n) := by
  unfold reapDetached
  rcases (s.notifiers.get? n).bind Notifier.detached with _ | k
  · exact quiet_refl s
  · dsimp only
    by_cases hself : s.thread = .worker k
    · rw [if_pos hself]
      exact quiet_refl s
    · rw [if_neg hself]
      exact quiet_trans (quiet_joinWorker k s)
        (quiet_updateNotifier n (fun x => { x with detached := none }) (fun _ => rfl) _)

/-- Stopping a worker leaves its registrations for somebody else to clear. -/
theorem quiet_stopWorker (n : NotifierKey) (k : WorkerKey) (s : System) :
    Quiet s (s.stopWorker n k) := by
  have htold : Quiet s (s.tell k) := quiet_updateWorker k (fun x => { x with told := true }) s
  have hthread : (s.tell k).thread = s.thread := rfl
  unfold stopWorker
  dsimp only
  rw [hthread]
  -- A worker that stops itself cannot be waited for and is only detached.
  by_cases hself : s.thread = .worker k
  · rw [if_pos hself]
    exact quiet_trans (quiet_trans htold (quiet_note _ _))
      (quiet_updateNotifier n (fun x => { x with detached := some k }) (fun _ => rfl) _)
  · rw [if_neg hself]
    exact quiet_trans htold (quiet_joinWorker k _)

/-- What a backend notices is written down and no more. -/
theorem quiet_notePolls (notes : List PollNote) (s : System) : Quiet s (s.notePolls notes) := by
  induction notes generalizing s with
  | nil => exact quiet_refl s
  | cons note rest ih =>
      cases note with
      | invalid id => exact quiet_trans (quiet_note _ s) (ih _)
      | rejected r => exact quiet_trans (quiet_note _ s) (ih _)
      | left x => exact quiet_trans (quiet_note _ s) (ih _)

/-- To ask a backend is quiet. -/
theorem quiet_checkPoller (window : List ConnId) (p : Poller) (s : System) :
    Quiet s (s.checkPoller window p).1 :=
  quiet_trans (quiet_kernel _ s) (quiet_notePolls _ _)

namespace Quiet

/-- No slot changes, be the connection old or new. -/
theorem slot (h : Quiet s t) (c : ConnKey) : t.slot c = s.slot c := by
  rcases hc : s.conn? c with _ | conn
  · rw [slot_of_none hc]
    rcases hc' : t.conn? c with _ | conn
    · exact slot_of_none hc'
    · rw [slot_of_conn? hc']
      exact (h.fresh c conn hc hc').2.1
  · rcases h.kept c conn hc with ⟨conn', hc', -, -, -, hslot, -⟩
    rw [slot_of_conn? hc', slot_of_conn? hc, hslot]

/-- A connection that was open is open, and one that is open was, or is new. -/
theorem isConnected (h : Quiet s t) (c : ConnKey) :
    t.isConnected c = s.isConnected c ∨ (s.conn? c = none ∧ t.isConnected c = true) := by
  rcases hc : s.conn? c with _ | conn
  · rcases hc' : t.conn? c with _ | conn
    · exact Or.inl (by rw [isConnected_of_none hc, isConnected_of_none hc'])
    · refine Or.inr ⟨rfl, ?_⟩
      rw [isConnected_of_conn? hc']
      exact (h.fresh c conn hc hc').2.2.1
  · rcases h.kept c conn hc with ⟨conn', hc', -, -, hopen, -, -⟩
    exact Or.inl (by rw [isConnected_of_conn? hc', isConnected_of_conn? hc, hopen])

theorem registry (h : Quiet s t) (r : RegistryKey) : t.registry r = s.registry r := by
  simp only [System.registry, h.registries]

end Quiet

end System

end ReadNotify
