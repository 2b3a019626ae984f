import ReadNotify.Proofs.System.Frame
import Mathlib.Data.Finset.Card
import Mathlib.Data.Finset.Range
import Mathlib.Logic.Relation

/-!
# What Follows the End of a Callback

Clearing a registration destroys a callback, destroying a callback releases its
handles, and releasing the last handle of a connection closes it, which clears
another registration. However long such a chain gets, it is made of five kinds
of links: a callback is marked destroyed, it lets go of a handle, a registration
is cleared, a connection without registration is disconnected, or a lock or a
log record is noted. `Unwinds` is the relation that one state follows another by
such links, so whatever every link preserves is preserved by closing a
connection, by clearing a registration and by destroying a callback.

Two facts need the shape of the chain and not only its links. A connection
loses its registration within the chain only if it is closed by it, because
clearing is followed by closing wherever a callback's end is the reason
(`slot_destroy`). And once the chain has ended no open connection is without a
handle, because the connection whose last handle goes is the next to be closed
(`heldBut_destroy`). For such facts `Destroys` says what a chain is without a
bound on its length. Every chain comes to an end (`destroys_destroy`): it
destroys a live callback wherever it goes deeper, and the bound is one more than
there are callbacks.

## Main definitions

* `System.Link`: One link of a chain.
* `System.Unwinds`: A state follows another by such links.
* `System.Does`, `System.Destroys`: A chain from its beginning to its end.
* `System.Unwound`: What no link touches, and what it can do to a slot.
* `System.Noted`: Only locks and records differ.
* `System.HeldBut`: Every open connection has a handle, but for some.

## Theorems

* `unwinds_destroy`, `unwinds_detach`, `unwinds_close`: What unwinds.
* `destroys_destroy`: Every chain comes to an end.
* `slot_destroy`: A slot after a callback was destroyed.
* `heldBut_destroy`: No open connection is left without a handle.
-/

namespace ReadNotify

/-- The connection after it was disconnected. -/
def Connection.shut (conn : Connection) : Connection :=
  if conn.connected then { conn with connected := false, socket := none } else conn

namespace System

variable {s t u : System}

/-! ### Clearing and disconnecting -/

/-- There is nothing to clear where nothing is registered. -/
theorem clearSlot_of_none {c : ConnKey} (h : (s.slot c).registry = none) :
    s.clearSlot c = (s, none) := by
  unfold clearSlot
  rcases hc : s.conn? c with _ | conn
  · rfl
  · rw [slot_of_conn? hc] at h
    simp only [h]

/-- A registration that is cleared leaves its slot and its registry, and hands out what
    was in the slot. -/
theorem clearSlot_of_some {c : ConnKey} {conn : Connection} {r : RegistryKey}
    (hc : s.conn? c = some conn) (hr : conn.slot.registry = some r) :
    s.clearSlot c =
      (((s.updateSlot c Slot.cleared).onRegistry r (Registry.remove conn.id)).1,
        some conn.slot.callback) := by
  unfold clearSlot
  simp only [hc, hr]
  -- The lock is released again, so only the slot and the registry are left.
  refine Prod.ext ?_ rfl
  simp only [release, acquire, onRegistry, updateSlot, updateConn, List.erase_cons_head]
  rfl

/-- Everything clearing a registration can do. -/
theorem clearSlot_cases (c : ConnKey) (s : System) :
    ((s.slot c).registry = none ∧ s.clearSlot c = (s, none)) ∨
      ∃ conn r, s.conn? c = some conn ∧ conn.slot = s.slot c ∧ (s.slot c).registry = some r ∧
        s.clearSlot c =
          (((s.updateSlot c Slot.cleared).onRegistry r (Registry.remove conn.id)).1,
            some (s.slot c).callback) := by
  rcases hr : (s.slot c).registry with _ | r
  · exact Or.inl ⟨rfl, clearSlot_of_none hr⟩
  · rcases exists_conn_of_registry hr with ⟨conn, hc, hslot⟩
    refine Or.inr ⟨conn, r, hc, hslot, rfl, ?_⟩
    rw [clearSlot_of_some hc (hslot ▸ hr), hslot]

/-- A look at a slot after one was cleared. Clearing counts as a change, so the
    generation goes up. -/
theorem slot_clearSlot (c : ConnKey) (s : System) (d : ConnKey) :
    (s.clearSlot c).1.slot d =
      if d = c ∧ (s.slot c).registry.isSome then (s.slot c).cleared else s.slot d := by
  rcases clearSlot_cases c s with ⟨hr, hclear⟩ | ⟨conn, r, hc, -, hr, hclear⟩
  · rw [hclear, if_neg]
    intro h
    rw [hr] at h
    exact absurd h.2 (by simp only [Option.isSome_none, Bool.false_eq_true, not_false_eq_true])
  · -- The registry is another table, and look-ups do not see it.
    have hupdate : (s.clearSlot c).1.slot d = (s.updateSlot c Slot.cleared).slot d := by
      rw [hclear]
      exact slot_congr (conn?_onRegistry _ r (Registry.remove conn.id) d)
    rw [hupdate, slot_updateSlot, hc, hr]
    rfl

/-- Clearing a registration touches nothing of a connection but its slot. -/
theorem frame_clearSlot (c : ConnKey) (s : System) (d : ConnKey) :
    (s.clearSlot c).1.ident d = s.ident d ∧
      (s.clearSlot c).1.isConnected d = s.isConnected d ∧
      (s.clearSlot c).1.isOwned d = s.isOwned d ∧
      (s.clearSlot c).1.socket? d = s.socket? d := by
  rcases clearSlot_cases c s with ⟨-, hclear⟩ | ⟨conn, r, -, -, -, hclear⟩
  · rw [hclear]
    exact ⟨rfl, rfl, rfl, rfl⟩
  · rw [hclear]
    exact frame_updateSlot s c Slot.cleared d

/-- Clearing a registration touches no table but those of the connections and
    the registries. -/
theorem tables_clearSlot (c : ConnKey) (s : System) :
    (s.clearSlot c).1.kernel = s.kernel ∧ (s.clearSlot c).1.callbacks = s.callbacks ∧
      (s.clearSlot c).1.out = s.out ∧ (s.clearSlot c).1.notifiers = s.notifiers ∧
      (s.clearSlot c).1.workers = s.workers ∧
      (s.clearSlot c).1.connections.size = s.connections.size ∧
      (s.clearSlot c).1.registries.size = s.registries.size := by
  rcases clearSlot_cases c s with ⟨-, hclear⟩ | ⟨conn, r, -, -, -, hclear⟩
  · rw [hclear]
    exact ⟨rfl, rfl, rfl, rfl, rfl, rfl, rfl⟩
  · rw [hclear]
    exact ⟨rfl, rfl, rfl, rfl, rfl, Table.size_update _ _ _, Table.size_update _ _ _⟩

/-- A look-up after a disconnection. -/
theorem conn?_disconnect (c : ConnKey) (s : System) (d : ConnKey) :
    (s.disconnect c).conn? d = if d = c then (s.conn? c).map Connection.shut else s.conn? d := by
  rcases hc : s.conn? c with _ | conn
  · -- What does not exist is not open, and nothing is done.
    have hopen : s.isConnected c = false := isConnected_of_none hc
    simp only [disconnect, markClosed, hopen, Bool.false_eq_true, if_false, Option.map_none]
    by_cases hd : d = c
    · rw [if_pos hd, hd, hc]
    · rw [if_neg hd]
  · rw [Option.map_some, Connection.shut]
    cases hopen : conn.connected with
    -- Disconnecting twice is disconnecting once.
    | false =>
        have hopen' : s.isConnected c = false := (isConnected_of_conn? hc).trans hopen
        simp only [disconnect, markClosed, hopen', Bool.false_eq_true, if_false]
        by_cases hd : d = c
        · rw [if_pos hd, hd, hc]
        · rw [if_neg hd]
    | true =>
        have hopen' : s.isConnected c = true := (isConnected_of_conn? hc).trans hopen
        -- It is marked first, and then loses its socket if it has one.
        have hmark : ∀ e, (s.updateConn c fun x => { x with connected := false }).conn? e =
            if e = c then some { conn with connected := false } else s.conn? e := fun e => by
          rw [conn?_updateConn, hc, Option.map_some]
        have hnote : ∀ (v : System) (record : LogRecord), (v.note record).conn? d = v.conn? d :=
          fun _ _ => rfl
        simp only [disconnect, markClosed, hopen', if_true, hnote, releaseSocket, hmark,
          Option.bind_some]
        cases hsocket : conn.socket with
        | none => simp only [hmark, hsocket]
        | some q =>
            have hkernel : ∀ (v : System) (k : Kernel),
                ({ v with kernel := k } : System).conn? d = v.conn? d := fun _ _ => rfl
            simp only [hkernel, conn?_updateConn, hmark, if_true, hc, Option.map_some]
            by_cases hd : d = c
            · simp only [if_pos hd]
            · simp only [if_neg hd]

/-- What the kernel is after a disconnection. -/
theorem kernel_disconnect (c : ConnKey) (s : System) :
    (s.disconnect c).kernel =
      if s.isConnected c then (s.socket? c).elim s.kernel s.kernel.close else s.kernel := by
  cases hopen : s.isConnected c with
  | false => simp only [disconnect, markClosed, hopen, Bool.false_eq_true, if_false]
  | true =>
      rcases hc : s.conn? c with _ | conn
      · rw [isConnected_of_none hc] at hopen
        exact absurd hopen Bool.false_ne_true
      · -- The mark is set before the socket is looked up, and hides nothing of it.
        have hmark : (s.updateConn c fun x => { x with connected := false }).conn? c =
            some { conn with connected := false } := by
          rw [conn?_updateConn, if_pos rfl, hc, Option.map_some]
        have hnote : ∀ (v : System) (record : LogRecord), (v.note record).kernel = v.kernel :=
          fun _ _ => rfl
        simp only [disconnect, markClosed, hopen, if_true, hnote, releaseSocket, hmark,
          Option.bind_some, socket?, hc]
        cases conn.socket with
        | none => rfl
        | some q => rfl

/-- A disconnection touches no table but those of the connections and the
    kernel. -/
theorem tables_disconnect (c : ConnKey) (s : System) :
    (s.disconnect c).callbacks = s.callbacks ∧ (s.disconnect c).registries = s.registries ∧
      (s.disconnect c).out = s.out ∧ (s.disconnect c).notifiers = s.notifiers ∧
      (s.disconnect c).workers = s.workers ∧
      (s.disconnect c).connections.size = s.connections.size := by
  unfold disconnect markClosed
  by_cases hopen : s.isConnected c = true
  · rw [if_pos hopen]
    simp only [releaseSocket]
    rcases ((s.updateConn c fun x => { x with connected := false }).conn? c).bind
      Connection.socket with _ | q
    · exact ⟨rfl, rfl, rfl, rfl, rfl, Table.size_update _ _ _⟩
    · exact ⟨rfl, rfl, rfl, rfl, rfl,
        (Table.size_update _ _ _).trans (Table.size_update _ _ _)⟩
  · rw [if_neg hopen]
    exact ⟨rfl, rfl, rfl, rfl, rfl, rfl⟩

/-- A disconnection touches nothing of a connection but that it is open and
    its socket. -/
theorem frame_disconnect (c : ConnKey) (s : System) (d : ConnKey) :
    (s.disconnect c).slot d = s.slot d ∧ (s.disconnect c).ident d = s.ident d ∧
      (s.disconnect c).isOwned d = s.isOwned d ∧
      (s.disconnect c).isConnected d = (s.isConnected d && decide (d ≠ c)) := by
  unfold slot ident isOwned isConnected
  rw [conn?_disconnect]
  by_cases hd : d = c
  · rw [if_pos hd, hd]
    rcases s.conn? c with _ | conn
    · exact ⟨rfl, rfl, rfl, rfl⟩
    · rw [Option.map_some, Connection.shut]
      cases hopen : conn.connected with
      | false => simp [hopen]
      | true => simp
  · simp [hd]

/-- A disconnected connection that was open has lost its socket. -/
theorem socket?_disconnect (c : ConnKey) (s : System) (d : ConnKey) :
    (s.disconnect c).socket? d =
      if d = c ∧ s.isConnected c then none else s.socket? d := by
  unfold socket? isConnected
  rw [conn?_disconnect]
  by_cases hd : d = c
  · rw [if_pos hd, hd]
    rcases s.conn? c with _ | conn
    · simp
    · rw [Option.map_some, Connection.shut]
      cases hopen : conn.connected with
      | false => simp [hopen]
      | true => simp [hopen]
  · simp [hd]

/-! ### Chains -/

/-- One link of a chain: a callback is marked destroyed, it lets go of a handle,
    a registration is cleared, a connection without registration is
    disconnected, or a lock or a record is noted. -/
inductive Link : System → System → Prop where
  | ended (s : System) (k : CallbackKey) : Link s (s.endCallback k)
  | released (s : System) (k : CallbackKey) (h : ConnKey) : Link s (s.letGo k h)
  | cleared (s : System) (c : ConnKey) : Link s (s.clearSlot c).1
  | disconnected (s : System) (c : ConnKey) (h : (s.slot c).registry = none) :
      Link s (s.disconnect c)
  | noted (s : System) (held : List Lock) (log : List LogRecord) : Link s { s with held, log }

/-- A state follows another by any number of links. -/
abbrev Unwinds : System → System → Prop := Relation.ReflTransGen Link

/-- What no chain touches, and what it can do to the slots, to the marks that
    connections are open and to the callbacks. -/
structure Unwound (s t : System) : Prop where
  ident : ∀ c, t.ident c = s.ident c
  owned : ∀ c, t.isOwned c = s.isOwned c
  shut : ∀ c, t.isConnected c = true → s.isConnected c = true
  slots : ∀ c, t.slot c = s.slot c ∨
    ((s.slot c).registry.isSome = true ∧ t.slot c = (s.slot c).cleared)
  out : t.out = s.out
  notifiers : t.notifiers = s.notifiers
  workers : t.workers = s.workers
  connections : t.connections.size = s.connections.size
  callbacks : t.callbacks.size = s.callbacks.size
  registries : t.registries.size = s.registries.size

theorem unwound_refl (s : System) : Unwound s s :=
  ⟨fun _ => rfl, fun _ => rfl, fun _ h => h, fun _ => Or.inl rfl, rfl, rfl, rfl, rfl, rfl, rfl⟩

/-- Several links in a row. A slot is cleared by one of them at most. -/
theorem unwound_trans (h : Unwound s t) (h' : Unwound t u) : Unwound s u := by
  refine ⟨fun c => (h'.ident c).trans (h.ident c), fun c => (h'.owned c).trans (h.owned c),
    fun c hc => h.shut c (h'.shut c hc), ?_, h'.out.trans h.out,
    h'.notifiers.trans h.notifiers, h'.workers.trans h.workers,
    h'.connections.trans h.connections, h'.callbacks.trans h.callbacks,
    h'.registries.trans h.registries⟩
  intro c
  -- Either the first part has left the slot alone, and the second decides, or it was cleared.
  rcases h.slots c with hsame | ⟨hreg, hclear⟩
  · rw [← hsame]
    exact h'.slots c
  · -- A cleared slot names no registry and is not cleared again.
    rcases h'.slots c with hsame | ⟨hreg', -⟩
    · exact Or.inr ⟨hreg, hsame.trans hclear⟩
    · rw [hclear] at hreg'
      exact absurd hreg' Bool.false_ne_true

/-- What a single link leaves alone, link by link. -/
theorem unwound_link (h : Link s t) : Unwound s t := by
  cases h with
  -- Marking a callback rewrites one row of one table.
  | ended k =>
      exact ⟨fun _ => rfl, fun _ => rfl, fun _ h => h, fun _ => Or.inl rfl, rfl, rfl, rfl, rfl,
        Table.size_update _ _ _, rfl⟩
  | released k h =>
      exact ⟨fun _ => rfl, fun _ => rfl, fun _ h => h, fun _ => Or.inl rfl, rfl, rfl, rfl, rfl,
        Table.size_update _ _ _, rfl⟩
  | cleared c =>
      rcases tables_clearSlot c s with ⟨-, hcallbacks, hout, hnotifiers, hworkers, hconns, hregs⟩
      refine ⟨fun d => (frame_clearSlot c s d).1, fun d => (frame_clearSlot c s d).2.2.1, ?_, ?_,
        hout, hnotifiers, hworkers, hconns, congrArg Table.size hcallbacks, hregs⟩
      · intro d hd
        rw [(frame_clearSlot c s d).2.1] at hd
        exact hd
      · intro d
        rw [slot_clearSlot]
        by_cases hd : d = c ∧ (s.slot c).registry.isSome
        · rw [if_pos hd, hd.1]
          exact Or.inr ⟨hd.2, rfl⟩
        · rw [if_neg hd]
          exact Or.inl rfl
  -- The slot stays as it is: it was cleared by a link before.
  | disconnected c hreg =>
      rcases tables_disconnect c s with ⟨hcallbacks, hregs, hout, hnotifiers, hworkers, hconns⟩
      refine ⟨fun d => (frame_disconnect c s d).2.1, fun d => (frame_disconnect c s d).2.2.1, ?_,
        fun d => Or.inl (frame_disconnect c s d).1, hout, hnotifiers, hworkers, hconns,
        congrArg Table.size hcallbacks, congrArg Table.size hregs⟩
      intro d hd
      rw [(frame_disconnect c s d).2.2.2] at hd
      exact (Bool.and_eq_true_iff.mp hd).1
  | noted held log =>
      exact ⟨fun _ => rfl, fun _ => rfl, fun _ h => h, fun _ => Or.inl rfl, rfl, rfl, rfl, rfl,
        rfl, rfl⟩

/-- And so chains of any length. -/
theorem Unwinds.unwound (h : Unwinds s t) : Unwound s t := by
  induction h with
  | refl => exact unwound_refl s
  | tail _ hlink ih => exact unwound_trans ih (unwound_link hlink)

/-- What every link preserves is preserved by chains. -/
theorem Unwinds.preserves {p : System → Prop} (hlink : ∀ s t, Link s t → p s → p t)
    (h : Unwinds s t) (hp : p s) : p t := by
  induction h with
  | refl => exact hp
  | tail _ hstep ih => exact hlink _ _ hstep ih

namespace Unwound

/-- A connection without registration gets none. -/
theorem registry_none (h : Unwound s t) {c : ConnKey} (hc : (s.slot c).registry = none) :
    (t.slot c).registry = none := by
  rcases h.slots c with hsame | ⟨-, hclear⟩
  · rw [hsame, hc]
  · rw [hclear]
    rfl

theorem running (h : Unwound s t) (n : NotifierKey) : t.running? n = s.running? n := by
  simp only [running?, h.notifiers]

end Unwound

/-- A cleared slot names no registry afterwards, whatever it named before. -/
theorem registry_clearSlot_self (c : ConnKey) (s : System) :
    ((s.clearSlot c).1.slot c).registry = none := by
  rw [slot_clearSlot]
  by_cases hr : (s.slot c).registry.isSome
  · rw [if_pos ⟨rfl, hr⟩]
    rfl
  · rw [if_neg fun h => hr h.2]
    exact Option.not_isSome_iff_eq_none.mp hr

/-- Everything closing what nobody has a handle of can do: nothing if somebody
    has one; else the registration is cleared, the callback in it destroyed, and
    the connection disconnected. -/
theorem closeUnheld_cases (destroy : CallbackKey → System → System) (h : ConnKey) (s : System) :
    (s.isHeld h = true ∧ closeUnheld destroy h s = s) ∨
    (s.isHeld h = false ∧ (s.clearSlot h).2.join = none ∧
      closeUnheld destroy h s = (s.clearSlot h).1.disconnect h) ∨
    ∃ j, s.isHeld h = false ∧ (s.clearSlot h).2.join = some j ∧
      closeUnheld destroy h s = (destroy j (s.clearSlot h).1).disconnect h := by
  unfold closeUnheld
  cases hheld : s.isHeld h with
  | true => exact Or.inl ⟨rfl, if_pos rfl⟩
  | false =>
      rw [if_neg Bool.false_ne_true]
      rcases s.clearSlot h with ⟨u, _ | _ | j⟩
      · exact Or.inr (Or.inl ⟨rfl, rfl, rfl⟩)
      · exact Or.inr (Or.inl ⟨rfl, rfl, rfl⟩)
      · exact Or.inr (Or.inr ⟨j, rfl, rfl, rfl⟩)

/-- Everything destroying a callback can do: nothing if it was destroyed before;
    else it ends, and lets go of what it kept. -/
theorem destroyWithin_cases (n : Nat) (k : CallbackKey) (s : System) :
    (s.isLive k = false ∧ destroyWithin (n + 1) k s = s) ∨
    ∃ cb, s.callbacks.get? k = some cb ∧ cb.ended = none ∧
      destroyWithin (n + 1) k s =
        cb.holds.foldl (fun s h => closeUnheld (destroyWithin n) h (s.letGo k h))
          (s.endCallback k) := by
  rw [destroyWithin]
  rcases hrow : s.callbacks.get? k with _ | cb
  · refine Or.inl ⟨?_, rfl⟩
    simp only [isLive, hrow]
  · have hlive : s.isLive k = cb.ended.isNone := by simp only [isLive, hrow]
    -- A callback that has ended is not destroyed again, whatever it kept.
    rcases hended : cb.ended with _ | locks
    · refine Or.inr ⟨cb, rfl, hended, ?_⟩
      simp only [hended, Option.isSome_none, Bool.false_eq_true, if_false]
    · refine Or.inl ⟨by rw [hlive, hended]; rfl, ?_⟩
      simp only [hended, Option.isSome_some, if_true]

/-- The callbacks that were not destroyed. -/
def living (s : System) : Finset CallbackKey :=
  (Finset.range s.callbacks.size).filter fun k => s.isLive k = true

/-- Only callbacks that were made can be living. -/
theorem mem_living (s : System) (k : CallbackKey) : k ∈ s.living ↔ s.isLive k = true := by
  rw [living, Finset.mem_filter, Finset.mem_range, and_iff_right_iff_imp]
  intro hlive
  -- A number beyond the table is nobody's.
  by_contra hlt
  have hnone : s.callbacks.get? k = none := Array.getElem?_eq_none (Nat.le_of_not_lt hlt)
  simp only [isLive, hnone, Bool.false_eq_true] at hlive

theorem isLive_of_get? {k : CallbackKey} {cb : Callback} (h : s.callbacks.get? k = some cb) :
    s.isLive k = cb.ended.isNone := by simp only [isLive, h]

theorem isLive_congr (h : t.callbacks = s.callbacks) (k : CallbackKey) :
    t.isLive k = s.isLive k := by
  rw [isLive, isLive, h]

/-- What is ended is ended, and nothing else is. -/
theorem isLive_endCallback (k : CallbackKey) (s : System) (j : CallbackKey) :
    (s.endCallback k).isLive j = (s.isLive j && decide (j ≠ k)) := by
  simp only [isLive, endCallback, Table.get?_update]
  by_cases hj : j = k
  · rw [if_pos hj, hj]
    cases s.callbacks.get? k with
    | none => rfl
    | some cb => simp
  · simp [hj]

/-- Letting go ends nothing. -/
theorem isLive_letGo (k : CallbackKey) (h : ConnKey) (s : System) (j : CallbackKey) :
    (s.letGo k h).isLive j = s.isLive j := by
  simp only [isLive, letGo, Table.get?_update]
  by_cases hj : j = k
  · rw [if_pos hj, hj]
    cases s.callbacks.get? k with
    | none => rfl
    | some cb => rfl
  · rw [if_neg hj]

/-- What has ended has ended for good. -/
theorem isLive_link (h : Link s t) (k : CallbackKey) (hlive : t.isLive k = true) :
    s.isLive k = true := by
  cases h with
  | ended j =>
      rw [isLive_endCallback, Bool.and_eq_true] at hlive
      exact hlive.1
  | released j c =>
      rw [isLive_letGo] at hlive
      exact hlive
  | cleared c =>
      rw [isLive_congr (tables_clearSlot c s).2.1] at hlive
      exact hlive
  | disconnected c =>
      rw [isLive_congr (tables_disconnect c s).1] at hlive
      exact hlive
  | noted held log => exact hlive

/-- No link brings a callback back to life. -/
theorem Unwinds.isLive (h : Unwinds s t) {k : CallbackKey} (hlive : t.isLive k = true) :
    s.isLive k = true := by
  induction h with
  | refl => exact hlive
  | tail _ hlink ih => exact ih (isLive_link hlink k hlive)

/-- So the number of the living bounds how often a chain can go deeper. -/
theorem Unwinds.card_living (h : Unwinds s t) : t.living.card ≤ s.living.card := by
  refine Finset.card_le_card fun k hk => ?_
  rw [mem_living] at hk ⊢
  exact h.isLive hk

/-- The end of a callback leaves fewer. -/
theorem card_living_endCallback (k : CallbackKey) (s : System) (h : s.isLive k = true) :
    (s.endCallback k).living.card < s.living.card := by
  -- Those that live afterwards lived before, and one of those is missing.
  refine Finset.card_lt_card (Finset.ssubset_iff_of_subset ?_ |>.mpr
    ⟨k, (mem_living s k).mpr h, ?_⟩)
  · intro j hj
    rw [mem_living] at hj ⊢
    exact isLive_link (.ended s k) j hj
  · rw [mem_living, isLive_endCallback, decide_eq_false (not_not.mpr rfl), Bool.and_false]
    exact Bool.false_ne_true

/-! ### Chains from their beginning to their end -/

/-- What there is to do in a chain: to destroy a callback, or to let go of the
    handles that a callback still keeps. -/
inductive Chore where
  | destroy (k : CallbackKey)
  | letGo (k : CallbackKey) (hs : List ConnKey)

/-- A chain that does what there is to do. A callback that was destroyed is left
    alone, and another one ends and lets go of its handles in order. Where that
    was the last one, the connection is closed before the next handle goes: its
    registration is cleared, the callback in it destroyed, and then it is
    disconnected. -/
inductive Does : Chore → System → System → Prop where
  | spared {s : System} {k : CallbackKey} (hdead : s.isLive k = false) : Does (.destroy k) s s
  | ended {s t : System} {k : CallbackKey} {cb : Callback}
      (hrow : s.callbacks.get? k = some cb) (hlive : cb.ended = none)
      (hrest : Does (.letGo k cb.holds) (s.endCallback k) t) : Does (.destroy k) s t
  | done {s : System} {k : CallbackKey} : Does (.letGo k []) s s
  | kept {s t : System} {k : CallbackKey} {h : ConnKey} {hs : List ConnKey}
      (hheld : (s.letGo k h).isHeld h = true) (hrest : Does (.letGo k hs) (s.letGo k h) t) :
      Does (.letGo k (h :: hs)) s t
  | closed {s t : System} {k : CallbackKey} {h : ConnKey} {hs : List ConnKey}
      (hlast : (s.letGo k h).isHeld h = false)
      (hnone : ((s.letGo k h).clearSlot h).2.join = none)
      (hrest : Does (.letGo k hs) (((s.letGo k h).clearSlot h).1.disconnect h) t) :
      Does (.letGo k (h :: hs)) s t
  | chained {s u t : System} {k j : CallbackKey} {h : ConnKey} {hs : List ConnKey}
      (hlast : (s.letGo k h).isHeld h = false)
      (hsome : ((s.letGo k h).clearSlot h).2.join = some j)
      (hinner : Does (.destroy j) ((s.letGo k h).clearSlot h).1 u)
      (hrest : Does (.letGo k hs) (u.disconnect h) t) : Does (.letGo k (h :: hs)) s t

/-- A chain that destroys a callback. -/
abbrev Destroys (k : CallbackKey) : System → System → Prop := Does (.destroy k)

/-- The part of a chain in which a connection is closed that has lost its last
    handle. -/
theorem unwinds_chained {h : ConnKey} (hinner : Unwinds (s.clearSlot h).1 u) :
    Unwinds s (u.disconnect h) :=
  -- It was cleared at the start, and nothing in between registers it.
  ((Relation.ReflTransGen.single (.cleared s h)).trans hinner).tail
    (.disconnected _ h (hinner.unwound.registry_none (registry_clearSlot_self h s)))

/-- A chain from beginning to end is a sequence of links. -/
theorem Does.unwinds {chore : Chore} (h : Does chore s t) : Unwinds s t := by
  induction h with
  | spared hdead => exact Relation.ReflTransGen.refl
  | @ended s t k cb hrow hlive hrest ih =>
      exact (Relation.ReflTransGen.single (.ended s k)).trans ih
  | done => exact Relation.ReflTransGen.refl
  | @kept s t k h hs hheld hrest ih =>
      exact (Relation.ReflTransGen.single (.released s k h)).trans ih
  -- The last handle of a connection with an empty slot: there the chain does not go deeper.
  | @closed s t k h hs hlast hnone hrest ih =>
      exact ((Relation.ReflTransGen.single (.released s k h)).trans
        (unwinds_chained Relation.ReflTransGen.refl)).trans ih
  | @chained s u t k j h hs hlast hsome hinner hrest ihinner ihrest =>
      exact ((Relation.ReflTransGen.single (.released s k h)).trans
        (unwinds_chained ihinner)).trans ihrest

/-- Letting go comes to an end if destroying does. -/
theorem does_foldl {destroy : CallbackKey → System → System} {n : Nat}
    (hdestroy : ∀ j u, u.living.card < n → Destroys j u (destroy j u)) (k : CallbackKey)
    (hs : List ConnKey) (s : System) (hn : s.living.card < n) :
    Does (.letGo k hs) s
      (hs.foldl (fun s h => closeUnheld destroy h (s.letGo k h)) s) := by
  induction hs generalizing s with
  | nil => exact .done
  | cons h hs ih =>
      have hgo : Unwinds s (s.letGo k h) := Relation.ReflTransGen.single (.released s k h)
      have hclear : Unwinds s ((s.letGo k h).clearSlot h).1 := hgo.tail (.cleared _ h)
      rw [List.foldl_cons]
      rcases closeUnheld_cases destroy h (s.letGo k h) with ⟨hheld, heq⟩ |
        ⟨hlast, hnone, heq⟩ | ⟨j, hlast, hsome, heq⟩
      · rw [heq]
        exact .kept hheld (ih _ ((Unwinds.card_living hgo).trans_lt hn))
      · rw [heq]
        have hclosed := hgo.trans (unwinds_chained (h := h) Relation.ReflTransGen.refl)
        exact .closed hlast hnone (ih _ ((Unwinds.card_living hclosed).trans_lt hn))
      · -- What is destroyed in between has a chain of its own.
        rw [heq]
        have hinner := hdestroy j _ ((Unwinds.card_living hclear).trans_lt hn)
        have hclosed := hgo.trans (unwinds_chained hinner.unwinds)
        exact .chained hlast hsome hinner (ih _ ((Unwinds.card_living hclosed).trans_lt hn))

/-- The chain comes to an end within a bound that exceeds the number of living
    callbacks, because it ends one of them before it goes deeper. -/
theorem destroys_destroyWithin (n : Nat) (k : CallbackKey) (s : System)
    (hn : s.living.card < n) : Destroys k s (destroyWithin n k s) := by
  induction n generalizing k s with
  | zero => omega
  | succ n ih =>
      rcases destroyWithin_cases n k s with ⟨hdead, heq⟩ | ⟨cb, hrow, hlive, heq⟩
      · rw [heq]
        exact .spared hdead
      · rw [heq]
        have hfewer := card_living_endCallback k s (by rw [isLive_of_get? hrow, hlive]; rfl)
        exact .ended hrow hlive (does_foldl ih k cb.holds _ (by omega))

/-- Destroying a callback comes to an end. -/
theorem destroys_destroy (k : CallbackKey) (s : System) : Destroys k s (s.destroy k) := by
  refine destroys_destroyWithin _ k s ?_
  have hcard : s.living.card ≤ (Finset.range s.callbacks.size).card :=
    Finset.card_le_card (Finset.filter_subset _ _)
  rw [Finset.card_range] at hcard
  omega

theorem unwinds_destroy (k : CallbackKey) (s : System) : Unwinds s (s.destroy k) :=
  (destroys_destroy k s).unwinds

/-- What was taken out of a slot that was empty needs no end. -/
theorem unwinds_destroyAny (k : Option CallbackKey) (s : System) : Unwinds s (s.destroyAny k) := by
  cases k with
  | none => exact Relation.ReflTransGen.refl
  | some k => exact unwinds_destroy k s

/-- The registration goes first, and then what was in the slot ends. -/
theorem unwinds_detach (c : ConnKey) (s : System) : Unwinds s (s.detach c).1 := by
  have hclear : Unwinds s (s.clearSlot c).1 := Relation.ReflTransGen.single (.cleared s c)
  unfold detach
  rcases hc : s.clearSlot c with ⟨u, _ | callback⟩
  · rw [hc] at hclear
    exact hclear
  · rw [hc] at hclear
    exact hclear.trans (unwinds_destroyAny callback u)

/-- After a registration was cleared there is none. -/
theorem registry_detach_self (c : ConnKey) (s : System) :
    ((s.detach c).1.slot c).registry = none := by
  have hself := registry_clearSlot_self c s
  unfold detach
  rcases hc : s.clearSlot c with ⟨u, _ | callback⟩
  · rw [hc] at hself
    exact hself
  · rw [hc] at hself
    exact (unwinds_destroyAny callback u).unwound.registry_none hself

/-- Clearing a registration answers whether there was one. -/
theorem detach_answer (c : ConnKey) (s : System) :
    (s.detach c).2 = (s.slot c).registry.isSome := by
  unfold detach
  rcases hr : (s.slot c).registry with _ | r
  · rw [clearSlot_of_none hr]
    rfl
  · rcases exists_conn_of_registry hr with ⟨conn, hc, hslot⟩
    rw [clearSlot_of_some hc (hslot ▸ hr)]
    rfl

/-- A registration with another registry is left alone. -/
theorem unwinds_detachFrom (c : ConnKey) (r : RegistryKey) (s : System) :
    Unwinds s (s.detachFrom c r).1 := by
  unfold detachFrom
  by_cases h : (s.slot c).registry = some r
  · rw [if_pos h]
    exact unwinds_detach c s
  · rw [if_neg h]

/-- So is one that was changed since. -/
theorem unwinds_detachGeneration (c : ConnKey) (g : UInt64) (s : System) :
    Unwinds s (s.detachGeneration c g).1 := by
  unfold detachGeneration
  by_cases h : (s.slot c).generation = g
  · rw [if_pos h]
    exact unwinds_detach c s
  · rw [if_neg h]

/-- A connection is disconnected last, when its slot has been cleared already. -/
theorem unwinds_close (c : ConnKey) (s : System) : Unwinds s (s.close c) :=
  (unwinds_detach c s).tail (.disconnected _ c (registry_detach_self c s))

/-- One connection after the other, each with all that follows. -/
theorem unwinds_detachAll (r : RegistryKey) (cs : List ConnKey) (s : System) :
    Unwinds s (s.detachAll r cs) := by
  induction cs generalizing s with
  | nil => exact Relation.ReflTransGen.refl
  | cons c rest ih => exact (unwinds_detachFrom c r s).trans (ih (s.detachFrom c r).1)

/-- Only locks and records differ. -/
def Noted (s t : System) : Prop := ∃ held log, t = { s with held, log }

/-- Locks and records are links of a chain too. -/
theorem Noted.unwinds (h : Noted s t) : Unwinds s t := by
  rcases h with ⟨held, log, rfl⟩
  exact Relation.ReflTransGen.single (.noted s held log)

theorem Noted.quiet (h : Noted s t) : Quiet s t := by
  rcases h with ⟨held, log, rfl⟩
  exact quiet_of_same rfl rfl rfl (fun _ => rfl) rfl rfl

theorem unwinds_acquire (l : Lock) (s : System) : Unwinds s (s.acquire l) :=
  Relation.ReflTransGen.single (.noted s (l :: s.held) s.log)

/-- Unregistering is clearing a registration, and notes. -/
theorem unsetCallback_cases (n : NotifierKey) (c : ConnKey) (s : System) :
    (s.running? n = none ∧ (s.unsetCallback n c).2 = false ∧
      Noted s (s.unsetCallback n c).1) ∨
    ∃ running, s.running? n = some running ∧
      (s.unsetCallback n c).2 = ((s.acquire (.state n)).detachFrom c running.registry).2 ∧
      Noted ((s.acquire (.state n)).detachFrom c running.registry).1
        (s.unsetCallback n c).1 := by
  have hrun : (s.acquire (.state n)).running? n = s.running? n := rfl
  unfold unsetCallback
  simp only [hrun]
  rcases s.running? n with _ | running
  · exact Or.inl ⟨rfl, rfl, _, _, rfl⟩
  · refine Or.inr ⟨running, rfl, rfl, ?_⟩
    dsimp only
    split
    · exact ⟨_, _, rfl⟩
    · exact ⟨_, _, rfl⟩

/-- Unregistering answers whether the slot named the notifier's registry. -/
theorem unsetCallback_answer (n : NotifierKey) (c : ConnKey) (s : System) :
    (s.unsetCallback n c).2 = true ↔
      ∃ running, s.running? n = some running ∧ (s.slot c).registry = some running.registry := by
  rcases unsetCallback_cases n c s with ⟨hnone, hanswer, -⟩ | ⟨running, hn, hanswer, -⟩
  · rw [hanswer, hnone]
    refine ⟨fun h => absurd h Bool.false_ne_true, ?_⟩
    rintro ⟨running, hn, -⟩
    exact absurd hn (by simp only [reduceCtorEq, not_false_eq_true])
  · have hslot : (s.acquire (.state n)).slot c = s.slot c := rfl
    rw [hanswer, detachFrom, hslot, hn]
    -- It clears only what names the registry of this notifier.
    by_cases hreg : (s.slot c).registry = some running.registry
    · rw [if_pos hreg, detach_answer, hslot, hreg]
      exact ⟨fun _ => ⟨running, rfl, rfl⟩, fun _ => rfl⟩
    · rw [if_neg hreg]
      refine ⟨fun h => absurd h Bool.false_ne_true, ?_⟩
      rintro ⟨running', hn', hreg'⟩
      rw [Option.some.inj hn'] at hreg
      exact absurd hreg' hreg

/-- Unsetting is clearing, under the lock of the notifier. -/
theorem unwinds_unsetCallback (n : NotifierKey) (c : ConnKey) (s : System) :
    Unwinds s (s.unsetCallback n c).1 := by
  -- There is nothing to clear at a notifier that is not running.
  rcases unsetCallback_cases n c s with ⟨-, -, h⟩ | ⟨running, -, -, h⟩
  · exact h.unwinds
  · exact ((unwinds_acquire _ s).trans (unwinds_detachFrom c _ _)).trans h.unwinds

/-! ### Who loses a registration -/

/-- A connection that is open after a chain has kept its registration. -/
theorem Does.slot {chore : Chore} (h : Does chore s t) (c : ConnKey)
    (hopen : t.isConnected c = true) : t.slot c = s.slot c := by
  -- What is cleared on the way is the slot of a connection that is closed then,
  -- and what is open at the end was open all the time.
  induction h with
  | spared hdead => rfl
  | ended hrow hlive hrest ih => exact ih hopen
  | done => rfl
  | kept hheld hrest ih => exact ih hopen
  | @closed s t k h hs hlast hnone hrest ih =>
      have hother := hrest.unwinds.unwound.shut c hopen
      rw [(frame_disconnect h _ c).2.2.2, Bool.and_eq_true, decide_eq_true_eq] at hother
      rw [ih hopen, (frame_disconnect h _ c).1, slot_clearSlot, if_neg fun hc => hother.2 hc.1]
      rfl
  | @chained s u t k j h hs hlast hsome hinner hrest ihinner ihrest =>
      have hother := hrest.unwinds.unwound.shut c hopen
      rw [(frame_disconnect h _ c).2.2.2, Bool.and_eq_true, decide_eq_true_eq] at hother
      rw [ihrest hopen, (frame_disconnect h _ c).1, ihinner hother.1, slot_clearSlot,
        if_neg fun hc => hother.2 hc.1]
      rfl

/-- A slot after a callback was destroyed: what it was, or cleared, and then
    the connection is closed. -/
theorem slot_destroy (k : CallbackKey) (s : System) (c : ConnKey)
    (hopen : (s.destroy k).isConnected c = true) : (s.destroy k).slot c = s.slot c :=
  (destroys_destroy k s).slot c hopen

theorem slot_destroyAny (k : Option CallbackKey) (s : System) (c : ConnKey)
    (hopen : (s.destroyAny k).isConnected c = true) : (s.destroyAny k).slot c = s.slot c := by
  cases k with
  | none => rfl
  | some k => exact slot_destroy k s c hopen

/-- Clearing one registration leaves every other open connection its own. -/
theorem slot_detach (c : ConnKey) (s : System) (d : ConnKey)
    (hopen : (s.detach c).1.isConnected d = true) :
    (s.detach c).1.slot d =
      if d = c ∧ (s.slot c).registry.isSome then (s.slot c).cleared else s.slot d := by
  have hslot := slot_clearSlot c s d
  unfold detach at hopen ⊢
  rcases hclear : s.clearSlot c with ⟨u, _ | callback⟩
  · rw [hclear] at hslot
    exact hslot
  · rw [hclear] at hslot hopen
    exact (slot_destroyAny callback u d hopen).trans hslot

/-! ### Handles -/

/-- Every open connection has a handle, but for some. -/
def HeldBut (but : ConnKey → Prop) (s : System) : Prop :=
  ∀ c, s.isConnected c = true → s.isHeld c = true ∨ but c

/-- A connection has a handle if the program has one or some callback keeps one. A
    callback that ended keeps none, so that it makes no difference whether it is living.
    -/
theorem isHeld_iff (s : System) (c : ConnKey) :
    s.isHeld c = true ↔ s.isOwned c = true ∨
      ∃ k cb, s.callbacks.get? k = some cb ∧ c ∈ cb.holds := by
  unfold isHeld
  rw [Bool.or_eq_true]
  refine or_congr Iff.rfl ?_
  rw [Table.any, Array.any_eq_true]
  -- The table is searched for a row, and here its number is wanted.
  constructor
  · intro ⟨k, hk, hcb⟩
    exact ⟨k, s.callbacks.rows[k], Array.getElem?_eq_getElem hk, List.contains_iff_mem.mp hcb⟩
  · intro ⟨k, cb, hrow, hhold⟩
    rcases Array.getElem?_eq_some_iff.mp hrow with ⟨hk, hget⟩
    exact ⟨k, hk, by rw [hget]; exact List.contains_iff_mem.mpr hhold⟩

/-- Who has a handle depends on the owners and on what callbacks keep. -/
theorem isHeld_congr_holds {c : ConnKey} (howned : t.isOwned c = s.isOwned c)
    (hholds : ∀ k, (t.callbacks.get? k).map Callback.holds =
      (s.callbacks.get? k).map Callback.holds) : t.isHeld c = s.isHeld c := by
  have hkeeps : ∀ v : System, (∃ k cb, v.callbacks.get? k = some cb ∧ c ∈ cb.holds) ↔
      ∃ k hs, (v.callbacks.get? k).map Callback.holds = some hs ∧ c ∈ hs := by
    intro v
    constructor
    · rintro ⟨k, cb, hrow, hc⟩
      exact ⟨k, cb.holds, by rw [hrow, Option.map_some], hc⟩
    · rintro ⟨k, hs, hrow, hc⟩
      rcases Option.map_eq_some_iff.mp hrow with ⟨cb, hrow', rfl⟩
      exact ⟨k, cb, hrow', hc⟩
  rw [Bool.eq_iff_iff, isHeld_iff, isHeld_iff, howned, hkeeps, hkeeps]
  simp only [hholds]

/-- Who has a handle depends on the owners and the callbacks. -/
theorem isHeld_congr {c : ConnKey} (howned : t.isOwned c = s.isOwned c)
    (hcallbacks : t.callbacks = s.callbacks) : t.isHeld c = s.isHeld c :=
  isHeld_congr_holds howned fun k => by rw [hcallbacks]

/-- The end of a callback by itself takes no handle away. -/
theorem isHeld_endCallback (k : CallbackKey) (s : System) (c : ConnKey) :
    (s.endCallback k).isHeld c = s.isHeld c := by
  refine isHeld_congr_holds rfl fun j => ?_
  simp only [endCallback, Table.get?_update]
  by_cases hj : j = k
  · rw [if_pos hj, hj]
    cases s.callbacks.get? k with
    | none => rfl
    | some cb => rfl
  · rw [if_neg hj]

/-- Letting go takes away no handle but of that one connection. -/
theorem isHeld_letGo (k : CallbackKey) (h : ConnKey) (s : System) (c : ConnKey) (hc : c ≠ h)
    (hheld : s.isHeld c = true) : (s.letGo k h).isHeld c = true := by
  rcases (isHeld_iff s c).mp hheld with howned | ⟨j, cb, hrow, hhold⟩
  · exact (isHeld_iff _ c).mpr (Or.inl howned)
  · refine (isHeld_iff _ c).mpr (Or.inr ?_)
    by_cases hj : j = k
    · refine ⟨j, { cb with holds := cb.holds.erase h }, ?_, (List.mem_erase_of_ne hc).mpr hhold⟩
      rw [letGo, Table.get?_update, if_pos hj, ← hj, hrow, Option.map_some]
    · refine ⟨j, cb, ?_, hhold⟩
      rw [letGo, Table.get?_update, if_neg hj, hrow]

/-- What makes no connection open, and touches neither owners nor callbacks,
    leaves no connection without a handle. -/
theorem HeldBut.of_frame {but : ConnKey → Prop} (h : s.HeldBut but)
    (hopen : ∀ c, t.isConnected c = true → s.isConnected c = true)
    (howned : ∀ c, t.isOwned c = s.isOwned c) (hcallbacks : t.callbacks = s.callbacks) :
    t.HeldBut but := by
  intro c hc
  rw [isHeld_congr (howned c) hcallbacks]
  exact h c (hopen c hc)

/-- Slots decide nothing about handles. -/
theorem heldBut_clearSlot (c : ConnKey) (s : System) (but : ConnKey → Prop)
    (h : s.HeldBut but) : (s.clearSlot c).1.HeldBut but := by
  refine h.of_frame (fun d hd => ?_) (fun d => (frame_clearSlot c s d).2.2.1)
    (tables_clearSlot c s).2.1
  rw [(frame_clearSlot c s d).2.1] at hd
  exact hd

/-- A connection that is disconnected may have been without a handle. -/
theorem heldBut_disconnect (c : ConnKey) (s : System) (but : ConnKey → Prop)
    (h : s.HeldBut fun d => but d ∨ d = c) : (s.disconnect c).HeldBut but := by
  intro d hopen
  rcases frame_disconnect c s d with ⟨-, -, howned, hconn⟩
  rw [hconn, Bool.and_eq_true, decide_eq_true_eq] at hopen
  rw [isHeld_congr howned (tables_disconnect c _).1]
  rcases h d hopen.1 with hd | hd | hd
  · exact Or.inl hd
  · exact Or.inr hd
  · exact absurd hd hopen.2

/-- A chain leaves no open connection without a handle that had one. -/
theorem Does.heldBut {chore : Chore} (h : Does chore s t) (but : ConnKey → Prop)
    (hheld : s.HeldBut but) : t.HeldBut but := by
  -- The connection that lost its last handle is excepted until it is disconnected.
  have hlose : ∀ {v : System} {p : ConnKey → Prop} (k : CallbackKey) (c : ConnKey),
      v.HeldBut p → (v.letGo k c).HeldBut fun d => p d ∨ d = c := by
    intro v p k c hv d hopen
    by_cases hd : d = c
    · exact Or.inr (Or.inr hd)
    · exact (hv d hopen).imp (isHeld_letGo k c v d hd) Or.inl
  induction h generalizing but with
  | spared hdead => exact hheld
  | @ended s t k cb hrow hlive hrest ih =>
      refine ih but fun c hopen => ?_
      rw [isHeld_endCallback]
      exact hheld c hopen
  | done => exact hheld
  | @kept s t k h hs hkept hrest ih =>
      refine ih but fun c hopen => ?_
      rcases hlose k h hheld c hopen with hc | hc | hc
      · exact Or.inl hc
      · exact Or.inr hc
      · exact Or.inl (hc ▸ hkept)
  | @closed s t k h hs hlast hnone hrest ih =>
      exact ih but (heldBut_disconnect h _ but (heldBut_clearSlot h _ _ (hlose k h hheld)))
  | @chained s u t k j h hs hlast hsome hinner hrest ihinner ihrest =>
      exact ihrest but (heldBut_disconnect h _ but
        (ihinner _ (heldBut_clearSlot h _ _ (hlose k h hheld))))

/-- After a callback was destroyed no open connection is without a handle that
    had one. -/
theorem heldBut_destroy (k : CallbackKey) (s : System) (but : ConnKey → Prop)
    (h : s.HeldBut but) : (s.destroy k).HeldBut but := (destroys_destroy k s).heldBut but h

theorem heldBut_destroyAny (k : Option CallbackKey) (s : System) (but : ConnKey → Prop)
    (h : s.HeldBut but) : (s.destroyAny k).HeldBut but := by
  cases k with
  | none => exact h
  | some k => exact heldBut_destroy k s but h

/-- What ends with a registration leaves no open connection without a handle. -/
theorem heldBut_detach (c : ConnKey) (s : System) (but : ConnKey → Prop)
    (h : s.HeldBut but) : (s.detach c).1.HeldBut but := by
  have hclear := heldBut_clearSlot c s but h
  unfold detach
  rcases hc : s.clearSlot c with ⟨u, _ | callback⟩
  · rw [hc] at hclear
    exact hclear
  · rw [hc] at hclear
    exact heldBut_destroyAny callback u but hclear

theorem heldBut_detachFrom (c : ConnKey) (r : RegistryKey) (s : System) (but : ConnKey → Prop)
    (h : s.HeldBut but) : (s.detachFrom c r).1.HeldBut but := by
  unfold detachFrom
  by_cases hr : (s.slot c).registry = some r
  · rw [if_pos hr]
    exact heldBut_detach c s but h
  · rw [if_neg hr]
    exact h

theorem heldBut_detachGeneration (c : ConnKey) (g : UInt64) (s : System)
    (but : ConnKey → Prop) (h : s.HeldBut but) : (s.detachGeneration c g).1.HeldBut but := by
  unfold detachGeneration
  by_cases hg : (s.slot c).generation = g
  · rw [if_pos hg]
    exact heldBut_detach c s but h
  · rw [if_neg hg]
    exact h

/-- Neither do any number of them. -/
theorem heldBut_detachAll (r : RegistryKey) (cs : List ConnKey) (s : System)
    (but : ConnKey → Prop) (h : s.HeldBut but) : (s.detachAll r cs).HeldBut but := by
  induction cs generalizing s with
  | nil => exact h
  | cons c rest ih => exact ih _ (heldBut_detachFrom c r s but h)

/-- A connection may have lost its last handle before it is closed. -/
theorem heldBut_close (c : ConnKey) (s : System) (but : ConnKey → Prop)
    (h : s.HeldBut fun d => but d ∨ d = c) : (s.close c).HeldBut but :=
  heldBut_disconnect c _ but (heldBut_detach c s _ h)

/-- Locks and records decide nothing about handles either. -/
theorem HeldBut.noted {but : ConnKey → Prop} (h : s.HeldBut but) (hnoted : Noted s t) :
    t.HeldBut but := by
  rcases hnoted with ⟨held, log, rfl⟩
  exact h

theorem heldBut_unsetCallback (n : NotifierKey) (c : ConnKey) (s : System)
    (but : ConnKey → Prop) (h : s.HeldBut but) : (s.unsetCallback n c).1.HeldBut but := by
  rcases unsetCallback_cases n c s with ⟨-, -, hnoted⟩ | ⟨running, -, -, hnoted⟩
  · exact h.noted hnoted
  · exact (heldBut_detachFrom c running.registry (s.acquire (.state n)) but h).noted hnoted

end System

end ReadNotify
