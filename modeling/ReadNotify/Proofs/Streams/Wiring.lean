import ReadNotify.Proofs.Streams.Opening
import ReadNotify.Proofs.Streams.Watching
import ReadNotify.Proofs.System.Operations

/-!
# Whose Sockets Those Are

A connection that is open has a socket of its own: it is open as well, no other
connection has it, and it is not waiting to be accepted. A closed connection has
none. `System.Wired` says so, on top of the order among the sockets themselves.

A connection never changes its socket. It has one from the beginning or not at
all, and loses it when it is closed; and nobody gets a socket that somebody had
before. `System.Follows` says this of two states of which one came out of the
other. If in addition no byte was moved, the later state *carries* the streams
of the earlier one.

Most moves do not touch streams at all, except that callbacks which are
destroyed may close connections. They are sequences of a few kinds of steps, all
of which carry all streams: those that concern neither sockets nor backends,
those that concern a backend, and those that disconnect a connection.

## Main definitions

* `System.Wired`: Every open connection has a socket of its own.
* `System.Follows`: Connections keep their sockets until they are closed.
* `System.Carries`: No byte was moved either.
* `System.Steady`, `System.Still`, `System.Idle`: Steps that close nothing.
* `System.Closings`: Steps that close at most.
* `Move.connects`, `Move.transfers`: The moves that are more than that.

## Theorems

* `follows_trans`, `carries_trans`: Both compose.
* `wired_disconnect`: Closing a connection carries the streams of all others.
* `closings_perform`: Most moves close connections at most.
-/

namespace ReadNotify

namespace System

variable {s t u : System} {q : SocketKey}

/-- Every open connection has a socket of its own. -/
structure Wired (s : System) : Prop where
  kernel : s.kernel.Wired
  isOpen : ∀ c q, s.socket? c = some q → s.kernel.isOpen q = true
  free : ∀ c q l w, s.socket? c = some q → s.kernel.backlog? l = some w → q ∉ w
  distinct : ∀ c d q, s.socket? c = some q → s.socket? d = some q → c = d
  linked : ∀ c, s.isConnected c = (s.socket? c).isSome

/-- Connections have the sockets they had, or were closed with them, and none
    has got a socket that another one had. -/
structure Follows (s t : System) : Prop where
  known : ∀ q, (s.kernel.socket? q).isSome = true → (t.kernel.socket? q).isSome = true
  peer : ∀ q, (s.kernel.socket? q).isSome = true → t.kernel.peer? q = s.kernel.peer? q
  isOpen : ∀ q, t.kernel.isOpen q = true →
    s.kernel.isOpen q = true ∨ s.kernel.socket? q = none
  kept : ∀ c, (s.conn? c).isSome = true → (t.conn? c).isSome = true
  owned : ∀ c q, s.socket? c = some q →
    t.socket? c = some q ∨ (t.socket? c = none ∧ t.kernel.isOpen q = false)
  gained : ∀ c q, t.socket? c = some q →
    s.socket? c = some q ∨ (s.conn? c = none ∧ ∀ d, s.socket? d ≠ some q)

/-- What is queued at open sockets is what was, and nothing at new ones. -/
structure Carries (s t : System) : Prop where
  follows : Follows s t
  inbox : ∀ q, t.kernel.isOpen q = true →
    (s.kernel.isOpen q = true ∧ t.kernel.inbox q = s.kernel.inbox q) ∨
      (s.kernel.socket? q = none ∧ t.kernel.inbox q = [])

theorem wired_init (n : Nat) : (init n).Wired := by
  have hnone : ∀ c, (init n).socket? c = none := fun _ => rfl
  have hlost : ∀ c q, (init n).socket? c ≠ some q := by
    intro c q h
    rw [hnone] at h
    exact absurd h (by simp only [reduceCtorEq, not_false_eq_true])
  -- There is no socket and no connection yet.
  refine ⟨⟨?_, ?_, ?_, ?_, ?_⟩, fun c q h => absurd h (hlost c q),
    fun c q _ _ h => absurd h (hlost c q), fun c _ q h => absurd h (hlost c q), fun _ => rfl⟩
  · intro p q h
    exact absurd (show (none : Option SocketKey) = some q from h)
      (by simp only [reduceCtorEq, not_false_eq_true])
  · exact fun _ _ _ => rfl
  · intro l w h
    exact absurd (show (none : Option (List SocketKey)) = some w from h)
      (by simp only [reduceCtorEq, not_false_eq_true])
  · intro l m w w' x h
    exact absurd (show (none : Option (List SocketKey)) = some w from h)
      (by simp only [reduceCtorEq, not_false_eq_true])
  · intro q code h
    exact absurd (show (none : Option Int) = some code from h)
      (by simp only [reduceCtorEq, not_false_eq_true])

/-- The socket of a connection exists, because it is open. -/
theorem Wired.known {c : ConnKey} (h : s.Wired) (hq : s.socket? c = some q) :
    (s.kernel.socket? q).isSome = true := Kernel.known_of_isOpen (h.isOpen c q hq)

theorem isSome_of_socket? {c : ConnKey} (h : s.socket? c = some q) :
    (s.conn? c).isSome = true := by
  rcases hc : s.conn? c with _ | conn
  · rw [socket?, hc, Option.bind_none] at h
    exact absurd h (by simp only [reduceCtorEq, not_false_eq_true])
  · rfl

/-- A state follows itself. -/
theorem follows_refl (s : System) : Follows s s :=
  ⟨fun _ h => h, fun _ _ => rfl, fun _ h => Or.inl h, fun _ h => h, fun _ _ h => Or.inl h,
    fun _ _ h => Or.inl h⟩

/-- A socket that does not exist did not exist before. -/
theorem Follows.socket_none (h : Follows s t) (hq : t.kernel.socket? q = none) :
    s.kernel.socket? q = none := by
  refine Option.not_isSome_iff_eq_none.mp fun hsome => ?_
  have hknown := h.known q hsome
  rw [hq] at hknown
  exact Bool.false_ne_true hknown

/-- A connection that does not exist did not exist before. -/
theorem Follows.conn_none {c : ConnKey} (h : Follows s t) (hc : t.conn? c = none) :
    s.conn? c = none := by
  refine Option.not_isSome_iff_eq_none.mp fun hsome => ?_
  have hkept := h.kept c hsome
  rw [hc] at hkept
  exact Bool.false_ne_true hkept

/-- A socket that somebody had and that is down stays down. -/
theorem Follows.down (h : Follows s t) (hknown : (s.kernel.socket? q).isSome = true)
    (hdown : s.kernel.isOpen q = false) : t.kernel.isOpen q = false := by
  refine Bool.eq_false_iff.mpr fun hopen => ?_
  rcases h.isOpen q hopen with hup | hnone
  · exact absurd (hdown.symm.trans hup) Bool.false_ne_true
  · rw [hnone] at hknown
    exact Bool.false_ne_true hknown

/-- Following is passed on. The first state must be wired for what the second part takes
    away, the last for what it adds. -/
theorem follows_trans (hs : s.Wired) (hu : u.Wired) (h : Follows s t) (h' : Follows t u) :
    Follows s u := by
  refine ⟨fun q hq => h'.known q (h.known q hq),
    fun q hq => (h'.peer q (h.known q hq)).trans (h.peer q hq), fun q hq => ?_,
    fun c hc => h'.kept c (h.kept c hc), fun c q hq => ?_, fun c q hq => ?_⟩
  · -- What is open at the end was open in the middle, or is new.
    rcases h'.isOpen q hq with hopen | hnone
    · exact h.isOpen q hopen
    · exact Or.inr (h.socket_none hnone)
  · -- What a connection loses is down, and nothing that is down comes up again.
    rcases h.owned c q hq with hheld | ⟨hlost, hdown⟩
    · exact h'.owned c q hheld
    · -- A connection that was closed does not get another socket.
      refine Or.inr ⟨Option.eq_none_iff_forall_ne_some.mpr fun p hp => ?_,
        h'.down (h.known q (hs.known hq)) hdown⟩
      rcases h'.gained c p hp with hbefore | ⟨hnew, -⟩
      · exact absurd (hlost.symm.trans hbefore) (by simp only [reduceCtorEq, not_false_eq_true])
      · have hthere := isSome_of_socket? hq
        rw [h.conn_none hnew] at hthere
        exact Bool.false_ne_true hthere
  · rcases h'.gained c q hq with hbefore | ⟨hnew, hnobody⟩
    · exact h.gained c q hbefore
    · refine Or.inr ⟨h.conn_none hnew, fun d hd => ?_⟩
      -- If somebody had it, it is down by now, but sockets of connections are not.
      rcases h.owned d q hd with hheld | ⟨-, hdown⟩
      · exact hnobody d hheld
      · have hstays := h'.down (h.known q (hs.known hd)) hdown
        exact absurd (hstays.symm.trans (hu.isOpen c q hq)) Bool.false_ne_true

/-- Between two states a socket belongs to one connection, and a connection has
    one socket. -/
theorem Follows.same_iff {c d : ConnKey} {p : SocketKey} (hs : s.Wired) (h : Follows s t)
    (hc : s.socket? c = some p) (hd : t.socket? d = some q) : c = d ↔ p = q := by
  constructor
  · rintro rfl
    -- One connection: it kept its socket or has none.
    rcases h.owned c p hc with hheld | ⟨hlost, -⟩
    · exact Option.some.inj (hheld.symm.trans hd)
    · exact absurd (hlost.symm.trans hd) (by simp only [reduceCtorEq, not_false_eq_true])
  · rintro rfl
    -- One socket: it had an owner before, so nobody new has it.
    rcases h.gained d p hd with hbefore | ⟨-, hnobody⟩
    · exact hs.distinct c d p hc hbefore
    · exact absurd hc (hnobody c)

theorem carries_refl (s : System) : Carries s s :=
  ⟨follows_refl s, fun _ h => Or.inl ⟨h, rfl⟩⟩

/-- So is what is queued. -/
theorem carries_trans (hs : s.Wired) (hu : u.Wired) (h : Carries s t) (h' : Carries t u) :
    Carries s u := by
  refine ⟨follows_trans hs hu h.follows h'.follows, fun q hq => ?_⟩
  -- What is new in the middle is new from the start, and has stayed empty.
  rcases h'.inbox q hq with ⟨hopen, hsame⟩ | ⟨hnone, hempty⟩
  · rw [hsame]
    exact h.inbox q hopen
  · exact Or.inr ⟨h.follows.socket_none hnone, hempty⟩

/-! ### Steps that close at most -/

/-- Connections have the sockets they had, and those are connected as before. -/
structure Steady (s t : System) : Prop where
  conn : ∀ c, (t.conn? c).isSome = (s.conn? c).isSome
  socket : ∀ c, t.socket? c = s.socket? c
  isConnected : ∀ c, t.isConnected c = s.isConnected c
  alike : s.kernel.Alike t.kernel

/-- No byte was moved either. -/
structure Still (s t : System) : Prop where
  steady : Steady s t
  inbox : ∀ q, t.kernel.inbox q = s.kernel.inbox q

theorem steady_trans (h : Steady s t) (h' : Steady t u) : Steady s u :=
  ⟨fun c => (h'.conn c).trans (h.conn c), fun c => (h'.socket c).trans (h.socket c),
    fun c => (h'.isConnected c).trans (h.isConnected c), Kernel.alike_trans h.alike h'.alike⟩

theorem still_trans (h : Still s t) (h' : Still t u) : Still s u :=
  ⟨steady_trans h.steady h'.steady, fun q => (h'.inbox q).trans (h.inbox q)⟩

/-- Whatever is done to the kernel alone is steady if the sockets are alike afterwards.
    -/
theorem steady_kernel {k : Kernel} (h : s.kernel.Alike k) : Steady s { s with kernel := k } :=
  ⟨fun _ => rfl, fun _ => rfl, fun _ => rfl, h⟩

/-- Two tables decide it: connections and sockets. -/
theorem still_of_connections (hconns : t.connections = s.connections)
    (hsockets : t.kernel.sockets = s.kernel.sockets) : Still s t := by
  have hconn : ∀ c, t.conn? c = s.conn? c := fun c => by rw [conn?, conn?, hconns]
  exact ⟨⟨fun c => by rw [hconn], fun c => socket?_congr (hconn c),
    fun c => isConnected_congr (hconn c), Kernel.alike_of_sockets hsockets⟩,
    Kernel.inbox_of_sockets hsockets⟩

/-- Rewriting a connection leaves sockets alone if the rewriting does. -/
theorem still_updateConn (c : ConnKey) {f : Connection → Connection}
    (hsocket : ∀ x, (f x).socket = x.socket) (hconnected : ∀ x, (f x).connected = x.connected)
    (s : System) : Still s (s.updateConn c f) := by
  refine ⟨⟨fun d => ?_, fun d => ?_, fun d => ?_, Kernel.alike_refl s.kernel⟩, fun _ => rfl⟩
  · rw [conn?_updateConn]
    by_cases hd : d = c
    · rw [if_pos hd, hd, Option.isSome_map]
    · rw [if_neg hd]
  · unfold socket?
    rw [conn?_updateConn]
    by_cases hd : d = c
    · rw [if_pos hd, hd, Option.bind_map]
      exact congrArg (fun g => (s.conn? c).bind g) (funext hsocket)
    · rw [if_neg hd]
  · unfold isConnected
    rw [conn?_updateConn]
    by_cases hd : d = c
    · rw [if_pos hd, hd]
      rcases s.conn? c with _ | conn
      · rfl
      · exact hconnected conn
    · rw [if_neg hd]

/-- To remember an error is to rewrite one field of a connection. -/
theorem still_record (c : ConnKey) (e : IoError) (s : System) : Still s (s.record c e) :=
  still_updateConn c (f := fun conn => { conn with lastError := some e.recorded }) (fun _ => rfl)
    (fun _ => rfl) s

/-- What is wired does not depend on what is queued or on the marks of sockets. -/
theorem wired_steady (h : s.Wired) (hsteady : Steady s t) : t.Wired := by
  refine ⟨Kernel.wired_alike h.kernel hsteady.alike, fun c q hq => ?_, fun c q l w hq hw => ?_,
    fun c d q hc hd => ?_, fun c => ?_⟩
  · rw [hsteady.socket] at hq
    rw [hsteady.alike.isOpen]
    exact h.isOpen c q hq
  · rw [hsteady.socket] at hq
    -- Backlogs are compared through the sockets they belong to.
    rw [hsteady.alike.backlog] at hw
    exact h.free c q l w hq hw
  · rw [hsteady.socket] at hc hd
    exact h.distinct c d q hc hd
  · rw [hsteady.isConnected, hsteady.socket]
    exact h.linked c

/-- Where nothing was gained or lost, the second state follows the first. -/
theorem follows_steady (hsteady : Steady s t) : Follows s t := by
  refine ⟨fun q hq => (hsteady.alike.known q).trans hq, fun q _ => hsteady.alike.peer q,
    fun q hq => Or.inl ((hsteady.alike.isOpen q).symm.trans hq),
    fun c hc => (hsteady.conn c).trans hc, fun c q hq => Or.inl ((hsteady.socket c).trans hq),
    fun c q hq => Or.inl ((hsteady.socket c).symm.trans hq)⟩

theorem wired_still (h : s.Wired) (hstill : Still s t) : t.Wired := wired_steady h hstill.steady

/-- What leaves queues alone as well carries them along. -/
theorem carries_still (hstill : Still s t) : Carries s t :=
  ⟨follows_steady hstill.steady, fun q hq =>
    Or.inl ⟨(hstill.steady.alike.isOpen q).symm.trans hq, hstill.inbox q⟩⟩

/-- A socket that waits nowhere may be closed if the connection that has it
    loses it. -/
theorem wired_close (h : s.Wired) (hfree : ∀ l w, s.kernel.backlog? l = some w → q ∉ w)
    (hkernel : t.kernel = s.kernel.close q)
    (hsocket : ∀ c, t.socket? c = if s.socket? c = some q then none else s.socket? c)
    (hlinked : ∀ c, t.isConnected c = (t.socket? c).isSome)
    (hconn : ∀ c, (t.conn? c).isSome = (s.conn? c).isSome) : t.Wired ∧ Carries s t := by
  have hdown := Kernel.downed_close s.kernel q
  rw [← hkernel] at hdown
  -- What a connection has afterwards it had before, and it is not what was closed.
  have hold : ∀ c p, t.socket? c = some p → s.socket? c = some p ∧ p ≠ q := by
    intro c p hp
    rw [hsocket] at hp
    by_cases hc : s.socket? c = some q
    · rw [if_pos hc] at hp
      exact absurd hp (by simp only [reduceCtorEq, not_false_eq_true])
    · rw [if_neg hc] at hp
      exact ⟨hp, fun heq => hc (heq ▸ hp)⟩
  -- What a connection has does not wait, so it is not taken down with the socket.
  have hup : ∀ c p, t.socket? c = some p → p ∉ s.kernel.takenDown q := by
    intro c p hp hmem
    rcases hold c p hp with ⟨hbefore, hne⟩
    rcases List.mem_append.mp hmem with hwaits | hself
    · rcases hw : s.kernel.backlog? q with _ | w
      · rw [hw, Option.getD_none, ite_self] at hwaits
        exact absurd hwaits List.not_mem_nil
      · by_cases hopen : s.kernel.isOpen q = true
        · rw [if_pos hopen, hw] at hwaits
          exact h.free c p q w hbefore hw hwaits
        · rw [if_neg hopen] at hwaits
          exact absurd hwaits List.not_mem_nil
    · exact hne (List.mem_singleton.mp hself)
  -- The socket itself is among those taken down.
  have hself : t.kernel.isOpen q = false := by
    have hmem : q ∈ s.kernel.takenDown q := List.mem_append_right _ (List.mem_singleton_self q)
    rw [hdown.isOpen, decide_eq_false (not_not.mpr hmem), Bool.and_false]
  have hstood : ∀ p, t.kernel.isOpen p = true →
      s.kernel.isOpen p = true ∧ p ∉ s.kernel.takenDown q := by
    intro p hp
    rw [hdown.isOpen, Bool.and_eq_true, decide_eq_true_eq] at hp
    exact hp
  refine ⟨⟨hkernel ▸ Kernel.wired_close h.kernel hfree, fun c p hp => ?_, fun c p l w hp hw => ?_,
    fun c d p hc hd => h.distinct c d p (hold c p hc).1 (hold d p hd).1, hlinked⟩,
    ⟨⟨fun p hp => (hdown.known p).trans hp, fun p _ => hdown.peer p,
      fun p hp => Or.inl (hstood p hp).1, fun c hc => (hconn c).trans hc, fun c p hp => ?_,
      fun c p hp => Or.inl (hold c p hp).1⟩,
    fun p hp => Or.inl ⟨(hstood p hp).1, hdown.inbox p (hstood p hp).2⟩⟩⟩
  · rw [hdown.isOpen, h.isOpen c p (hold c p hp).1, Bool.true_and]
    exact decide_eq_true (hup c p hp)
  · rw [hdown.backlog] at hw
    by_cases hl : l ∈ s.kernel.takenDown q ∧ s.kernel.isOpen l = true
    · rw [if_pos hl] at hw
      exact absurd hw (by simp only [reduceCtorEq, not_false_eq_true])
    · rw [if_neg hl] at hw
      exact h.free c p l w (hold c p hp).1 hw
  · -- The socket that is closed has lost its connection; no other has.
    by_cases hpq : p = q
    · rw [hpq] at hp ⊢
      rw [hsocket, if_pos hp]
      exact Or.inr ⟨rfl, hself⟩
    · rw [hsocket, if_neg fun hc => hpq (Option.some.inj (hp.symm.trans hc))]
      exact Or.inl hp

/-- A connection and its socket go down together, so nobody is left with a closed
    socket. -/
theorem wired_disconnect (h : s.Wired) (c : ConnKey) :
    (s.disconnect c).Wired ∧ Carries s (s.disconnect c) := by
  have hsocket := socket?_disconnect c s
  have hconn : ∀ d, ((s.disconnect c).conn? d).isSome = (s.conn? d).isSome := by
    intro d
    rw [conn?_disconnect]
    by_cases hd : d = c
    · rw [if_pos hd, hd, Option.isSome_map]
    · rw [if_neg hd]
  -- The mark and the socket go together.
  have hlinked : ∀ d, (s.disconnect c).isConnected d = ((s.disconnect c).socket? d).isSome := by
    intro d
    rw [(frame_disconnect c s d).2.2.2, hsocket, h.linked]
    by_cases hd : d = c
    · rw [decide_eq_false (not_not.mpr hd), Bool.and_false, hd, h.linked c]
      rcases hc : s.socket? c with _ | q
      · rw [ite_self]
        rfl
      · rw [if_pos ⟨rfl, rfl⟩]
        rfl
    · rw [decide_eq_true hd, Bool.and_true, if_neg fun h => hd h.1]
  rcases hc : s.socket? c with _ | q
  · -- There is no socket to release.
    have hclosed : s.isConnected c = false := by rw [h.linked, hc, Option.isSome_none]
    have hkernel : (s.disconnect c).kernel = s.kernel := by
      rw [kernel_disconnect, hclosed, if_neg Bool.false_ne_true]
    have hstill : Still s (s.disconnect c) := by
      refine ⟨⟨hconn, fun d => ?_, fun d => ?_, ?_⟩, fun p => ?_⟩
      · rw [hsocket, hclosed, if_neg fun h => Bool.false_ne_true h.2]
      · rw [(frame_disconnect c s d).2.2.2]
        by_cases hd : d = c
        · rw [hd, hclosed, Bool.false_and]
        · rw [decide_eq_true hd, Bool.and_true]
      · rw [hkernel]
        exact Kernel.alike_refl s.kernel
      · rw [hkernel]
    exact ⟨wired_still h hstill, carries_still hstill⟩
  · -- Only this connection has the socket, and it waits nowhere.
    have hopen : s.isConnected c = true := by rw [h.linked, hc, Option.isSome_some]
    refine wired_close (q := q) h (fun l w hw => h.free c q l w hc hw) ?_ (fun d => ?_)
      hlinked hconn
    · rw [kernel_disconnect, hopen, if_pos rfl, hc, Option.elim_some]
    · rw [hsocket, hopen]
      by_cases hd : d = c
      · rw [if_pos ⟨hd, rfl⟩, hd, if_pos hc]
      · rw [if_neg fun h => hd h.1, if_neg fun hsame => hd (h.distinct d c q hsame hc)]

/-- What concerns neither sockets nor backends. -/
structure Idle (s t : System) : Prop where
  still : Still s t
  ident : ∀ c, t.ident c = s.ident c
  kernel : t.kernel = s.kernel
  pollers : ∀ k x, t.workers.get? k = some x →
    ∃ y, s.workers.get? k = some y ∧ y.poller = x.poller

/-- Three tables decide whether something is idle, and workers may be lost. -/
theorem idle_of_tables (hconns : t.connections = s.connections) (hkernel : t.kernel = s.kernel)
    (hworkers : t.workers = s.workers) : Idle s t :=
  ⟨still_of_connections hconns (congrArg Kernel.sockets hkernel),
    fun c => ident_congr (by rw [conn?, conn?, hconns]), hkernel,
    fun _ x hx => ⟨x, hworkers ▸ hx, rfl⟩⟩

theorem idle_trans (h : Idle s t) (h' : Idle t u) : Idle s u := by
  refine ⟨still_trans h.still h'.still, fun c => (h'.ident c).trans (h.ident c),
    h'.kernel.trans h.kernel, fun k x hx => ?_⟩
  -- The backend of a worker is followed back through both parts.
  rcases h'.pollers k x hx with ⟨y, hy, hyx⟩
  rcases h.pollers k y hy with ⟨z, hz, hzy⟩
  exact ⟨z, hz, hzy.trans hyx⟩

/-- Rewriting a connection is idle unless its name, its socket or its mark changes. -/
theorem idle_updateConn (c : ConnKey) {f : Connection → Connection}
    (hid : ∀ x, (f x).id = x.id) (hsocket : ∀ x, (f x).socket = x.socket)
    (hconnected : ∀ x, (f x).connected = x.connected) (s : System) :
    Idle s (s.updateConn c f) := by
  refine ⟨still_updateConn c hsocket hconnected s, fun d => ?_, rfl, fun _ x hx => ⟨x, hx, rfl⟩⟩
  rw [ident, conn?_updateConn]
  by_cases hd : d = c
  · rw [if_pos hd, hd, Option.map_map, ident]
    exact congrArg (Option.map · (s.conn? c)) (funext hid)
  · rw [if_neg hd, ident]

theorem idle_updateSlot (c : ConnKey) (f : Slot → Slot) (s : System) : Idle s (s.updateSlot c f) :=
  idle_updateConn c (f := fun conn => { conn with slot := f conn.slot }) (fun _ => rfl)
    (fun _ => rfl) (fun _ => rfl) s

/-- Rewriting a worker concerns nothing if its backend stays. -/
theorem idle_updateWorker (k : WorkerKey) {f : Worker → Worker}
    (hf : ∀ x, (f x).poller = x.poller) (s : System) : Idle s (s.updateWorker k f) := by
  refine ⟨still_of_connections rfl rfl, fun _ => rfl, rfl, fun j x hx => ?_⟩
  rw [updateWorker, Table.get?_update] at hx
  by_cases hj : j = k
  · rw [if_pos hj] at hx
    rcases Option.map_eq_some_iff.mp hx with ⟨y, hy, rfl⟩
    exact ⟨y, hj ▸ hy, (hf y).symm⟩
  · rw [if_neg hj] at hx
    exact ⟨x, hx, rfl⟩

end System

/-- The moves that concern backends and files of the program alone. -/
def Move.watches : Move → Bool
  | .openPoller .. | .releasePoller _ | .checkPoller .. | .keepPoller .. | .starve _
  | .refuseThreads _ | .openOther _ | .closeOther _ | .setReadable .. => true
  | _ => false

namespace System

variable {s t u : System} {q : SocketKey}

/-- A step that leaves sockets alone, or disconnects a connection. -/
inductive Closing : System → System → Prop where
  | idle (s t : System) (h : Idle s t) : Closing s t
  | finished (s : System) (k : WorkerKey) : Closing s (s.finishWorker k)
  | started (s : System) (n : NotifierKey) (config : Config) (counters : CountersKey) :
      Closing s (s.startWorker n config counters).1
  | disconnected (s : System) (c : ConnKey) : Closing s (s.disconnect c)

/-- Any number of such steps. -/
abbrev Closings : System → System → Prop := Relation.ReflTransGen Closing

theorem still_kernel {k : Kernel} (h : k.sockets = s.kernel.sockets) :
    Still s { s with kernel := k } := still_of_connections rfl h

/-- A worker that ends gives its backend back, and no backend has a socket. -/
theorem still_finishWorker (k : WorkerKey) (s : System) : Still s (s.finishWorker k) := by
  unfold finishWorker
  rcases s.workers.get? k with _ | worker
  · exact still_of_connections rfl rfl
  · dsimp only
    split
    · exact still_of_connections rfl rfl
    · exact still_of_connections rfl (Poller.sockets_release worker.poller s.kernel)

/-- However starting a worker ends, connections and sockets are what they were. -/
theorem sockets_startWorker (n : NotifierKey) (config : Config) (counters : CountersKey)
    (s : System) :
    (s.startWorker n config counters).1.connections = s.connections ∧
      (s.startWorker n config counters).1.kernel.sockets = s.kernel.sockets := by
  -- A backend is opened first, and given back if something else fails.
  have hcreate := Poller.sockets_create config.backend config.window s.kernel
  unfold startWorker
  rcases hpoller : Poller.create config.backend config.window s.kernel with ⟨k, fault | poller⟩
  · rw [hpoller] at hcreate
    exact ⟨rfl, hcreate⟩
  · rw [hpoller] at hcreate
    have hrelease := (Poller.sockets_release poller k).trans hcreate
    dsimp only
    rcases PollLoop.ofConfig s.registries.size counters poller.capacity config with fault | loop
    · exact ⟨rfl, hrelease⟩
    · -- Without a thread the backend that was just opened is given back.
      rcases threadFault k config.threadName with _ | fault
      · exact ⟨rfl, hcreate⟩
      · exact ⟨rfl, hrelease⟩

theorem still_note (record : LogRecord) (s : System) : Still s (s.note record) :=
  still_of_connections rfl rfl

theorem idle_note (record : LogRecord) (s : System) : Idle s (s.note record) :=
  idle_of_tables rfl rfl rfl

/-- What a backend has to report is only logged. -/
theorem idle_notePolls (notes : List PollNote) (s : System) : Idle s (s.notePolls notes) := by
  induction notes generalizing s with
  | nil => exact idle_of_tables rfl rfl rfl
  | cons note rest ih =>
      cases note with
      | invalid id => exact idle_trans (idle_note _ s) (ih _)
      | rejected r => exact idle_trans (idle_note _ s) (ih _)
      | left x => exact idle_trans (idle_note _ s) (ih _)

/-- What concerns backends, and files that the program opens besides, leaves sockets
    alone. -/
theorem still_watches {m : Move} (hm : m.watches = true) (s : System) : Still s (m.perform s) := by
  cases m with
  | openPoller kind capacity => exact still_kernel (Poller.sockets_create kind capacity s.kernel)
  | releasePoller p => exact still_kernel (Poller.sockets_release p s.kernel)
  | checkPoller window p =>
      exact still_trans (still_kernel (Poller.sockets_check window p s.kernel))
        (idle_notePolls _ _).still
  | keepPoller k p => exact still_of_connections rfl rfl
  | starve starved => exact still_of_connections rfl rfl
  | refuseThreads error => exact still_of_connections rfl rfl
  | openOther pollable => exact still_kernel (Kernel.sockets_openOther pollable s.kernel)
  | closeOther o => exact still_of_connections rfl rfl
  | setReadable o readable => exact still_kernel (Kernel.sockets_setReadable o readable s.kernel)
  | _ => exact absurd hm Bool.false_ne_true

theorem carries_of_still (h : s.Wired) (hstill : Still s t) : t.Wired ∧ Carries s t :=
  ⟨wired_still h hstill, carries_still hstill⟩

/-- One step keeps things wired and carries along what is queued. -/
theorem wired_closing (h : s.Wired) (hstep : Closing s t) : t.Wired ∧ Carries s t := by
  cases hstep with
  | idle _ hidle => exact carries_of_still h hidle.still
  | finished k => exact carries_of_still h (still_finishWorker k s)
  | started n config counters =>
      rcases sockets_startWorker n config counters s with ⟨hconns, hsockets⟩
      exact carries_of_still h (still_of_connections hconns hsockets)
  | disconnected c => exact wired_disconnect h c

theorem wired_closings (hclosings : Closings s t) (h : s.Wired) : t.Wired ∧ Carries s t := by
  -- Each step keeps things wired, which the next one needs.
  induction hclosings with
  | refl => exact ⟨h, carries_refl s⟩
  | tail _ hstep ih =>
      rcases wired_closing ih.1 hstep with ⟨hwired, hcarries⟩
      exact ⟨hwired, carries_trans h hwired ih.2 hcarries⟩

/-- An idle step may stand among steps that close. -/
theorem Idle.closings (h : Idle s t) : Closings s t := Relation.ReflTransGen.single (.idle s t h)

/-- A chain closes connections one at a time, and its other links are idle. -/
theorem closings_unwinds (h : Unwinds s t) : Closings s t := by
  induction h with
  | refl => exact Relation.ReflTransGen.refl
  | tail _ hlink ih =>
      refine ih.tail ?_
      cases hlink with
      | ended k => exact .idle _ _ (idle_of_tables rfl rfl rfl)
      | released k c => exact .idle _ _ (idle_of_tables rfl rfl rfl)
      | cleared c =>
          refine .idle _ _ ?_
          -- A slot that is cleared is no business of the kernel.
          rcases clearSlot_cases c _ with ⟨-, hclear⟩ | ⟨conn, r, -, -, -, hclear⟩
          · rw [hclear]
            exact idle_of_tables rfl rfl rfl
          · rw [hclear]
            exact idle_trans (idle_updateSlot c (fun x => ⟨none, none, x.generation + 1⟩) _)
              (idle_of_tables rfl rfl rfl)
      | disconnected c h => exact .disconnected _ c
      | noted held log => exact .idle _ _ (idle_of_tables rfl rfl rfl)

/-- To wait for a worker is to let it end and to mark it as joined. -/
theorem closings_joinWorker (k : WorkerKey) (s : System) : Closings s (s.joinWorker k) :=
  (Relation.ReflTransGen.single (.finished s k)).tail
    (.idle _ _ (idle_updateWorker k (f := fun x => { x with joined := true }) (fun _ => rfl) _))

theorem closings_reapDetached (n : NotifierKey) (s : System) : Closings s (s.reapDetached n) := by
  unfold reapDetached
  rcases (s.notifiers.get? n).bind Notifier.detached with _ | k
  · exact Relation.ReflTransGen.refl
  · dsimp only
    -- Nobody waits for the worker that is running just now.
    split
    · exact Relation.ReflTransGen.refl
    · exact (closings_joinWorker k s).tail (.idle _ _ (idle_of_tables rfl rfl rfl))

/-- A worker is told to stop, and waited for unless it is the one that does so. -/
theorem closings_stopWorker (n : NotifierKey) (k : WorkerKey) (s : System) :
    Closings s (s.stopWorker n k) := by
  have htold : Idle s (s.tell k) :=
    idle_updateWorker k (f := fun x => { x with told := true }) (fun _ => rfl) s
  unfold stopWorker
  dsimp only
  -- The running worker is set aside instead of being waited for.
  split
  · exact htold.closings.tail (.idle _ _ (idle_of_tables rfl rfl rfl))
  · exact htold.closings.trans (closings_joinWorker k _)

/-- At most one worker is started. -/
theorem closings_ensureRunning (n : NotifierKey) (s : System) :
    Closings s (s.ensureRunning n).1 := by
  unfold ensureRunning
  rcases s.notifiers.get? n with _ | notifier
  · exact Relation.ReflTransGen.refl
  · dsimp only
    rcases notifier.running with _ | running
    · exact Relation.ReflTransGen.single (.started s n notifier.config notifier.counters)
    · exact Relation.ReflTransGen.refl

/-- Registering closes what only the replaced callback kept open. -/
theorem closings_attach (c : ConnKey) (r : RegistryKey) (k : CallbackKey) (s : System) :
    Closings s (s.attach c r k).1 := by
  -- Only the end of what was in the slot can close anything.
  have hinstall : Idle s (s.install c r k).1 := by
    rcases install_frame c r k s with ⟨registries, -, heq⟩
    rw [heq]
    exact idle_trans (idle_updateSlot c (fun x => ⟨some k, some r, x.generation + 1⟩) s)
      (idle_of_tables rfl rfl rfl)
  exact hinstall.closings.trans (closings_unwinds (unwinds_destroyAny _ _))

/-- However a registration ends, it consists of such steps. -/
theorem closings_setCallback (n : NotifierKey) (c : ConnKey) (k : CallbackKey) (s : System) :
    Closings s (s.setCallback n c k).1 := by
  unfold setCallback register registerOn
  split
  · -- Nothing is closed before a callback ends.
    have hready : Closings s ((s.reapDetached n).acquire (.state n)) :=
      (closings_reapDetached n _).tail (.idle _ _ (idle_of_tables rfl rfl rfl))
    have hensure := closings_ensureRunning n ((s.reapDetached n).acquire (.state n))
    dsimp only
    rcases hrunning : ((s.reapDetached n).acquire (.state n)).ensureRunning n
      with ⟨u, fault | running⟩
    · rw [hrunning] at hensure
      have hreleased : Idle u (u.release (.state n)) := idle_of_tables rfl rfl rfl
      exact ((hready.trans hensure).tail (.idle _ _ hreleased)).trans
        (closings_unwinds (unwinds_destroy _ _))
    · rw [hrunning] at hensure
      refine ((hready.trans hensure).trans
        (closings_attach c running.registry k u)).tail (.idle _ _ ?_)
      dsimp only
      split
      · exact idle_of_tables rfl rfl rfl
      · exact idle_of_tables rfl rfl rfl
  · exact closings_unwinds (unwinds_destroy _ _)

theorem closings_setFresh (n : NotifierKey) (c : ConnKey) (hold : Option ConnKey) (s : System) :
    Closings s (s.setFresh n c hold).1 := by
  have hfresh : Idle s (s.addCallback hold).1 := idle_of_tables rfl rfl rfl
  exact hfresh.closings.trans (closings_setCallback n c _ _)

/-- So does a shutdown. The connections it clears are closed in the end, if they are. -/
theorem closings_shutdown (n : NotifierKey) (s : System) : Closings s (s.shutdown n) := by
  have hreap := closings_reapDetached n s
  unfold shutdown clearLeft takeRunning
  rcases (s.reapDetached n).running? n with _ | running
  · exact hreap
  · -- Taking the worker out and draining touch no socket.
    have htake := hreap.tail (.idle _ ((s.reapDetached n).updateNotifier n fun x =>
      { x with running := none }) (idle_of_tables rfl rfl rfl))
    have hstop := htake.trans (closings_stopWorker n running.worker _)
    have hdrain := hstop.tail (.idle _ (((s.reapDetached n).updateNotifier n fun x =>
      { x with running := none }).stopWorker n running.worker |>.drain running.registry).1
      (idle_of_tables rfl rfl rfl))
    exact (hdrain.trans (closings_unwinds (unwinds_detachAll running.registry _ _))).tail
      (.idle _ _ (idle_of_tables rfl rfl rfl))

/-- A handle that is dropped may have been the last one. -/
theorem closings_drop (c : ConnKey) (s : System) : Closings s (s.dropHandle c).1 := by
  have hdisown : Idle s (s.disown c) :=
    idle_updateConn c (f := fun x => { x with owned := false }) (fun _ => rfl) (fun _ => rfl)
      (fun _ => rfl) s
  rcases dropHandle_cases c s with heq | ⟨-, heq⟩ | ⟨-, heq⟩
  · rw [heq]
  · rw [heq]
    exact hdisown.closings
  · rw [heq]
    exact hdisown.closings.trans (closings_unwinds (unwinds_close c _))

/-- So may one that was kept by a callback that is not put back. -/
theorem closings_finish (x : Taken) (exit : Exit) (s : System) : Closings s (s.finish x exit) := by
  have hsettled : ∀ u : System, Closings u (u.settleTaken x.callback) := fun u =>
    Idle.closings (idle_of_tables rfl rfl rfl)
  cases exit with
  | returned =>
      unfold finish
      rcases putBack_cases x s with ⟨-, -, heq⟩ | ⟨-, -, heq⟩
      · rw [heq]
        exact (idle_updateSlot x.conn (fun y => { y with callback := some x.callback })
          s).closings.trans (hsettled _)
      · rw [heq]
        exact (closings_unwinds (unwinds_destroy x.callback s)).trans (hsettled _)
  | panicked =>
      -- After a panic the registration is cleared first, then the callback ends.
      rcases giveUp_eq x s with ⟨v, hnoted, heq⟩
      rw [finish, heq]
      exact ((closings_unwinds (hnoted.unwinds.trans (unwinds_detachGeneration _ _ v))).trans
        (closings_unwinds (unwinds_destroy x.callback _))).trans (hsettled _)

theorem idle_takenOut (x : Taken) (s : System) : Idle s (s.takenOut x) :=
  idle_trans (idle_updateSlot x.conn (fun y => { y with callback := none }) s)
    (idle_of_tables rfl rfl rfl)

theorem still_takenOut (x : Taken) (s : System) : Still s (s.takenOut x) :=
  (idle_takenOut x s).still

end System

/-- The moves that make connections. -/
def Move.connects : Move → Bool
  | .pair .. | .freshPair | .listenOn _ | .listen _ | .listenLocal | .connectAddr _ | .connect ..
  | .accept .. => true
  | _ => false

/-- The moves that move bytes. -/
def Move.transfers : Move → Bool
  | .write .. | .receive .. | .begin .. => true
  | _ => false

namespace System

variable {s : System}

/-- All moves but these and those that concern backends alone do not touch sockets,
    but for connections that are closed. -/
theorem closings_perform {m : Move} (hconnects : m.connects = false)
    (htransfers : m.transfers = false) (hwatches : m.watches = false) (s : System) :
    Closings s (m.perform s) := by
  -- Ending a callback may close connections. Everything else leaves sockets alone.
  cases m with
  | close c => exact closings_unwinds (unwinds_close c s)
  | drop c => exact closings_drop c s
  | addNotifier config => exact Idle.closings (idle_of_tables rfl rfl rfl)
  | set n c hold => exact closings_setFresh n c hold s
  | entrust k c =>
      rcases entrust_frame k c s with ⟨callbacks, heq, -⟩
      rw [Move.perform, heq]
      exact Idle.closings (idle_of_tables rfl rfl rfl)
  | unset n c => exact closings_unwinds (unwinds_unsetCallback n c s)
  | shutdown n => exact closings_shutdown n s
  | finish x exit =>
      rw [Move.perform]
      split
      · exact closings_finish x exit s
      · exact Relation.ReflTransGen.refl
  | attach c r hold =>
      have hfresh : Idle s (s.addCallback hold).1 := idle_of_tables rfl rfl rfl
      exact hfresh.closings.trans (closings_attach c r _ _)
  | detach c => exact closings_unwinds (unwinds_detach c s)
  | detachFrom c r => exact closings_unwinds (unwinds_detachFrom c r s)
  | detachGeneration c g => exact closings_unwinds (unwinds_detachGeneration c g s)
  | take c pinned =>
      rw [Move.perform]
      rcases take_cases c pinned s with ⟨-, heq⟩ | ⟨x, -, -, -, heq⟩
      · rw [heq]
      · rw [heq]
        exact (idle_takenOut x s).closings
  | forget x =>
      rw [Move.perform]
      split
      · exact (closings_unwinds (unwinds_destroy x.callback s)).tail
          (.idle _ _ (idle_of_tables rfl rfl rfl))
      · exact Relation.ReflTransGen.refl
  | onRegistry r f => exact Idle.closings (idle_of_tables rfl rfl rfl)
  | fillWindow l => exact Idle.closings (idle_of_tables rfl rfl rfl)
  | countCycle l => exact Idle.closings (idle_of_tables rfl rfl rfl)
  | countDispatches l n => exact Idle.closings (idle_of_tables rfl rfl rfl)
  | addCounters => exact Idle.closings (idle_of_tables rfl rfl rfl)
  | finishWorker k => exact Relation.ReflTransGen.single (.finished s k)
  | switch thread held => exact Idle.closings (idle_of_tables rfl rfl rfl)
  | note record => exact Idle.closings (idle_of_tables rfl rfl rfl)
  | openPoller kind capacity => exact absurd hwatches.symm Bool.false_ne_true
  | releasePoller p => exact absurd hwatches.symm Bool.false_ne_true
  | checkPoller window p => exact absurd hwatches.symm Bool.false_ne_true
  | keepPoller k p => exact absurd hwatches.symm Bool.false_ne_true
  | starve starved => exact absurd hwatches.symm Bool.false_ne_true
  | refuseThreads error => exact absurd hwatches.symm Bool.false_ne_true
  | openOther pollable => exact absurd hwatches.symm Bool.false_ne_true
  | closeOther o => exact absurd hwatches.symm Bool.false_ne_true
  | setReadable o readable => exact absurd hwatches.symm Bool.false_ne_true
  | write c data => exact absurd htransfers.symm Bool.false_ne_true
  | receive c n => exact absurd htransfers.symm Bool.false_ne_true
  | begin c size => exact absurd htransfers.symm Bool.false_ne_true
  | _ => exact absurd hconnects.symm Bool.false_ne_true

end System

end ReadNotify
