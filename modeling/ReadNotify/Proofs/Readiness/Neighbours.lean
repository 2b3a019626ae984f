import ReadNotify.Proofs.Readiness.Controls
import ReadNotify.Proofs.Registry.Refinement
import ReadNotify.Proofs.Streams.Traffic

/-!
# What Happens Beside a Backend

The number in the identity of a connection is that of its socket, for as long as
the connection is open. Whatever happens to a system, this stays so, and
identities stay as they are. For the interest set of one backend it is something
that happens aside, unless it names the set: a program that asks another backend
does not, and neither does a worker, which has a backend of its own.

## Main definitions

* `System.Numbered`: Identities have the numbers of sockets.
* `System.Beside`: What happens without a backend.
* `Move.Proper`: What can happen while a backend belongs to somebody else.
* `Move.SparesSet`: What leaves the set of that backend alone.

## Theorems

* `numbered_perform`: Everything proper happens beside the backend.
-/

namespace ReadNotify

/-- The moves that can be made while one interest set belongs to somebody else.
    Numbers that a program chooses are free and two. What is done to a registry
    directly is one of its operations, and lists a connection under its own
    identity. Nobody else asks the backend of the set or gives it back, and workers
    get backends with sets that exist. -/
def Move.Proper (mine : Option InterestKey) (m : Move) (s : System) : Prop :=
  match m with
  | .pair fdA fdB => fdA ≠ fdB ∧ s.kernel.uses fdA = false ∧ s.kernel.uses fdB = false
  | .onRegistry _ f => ∃ alive op, f = (fun r => (r.perform alive op).1) ∧
      ∀ id c, op = .append id c → s.ident c = some id
  | .releasePoller p | .checkPoller _ p => ∀ d ∈ p.set?, d ∉ mine
  | .keepPoller _ p => ∀ d ∈ p.set?, d ∉ mine ∧ d < s.kernel.interests.size
  | _ => True

/-- Whether a move leaves an interest set to the backend it belongs to. -/
def Move.SparesSet (mine : Option InterestKey) : Move → Prop
  | .releasePoller p | .checkPoller _ p | .keepPoller _ p => ∀ d ∈ p.set?, d ∉ mine
  | _ => True

/-- Whatever is proper while nobody has a set is proper with one, as long as the set is
    left to its backend. -/
theorem Move.proper_of_spares {mine : Option InterestKey} {m : Move} {s : System}
    (h : m.Proper none s) (hset : m.SparesSet mine) : m.Proper mine s := by
  cases m with
  | pair fdA fdB => exact h
  | onRegistry r f => exact h
  | releasePoller p => exact hset
  | checkPoller window p => exact hset
  | keepPoller j p => exact fun d hd => ⟨hset d hd, (h d hd).2⟩
  | _ => trivial

namespace System

variable {s t u : System} {mine : Option InterestKey} {q : SocketKey}

/-- The number in the identity of a connection that is open is that of its
    socket. If somebody has an interest set, no worker uses it. -/
structure Numbered (mine : Option InterestKey) (s : System) : Prop where
  wired : s.Wired
  tidy : s.kernel.Tidy
  serial : ∀ c id, s.ident c = some id → id.serial = c + 1
  raw : ∀ c q, s.socket? c = some q →
    ∃ id, s.ident c = some id ∧ s.kernel.number? q = some id.raw
  sets : ∀ e ∈ mine, (s.kernel.shape? e).isSome = true
  pollers : ∀ j x, s.workers.get? j = some x →
    ∀ d ∈ x.poller.set?, d ∉ mine ∧ d < s.kernel.interests.size

/-- What happens without a backend: identities stay as they are, what is new has
    the number of its socket, and no worker gets the interest set. -/
structure Beside (mine : Option InterestKey) (s t : System) : Prop where
  kernel : Kernel.Aside mine s.kernel t.kernel
  ident : ∀ c id, s.ident c = some id → t.ident c = some id
  serial : ∀ c id, t.ident c = some id → s.ident c = some id ∨ id.serial = c + 1
  raw : ∀ c q, t.socket? c = some q → s.socket? c = some q ∨
    ∃ id, t.ident c = some id ∧ t.kernel.number? q = some id.raw
  pollers : ∀ j x, t.workers.get? j = some x →
    (∃ y, s.workers.get? j = some y ∧ y.poller = x.poller) ∨
      ∀ d ∈ x.poller.set?, d ∉ mine ∧ d < t.kernel.interests.size

/-- Numbers stay in order through everything that happens beside the backend. -/
theorem Numbered.beside (h : s.Numbered mine) (ht : t.Wired) (hbeside : Beside mine s t) :
    t.Numbered mine := by
  refine ⟨ht, hbeside.kernel.tidy h.tidy, ?_, ?_, ?_, ?_⟩
  · intro c id hid
    exact (hbeside.serial c id hid).elim (h.serial c id) fun hnew => hnew
  · intro c q hq
    -- A new connection has got the number of its socket, an old one has kept it.
    rcases hbeside.raw c q hq with hold | hnew
    · rcases h.raw c q hold with ⟨id, hid, hraw⟩
      exact ⟨id, hbeside.ident c id hid, hbeside.kernel.number q id.raw hraw⟩
    · exact hnew
  · intro e he
    rw [hbeside.kernel.shape e he (h.sets e he)]
    exact h.sets e he
  · intro j x hx d hd
    -- Sets are never removed, so a worker's set still exists.
    rcases hbeside.pollers j x hx with ⟨y, hy, hyx⟩ | hnew
    · rcases h.pollers j y hy d (hyx ▸ hd) with ⟨hother, hlt⟩
      exact ⟨hother, Nat.lt_of_lt_of_le hlt hbeside.kernel.size⟩
    · exact hnew d hd

/-- Two such things in a row. A worker that got its backend in the first part keeps it
    in the second, or gets another one that is not the set's. -/
theorem beside_trans (h : Beside mine s t) (h' : Beside mine t u) : Beside mine s u := by
  refine ⟨Kernel.aside_trans h.kernel h'.kernel, fun c id hid => h'.ident c id (h.ident c id hid),
    ?_, ?_, ?_⟩
  · intro c id hid
    exact (h'.serial c id hid).elim (h.serial c id) Or.inr
  · intro c q hq
    -- The socket is that of before, or came with one of the two parts.
    rcases h'.raw c q hq with hmiddle | hnew
    · rcases h.raw c q hmiddle with hold | ⟨id, hid, hraw⟩
      · exact Or.inl hold
      · exact Or.inr ⟨id, h'.ident c id hid, h'.kernel.number q id.raw hraw⟩
    · exact Or.inr hnew
  · intro j x hx
    rcases h'.pollers j x hx with ⟨y, hy, hyx⟩ | hnew
    · rcases h.pollers j y hy with ⟨z, hz, hzy⟩ | hmiddle
      · exact Or.inl ⟨z, hz, hzy.trans hyx⟩
      · refine Or.inr fun d hd => ?_
        rcases hmiddle d (hyx ▸ hd) with ⟨hother, hlt⟩
        exact ⟨hother, Nat.lt_of_lt_of_le hlt h'.kernel.size⟩
    · exact Or.inr hnew

/-- What changes no connection but its socket, and no worker. -/
theorem beside_of_same (hident : ∀ c, t.ident c = s.ident c)
    (hsocket : ∀ c q, t.socket? c = some q → s.socket? c = some q)
    (hworkers : t.workers = s.workers) (hkernel : Kernel.Aside mine s.kernel t.kernel) :
    Beside mine s t := by
  refine ⟨hkernel, fun c id hid => (hident c).trans hid,
    fun c id hid => Or.inl ((hident c).symm.trans hid), fun c q hq => Or.inl (hsocket c q hq), ?_⟩
  intro j x hx
  exact Or.inl ⟨x, hworkers ▸ hx, rfl⟩

/-- What is done to the kernel aside from the set is done beside its backend. -/
theorem beside_kernel {k : Kernel} (hkernel : Kernel.Aside mine s.kernel k) :
    Beside mine s { s with kernel := k } :=
  beside_of_same (fun _ => rfl) (fun _ _ hq => hq) rfl hkernel

theorem beside_refl (mine : Option InterestKey) (s : System) : Beside mine s s :=
  beside_kernel (Kernel.aside_refl mine s.kernel)

/-- As is what does nothing to the kernel at all. -/
theorem beside_idle (h : Idle s t) : Beside mine s t := by
  refine ⟨h.kernel ▸ Kernel.aside_refl mine s.kernel, fun c id hid => (h.ident c).trans hid,
    fun c id hid => Or.inl ((h.ident c).symm.trans hid),
    fun c q hq => Or.inl ((h.still.steady.socket c).symm.trans hq), ?_⟩
  intro j x hx
  exact Or.inl (h.pollers j x hx)

/-! ### Closing and workers -/

/-- A connection loses its socket and keeps its identity, so the number in that may
    become somebody else's. -/
theorem beside_disconnect (c : ConnKey) (s : System) : Beside mine s (s.disconnect c) := by
  refine beside_of_same (fun d => (frame_disconnect c s d).2.1) ?_
    (tables_disconnect c s).2.2.2.2.1 ?_
  · intro d q hq
    rw [socket?_disconnect] at hq
    split at hq
    · exact absurd hq (by simp)
    · exact hq
  · rw [kernel_disconnect]
    split
    · cases s.socket? c with
      | none => exact Kernel.aside_refl mine s.kernel
      | some q => exact Kernel.aside_close s.kernel q
    · exact Kernel.aside_refl mine s.kernel

/-- A worker that ends gives its own backend back. -/
theorem beside_finishWorker (h : s.Numbered mine) (j : WorkerKey) :
    Beside mine s (s.finishWorker j) := by
  unfold finishWorker
  rcases hj : s.workers.get? j with _ | x
  · exact beside_refl mine s
  · dsimp only
    split
    · exact beside_refl mine s
    · refine beside_trans (beside_idle (idle_updateWorker j
        (f := fun y => { y with finished := true }) (fun _ => rfl) s)) (beside_kernel ?_)
      exact Poller.aside_release x.poller (fun d hd => (h.pollers j x hj d hd).1) s.kernel

/-- A worker that starts has a new backend. -/
theorem beside_startWorker (h : s.Numbered mine) (n : NotifierKey) (config : Config)
    (counters : CountersKey) : Beside mine s (s.startWorker n config counters).1 := by
  have hcreate := Poller.aside_create (k := s.kernel) config.backend config.window h.sets
  unfold startWorker
  rcases hpoller : Poller.create config.backend config.window s.kernel with ⟨k, fault | poller⟩
  · rw [hpoller] at hcreate
    exact beside_kernel hcreate.1
  · rw [hpoller] at hcreate
    have hset := hcreate.2 poller rfl
    have hrelease := Kernel.aside_trans hcreate.1
      (Poller.aside_release poller (fun d hd => (hset d hd).1) k)
    dsimp only
    rcases PollLoop.ofConfig s.registries.size counters poller.capacity config with fault | loop
    · exact beside_kernel hrelease
    · rcases threadFault k config.threadName with _ | fault
      · refine ⟨hcreate.1, fun _ _ hid => hid, fun _ _ hid => Or.inl hid,
          fun _ _ hq => Or.inl hq, ?_⟩
        intro j x hx
        have hget : (s.workers.add ⟨loop, poller, false, false, false⟩).get? j = some x := hx
        rw [Table.get?_add] at hget
        -- Only the new worker has the new set.
        by_cases hj : j = s.workers.size
        · rw [if_pos hj] at hget
          rw [← Option.some.inj hget]
          exact Or.inr hset
        · rw [if_neg hj] at hget
          exact Or.inl ⟨x, hget, rfl⟩
      · exact beside_kernel hrelease

/-- Each step of those that close. -/
theorem beside_closing (h : s.Numbered mine) (hstep : Closing s t) : Beside mine s t := by
  cases hstep with
  | idle _ hidle => exact beside_idle hidle
  | finished j => exact beside_finishWorker h j
  | started n config counters => exact beside_startWorker h n config counters
  | disconnected c => exact beside_disconnect c s

/-- And any number of them. Each step needs what the ones before have kept. -/
theorem beside_closings (hclosings : Closings s t) (h : s.Numbered mine) :
    t.Numbered mine ∧ Beside mine s t := by
  induction hclosings with
  | refl => exact ⟨h, beside_refl mine s⟩
  | tail _ hstep ih =>
      have hbeside := beside_closing ih.1 hstep
      exact ⟨ih.1.beside (wired_closing ih.1.wired hstep).1 hbeside, beside_trans ih.2 hbeside⟩

/-! ### Other backends -/

/-- Other backends work on other sets, and files that the program opens are in no way
    special. -/
theorem beside_watches (h : s.Numbered mine) {m : Move} (hm : m.watches = true)
    (hproper : m.Proper mine s) : Beside mine s (m.perform s) := by
  cases m with
  | openPoller kind capacity => exact beside_kernel (Poller.aside_create kind capacity h.sets).1
  | releasePoller p => exact beside_kernel (Poller.aside_release p hproper s.kernel)
  | checkPoller window p =>
      -- What is noticed on the way is only logged.
      exact beside_trans (beside_kernel (Poller.aside_check window p hproper s.kernel))
        (beside_idle (idle_notePolls _ _))
  | keepPoller j p =>
      refine ⟨Kernel.aside_refl mine s.kernel, fun _ _ hid => hid, fun _ _ hid => Or.inl hid,
        fun _ _ hq => Or.inl hq, ?_⟩
      intro i x hx
      have hget : (s.workers.update j fun y => { y with poller := p }).get? i = some x := hx
      rw [Table.get?_update] at hget
      -- One worker gets another backend, and that is not the set's.
      by_cases hi : i = j
      · rw [if_pos hi] at hget
        rcases Option.map_eq_some_iff.mp hget with ⟨y, -, rfl⟩
        exact Or.inr hproper
      · rw [if_neg hi] at hget
        exact Or.inl ⟨x, hget, rfl⟩
  | starve starved => exact beside_kernel (Kernel.aside_of_tables rfl rfl rfl)
  | refuseThreads error => exact beside_kernel (Kernel.aside_of_tables rfl rfl rfl)
  | openOther pollable => exact beside_kernel (Kernel.aside_openOther pollable s.kernel)
  | closeOther o => exact beside_kernel (Kernel.aside_closeOther o s.kernel)
  | setReadable o readable => exact beside_kernel (Kernel.aside_setReadable o readable s.kernel)
  | _ => exact absurd hm Bool.false_ne_true

/-! ### Moving bytes -/

theorem beside_record (c : ConnKey) (e : IoError) (s : System) : Beside mine s (s.record c e) :=
  beside_idle (idle_updateConn c (f := fun conn => { conn with lastError := some e.recorded })
    (fun _ => rfl) (fun _ => rfl) (fun _ => rfl) s)

theorem beside_receive (c : ConnKey) (n : Nat) (s : System) : Beside mine s (s.receive c n).1 := by
  unfold receive
  rcases s.socket? c with _ | q
  · exact beside_refl mine s
  · have hreceive : Kernel.Aside mine s.kernel (s.kernel.receive q n).1 :=
      Kernel.aside_receive s.kernel q n
    dsimp only
    rcases hresult : s.kernel.receive q n with ⟨k, data | code⟩ <;> rw [hresult] at hreceive
    · exact beside_kernel hreceive
    · exact beside_trans (beside_kernel hreceive) (beside_record c _ _)

/-- Bytes that arrive wake watchers, and that reorders entries at most. -/
theorem beside_write (c : ConnKey) (data : Bytes) (s : System) :
    Beside mine s (s.write c data).1 := by
  unfold write
  rcases s.socket? c with _ | q
  · exact beside_refl mine s
  · dsimp only
    split
    · exact beside_refl mine s
    · have hsend : Kernel.Aside mine s.kernel (s.kernel.send q data).1 :=
        Kernel.aside_send s.kernel q data
      rcases hresult : s.kernel.send q data with ⟨k, reply⟩
      rw [hresult] at hsend
      refine beside_trans (beside_kernel hsend) ?_
      dsimp only
      -- How much went out does not matter here, only whether an error is remembered.
      generalize (sendAll [reply] data).2 = ending
      cases ending with
      | failed e => exact beside_record c e _
      | finished => exact beside_refl mine _
      | waiting => exact beside_refl mine _

theorem beside_transfers {m : Move} (hm : m.transfers = true) (s : System) :
    Beside mine s (m.perform s) := by
  cases m with
  | write c data => exact beside_write c data s
  | receive c n => exact beside_receive c n s
  | begin c size =>
      rcases begin_cases c size s with ⟨-, heq⟩ | ⟨x, -, -, -, -, record, heq⟩
      · rw [Move.perform, heq]
        exact beside_refl mine s
      · rw [Move.perform, heq]
        exact beside_trans (beside_trans (beside_idle (idle_takenOut x s))
          (beside_receive c size _)) (beside_idle (idle_of_tables rfl rfl rfl))
  | _ => exact absurd hm Bool.false_ne_true

/-! ### New connections -/

/-- What has a number is made into a connection with that number. -/
theorem beside_adopt (hq : (s.kernel.number? q).isSome = true) (numbered : Bool) :
    Beside mine s (s.adopt q numbered).1 := by
  rcases Option.isSome_iff_exists.mp hq with ⟨n, hn⟩
  have hraw : ((s.kernel.socket? q).bind fun x => x.fd).getD 0 = n := by
    rw [show ((s.kernel.socket? q).bind fun x => x.fd) = some n from hn, Option.getD_some]
  have hident : ∀ c, (s.adopt q numbered).1.ident c =
      if c = s.connections.size then some ⟨s.connections.size + 1, n⟩ else s.ident c := by
    intro c
    rw [ident, conn?_adopt, hraw]
    by_cases hc : c = s.connections.size
    · rw [if_pos hc, if_pos hc, Option.map_some]
    · rw [if_neg hc, if_neg hc, ident]
  refine ⟨Kernel.aside_refl mine s.kernel, ?_, ?_, ?_, fun j x hx => Or.inl ⟨x, hx, rfl⟩⟩
  · intro c id hid
    rw [hident, if_neg]
    · exact hid
    · -- What has an identity is there already.
      rintro rfl
      rw [ident, conn?_size] at hid
      simp at hid
  · intro c id hid
    rw [hident] at hid
    by_cases hc : c = s.connections.size
    · rw [if_pos hc] at hid
      rw [← Option.some.inj hid, hc]
      exact Or.inr rfl
    · rw [if_neg hc] at hid
      exact Or.inl hid
  · intro c p hp
    rw [socket?_adopt] at hp
    by_cases hc : c = s.connections.size
    · rw [if_pos hc] at hp
      rw [← Option.some.inj hp]
      exact Or.inr ⟨_, (hident c).trans (if_pos hc), hn⟩
    · rw [if_neg hc] at hp
      exact Or.inl hp

/-- Connections are made of two sockets that were opened. -/
theorem beside_adoptTwo {k : Kernel} {a b : SocketKey}
    (h : Kernel.Numbers mine s.kernel k [a, b]) (na nb : Bool) :
    Beside mine s ((({ s with kernel := k } : System).adopt a na).1.adopt b nb).1 := by
  have ha := h.numbered a List.mem_cons_self
  have hb := h.numbered b (List.mem_cons_of_mem a List.mem_cons_self)
  exact beside_trans (beside_kernel h.aside)
    (beside_trans (beside_adopt ha na) (beside_adopt hb nb))

/-- What has opened a socket is made into a connection with the number of that socket.
    -/
theorem beside_adoptResult {result : Kernel × Except Int SocketKey}
    (h : Kernel.Numbers mine s.kernel result.1 (Kernel.opened result.2)) :
    Beside mine s (s.adoptResult result).1 := by
  rcases result with ⟨k, code | q⟩
  · exact beside_kernel h.aside
  · exact beside_trans (beside_kernel h.aside)
      (beside_adopt (h.numbered q List.mem_cons_self) false)

theorem beside_listenOn (h : s.Wired) (a : Address) : Beside mine s (s.listenOn a).1 :=
  beside_adoptResult (Kernel.numbers_listen h.kernel a)

theorem beside_connectAddr (h : s.Wired) (a : Address) : Beside mine s (s.connectAddr a).1 :=
  beside_adoptResult (Kernel.numbers_connect h.kernel a)

/-- Either family may be the one that is listened on. -/
theorem beside_listen (h : s.Wired) (port : Nat) : Beside mine s (s.listen port).1 := by
  have hboth : Beside mine s (s.listenOn ⟨.anywhere6, port⟩).1 := beside_listenOn h _
  have hwired := (wired_listenOn h ⟨.anywhere6, port⟩).1
  unfold listen
  rcases hresult : s.listenOn ⟨.anywhere6, port⟩ with ⟨t, e | c⟩ <;> rw [hresult] at hboth hwired
  · -- After a failure the older family is tried alone.
    have hnoted := wired_still hwired (still_note (.dualStackFailed e) t)
    exact beside_trans (beside_trans hboth (beside_idle (idle_note _ t))) (beside_listenOn hnoted _)
  · exact hboth

/-- Each address is tried in the state that the last failure left. -/
theorem beside_connectAny (h : s.Wired) (port : Nat) (ips : List IpAddress) (last : IoError) :
    Beside mine s (connectAny port ips last s).1 := by
  induction ips generalizing last s with
  | nil => exact beside_refl mine s
  | cons ip rest ih =>
      have hfirst : Beside mine s (s.connectAddr ⟨ip, port⟩).1 := beside_connectAddr h _
      have hwired := (wired_connectAddr h ⟨ip, port⟩).1
      unfold connectAny
      rcases hresult : s.connectAddr ⟨ip, port⟩ with ⟨t, e | c⟩ <;> rw [hresult] at hfirst hwired
      · have hnoted := wired_still hwired
          (still_note (.connectFailed (Address.maskedText ⟨ip, port⟩) e) t)
        exact beside_trans (beside_trans hfirst (beside_idle (idle_note _ t))) (ih hnoted e)
      · exact hfirst

/-- A peer that is accepted gets its number first and is adopted with it. -/
theorem beside_accept (h : s.Numbered mine) (c : ConnKey) (signalled : Bool) :
    Beside mine s (s.accept c signalled).1 := by
  unfold accept
  rcases s.socket? c with _ | q
  · exact beside_refl mine s
  · have haccept : Kernel.Numbers mine s.kernel (s.kernel.accept q signalled).1
        (Kernel.opened (s.kernel.accept q signalled).2) :=
      Kernel.numbers_accept h.wired.kernel q signalled h.tidy
    dsimp only
    rcases hresult : s.kernel.accept q signalled with ⟨k, code | peer⟩ <;> rw [hresult] at haccept
    · exact beside_trans (beside_kernel haccept.aside) (beside_record c _ _)
    · -- Without an address it is closed again.
      have hrefused : Beside mine s { s with kernel := k.close peer } :=
        beside_kernel (Kernel.aside_trans haccept.aside (Kernel.aside_close k peer))
      dsimp only
      rcases k.peerAddress peer with _ | _ | address
      · exact hrefused
      · exact hrefused
      · exact beside_trans (beside_kernel haccept.aside)
          (beside_adopt (haccept.numbered peer List.mem_cons_self) false)

/-- A number that a program may choose denotes nothing. -/
theorem at?_of_unused {k : Kernel} {fd : Nat} (h : k.uses fd = false) : k.at? fd = none := by
  rw [Kernel.uses, Bool.or_eq_false_iff] at h
  exact Option.not_isSome_iff_eq_none.mp (Bool.eq_false_iff.mp h.2)

/-- Every move that opens connections, be the numbers chosen or handed out. -/
theorem beside_connects (h : s.Numbered mine) {m : Move} (hm : m.connects = true)
    (hproper : m.Proper mine s) : Beside mine s (m.perform s) := by
  -- Each kind of connecting opens sockets under numbers of its own first.
  cases m with
  | pair fdA fdB =>
      exact beside_adoptTwo (Kernel.numbers_openPair h.wired.kernel (at?_of_unused hproper.2.1)
        (at?_of_unused hproper.2.2) hproper.1) true true
  | freshPair =>
      rw [Move.perform]
      unfold freshPair
      split
      · exact beside_refl mine s
      · have hsecond := Kernel.at?_freshFdExcept s.kernel [s.kernel.freshFd]
        refine beside_adoptTwo (Kernel.numbers_openPair h.wired.kernel (Kernel.at?_freshFd s.kernel)
          hsecond.1 ?_) false false
        intro heq
        exact hsecond.2 (List.mem_singleton.mpr heq.symm)
  | listenOn a => exact beside_listenOn h.wired a
  | listen port => exact beside_listen h.wired port
  | listenLocal =>
      rw [Move.perform]
      unfold listenLocal
      rcases Kernel.numbers_listenLocal h.wired.kernel with ⟨code, heq⟩ | ⟨k, heq, hnumbers⟩
      · rw [heq]
        exact beside_refl mine s
      · rw [heq]
        exact beside_adoptTwo hnumbers false false
  | connectAddr a => exact beside_connectAddr h.wired a
  | connect host port =>
      rw [Move.perform]
      unfold connect
      rcases resolve host with e | ips
      · exact beside_refl mine s
      · exact beside_connectAny h.wired port ips _
  | accept c signalled => exact beside_accept h c signalled
  | _ => exact absurd hm Bool.false_ne_true

/-- Everything proper happens beside the backend. -/
theorem numbered_perform (h : s.Numbered mine) {m : Move} (hproper : m.Proper mine s) :
    (m.perform s).Numbered mine ∧ Beside mine s (m.perform s) := by
  have hwired := (follows_perform h.wired m).1
  have hbeside : Beside mine s (m.perform s) := by
    cases htransfers : m.transfers with
    | true => exact beside_transfers htransfers s
    | false =>
        cases hconnects : m.connects with
        | true => exact beside_connects h hconnects hproper
        | false =>
            cases hwatches : m.watches with
            | true => exact beside_watches h hwatches hproper
            | false =>
                exact (beside_closings (closings_perform hconnects htransfers hwatches s) h).2
  exact ⟨h.beside hwired hbeside, hbeside⟩

/-- In the beginning nobody has a number. -/
theorem numbered_init (n : Nat) : (init n).Numbered none := by
  have hsocket : ∀ q, (init n).kernel.socket? q = none := fun q => Table.get?_empty q
  have hset : ∀ e, (init n).kernel.interests.get? e = none := fun e => Table.get?_empty e
  have hother : ∀ o, (init n).kernel.others.get? o = none := fun o => Table.get?_empty o
  -- There is no file of any sort.
  have hholds : ∀ fd f, ¬ (init n).kernel.Holds fd f := by
    rintro fd (q | e | o) hf
    · simp [Kernel.Holds, Kernel.isOpen, hsocket] at hf
    · simp [Kernel.Holds, Kernel.shape?, hset] at hf
    · simp [Kernel.Holds, Kernel.otherShape?, hother] at hf
  have htargets : ∀ e, (init n).kernel.targets e = [] := by
    intro e
    simp [Kernel.targets, Kernel.entries, hset]
  refine ⟨wired_init n, ⟨fun fd f g hf => absurd hf (hholds fd f), ?_, ?_, ?_, ?_⟩, ?_, ?_,
    by simp, ?_⟩
  · intro e t ht
    rw [htargets] at ht
    exact absurd ht List.not_mem_nil
  · intro e t ht
    rw [htargets] at ht
    exact absurd ht List.not_mem_nil
  · intro e
    rw [htargets]
    exact List.nodup_nil
  · intro l w hw
    simp [Kernel.backlog?, hsocket] at hw
  · intro c id hid
    simp [ident, conn?, init, Table.get?_empty] at hid
  · intro c q hq
    simp [socket?, conn?, init, Table.get?_empty] at hq
  · intro j x hx
    simp [init, Table.get?_empty] at hx

end System

end ReadNotify
