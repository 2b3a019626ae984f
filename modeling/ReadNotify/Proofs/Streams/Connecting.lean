import ReadNotify.Proofs.Streams.Wiring

/-!
# New Connections

A connection is made of a socket that the kernel has just opened, or has just
handed out of the backlog of a listener. Nobody has such a socket, so making a
connection of it disturbs none that is there. This covers pairs, listeners,
clients and servers, with all that is tried on the way, and the connection that
is accepted and closed again because it has no address.

## Main definitions

* `System.Offers`: Sockets that connections can be made of.

## Theorems

* `offers_opens`, `offers_adopt`: Opening sockets and making connections.
* `wired_connects`: Every move that makes connections carries all streams.
* `carries_perform`: So does every move that is no traffic.
-/

namespace ReadNotify

namespace System

variable {s u : System} {qs : List SocketKey} {q : SocketKey}

/-- Sockets that connections can be made of now. -/
structure Offers (qs : List SocketKey) (s : System) : Prop where
  wired : s.Wired
  isOpen : ∀ q ∈ qs, s.kernel.isOpen q = true
  free : ∀ q ∈ qs, ∀ l w, s.kernel.backlog? l = some w → q ∉ w
  unowned : ∀ q ∈ qs, ∀ c, s.socket? c ≠ some q
  nodup : qs.Nodup

/-- What the kernel opens can be made into connections. -/
theorem offers_opens (h : s.Wired) {k : Kernel} (hopens : s.kernel.Opens k qs) :
    Offers qs { s with kernel := k } ∧ Carries s { s with kernel := k } := by
  have hcarries := hopens.carries
  -- The connections are the same, and what is theirs is carried along.
  refine ⟨⟨⟨hopens.wired, fun c q hq => hcarries.isOpen q (h.isOpen c q hq),
    fun c q l w hq hw hmem => ?_, h.distinct, h.linked⟩, fun q hq => (hopens.fresh q hq).isOpen,
    fun q hq => (hopens.fresh q hq).free, fun q hq c hc => ?_, hopens.nodup⟩,
    ⟨⟨hcarries.known, hcarries.peer, fun q hq => ?_, fun _ hc => hc, fun _ _ hq => Or.inl hq,
      fun _ _ hq => Or.inl hq⟩, hcarries.inbox⟩⟩
  · rcases hcarries.waits q l w (h.isOpen c q hq) hw hmem with ⟨w', hw', hmem'⟩
    exact h.free c q l w' hq hw' hmem'
  · -- A connection has neither what is new nor what was waiting.
    rcases (hopens.fresh q hq).new with hclosed | ⟨l, w, hw, hmem⟩
    · exact absurd (hclosed.symm.trans (h.isOpen c q hc)) Bool.false_ne_true
    · exact h.free c q l w hc hw hmem
  · rcases hcarries.inbox q hq with ⟨hopen, -⟩ | ⟨hnone, -⟩
    · exact Or.inl hopen
    · exact Or.inr hnone

theorem socket?_adopt (q : SocketKey) (numbered : Bool) (s : System) (c : ConnKey) :
    (s.adopt q numbered).1.socket? c =
      if c = s.connections.size then some q else s.socket? c := by
  unfold socket?
  rw [conn?_adopt]
  by_cases hc : c = s.connections.size
  · rw [if_pos hc, if_pos hc]
    rfl
  · rw [if_neg hc, if_neg hc]

theorem offers_adopt (h : Offers (q :: qs) s) (numbered : Bool) :
    Offers qs (s.adopt q numbered).1 ∧ Carries s (s.adopt q numbered).1 := by
  have hsocket := socket?_adopt q numbered s
  have hq : q ∈ q :: qs := List.mem_cons_self
  -- Somebody has a socket either as before or as the new connection.
  have hold : ∀ c p, (s.adopt q numbered).1.socket? c = some p →
      (c = s.connections.size ∧ p = q) ∨ (c ≠ s.connections.size ∧ s.socket? c = some p) := by
    intro c p hp
    rw [hsocket] at hp
    by_cases hc : c = s.connections.size
    · rw [if_pos hc] at hp
      exact Or.inl ⟨hc, (Option.some.inj hp).symm⟩
    · rw [if_neg hc] at hp
      exact Or.inr ⟨hc, hp⟩
  have hlinked : ∀ c, (s.adopt q numbered).1.isConnected c =
      if c = s.connections.size then true else s.isConnected c := by
    intro c
    unfold isConnected
    rw [conn?_adopt]
    by_cases hc : c = s.connections.size
    · rw [if_pos hc, if_pos hc]
    · rw [if_neg hc, if_neg hc]
  -- No connection that exists has the new number.
  have hne : ∀ c, (s.conn? c).isSome = true → c ≠ s.connections.size := by
    rintro c hc rfl
    rw [conn?_size] at hc
    exact absurd hc Bool.false_ne_true
  refine ⟨⟨⟨h.wired.kernel, fun c p hp => ?_, fun c p l w hp hw => ?_, fun c d p hc hd => ?_,
    fun c => ?_⟩, fun p hp => h.isOpen p (List.mem_cons_of_mem q hp),
    fun p hp => h.free p (List.mem_cons_of_mem q hp), fun p hp c hc => ?_,
    (List.nodup_cons.mp h.nodup).2⟩, ⟨⟨fun _ hp => hp, fun _ _ => rfl, fun _ hp => Or.inl hp,
    fun c hc => ?_, fun c p hp => ?_, fun c p hp => ?_⟩, fun _ hp => Or.inl ⟨hp, rfl⟩⟩⟩
  · rcases hold c p hp with ⟨-, rfl⟩ | ⟨-, hp⟩
    · exact h.isOpen p hq
    · exact h.wired.isOpen c p hp
  · rcases hold c p hp with ⟨-, rfl⟩ | ⟨-, hp⟩
    · exact h.free p hq l w hw
    · exact h.wired.free c p l w hp hw
  · -- Nobody had the socket that the new connection has.
    rcases hold c p hc with ⟨hcnew, rfl⟩ | ⟨-, hcold⟩
    · rcases hold d p hd with ⟨hdnew, -⟩ | ⟨-, hdold⟩
      · exact hcnew.trans hdnew.symm
      · exact absurd hdold (h.unowned p hq d)
    · rcases hold d p hd with ⟨-, rfl⟩ | ⟨-, hdold⟩
      · exact absurd hcold (h.unowned p hq c)
      · exact h.wired.distinct c d p hcold hdold
  · rw [hlinked, hsocket]
    by_cases hc : c = s.connections.size
    · rw [if_pos hc, if_pos hc]
      rfl
    · rw [if_neg hc, if_neg hc]
      exact h.wired.linked c
  · rcases hold c p hc with ⟨-, rfl⟩ | ⟨-, hc⟩
    · exact (List.nodup_cons.mp h.nodup).1 hp
    · exact h.unowned p (List.mem_cons_of_mem q hp) c hc
  · rw [conn?_adopt, if_neg (hne c hc)]
    exact hc
  · rw [hsocket, if_neg (hne c (isSome_of_socket? hp))]
    exact Or.inl hp
  · rcases hold c p hp with ⟨rfl, rfl⟩ | ⟨-, hp⟩
    · exact Or.inr ⟨conn?_size s, h.unowned p hq⟩
    · exact Or.inl hp

/-- What opens two sockets and makes connections of both. -/
theorem wired_adoptTwo (h : s.Wired) {k : Kernel} {a b : SocketKey}
    (hopens : s.kernel.Opens k [a, b])
    (na nb : Bool) :
    ((({ s with kernel := k } : System).adopt a na).1.adopt b nb).1.Wired ∧
      Carries s ((({ s with kernel := k } : System).adopt a na).1.adopt b nb).1 := by
  rcases offers_opens h hopens with ⟨hoffers, hcarries⟩
  rcases offers_adopt hoffers na with ⟨hoffers', hcarries'⟩
  rcases offers_adopt hoffers' nb with ⟨hoffers'', hcarries''⟩
  exact ⟨hoffers''.wired, carries_trans h hoffers''.wired
    (carries_trans h hoffers'.wired hcarries hcarries') hcarries''⟩

theorem wired_adoptResult (h : s.Wired) {result : Kernel × Except Int SocketKey}
    (hopens : s.kernel.Opens result.1 (Kernel.opened result.2)) :
    (s.adoptResult result).1.Wired ∧ Carries s (s.adoptResult result).1 := by
  rcases result with ⟨k, code | q⟩
  · rcases offers_opens h hopens with ⟨hoffers, hcarries⟩
    exact ⟨hoffers.wired, hcarries⟩
  · rcases offers_opens h hopens with ⟨hoffers, hcarries⟩
    rcases offers_adopt hoffers false with ⟨hoffers', hcarries'⟩
    exact ⟨hoffers'.wired, carries_trans h hoffers'.wired hcarries hcarries'⟩

theorem wired_listenOn (h : s.Wired) (a : Address) :
    (s.listenOn a).1.Wired ∧ Carries s (s.listenOn a).1 :=
  wired_adoptResult h (Kernel.opens_listen h.kernel a)

theorem wired_connectAddr (h : s.Wired) (a : Address) :
    (s.connectAddr a).1.Wired ∧ Carries s (s.connectAddr a).1 :=
  wired_adoptResult h (Kernel.opens_connect h.kernel a)

theorem wired_note (hu : u.Wired) (h : s.Wired ∧ Carries u s) (record : LogRecord) :
    (s.note record).Wired ∧ Carries u (s.note record) := by
  have hwired := wired_still h.1 (still_note record s)
  exact ⟨hwired, carries_trans hu hwired h.2 (carries_still (still_note record s))⟩

theorem wired_listen (h : s.Wired) (port : Nat) :
    (s.listen port).1.Wired ∧ Carries s (s.listen port).1 := by
  have hboth := wired_listenOn h ⟨.anywhere6, port⟩
  unfold listen
  rcases hresult : s.listenOn ⟨.anywhere6, port⟩ with ⟨t, e | c⟩
  · -- After a failure the older family is tried alone.
    rw [hresult] at hboth
    have hnoted := wired_note h hboth (.dualStackFailed e)
    have hold := wired_listenOn hnoted.1 ⟨.anywhere, port⟩
    exact ⟨hold.1, carries_trans h hold.1 hnoted.2 hold.2⟩
  · rw [hresult] at hboth
    exact hboth

theorem wired_connectAny (h : s.Wired) (port : Nat) (ips : List IpAddress) (last : IoError) :
    (connectAny port ips last s).1.Wired ∧ Carries s (connectAny port ips last s).1 := by
  induction ips generalizing last s with
  | nil => exact ⟨h, carries_refl s⟩
  | cons ip rest ih =>
      have hfirst := wired_connectAddr h ⟨ip, port⟩
      unfold connectAny
      rcases hresult : s.connectAddr ⟨ip, port⟩ with ⟨t, e | c⟩
      · rw [hresult] at hfirst
        have hnoted := wired_note h hfirst (.connectFailed (Address.maskedText ⟨ip, port⟩) e)
        have hrest := ih hnoted.1 e
        exact ⟨hrest.1, carries_trans h hrest.1 hnoted.2 hrest.2⟩
      · rw [hresult] at hfirst
        exact hfirst

theorem wired_accept (h : s.Wired) (c : ConnKey) (signalled : Bool) :
    (s.accept c signalled).1.Wired ∧ Carries s (s.accept c signalled).1 := by
  unfold accept
  rcases s.socket? c with _ | q
  · exact ⟨h, carries_refl s⟩
  · have hopens := Kernel.opens_accept h.kernel q signalled
    dsimp only
    rcases hresult : s.kernel.accept q signalled with ⟨k, code | peer⟩
    · rw [hresult] at hopens
      rcases offers_opens h hopens with ⟨hoffers, hcarries⟩
      -- Only the error is kept.
      have hrecord := still_record c (.os code) { s with kernel := k }
      have hwired := wired_still hoffers.wired hrecord
      exact ⟨hwired, carries_trans h hwired hcarries (carries_still hrecord)⟩
    · rw [hresult] at hopens
      rcases offers_opens h hopens with ⟨hoffers, hcarries⟩
      -- A connection that is refused is closed again before anybody has it.
      have hrefused := wired_close (q := peer)
        (t := { s with kernel := k.close peer }) hoffers.wired
        (hoffers.free peer List.mem_cons_self) rfl
        (fun d => (if_neg (hoffers.unowned peer List.mem_cons_self d)).symm)
        hoffers.wired.linked fun _ => rfl
      rcases offers_adopt hoffers false with ⟨hoffers', hcarries'⟩
      dsimp only
      rcases k.peerAddress peer with _ | _ | address
      · exact ⟨hrefused.1, carries_trans h hrefused.1 hcarries hrefused.2⟩
      · exact ⟨hrefused.1, carries_trans h hrefused.1 hcarries hrefused.2⟩
      · exact ⟨hoffers'.wired, carries_trans h hoffers'.wired hcarries hcarries'⟩

/-- Moves that make connections disturb none that are there. -/
theorem wired_connects (h : s.Wired) {m : Move} (hm : m.connects = true) :
    (m.perform s).Wired ∧ Carries s (m.perform s) := by
  cases m with
  | pair fdA fdB => exact wired_adoptTwo h (Kernel.opens_openPair h.kernel fdA fdB) true true
  | freshPair =>
      rw [Move.perform]
      unfold freshPair
      split
      · exact ⟨h, carries_refl s⟩
      · exact wired_adoptTwo h (Kernel.opens_openPair h.kernel _ _) false false
  | listenOn a => exact wired_listenOn h a
  | listen port => exact wired_listen h port
  | listenLocal =>
      rw [Move.perform]
      unfold listenLocal
      rcases Kernel.opens_listenLocal h.kernel with ⟨code, heq⟩ | ⟨k, heq, hopens⟩
      · rw [heq]
        exact ⟨h, carries_refl s⟩
      · rw [heq]
        exact wired_adoptTwo h hopens false false
  | connectAddr a => exact wired_connectAddr h a
  | connect host port =>
      rw [Move.perform]
      unfold connect
      rcases resolve host with e | ips
      · exact ⟨h, carries_refl s⟩
      · exact wired_connectAny h port ips _
  | accept c signalled => exact wired_accept h c signalled
  | _ => exact absurd hm Bool.false_ne_true

/-- Moves that move no bytes keep sockets and connections in order, and carry
    the streams of all connections that stay open. -/
theorem carries_perform (h : s.Wired) {m : Move} (hm : m.transfers = false) :
    (m.perform s).Wired ∧ Carries s (m.perform s) := by
  cases hconnects : m.connects with
  | true => exact wired_connects h hconnects
  | false =>
      cases hwatches : m.watches with
      | true => exact carries_of_still h (still_watches hwatches s)
      | false => exact wired_closings (closings_perform hconnects hm hwatches s) h

end System

end ReadNotify
