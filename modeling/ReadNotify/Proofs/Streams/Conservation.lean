import ReadNotify.Proofs.Registration.Nesting
import ReadNotify.Proofs.Streams.Traffic

/-!
# No Byte Is Lost

Along a sequence of moves, all that was written on one end of a connection is
what was read at the other, in order, followed by what is queued there. It does
not matter who reads: the program itself or dispatches for callbacks, of the
same or of different notifiers, with buffers of any size, in cycles, inside of
callbacks, or between the beginning and the end of a dispatch.

The equation of one move is about sockets. It composes along a sequence of moves
as it stands, since sockets that face each other at the end did so all the time.
That the same holds of connections is because a connection never changes its
socket and none gets the socket of another.

## Main definitions

* `System.sent`, `System.delivered`: What was written on a connection and what
  was read from it.
* `System.queued`: What has arrived at it and was not read.
* `System.Joined`: Two connections are the ends of one stream.
* `System.Balanced`: What is said of the two.

## Theorems

* `inbox_run`: The equation for sockets.
* `stream_holds`: Counting by connection is counting by socket.
* `balanced_run`: The equation for connections.
* `stream_conserved`: The same in cycles, and what consumes nothing.
-/

namespace ReadNotify

/-- Whether a move reads nothing from a connection. -/
def Move.spares (c : ConnKey) : Move → Bool
  | .receive d _ | .begin d _ => decide (d ≠ c)
  | _ => true

namespace System

variable {s t : System} {a b c d : ConnKey} {p q e : SocketKey}
  {f : Move → System → Option (ConnKey × Bytes)}

/-- The bytes of transfers of one kind, in the order of the moves. -/
def stream (f : Move → System → Option (ConnKey × Bytes)) (p : System → ConnKey → Bool) :
    List Move → System → Bytes
  | [], _ => []
  | m :: ms, s => portion (p s) (f m s) ++ stream f p ms (m.perform s)

/-- Everything that moves write on a connection. -/
def sent (c : ConnKey) (ms : List Move) (s : System) : Bytes :=
  stream Move.puts (fun _ d => decide (d = c)) ms s

/-- Everything that moves read from a connection, for the program or for its
    callback. -/
def delivered (c : ConnKey) (ms : List Move) (s : System) : Bytes :=
  stream Move.gets (fun _ d => decide (d = c)) ms s

/-- What has arrived at a connection and was not read. -/
def queued (s : System) (c : ConnKey) : Bytes :=
  match s.socket? c with
  | some q => s.kernel.inbox q
  | none => []

/-- Two connections are the ends of one stream. -/
def Joined (a b : ConnKey) (s : System) : Prop :=
  ∃ p e, s.socket? a = some p ∧ s.socket? b = some e ∧ s.kernel.peer? e = some p

/-- What reading at most so many bytes answers now, or what a dispatch with such
    a buffer hands to the callback. -/
def Hands (s : System) (c : ConnKey) (size : Nat) (data : Bytes) : Prop :=
  (s.receive c size).2 = data ∨ ∃ x, (s.begin c size).2 = some (x, data)

/-- What was written on one connection was read from the other or is queued
    there, and the front of that is what comes next. Nothing comes only once
    everything was read. -/
structure Balanced (a b : ConnKey) (ms : List Move) (s : System) : Prop where
  even : sent a ms s = delivered b ms s ++ (run ms s).queued b
  front : ∀ size data, (run ms s).Hands b size data → data = ((run ms s).queued b).take size
  last : ∀ size, 0 < size → (run ms s).Hands b size [] → sent a ms s = delivered b ms s

theorem queued_of_some (h : s.socket? c = some q) : s.queued c = s.kernel.inbox q := by
  rw [queued, h]

/-! ### Sequences of moves -/

theorem follows_run (ms : List Move) (h : s.Wired) :
    (run ms s).Wired ∧ Follows s (run ms s) := by
  induction ms generalizing s with
  | nil => exact ⟨h, follows_refl s⟩
  | cons m ms ih =>
      rcases follows_perform h m with ⟨hwired, hfirst⟩
      rcases ih hwired with ⟨hlast, hrest⟩
      exact ⟨hlast, follows_trans h hlast hfirst hrest⟩

/-- What was queued, followed by what moves write, is what they read, followed by
    what is queued. -/
theorem inbox_run (ms : List Move) (h : s.Wired) (hfacing : (run ms s).kernel.Facing p e) :
    s.kernel.inbox e ++ stream Move.puts (fun s => s.holds p) ms s =
      stream Move.gets (fun s => s.holds e) ms s ++ (run ms s).kernel.inbox e := by
  induction ms generalizing s with
  | nil => exact List.append_nil _
  | cons m ms ih =>
      rcases follows_perform h m with ⟨hwired, -⟩
      rcases follows_run ms hwired with ⟨hlast, hrest⟩
      -- Sockets that face each other in the end do so at every step before.
      have hmove := inbox_perform h m (facing_of_follows hwired hlast hrest hfacing)
      have hmoves := ih hwired hfacing
      calc s.kernel.inbox e ++ (portion (s.holds p) (m.puts s) ++
            stream Move.puts (fun s => s.holds p) ms (m.perform s))
          = portion (s.holds e) (m.gets s) ++ ((m.perform s).kernel.inbox e ++
              stream Move.puts (fun s => s.holds p) ms (m.perform s)) := by
            rw [← List.append_assoc, hmove, List.append_assoc]
        _ = (portion (s.holds e) (m.gets s) ++
              stream Move.gets (fun s => s.holds e) ms (m.perform s)) ++
              (run (m :: ms) s).kernel.inbox e := by
            rw [hmoves, ← List.append_assoc]
            rfl

theorem stream_append (f : Move → System → Option (ConnKey × Bytes))
    (p : System → ConnKey → Bool) (ms ms' : List Move) (s : System) :
    stream f p (ms ++ ms') s = stream f p ms s ++ stream f p ms' (run ms s) := by
  induction ms generalizing s with
  | nil => rfl
  | cons m ms ih =>
      rw [List.cons_append, stream, stream, ih, List.append_assoc]
      rfl

theorem stream_congr {p p' : System → ConnKey → Bool} (ms : List Move) (s : System)
    (h : ∀ u m v, ms = u ++ m :: v → ∀ c data, f m (run u s) = some (c, data) → data ≠ [] →
      p (run u s) c = p' (run u s) c) : stream f p ms s = stream f p' ms s := by
  induction ms generalizing s with
  | nil => rfl
  | cons m ms ih =>
      have hfirst : portion (p s) (f m s) = portion (p' s) (f m s) :=
        portion_congr (h [] m ms rfl)
      rw [stream, stream, hfirst,
        ih (m.perform s) fun u m' v hms => h (m :: u) m' v (congrArg (m :: ·) hms)]

/-! ### Connections and their sockets -/

/-- Throughout a sequence of moves a connection has one socket, and no other has
    that. -/
theorem same_iff_run {u v before after : List Move} (h : s.Wired)
    (hms : before ++ after = u ++ v) (hc : (run before s).socket? c = some p)
    (hd : (run u s).socket? d = some q) : d = c ↔ q = p := by
  -- One of the two times is before the other.
  rcases List.append_eq_append_iff.mp hms with ⟨w, rfl, -⟩ | ⟨w, rfl, -⟩
  · rw [run_append] at hd
    have hwired := (follows_run before h).1
    rw [eq_comm, Follows.same_iff hwired (follows_run w hwired).2 hc hd, eq_comm]
  · rw [run_append] at hc
    have hwired := (follows_run u h).1
    exact Follows.same_iff hwired (follows_run w hwired).2 hd hc

/-- What is written goes through a socket. -/
theorem socket?_of_puts {m : Move} {data : Bytes} (h : m.puts s = some (c, data)) :
    ∃ q, s.socket? c = some q := by
  refine Option.ne_none_iff_exists'.mp fun hnone => ?_
  cases m with
  | write d bytes =>
      rw [puts_write] at h
      by_cases hok : (s.write d bytes).2 = .ok ()
      · rw [if_pos hok, Option.some.injEq, Prod.mk.injEq] at h
        rw [h.1, write, hnone] at hok
        exact absurd hok (by simp only [reduceCtorEq, not_false_eq_true])
      · rw [if_neg hok] at h
        exact absurd h (by simp only [reduceCtorEq, not_false_eq_true])
  | _ => exact absurd h (by simp only [Move.puts, reduceCtorEq, not_false_eq_true])

/-- So does what is read, unless it is nothing. -/
theorem socket?_of_gets {m : Move} {data : Bytes} (h : m.gets s = some (c, data))
    (hdata : data ≠ []) : ∃ q, s.socket? c = some q := by
  refine Option.ne_none_iff_exists'.mp fun hnone => hdata ?_
  cases m with
  | receive d n =>
      rw [Move.gets, Option.some.injEq, Prod.mk.injEq] at h
      rw [← h.2, h.1, receive_of_none hnone]
  | begin d size =>
      rcases begin_cases d size s with ⟨-, heq⟩ | ⟨x, -, -, -, hanswer, -⟩
      · rw [Move.gets, heq] at h
        exact absurd h (by simp only [Option.map_none, reduceCtorEq, not_false_eq_true])
      · rw [Move.gets, hanswer, Option.map_some, Option.some.injEq, Prod.mk.injEq] at h
        -- Taking the callback out does not give the connection a socket.
        have hlost : (s.takenOut x).socket? c = none :=
          ((still_takenOut x s).steady.socket c).trans hnone
        rw [← h.2, h.1, receive_of_none hlost]
  | _ => exact absurd h (by simp only [Move.gets, reduceCtorEq, not_false_eq_true])

/-- The transfers of a connection are those of the socket that it has at some
    time. -/
theorem stream_holds {before after : List Move} (h : s.Wired)
    (hf : ∀ m s c data, f m s = some (c, data) → data ≠ [] → ∃ q, s.socket? c = some q)
    (hc : (run before s).socket? c = some p) :
    stream f (fun _ d => decide (d = c)) (before ++ after) s =
      stream f (fun s => s.holds p) (before ++ after) s := by
  refine stream_congr _ s fun u m v hms d data hsome hdata => ?_
  rcases hf m (run u s) d data hsome hdata with ⟨q, hq⟩
  have hsame := same_iff_run h hms hc hq
  rw [holds, hq]
  exact decide_eq_decide.mpr (hsame.trans Option.some_inj.symm)

/-! ### What comes next -/

/-- What reading answers is what the socket hands out, and so is what a dispatch
    hands to the callback. -/
theorem data_of_hands (hc : s.socket? c = some e) {size : Nat} {data : Bytes}
    (hdata : s.Hands c size data) : data = (s.kernel.receive e size).2.data := by
  rcases hdata with rfl | ⟨y, hy⟩
  · exact (receive_of_some hc size).2.2
  · rcases begin_cases c size s with ⟨-, heq⟩ | ⟨x, -, -, -, hanswer, -⟩
    · rw [heq] at hy
      exact absurd hy (by simp only [reduceCtorEq, not_false_eq_true])
    · have hc' : (s.takenOut x).socket? c = some e :=
        ((still_takenOut x s).steady.socket c).trans hc
      rw [hanswer, Option.some.injEq, Prod.mk.injEq] at hy
      rw [← hy.2, (receive_of_some hc' size).2.2]
      rfl

/-- A connection with another end hands out as much as was asked for and is
    queued. -/
theorem hands_of_peer (h : s.Wired) (hc : s.socket? c = some e)
    (hpeer : s.kernel.peer? e = some p) {size : Nat} {data : Bytes} (hdata : s.Hands c size data) :
    data = (s.queued c).take size := by
  rw [data_of_hands hc hdata, queued_of_some hc]
  exact Kernel.receive_of_plain (h.kernel.plain e p hpeer) size

/-- So does any connection that is open: without another end nothing is queued. -/
theorem hands_of_fed (h : s.Wired) (hfed : s.kernel.Fed) (hc : s.socket? c = some e) {size : Nat}
    {data : Bytes} (hdata : s.Hands c size data) : data = (s.queued c).take size := by
  rcases hpeer : s.kernel.peer? e with _ | p
  · have hempty := hfed e (h.isOpen c e hc) hpeer
    have hread := Kernel.inbox_receive s.kernel e size e
    rw [hempty, if_pos rfl] at hread
    rw [data_of_hands hc hdata, queued_of_some hc, hempty, List.take_nil]
    exact (List.append_eq_nil_iff.mp hread.symm).1
  · exact hands_of_peer h hc hpeer hdata

/-- As long as the reading end is open, nothing that was written is lost. -/
theorem balanced_run {before after : List Move} (h : s.Wired) (hempty : ∀ q, s.kernel.inbox q = [])
    (hjoined : (run before s).Joined a b)
    (hopen : (run (before ++ after) s).isConnected b = true) :
    Balanced a b (before ++ after) s := by
  rcases hjoined with ⟨p, e, hp, he, hpeer⟩
  have hbefore := (follows_run before h).1
  have hlast := (follows_run (before ++ after) h).1
  have hlater : Follows (run before s) (run (before ++ after) s) := by
    rw [run_append]
    exact (follows_run after hbefore).2
  -- The reading end still has its socket, with the other end where it was.
  have he' : (run (before ++ after) s).socket? b = some e := by
    rw [hlast.linked, Option.isSome_iff_exists] at hopen
    rcases hopen with ⟨e', he'⟩
    rw [he', (Follows.same_iff hbefore hlater he he').mp rfl]
  have hpeer' : (run (before ++ after) s).kernel.peer? e = some p :=
    (hlater.peer e (hbefore.known he)).trans hpeer
  -- The bytes of the connections are those of their sockets.
  have heven : sent a (before ++ after) s =
      delivered b (before ++ after) s ++ (run (before ++ after) s).queued b := by
    have hinbox := inbox_run (before ++ after) h (Or.inl ⟨hlast.isOpen b e he', hpeer'⟩)
    rw [hempty, List.nil_append] at hinbox
    rw [sent, delivered, stream_holds h (fun _ _ _ _ h _ => socket?_of_puts h) hp,
      stream_holds h (fun _ _ _ _ => socket?_of_gets) he, queued_of_some he']
    exact hinbox
  refine ⟨heven, fun size data hdata => hands_of_peer hlast he' hpeer' hdata,
    fun size hsize hnothing => ?_⟩
  -- Nothing comes only if nothing is queued.
  have htake := hands_of_peer hlast he' hpeer' hnothing
  rcases hqueue : (run (before ++ after) s).queued b with _ | ⟨byte, rest⟩
  · rw [heven, hqueue, List.append_nil]
  · rw [hqueue] at htake
    have hlength := congrArg List.length htake
    rw [List.length_nil, List.length_take, List.length_cons] at hlength
    omega

/-! ### Reading nothing -/

theorem delivered_of_spares {ms : List Move} (h : ∀ m ∈ ms, m.spares b = true) (s : System) :
    delivered b ms s = [] := by
  unfold delivered
  induction ms generalizing s with
  | nil => rfl
  | cons m ms ih =>
      have hm : portion (fun d => decide (d = b)) (m.gets s) = [] := by
        have hspares := h m List.mem_cons_self
        cases m with
        | receive d n =>
            rw [Move.spares, decide_eq_true_eq] at hspares
            rw [Move.gets, portion_some]
            simp only [decide_eq_true_eq]
            rw [if_neg hspares]
        | begin d size =>
            rw [Move.spares, decide_eq_true_eq] at hspares
            unfold Move.gets
            dsimp only
            rcases (s.begin d size).2 with _ | ⟨x, data⟩
            · rfl
            · rw [Option.map_some, portion_some]
              simp only [decide_eq_true_eq]
              rw [if_neg hspares]
        | _ => rfl
      rw [stream, hm, List.nil_append]
      exact ih (fun m' hm' => h m' (List.mem_cons_of_mem m hm')) (m.perform s)

/-- Moves that read nothing from a connection leave in front what is queued. -/
theorem Balanced.queued_prefix {ms more : List Move} (h : Balanced a b ms s)
    (h' : Balanced a b (ms ++ more) s) (hspares : ∀ m ∈ more, m.spares b = true) :
    (run ms s).queued b <+: (run (ms ++ more) s).queued b := by
  -- More may have been written meanwhile, which goes behind.
  have heven := h'.even
  rw [sent, delivered, stream_append, stream_append] at heven
  have hnone := delivered_of_spares hspares (run ms s)
  rw [delivered] at hnone
  rw [hnone, List.append_nil] at heven
  have hbefore := h.even
  rw [sent, delivered] at hbefore
  rw [hbefore, List.append_assoc] at heven
  exact ⟨_, List.append_cancel_left heven⟩

/-! ### Pairs -/

theorem joined_symm (h : s.Wired) (hjoined : Joined a b s) : Joined b a s := by
  rcases hjoined with ⟨p, e, hp, he, hpeer⟩
  exact ⟨e, p, he, hp, h.kernel.paired e p hpeer⟩

/-- Two connections made of sockets that are connected are the ends of one
    stream. -/
theorem joined_adopt (hpeer : s.kernel.peer? e = some p) (na nb : Bool) :
    Joined (s.adopt p na).2 ((s.adopt p na).1.adopt e nb).2 ((s.adopt p na).1.adopt e nb).1 := by
  have hsize : (s.adopt p na).1.connections.size = s.connections.size + 1 := Table.size_add _ _
  have hne : (s.adopt p na).2 ≠ s.connections.size + 1 := Nat.ne_of_lt (Nat.lt_succ_self _)
  refine ⟨p, e, ?_, ?_, hpeer⟩
  · rw [socket?_adopt, hsize, if_neg hne, socket?_adopt]
    exact if_pos rfl
  · rw [socket?_adopt]
    exact if_pos rfl

theorem joined_pair (fdA fdB : Nat) (s : System) :
    Joined (s.pair fdA fdB).2.1 (s.pair fdA fdB).2.2 (s.pair fdA fdB).1 :=
  joined_adopt (Kernel.peer?_addPeers s.kernel _ _).2 true true

theorem joined_freshPair (h : s.freshPair.2 = .ok (a, b)) : Joined a b s.freshPair.1 := by
  unfold freshPair at h ⊢
  by_cases hstarved : s.kernel.starved = true
  · rw [if_pos hstarved] at h
    exact absurd h (by simp only [reduceCtorEq, not_false_eq_true])
  · rw [if_neg hstarved] at h ⊢
    have hkeys := Except.ok.inj h
    rw [← (Prod.mk.inj hkeys).1, ← (Prod.mk.inj hkeys).2]
    exact joined_adopt (Kernel.peer?_addPeers s.kernel _ _).2 false false

/-! ### Dispatches and cycles -/

/-- A later state, and all that was written until then is accounted for. -/
def Accounted (a b : ConnKey) (ms : List Move) (s t : System) : Prop :=
  ∃ more, t = run (ms ++ more) s ∧ (t.isConnected b = true → Balanced a b (ms ++ more) s)

/-- Bytes are conserved. Of two connections that were the ends of one stream at
    some time, all that was written on one so far was read from the other or is
    queued there, as long as that is open; the next reader gets the front of
    what is queued, and nothing only once all was read, also after the writing
    end was closed.

    It stays so whatever callbacks do in a dispatch, which calls them with what
    it has read, and in a cycle, of any backend. A dispatch that is skipped
    consumes nothing, and neither does a cycle that does not dispatch the
    connection, unless the callbacks that it calls read from it themselves. -/
theorem stream_conserved (n : Nat) (before after : List Move) (a b : ConnKey)
    (hjoined : (run before (init n)).Joined a b)
    (hopen : (run (before ++ after) (init n)).isConnected b = true) :
    Balanced a b (before ++ after) (init n) ∧
    ∀ {π δ : Type} (check : Check π δ) (call : Handler δ) (w : World δ),
      w.sys = run (before ++ after) (init n) →
      (∀ c size, (w.dispatch call c size).2 = .skipped → (w.dispatch call c size).1 = w) ∧
      (call.Performs (fun _ => True) → ∀ c size x data,
        (w.sys.begin c size).2 = some (x, data) → ∃ more exit,
          (call x.callback data { w with sys := (w.sys.begin c size).1 }).1.sys =
            run (before ++ after ++ .begin c size :: more) (init n) ∧
          (w.dispatch call c size).1.sys =
            run (before ++ after ++ .begin c size :: (more ++ [.finish x exit])) (init n) ∧
          ((w.dispatch call c size).1.sys.isConnected b = true →
            Balanced a b (before ++ after ++ .begin c size :: (more ++ [.finish x exit]))
              (init n))) ∧
      (check.Performs (fun _ => True) → call.Performs (fun _ => True) → ∀ l x,
        Accounted a b (before ++ after) (init n) (w.runOnce check call l x).1.sys) ∧
      (check.Performs (fun m => m.spares b = true) →
        call.Performs (fun m => m.spares b = true) → ∀ l x, b ∉ w.served check call l x →
          (w.runOnce check call l x).1.sys.isConnected b = true →
          w.sys.queued b <+: (w.runOnce check call l x).1.sys.queued b) := by
  have hbalanced : ∀ more, (run (before ++ after ++ more) (init n)).isConnected b = true →
      Balanced a b (before ++ after ++ more) (init n) := by
    intro more hstill
    rw [List.append_assoc] at hstill ⊢
    exact balanced_run (wired_init n) (fun _ => rfl) hjoined hstill
  have hnow : Balanced a b (before ++ after) (init n) :=
    balanced_run (wired_init n) (fun _ => rfl) hjoined hopen
  refine ⟨hnow, fun check call w hw => ?_⟩
  have hreached : w.sys.Reached := ⟨n, before ++ after, hw⟩
  -- What moves lead to from here they lead to from the start.
  have hrun : ∀ more, run more w.sys = run (before ++ after ++ more) (init n) := by
    intro more
    rw [hw, ← run_append]
  refine ⟨fun c size h => ?_, fun hcall c size x data hbegin => ?_, fun hcheck hcall l x => ?_,
    fun hcheck hcall l x hserved hstill => ?_⟩
  · rw [World.dispatch_of_none ((World.skipped_iff call c size w).mp h)]
  · rcases World.dispatch_moves hcall hreached hbegin with ⟨more, exit, -, hcalled, hdone, -⟩
    rw [hrun] at hcalled hdone
    exact ⟨more, exit, hcalled, hdone, fun hstill => hbalanced _ (hdone ▸ hstill)⟩
  · have hcycle := World.nests_runOnce hcheck hcall (fun _ _ => trivial) l x hreached
      fun _ _ => trivial
    rcases hcycle.leads with ⟨more, -, hdone⟩
    rw [hrun] at hdone
    exact ⟨more, hdone, fun hstill => hbalanced more (hdone ▸ hstill)⟩
  · have hcyclic : ∀ m : Move, m.isCyclic = true → m.spares b = true := by
      intro m hm
      cases m <;>
        first
        | rfl
        | exact absurd hm Bool.false_ne_true
    have hcycle := World.nests_runOnce hcheck hcall hcyclic l x hreached fun c hc =>
      decide_eq_true fun heq => hserved (heq ▸ hc)
    rcases hcycle.leads with ⟨more, hspares, hdone⟩
    rw [hrun] at hdone
    rw [hdone] at hstill ⊢
    rw [hw]
    exact hnow.queued_prefix (hbalanced more hstill) hspares

/-- A payload larger than the buffer goes to the program, to a callback, and to
    a callback that panics, and its rest is still there after the writing end
    was closed. -/
theorem stream_conserved_pieces :
    let before : List Move := [.pair 10 11, .addNotifier .default, .write 0 [1, 2, 3]]
    let after : List Move := [.receive 1 1, .set 0 1 none, .begin 1 1, .write 0 [4, 5],
      .finish ⟨0, 1, 1, true⟩ .returned, .begin 1 1, .receive 1 1,
      .finish ⟨0, 1, 1, true⟩ .panicked, .begin 1 1, .close 0]
    (run before (init 0)).Joined 0 1 ∧
      (run (before ++ after) (init 0)).isConnected 1 = true ∧
      sent 0 (before ++ after) (init 0) = [1, 2, 3, 4, 5] ∧
      delivered 1 (before ++ after) (init 0) = [1, 2, 3, 4] ∧
      (run (before ++ after) (init 0)).queued 1 = [5] ∧
      Balanced 0 1 (before ++ after) (init 0) := by
  intro before after
  have hjoined : (run before (init 0)).Joined 0 1 := ⟨0, 1, by decide +kernel⟩
  have hopen : (run (before ++ after) (init 0)).isConnected 1 = true := by decide +kernel
  refine ⟨hjoined, hopen, ?_, ?_, ?_, (stream_conserved 0 before after 0 1 hjoined hopen).1⟩
  · decide +kernel
  · decide +kernel
  · decide +kernel

end System

end ReadNotify
