import ReadNotify.Proofs.Service.Listed
import ReadNotify.Proofs.Streams.Conservation

/-!
# Nobody Waits Too Long

A connection that can be read is served by a loop after a number of cycles that
depends on how many entries the registry has, how many are appended meanwhile and
how many the loop looks at, whatever else is registered, removed and closed, and
whichever of the two backends the loop asks.

The argument goes by cycles. As long as the connection has no turn it is in no
window, for if it were, the backend would report it, whatever the other members
are, and its turn would come. A window without it brings down the number of
windows it has to wait for, and nothing else puts that number up. So after as many
cycles as there were windows to wait for it has had its turn.

## Main definitions

* `Move.Around`: What others do beside a loop and its backend.
* `System.Waits`: A registered connection is alive, can be read and has a callback.
* `System.Until`: What holds until some move is made.
* `World.FirstTurn`: The first dispatch of a connection among some moves.

## Theorems

* `firstTurn_serveMoves`: Either there is no dispatch or there is a first one.
* `notMem_fillWindow`: Who has no turn in a cycle is not in its window.
* `length_lt_delay`: Without a turn there were fewer cycles than it had to wait for.
* `served_within`: The callback is called in time and gets what is queued.
-/

namespace ReadNotify

variable {δ : Type}

namespace Move

/-- Whether a move begins a dispatch of a connection. -/
def begins (c : ConnKey) : Move → Bool
  | begin d _ => d == c
  | _ => false

/-- What others do beside a loop that serves a registry and asks a backend with
    some interest set: they do not scan the registry, do not use the set, and do
    not dispatch the connection that waits. -/
structure Around (r : RegistryKey) (mine : Option InterestKey) (c : ConnKey) (m : Move) :
    Prop where
  scan : m.SparesScan r
  set : m.SparesSet mine
  turn : m.begins c = false

/-- A loop does not use the set of a backend but through its check. -/
theorem sparesSet_of_isServing {mine : Option InterestKey} {m : Move} (h : m.isServing = true) :
    m.SparesSet mine := by
  cases m <;> trivial

end Move

namespace Script

theorem Makes.mono {p q : Move → Prop} {f : Script δ} (h : f.Makes p) (hpq : ∀ m, p m → q m) :
    f.Makes q := ⟨fun k data w m hm => hpq m (h.allowed k data w m hm), h.kept⟩

end Script

/-- A backend asks, and scans nothing. -/
theorem Probe.makes_poller (r : RegistryKey) : (Probe.poller δ).Makes (Move.SparesScan r) :=
  fun _ _ _ _ _ hm => Move.sparesScan_of_isPlain (List.mem_singleton.mp hm ▸ rfl) r

namespace System

variable {s t : System} {q : System → Prop} {stop : Move → Bool}

/-- What holds in every state of a run until some move is made, the state in which
    it is made included. -/
def Until (q : System → Prop) (stop : Move → Bool) : List Move → System → Prop
  | [], s => q s
  | m :: ms, s => q s ∧ (stop m = true ∨ Until q stop ms (m.perform s))

instance decidableUntil (q : System → Prop) [DecidablePred q] (stop : Move → Bool) :
    (ms : List Move) → (s : System) → Decidable (Until q stop ms s)
  | [], s => inferInstanceAs (Decidable (q s))
  | m :: ms, s =>
    have : Decidable (Until q stop ms (m.perform s)) := decidableUntil q stop ms (m.perform s)
    inferInstanceAs (Decidable (q s ∧ (stop m = true ∨ Until q stop ms (m.perform s))))

/-- What holds until a move holds at first. -/
theorem Until.head {ms : List Move} (h : Until q stop ms s) : q s := by
  cases ms with
  | nil => exact h
  | cons m ms => exact h.1

/-- What holds until a move that is not made holds all along. -/
theorem Until.along {ms : List Move} (h : Until q stop ms s) (hnone : ∀ m ∈ ms, stop m = false) :
    Along q ms s := by
  induction ms generalizing s with
  | nil => exact h
  | cons m ms ih =>
      refine ⟨h.1, ih (h.2.resolve_left ?_) fun m' hm' => hnone m' (List.mem_cons_of_mem m hm')⟩
      rw [hnone m List.mem_cons_self]
      exact Bool.false_ne_true

/-- It holds where such a move is made for the first time. -/
theorem Until.at_first {before after : List Move} (h : Until q stop (before ++ after) s)
    (hnone : ∀ m ∈ before, stop m = false) : q (run before s) := by
  -- No move before it ends the wait.
  induction before generalizing s with
  | nil => exact h.head
  | cons m before ih =>
      refine ih (h.2.resolve_left ?_) fun m' hm' => hnone m' (List.mem_cons_of_mem m hm')
      rw [hnone m List.mem_cons_self]
      exact Bool.false_ne_true

/-- A connection is registered and alive, it is open and can be read, and there is
    a callback in its slot. -/
def Waits (r : RegistryKey) (c : ConnKey) (id : ConnId) (s : System) : Prop :=
  s.ident c = some id ∧ (s.registry r).get? s.alive id = some c ∧
    (s.isConnected c = true ∧ s.canRead c = true) ∧ (s.slot c).callback.isSome = true

instance (r : RegistryKey) (c : ConnKey) (id : ConnId) : DecidablePred (Waits r c id) := fun s =>
  inferInstanceAs (Decidable (s.ident c = some id ∧ (s.registry r).get? s.alive id = some c ∧
    (s.isConnected c = true ∧ s.canRead c = true) ∧ (s.slot c).callback.isSome = true))

/-- Whoever waits is found by the scan. -/
theorem Waits.finds {r : RegistryKey} {c : ConnKey} {id : ConnId} (h : Waits r c id s) :
    Finds r id s := by
  rw [Finds, Registry.lives, h.2.1]
  rfl

/-- Whoever waits can be read when a backend asks. -/
theorem Waits.readsNow {r : RegistryKey} {c : ConnKey} {id : ConnId} {mine : Option InterestKey}
    (h : Waits r c id s) (hnumbered : s.Numbered mine) : s.readsNow id = true := by
  rw [System.readsNow, hnumbered.find?_eq_some_iff.mpr h.1, Option.any_some, h.2.2.1.1, h.2.2.1.2]
  rfl

/-- What is in order in every state, once a program has set up a backend. -/
structure Serving (capacity : Nat) (r : RegistryKey) (s : System) (b : Poller) : Prop where
  attended : Attended capacity (s, b)
  listed : s.Listed r
  reached : s.Reached

variable {capacity : Nat} {r : RegistryKey} {b : Poller}

/-- Moves that spare the set of the backend leave everything in order. -/
theorem Serving.run (h : Serving capacity r s b) {ms : List Move}
    (hms : Move.ProperRun none ms s) (hset : ∀ m ∈ ms, m.SparesSet b.set?) :
    Serving capacity r (run ms s) b :=
  have hproper := Move.properRun_of_spares hms hset
  ⟨attended_moves h.attended hproper, listed_run h.listed h.attended.numbered hproper,
    h.reached.run ms⟩

/-- So does asking the backend about entries there are. -/
theorem Serving.asked (h : Serving capacity r s b) {window : List ConnId}
    (hmade : ∀ id ∈ window, (s.find? id).isSome = true) :
    Serving capacity r (s.checkPoller window b).1 (s.checkPoller window b).2.1 :=
  ⟨attended_asked h.attended hmade, listed_asked h.listed h.attended.numbered window b,
    h.reached.run [.checkPoller window b]⟩

/-- A history goes through states that a program can bring about. -/
theorem reached_history {moments : List Moment} {x : System × Poller} (h : x.1.Reached) :
    (Moment.history moments x).1.Reached := by
  induction moments generalizing x with
  | nil => exact h
  | cons moment rest ih =>
      cases moment with
      | passed m =>
          exact ih (h.run [m])
      | asked window =>
          exact ih (h.run [.checkPoller window x.2])

/-- Every history of a backend leads to such a state. -/
theorem serving_history {registries : Nat} {before : List Move} {kind : BackendKind} {k : Kernel}
    {p : Poller} {moments : List Moment} (hs : s = System.run before (init registries))
    (hbefore : Move.ProperRun none before (init registries))
    (hopen : Poller.create kind capacity s.kernel = (k, .ok p))
    (hproper : Moment.ProperHistory moments ({ s with kernel := k }, p)) (r : RegistryKey) :
    Serving capacity r (Moment.history moments ({ s with kernel := k }, p)).1
      (Moment.history moments ({ s with kernel := k }, p)).2 := by
  -- What holds when the backend is opened was brought about without it.
  have hnumbered := numbered_moves (numbered_init registries) hbefore
  have hlisted := listed_run (listed_init registries r) (numbered_init registries) hbefore
  rw [← hs] at hnumbered hlisted
  have hattended := attended_create hnumbered hopen
  have hstart : ({ s with kernel := k } : System).Listed r :=
    listed_of_eq hlisted rfl fun _ _ hid => hid
  have hreached : ({ s with kernel := k } : System).Reached := by
    refine (show s.Reached from ⟨registries, before, hs⟩).leads (p := fun _ => True)
      ⟨[.openPoller kind capacity], fun _ _ => trivial, ?_⟩
    rw [run_cons, Move.perform, hopen]
    rfl
  exact ⟨attended_history hattended hproper, listed_history hstart hattended hproper,
    reached_history hreached⟩

/-- In a state that a program can bring about an open connection hands its callback
    as much as was asked for and is queued. -/
theorem Reached.wired_fed (h : s.Reached) : s.Wired ∧ s.kernel.Fed := by
  rcases h with ⟨n, ms, rfl⟩
  -- The two go together, since what is queued moves along the wires.
  refine run_preserves (q := fun s => s.Wired ∧ s.kernel.Fed) (fun m _ u hu => ?_)
    ⟨wired_init n, fun q hq _ => ?_⟩
  · exact ⟨(follows_perform hu.1 m).1, fed_perform hu.1 hu.2 m⟩
  · exact Kernel.inbox_of_none rfl

/-- A dispatch of one who waits hands its callback what is queued. -/
theorem Waits.begin {c : ConnKey} {id : ConnId} (h : Waits r c id s) (hs : s.Reached)
    (size : Nat) : ∃ t : Taken, (s.slot c).callback = some t.callback ∧
      (s.begin c size).2 = some (t, (s.queued c).take size) := by
  rcases hs.wired_fed with ⟨hwired, hfed⟩
  have hopen := h.2.2.1.1
  rw [hwired.linked] at hopen
  rcases Option.isSome_iff_exists.mp hopen with ⟨q, hq⟩
  -- The slot is filled, so the dispatch begins.
  rcases begin_cases c size s with ⟨hnone, -⟩ | ⟨t, hslot, -, -, hanswer, -⟩
  · have hfilled := h.2.2.2
    rw [hnone] at hfilled
    exact absurd hfilled Bool.false_ne_true
  · rw [hands_of_fed hwired hfed hq (Or.inr ⟨t, hanswer⟩)] at hanswer
    exact ⟨t, hslot, hanswer⟩

end System

namespace World

variable {p : Move → Prop} {f : Script δ} {l : PollLoop} {c : ConnKey} {id : ConnId} {size : Nat}
  {w u : World δ} {ms ms' : List Move}

/-! ### The first turn -/

/-- Among some moves there is a dispatch of a connection that has a callback to
    call, and no move before it begins one. -/
def FirstTurn (f : Script δ) (c : ConnKey) (size : Nat) (ms : List Move) (w : World δ) : Prop :=
  ∃ before after, ∃ v : World δ, ms = before ++ (turnMoves f c size v ++ after) ∧
    v.sys = System.run before w.sys ∧ (∀ m ∈ before, m.begins c = false) ∧
    (v.sys.begin c size).2.isSome = true

/-- Either no move begins a dispatch of a connection or there is a first one. -/
def Turned (f : Script δ) (c : ConnKey) (size : Nat) (ms : List Move) (w : World δ) : Prop :=
  (∀ m ∈ ms, m.begins c = false) ∨ FirstTurn f c size ms w

/-- The first turn in two stretches is in the first of them, or else in the second. -/
theorem turned_append (h : Turned f c size ms w) (hu : u.sys = System.run ms w.sys)
    (h' : Turned f c size ms' u) : Turned f c size (ms ++ ms') w := by
  rcases h with hnone | ⟨before, after, v, rfl, hv, hbefore, hbegin⟩
  · rcases h' with hnone' | ⟨before, after, v, rfl, hv, hbefore, hbegin⟩
    · exact Or.inl fun m hm => (List.mem_append.mp hm).elim (hnone m) (hnone' m)
    · refine Or.inr ⟨ms ++ before, after, v, (List.append_assoc _ _ _).symm, ?_, ?_, hbegin⟩
      · rw [hv, hu, System.run_append]
      · exact fun m hm => (List.mem_append.mp hm).elim (hnone m) (hbefore m)
  · exact Or.inr ⟨before, after ++ ms', v, by simp only [List.append_assoc], hv, hbefore, hbegin⟩

/-- A turn is the first one, if it is the connection's, and is none of its turns
    otherwise. -/
theorem turned_turnMoves (hf : f.Makes p) (hp : ∀ m, p m → m.begins c = false) (d : ConnKey)
    (size : Nat) (w : World δ) : Turned f c size (w.turnMoves f d size) w := by
  rcases hbegin : w.sys.begin d size with ⟨s, _ | ⟨t, data⟩⟩
  · refine Or.inl fun m hm => ?_
    unfold turnMoves at hm
    rw [hbegin] at hm
    exact absurd hm List.not_mem_nil
  · by_cases hd : d = c
    · rw [hd] at hbegin ⊢
      exact Or.inr ⟨[], [], w, by rw [List.nil_append, List.append_nil], rfl,
        fun m hm => absurd hm List.not_mem_nil, by rw [hbegin, Option.isSome_some]⟩
    · -- It is somebody else's turn, and callbacks dispatch nobody.
      refine Or.inl fun m hm => ?_
      unfold turnMoves at hm
      rw [hbegin] at hm
      rcases List.mem_cons.mp hm with rfl | hm
      · exact beq_eq_false_iff_ne.mpr hd
      · rcases List.mem_append.mp hm with hm | hm
        · exact hp m (hf.allowed _ _ _ m hm)
        · rw [List.mem_singleton.mp hm]
          rfl

/-- So in the turns of all ready members there is a first one, or none. -/
theorem turned_readyMoves (hf : f.Makes p) (hp : ∀ m, p m → m.begins c = false) (l : PollLoop)
    (ready : List ConnId) (hw : w.sys.Reached) :
    Turned f c l.bufferSize (readyMoves f l ready w) w := by
  -- On the members that are left. What is no entry any more has no turn.
  induction ready generalizing w with
  | nil => exact Or.inl fun m hm => absurd hm List.not_mem_nil
  | cons id rest ih =>
      unfold readyMoves
      rcases w.sys.entry? l id with _ | d
      · exact ih hw
      · exact turned_append (turned_turnMoves hf hp d l.bufferSize w)
          (run_turnMoves hf d l.bufferSize hw) (ih (reached_dispatch hf d l.bufferSize hw))

/-- The world in which one of the two backends has answered a loop. -/
def asked (l : PollLoop) (b : Poller) (w : World δ) : World δ :=
  { w with sys := (((w.sys.fillWindow l).1.countCycle l).checkPoller (w.sys.fillWindow l).2 b).1 }

/-- What it has answered. -/
def reported (l : PollLoop) (b : Poller) (w : World δ) : Poller × List ConnId :=
  (((w.sys.fillWindow l).1.countCycle l).checkPoller (w.sys.fillWindow l).2 b).2

/-- A cycle with one of the two backends. -/
theorem cycleMoves_poller (f : Script δ) (l : PollLoop) (b : Poller) (w : World δ) :
    ((w.sys.fillWindow l).2 = [] ∧
      w.cycleMoves (Probe.poller δ) f l b = [.fillWindow l, .countCycle l] ∧
      (w.runOnce (Probe.poller δ).check f.handler l b).2.1 = b) ∨
    ∃ n, w.cycleMoves (Probe.poller δ) f l b =
        [.fillWindow l, .countCycle l, .checkPoller (w.sys.fillWindow l).2 b] ++
          (readyMoves f l (w.reported l b).2 (w.asked l b) ++ [.countDispatches l n]) ∧
      (w.runOnce (Probe.poller δ).check f.handler l b).2.1 = (w.reported l b).1 := by
  unfold cycleMoves servingMoves runOnce
  dsimp only
  by_cases hempty : (w.sys.fillWindow l).2 = []
  · rw [if_pos hempty, if_pos hempty]
    exact Or.inl ⟨hempty, rfl, rfl⟩
  · rw [if_neg hempty, if_neg hempty]
    exact Or.inr ⟨_, rfl, rfl⟩

/-- And in a whole cycle. -/
theorem turned_cycleMoves (hf : f.Makes p) (hp : ∀ m, p m → m.begins c = false) (l : PollLoop)
    (b : Poller) (hw : w.sys.Reached) :
    Turned f c l.bufferSize (w.cycleMoves (Probe.poller δ) f l b) w := by
  rcases cycleMoves_poller f l b w with ⟨-, heq, -⟩ | ⟨n, heq, -⟩
  · rw [heq]
    exact Or.inl (by simp [Move.begins])
  · have hasked : (w.asked l b).sys.Reached :=
      hw.run [.fillWindow l, .countCycle l, .checkPoller (w.sys.fillWindow l).2 b]
    rw [heq]
    -- Filling and asking begin no dispatch, and neither does counting.
    refine turned_append (u := w.asked l b) (Or.inl (by simp [Move.begins])) rfl ?_
    refine turned_append (turned_readyMoves hf hp l (w.reported l b).2 hasked)
      (run_readyMoves hf l (w.reported l b).2 hasked) (Or.inl ?_)
    simp [Move.begins]

/-- In all that happens while a loop serves, a connection is not dispatched, or for
    a first time. -/
theorem firstTurn_serveMoves (hf : f.Makes p) (hp : ∀ m, p m → m.begins c = false) (l : PollLoop)
    {pauses : List (Pause δ)} (hpauses : ∀ x ∈ pauses, ∀ m ∈ x.moves, p m) (b : Poller)
    (hw : w.sys.Reached) :
    Turned f c l.bufferSize (serveMoves (Probe.poller δ) f l pauses b w) w := by
  induction pauses generalizing b w with
  | nil => exact Or.inl fun m hm => absurd hm List.not_mem_nil
  | cons x rest ih =>
      have hpause : (w.pause x).sys.Reached := hw.run x.moves
      have hcycle := run_cycleMoves (g := Probe.poller δ) hf l b hpause
      have hreached := reached_runOnce (g := Probe.poller δ) hf l b hpause
      unfold serveMoves
      -- A pause, a cycle, and all that is behind them.
      refine turned_append (u := w.pause x)
        (Or.inl fun m hm => hp m (hpauses x List.mem_cons_self m hm)) rfl ?_
      exact turned_append (turned_cycleMoves hf hp l b hpause) hcycle
        (ih (fun y hy => hpauses y (List.mem_cons_of_mem x hy)) _ hreached)

/-! ### No cycle passes by -/

/-- Whoever waits and is among the ready members has a turn. -/
theorem begins_readyMoves (hf : f.Makes p) {ready : List ConnId} (hw : w.sys.Reached)
    (hid : id ∈ ready)
    (hwaits : System.Along (System.Waits l.registry c id) (readyMoves f l ready w) w.sys) :
    ∃ m ∈ readyMoves f l ready w, m.begins c = true := by
  -- Whoever has a turn before is somebody else, and the wait goes on behind it.
  induction ready generalizing w with
  | nil => exact absurd hid List.not_mem_nil
  | cons d rest ih =>
      have hentry : w.sys.entry? l id = some c := hwaits.head.2.1
      have hfilled := hwaits.head.begin hw l.bufferSize
      unfold readyMoves at hwaits ⊢
      by_cases hd : d = id
      · -- It is its turn now.
        rcases hfilled with ⟨t, -, hanswer⟩
        rw [hd, hentry]
        refine ⟨.begin c l.bufferSize, List.mem_append_left _ ?_, beq_self_eq_true c⟩
        rcases hbegin : w.sys.begin c l.bufferSize with ⟨s, answer⟩
        rw [hbegin] at hanswer
        unfold turnMoves
        rw [hbegin, show answer = _ from hanswer]
        exact List.mem_cons_self
      · have hrest : id ∈ rest := List.mem_of_ne_of_mem (Ne.symm hd) hid
        rcases hother : w.sys.entry? l d with _ | e
        · rw [hother] at hwaits
          exact ih hw hrest hwaits
        · rw [hother] at hwaits
          have hlater := (System.along_append.mp hwaits).2
          rw [← run_turnMoves hf e l.bufferSize hw] at hlater
          rcases ih (reached_dispatch hf e l.bufferSize hw) hrest hlater with ⟨m, hm, hbegins⟩
          exact ⟨m, List.mem_append_right _ hm, hbegins⟩

variable {capacity : Nat} {r : RegistryKey} {mine : Option InterestKey} {b : Poller}

/-- The state in which the backend is asked. -/
theorem serving_filled (h : System.Serving capacity r w.sys b) (l : PollLoop) :
    System.Serving capacity r ((w.sys.fillWindow l).1.countCycle l) b := by
  have hproper : Move.ProperRun none [.fillWindow l, .countCycle l] w.sys :=
    ⟨trivial, trivial, trivial⟩
  refine h.run hproper fun m hm => ?_
  simp only [List.mem_cons, List.not_mem_nil, or_false] at hm
  rcases hm with rfl | rfl
  · trivial
  · trivial

/-- The state in which the backend has answered. -/
theorem serving_asked (h : System.Serving capacity r w.sys b) (hl : l.registry = r) :
    System.Serving capacity r (w.asked l b).sys (w.reported l b).1 :=
  (serving_filled h l).asked (h.listed.window h.attended.numbered hl).1

/-- Who waits and has no turn in a cycle is not in its window. -/
theorem notMem_fillWindow (h : System.Serving capacity r w.sys b) (hl : l.registry = r)
    (hfits : l.capacity ≤ capacity) (hf : f.Makes p)
    (hwaits : System.Along (System.Waits r c id) (w.cycleMoves (Probe.poller δ) f l b) w.sys)
    (hnone : ∀ m ∈ w.cycleMoves (Probe.poller δ) f l b, m.begins c = false) :
    id ∉ (w.sys.fillWindow l).2 := by
  intro hid
  rcases cycleMoves_poller f l b w with ⟨hempty, -, -⟩ | ⟨n, heq, -⟩
  · rw [hempty] at hid
    exact absurd hid List.not_mem_nil
  · rw [heq] at hwaits hnone
    rcases System.along_append.mp hwaits with ⟨hbefore, hafter⟩
    have hlength := (h.listed.window h.attended.numbered hl).2
    have hattended := (serving_filled h l).attended
    -- When the backend is asked the connection can be read.
    have hready : id ∈ (w.reported l b).2 :=
      hattended.mem_checkPoller (Nat.le_trans hlength hfits) hid
        (hbefore.2.2.head.readsNow hattended.numbered)
    have hturns := (System.along_append.mp hafter).1
    rw [← hl] at hturns
    rcases begins_readyMoves hf (serving_asked h hl).reached hready hturns with ⟨m, hm, hbegins⟩
    rw [hnone m (List.mem_append_right _ (List.mem_append_left _ hm))] at hbegins
    exact Bool.false_ne_true hbegins

/-- A cycle leaves everything in order. -/
theorem serving_runOnce (h : System.Serving capacity r w.sys b) (hl : l.registry = r)
    (hf : f.Makes (Move.SparesSet b.set?))
    (hproper : Move.ProperRun none (w.cycleMoves (Probe.poller δ) f l b) w.sys) :
    System.Serving capacity r (w.runOnce (Probe.poller δ).check f.handler l b).1.sys
        (w.runOnce (Probe.poller δ).check f.handler l b).2.1 ∧
      (w.runOnce (Probe.poller δ).check f.handler l b).2.1.set? = b.set? := by
  rw [run_cycleMoves hf l b h.reached]
  -- An empty window leaves the backend alone.
  rcases cycleMoves_poller f l b w with ⟨-, heq, hafter⟩ | ⟨n, heq, hafter⟩
  · rw [heq, hafter]
    exact ⟨serving_filled h l, rfl⟩
  · have hset : (w.reported l b).1.set? = b.set? := System.set?_checkPoller _ b _
    rw [heq] at hproper ⊢
    rw [hafter, hset, System.run_append]
    refine ⟨(serving_asked h hl).run (Move.properRun_append.mp hproper).2 fun m hm => ?_, rfl⟩
    rw [hset]
    rcases List.mem_append.mp hm with hm | hm
    · exact (allowed_readyMoves hf l _ _ m hm).elim id Move.sparesSet_of_isServing
    · rw [List.mem_singleton.mp hm]
      trivial

/-- A cycle without a turn brings a connection that waits a window nearer. -/
theorem delay_runOnce (h : System.Serving capacity r w.sys b) (hl : l.registry = r)
    (hroom : 0 < l.capacity) (hfits : l.capacity ≤ capacity) (hf : f.Makes (Move.SparesScan r))
    (hwaits : System.Along (System.Waits r c id) (w.cycleMoves (Probe.poller δ) f l b) w.sys)
    (hnone : ∀ m ∈ w.cycleMoves (Probe.poller δ) f l b, m.begins c = false) (a : Nat) :
    ((w.runOnce (Probe.poller δ).check f.handler l b).1.sys.registry r).delay l.capacity a id <
      (w.sys.registry r).delay l.capacity
        (System.appends r (w.cycleMoves (Probe.poller δ) f l b) w.sys + a) id := by
  have hmissed := notMem_fillWindow h hl hfits hf hwaits hnone
  -- Callbacks and backends do not scan, and loops only when they fill a window.
  have hspares : ∀ m ∈ w.servingMoves (Probe.poller δ) f l b, m.SparesScan r := by
    intro m hm
    rcases allowed_servingMoves hf (Probe.makes_poller r) l b w m hm with hscan | hserving
    · exact hscan
    · exact System.sparesScan_of_isServing hserving r
  -- Behind the window the rest of the cycle puts nobody off.
  have hsound := h.listed.sound
  rw [← hl] at hsound
  rcases System.fills_fillWindow l hsound with ⟨left, hfill⟩
  rw [hl] at hfill hsound
  have hwindow := hfill.delay_lt hsound hroom
    (System.appends r (w.servingMoves (Probe.poller δ) f l b) (w.sys.fillWindow l).1 + a)
    hwaits.head.finds hmissed
  have hrest := System.delay_run hspares hfill.sound (hwaits.2.mono fun _ hwait => hwait.finds)
    l.capacity a
  rw [run_cycleMoves hf l b h.reached]
  refine Nat.lt_of_le_of_lt hrest (Nat.lt_of_lt_of_le hwindow (Registry.delay_mono ?_ _ _ _))
  rw [cycleMoves, System.appends, Nat.add_assoc]
  exact Nat.le_add_left _ _

/-- As long as a connection that waits has no turn there were fewer cycles than it
    had to wait for. -/
theorem length_lt_delay (hl : l.registry = r) (hroom : 0 < l.capacity)
    (hfits : l.capacity ≤ capacity) (hf : f.Makes (Move.Around r mine c))
    {pauses : List (Pause δ)} (hpauses : ∀ x ∈ pauses, ∀ m ∈ x.moves, m.Around r mine c)
    (h : System.Serving capacity r w.sys b) (hset : b.set? = mine)
    (hproper : Move.ProperRun none (serveMoves (Probe.poller δ) f l pauses b w) w.sys)
    (hwaits : System.Along (System.Waits r c id) (serveMoves (Probe.poller δ) f l pauses b w) w.sys)
    (hnone : ∀ m ∈ serveMoves (Probe.poller δ) f l pauses b w, m.begins c = false) :
    pauses.length < (w.sys.registry r).delay l.capacity
      (System.appends r (serveMoves (Probe.poller δ) f l pauses b w) w.sys) id := by
  -- The induction is on the cycles; each of them brings the connection a window nearer.
  induction pauses generalizing b w with
  | nil => exact Registry.delay_pos _ _ _ _
  | cons x rest ih =>
      have hx := hpauses x List.mem_cons_self
      unfold serveMoves at hproper hwaits hnone ⊢
      rcases Move.properRun_append.mp hproper with ⟨hproperPause, hproper⟩
      rcases Move.properRun_append.mp hproper with ⟨hproperCycle, hproperRest⟩
      rcases System.along_append.mp hwaits with ⟨hwaitsPause, hwaits⟩
      rcases System.along_append.mp hwaits with ⟨hwaitsCycle, hwaitsRest⟩
      have hpause : System.Serving capacity r (w.pause x).sys b :=
        h.run hproperPause fun m hm => hset ▸ (hx m hm).set
      have hcycle := run_cycleMoves (g := Probe.poller δ) hf l b hpause.reached
      rcases serving_runOnce hpause hl (hset ▸ hf.mono fun m hm => hm.set) hproperCycle with
        ⟨hafter, hsame⟩
      have hnearer := delay_runOnce hpause hl hroom hfits (hf.mono fun m hm => hm.scan) hwaitsCycle
        fun m hm => hnone m (List.mem_append_right _ (List.mem_append_left _ hm))
      have hnoneRest := fun m hm => hnone m (List.mem_append_right _ (List.mem_append_right _ hm))
      rw [System.appends_append, System.appends_append,
        show System.run x.moves w.sys = (w.pause x).sys from rfl, ← hcycle]
      rw [show System.run x.moves w.sys = (w.pause x).sys from rfl, ← hcycle]
        at hproperRest hwaitsRest
      rcases hrun : (w.pause x).runOnce (Probe.poller δ).check f.handler l b with ⟨y, b', n⟩
      rw [hrun] at hafter hsame hnearer hproperRest hwaitsRest hnoneRest hcycle
      -- The pause takes it no further away, and the cycle takes it nearer.
      have hlater := ih (fun z hz => hpauses z (List.mem_cons_of_mem x hz)) hafter
        (hsame.trans hset) hproperRest hwaitsRest hnoneRest
      have hfirst := System.delay_run (fun m hm => (hx m hm).scan) h.listed.sound
        (hwaitsPause.mono fun _ hwait => hwait.finds) l.capacity
        (System.appends r ((w.pause x).cycleMoves (Probe.poller δ) f l b) (w.pause x).sys +
          System.appends r (serveMoves (Probe.poller δ) f l rest b' y) y.sys)
      calc (x :: rest).length = rest.length + 1 := List.length_cons
        _ ≤ (y.sys.registry r).delay l.capacity
              (System.appends r (serveMoves (Probe.poller δ) f l rest b' y) y.sys) id := hlater
        _ < _ := hnearer _
        _ ≤ _ := hfirst

end World

/-- The loop that a configuration gives, if it gives one. -/
theorem PollLoop.ofConfig_eq {registry : RegistryKey} {counters : CountersKey} {capacity : Nat}
    {config : Config} {l : PollLoop}
    (h : PollLoop.ofConfig registry counters capacity config = .ok l) :
    l = ⟨registry, max (min config.window capacity) 1, config.bufferSize, config.pollTimeout,
      counters⟩ := by
  unfold PollLoop.ofConfig at h
  dsimp only at h
  split at h
  · exact absurd h (by simp)
  · exact (Except.ok.inj h).symm

/-- One of the two backends is opened in any state that a program can bring about
    and has any history from then on, and a loop with that backend serves a
    registry. A connection is registered with it, alive and open, can be read and
    has a callback, and all that stays so until it is dispatched. In between the
    program may do anything, between cycles and inside callbacks, but scan the
    registry, use the set of the backend or dispatch that connection. Then the
    callback is called within as many cycles as there are windows to see all
    entries, old and new, and one more; and its first call gets as much of what is
    queued as the loop has room for. -/
theorem served_within {registries capacity : Nat} {before : List Move} {s : System}
    (hs : s = System.run before (System.init registries))
    (hbefore : Move.ProperRun none before (System.init registries)) {kind : BackendKind}
    {k : Kernel} {p : Poller} (hopen : Poller.create kind capacity s.kernel = (k, .ok p))
    {moments : List Moment} (hproper : Moment.ProperHistory moments ({ s with kernel := k }, p))
    {w : World δ} {b : Poller}
    (hnow : (w.sys, b) = Moment.history moments ({ s with kernel := k }, p))
    {r : RegistryKey} {counters : CountersKey} {config : Config} {l : PollLoop}
    (hloop : PollLoop.ofConfig r counters capacity config = .ok l) (hwindow : 0 < config.window)
    (hcapacity : 0 < capacity) {f : Script δ} {pauses : List (Pause δ)} {c : ConnKey} {id : ConnId}
    (hf : f.Makes (Move.Around r b.set? c))
    (hpauses : ∀ x ∈ pauses, ∀ m ∈ x.moves, m.Around r b.set? c)
    (hservice : Move.ProperRun none (World.serveMoves (Probe.poller δ) f l pauses b w) w.sys)
    (hwaits : System.Until (System.Waits r c id) (Move.begins c)
      (World.serveMoves (Probe.poller δ) f l pauses b w) w.sys)
    (hlong : ((w.sys.registry r).size + System.appends r
        (World.serveMoves (Probe.poller δ) f l pauses b w) w.sys) ⌈/⌉
          min config.window capacity + 1 ≤ pauses.length) :
    (World.serve (Probe.poller δ) f l pauses b w).1.sys =
        System.run (World.serveMoves (Probe.poller δ) f l pauses b w) w.sys ∧
      ∃ earlier later, ∃ v : World δ, ∃ t : Taken,
        World.serveMoves (Probe.poller δ) f l pauses b w =
          earlier ++ (World.turnMoves f c config.bufferSize v ++ later) ∧
        v.sys = System.run earlier w.sys ∧ (∀ m ∈ earlier, m.begins c = false) ∧
        (v.sys.slot c).callback = some t.callback ∧
        (v.sys.begin c config.bufferSize).2 =
          some (t, (v.sys.queued c).take config.bufferSize) := by
  have hserving : System.Serving capacity r w.sys b := by
    have hhistory := System.serving_history hs hbefore hopen hproper r
    rw [← hnow] at hhistory
    exact hhistory
  have hl := PollLoop.ofConfig_eq hloop
  have hregistry : l.registry = r := congrArg PollLoop.registry hl
  -- The room of the loop is what was asked for, cut to what the backend takes.
  have hsize : l.capacity = min config.window capacity := by
    have hmax : l.capacity = max (min config.window capacity) 1 := congrArg PollLoop.capacity hl
    omega
  have hbuffer : l.bufferSize = config.bufferSize := congrArg PollLoop.bufferSize hl
  refine ⟨World.run_serveMoves hf l pauses b hserving.reached, ?_⟩
  rcases World.firstTurn_serveMoves hf (fun m hm => hm.turn) l hpauses b hserving.reached with
    hnone | ⟨earlier, later, v, heq, hv, hearlier, -⟩
  · -- Without a turn it would have waited longer than it can.
    have hshort := World.length_lt_delay hregistry (by omega) (by omega) hf hpauses hserving rfl
      hservice (hwaits.along hnone) hnone
    have hbound := hserving.listed.sound.delay_le (w := l.capacity) (by omega)
      (System.appends r (World.serveMoves (Probe.poller δ) f l pauses b w) w.sys)
      (hserving.listed.sound.mem_of_lives hwaits.head.finds)
    rw [hsize] at hshort hbound
    exact absurd hlong (by omega)
  · -- Up to its first turn it was waiting.
    have hthen : System.Waits r c id v.sys := by
      rw [heq] at hwaits
      rw [hv]
      exact hwaits.at_first hearlier
    have hreached : v.sys.Reached := by
      rw [hv]
      exact hserving.reached.run earlier
    rcases hthen.begin hreached config.bufferSize with ⟨t, hslot, hanswer⟩
    exact ⟨earlier, later, v, t, hbuffer ▸ heq, hv, hearlier, hslot, hanswer⟩

/-- Whether a move is proper whenever it is made. -/
def Move.isFree : Move → Bool
  | .pair .. | .onRegistry .. | .keepPoller .. => false
  | _ => true

/-- Moves that are proper at any time are proper in order. -/
theorem Move.properRun_of_isFree {ms : List Move} (h : ∀ m ∈ ms, m.isFree = true) (s : System) :
    ProperRun none ms s := by
  induction ms generalizing s with
  | nil => trivial
  | cons m rest ih =>
      refine ⟨?_, ih (fun m' hm' => h m' (List.mem_cons_of_mem m hm')) (m.perform s)⟩
      have hm := h m List.mem_cons_self
      cases m with
      | pair fdA fdB => exact absurd hm Bool.false_ne_true
      | onRegistry r f => exact absurd hm Bool.false_ne_true
      | keepPoller j p => exact absurd hm Bool.false_ne_true
      | releasePoller p => exact fun d _ => by simp
      | checkPoller window p => exact fun d _ => by simp
      | _ => trivial

/-- A loop looks at two of three connections at once, and the first of them has just
    been passed. Another one is appended, and the callback of the third closes the
    second. -/
theorem served_within_churn :
    let before : List Move := [.freshPair, .freshPair, .freshPair, .attach 0 0 none,
      .attach 2 0 none, .attach 4 0 none, .write 1 [1, 2, 3], .write 5 [4]]
    let s := System.run before (System.init 1)
    let config : Config := { Config.default with window := 2, bufferSize := 2 }
    let l : PollLoop := ⟨0, 2, 2, config.pollTimeout, 0⟩
    let start := ({ s with kernel := (Poller.create .epoll 2 s.kernel).1 },
      Poller.epoll ⟨0, [], 2⟩)
    let now := Moment.history [.passed (.fillWindow l)] start
    let w : World Unit := ⟨now.1, ()⟩
    let f : Script Unit := ⟨fun k _ _ => if k = 2 then [.close 2] else [], fun _ _ _ => (),
      fun _ _ _ => .returned⟩
    let pauses : List (Pause Unit) := [⟨[.attach 1 0 none], ()⟩, ⟨[], ()⟩, ⟨[], ()⟩]
    let trace := World.serveMoves (Probe.poller Unit) f l pauses now.2 w
    (w.sys.registry 0).size = 3 ∧ (w.sys.registry 0).cursor = 2 ∧ System.appends 0 trace w.sys = 1 ∧
      ∃ earlier later, ∃ v : World Unit, ∃ t : Taken,
        trace = earlier ++ (World.turnMoves f 0 2 v ++ later) ∧ v.sys = System.run earlier w.sys ∧
        (∀ m ∈ earlier, m.begins 0 = false) ∧ (v.sys.slot 0).callback = some t.callback ∧
        (v.sys.begin 0 2).2 = some (t, (v.sys.queued 0).take 2) := by
  intro before s config l start now w f pauses trace
  have hbefore : Move.ProperRun none before (System.init 1) :=
    Move.properRun_of_isFree (by decide) _
  have hopen : Poller.create .epoll 2 s.kernel =
      ((Poller.create .epoll 2 s.kernel).1, .ok (.epoll ⟨0, [], 2⟩)) :=
    Prod.ext rfl (by decide +kernel)
  have hplain : ∀ m : Move, m.isPlain = true → m.SparesSet (some 0) → m.begins 0 = false →
      m.Around 0 (some 0) 0 := fun m hm hset hturn =>
    ⟨Move.sparesScan_of_isPlain hm 0, hset, hturn⟩
  have hproper : Moment.ProperHistory [.passed (.fillWindow l)] start := ⟨trivial, trivial⟩
  have hf : f.Makes (Move.Around 0 now.2.set? 0) := by
    refine Script.makes_of_allowed fun k data w m hm => ?_
    rw [show f.moves k data w = if k = 2 then [.close 2] else [] from rfl] at hm
    split at hm
    · rw [List.mem_singleton.mp hm]
      exact ⟨hplain _ rfl trivial rfl, rfl⟩
    · exact absurd hm List.not_mem_nil
  have hpauses : ∀ x ∈ pauses, ∀ m ∈ x.moves, m.Around 0 now.2.set? 0 := by
    intro x hx m hm
    simp only [pauses, List.mem_cons, List.not_mem_nil, or_false] at hx
    rcases hx with rfl | rfl | rfl
    · rw [List.mem_singleton.mp hm]
      exact hplain _ rfl trivial rfl
    · exact absurd hm List.not_mem_nil
    · exact absurd hm List.not_mem_nil
  have hservice : Move.ProperRun none trace w.sys :=
    Move.properRun_of_isFree (by decide +kernel) _
  have hwaits : System.Until (System.Waits 0 0 ⟨1, 3⟩) (Move.begins 0) trace w.sys := by
    decide +kernel
  have hsize : (w.sys.registry 0).size = 3 := by decide +kernel
  have happends : System.appends 0 trace w.sys = 1 := by decide +kernel
  have hlong : ((w.sys.registry 0).size + System.appends 0 trace w.sys) ⌈/⌉
      min config.window 2 + 1 ≤ pauses.length := by
    rw [hsize, happends]
    decide
  refine ⟨hsize, by decide +kernel, happends, ?_⟩
  exact (served_within (s := s) rfl hbefore hopen hproper (w := w) (b := now.2) rfl
    (l := l) rfl (by decide) (by decide) hf hpauses hservice hwaits hlong).2

end ReadNotify
