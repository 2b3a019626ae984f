import Mathlib.Data.List.Permutation
import ReadNotify.Proofs.Service.Churn
import ReadNotify.Proofs.Service.Scripts

/-!
# Connections Are Served in Turn

Two connections that stay registered and alive are served alternately. It does
not matter what else happens in between: others may be registered, removed,
registered again or die, between cycles, while the backend is asked and inside
callbacks.

The queue of the registry, cut down to the two, is a list of two elements. A
window takes none of them, the first or both, and what it takes goes to the end,
so the next window finds the same two in the order in which they are due. All
other moves leave the two where they are. The windows one after the other, cut
down to the two, are therefore `a`, `b`, `a`, `b` and so on, which is
`filter_windows`.

## Main definitions

* `alternating`: Two things in turn, some number of times.
* `Alternate`: Between two turns of one there is exactly one turn of the other.
* `Move.SparesScan`: Moves that have nothing to do with scanning a registry.
* `System.InTurn`: What is said of the windows of a stretch of a run.

## Theorems

* `filter_windows`: Two connections that stay have alternating turns.
* `windows_in_turn`: Every stretch of every run serves connections in turn.
-/

namespace ReadNotify

/-! ### Alternation -/

/-- Two things in turn, `n` of them in all. -/
def alternating {α : Type} (a b : α) : Nat → List α
  | 0 => []
  | n + 1 => a :: alternating b a n

/-- Between two consecutive turns of `x` there is exactly one turn of `y`. -/
def Alternate (x y : ConnId) (turns : List ConnId) : Prop :=
  ∀ u v w, turns = u ++ x :: v ++ x :: w → x ∉ v → v.count y = 1

/-- What follows one of two things in turn begins with the other. -/
theorem alternating_split {α : Type} {a b c : α} {n : Nat} {u t : List α}
    (h : alternating a b n = u ++ c :: t) :
    (c = a ∧ ∃ m, t = alternating b a m) ∨ (c = b ∧ ∃ m, t = alternating a b m) := by
  induction u generalizing a b n with
  | nil =>
      cases n with
      | zero => exact absurd h (List.cons_ne_nil c t).symm
      | succ n =>
          rcases List.cons.inj h with ⟨rfl, rfl⟩
          exact Or.inl ⟨rfl, n, rfl⟩
  | cons d u ih =>
      cases n with
      | zero => exact absurd h (List.cons_ne_nil d (u ++ c :: t)).symm
      | succ n => exact (ih (List.cons.inj h).2).symm

/-- Between two occurrences of one of two things in turn, without a third in
    between, there is just the other. -/
theorem between_alternating {α : Type} {x y : α} {n : Nat} {v w : List α} (hne : x ≠ y)
    (h : alternating y x n = v ++ x :: w) (hv : x ∉ v) : v = [y] := by
  rcases v with _ | ⟨d, v⟩
  · rcases n with _ | n
    · exact absurd h (List.cons_ne_nil x w).symm
    · exact absurd (List.cons.inj h).1.symm hne
  · rcases n with _ | n
    · exact absurd h (List.cons_ne_nil d (v ++ x :: w)).symm
    · rcases List.cons.inj h with ⟨rfl, hrest⟩
      -- After one of the other the first comes again.
      rcases v with _ | ⟨e, v⟩
      · rfl
      · rcases n with _ | n
        · exact absurd hrest (List.cons_ne_nil e (v ++ x :: w)).symm
        · refine absurd ?_ hv
          rw [(List.cons.inj hrest).1]
          exact List.mem_cons_of_mem _ List.mem_cons_self

/-- Whether an identity is one of two. -/
def isEither (x y id : ConnId) : Bool := id == x || id == y

theorem isEither_iff (x y id : ConnId) : isEither x y id = true ↔ id = x ∨ id = y := by
  rw [isEither, Bool.or_eq_true, beq_iff_eq, beq_iff_eq]

theorem alternate_of_filter {x y : ConnId} (hne : x ≠ y) {turns : List ConnId} {n : Nat}
    (h : turns.filter (isEither x y) = alternating x y n ∨
      turns.filter (isEither x y) = alternating y x n) : Alternate x y turns := by
  intro u v w hturns hv
  have hx : isEither x y x = true := (isEither_iff x y x).mpr (Or.inl rfl)
  have hsplit : turns.filter (isEither x y) = u.filter (isEither x y) ++
      x :: (v.filter (isEither x y) ++ x :: w.filter (isEither x y)) := by
    rw [hturns, List.filter_append, List.filter_append, List.filter_cons_of_pos hx,
      List.filter_cons_of_pos hx, List.append_assoc, List.cons_append]
  have hv' : x ∉ v.filter (isEither x y) := fun hmem => hv (List.mem_of_mem_filter hmem)
  -- Whoever comes first, after `x` it is the turn of `y`.
  have hfrom : ∃ m, v.filter (isEither x y) ++ x :: w.filter (isEither x y) =
      alternating y x m := by
    rcases h with h | h <;> rcases alternating_split (h.symm.trans hsplit) with ⟨hc, m⟩ | ⟨hc, m⟩
    · exact m
    · exact absurd hc hne
    · exact absurd hc hne
    · exact m
  rcases hfrom with ⟨m, hm⟩
  have hbetween : v.filter (isEither x y) = [y] := between_alternating hne hm.symm hv'
  have hy : isEither x y y = true := (isEither_iff x y y).mpr (Or.inr rfl)
  rw [← List.count_filter hy, hbetween, List.count_singleton_self]

/-- Two elements of a list without repetition, in the order in which they are
    in it. -/
theorem filter_isEither {x y : ConnId} (hne : x ≠ y) {ids : List ConnId} (hnodup : ids.Nodup)
    (hx : x ∈ ids) (hy : y ∈ ids) :
    ids.filter (isEither x y) = [x, y] ∨ ids.filter (isEither x y) = [y, x] := by
  have hpair : [x, y].Nodup := by
    rw [List.nodup_cons, List.mem_singleton]
    exact ⟨hne, List.nodup_singleton y⟩
  refine List.perm_pair.mp ((List.perm_ext_iff_of_nodup (hnodup.filter _) hpair).mpr fun id => ?_)
  rw [List.mem_filter, isEither_iff, List.mem_cons, List.mem_singleton, and_iff_right_iff_imp]
  rintro (rfl | rfl)
  · exact hx
  · exact hy

namespace System

variable {s : System} {r : RegistryKey} {x y : ConnId}

/-- A look-up in a registry finds an identity: it is registered and alive. -/
def Finds (r : RegistryKey) (id : ConnId) (s : System) : Prop :=
  (s.registry r).lives s.alive id = true

instance (r : RegistryKey) (id : ConnId) : DecidablePred (Finds r id) := fun s =>
  inferInstanceAs (Decidable ((s.registry r).lives s.alive id = true))

/-! ### Turns -/

theorem sound_perform {m : Move} (hm : m.LeavesScan r) (hs : (s.registry r).Sound) :
    ((m.perform s).registry r).Sound := by
  rcases hwindow : m.window? r s with _ | window
  · rcases churns_perform hm hwindow hs with ⟨new, -, hchurn⟩
    exact hchurn.sound
  · rcases fills_perform hwindow hs with ⟨n, left, hfill⟩
    exact hfill.sound

theorem sound_run {ms : List Move} (hms : ∀ m ∈ ms, m.LeavesScan r)
    (hs : (s.registry r).Sound) : ((run ms s).registry r).Sound :=
  run_preserves (q := fun s => (s.registry r).Sound) (fun m hm _ => sound_perform (hms m hm)) hs

theorem nodup_of_mem_windows {ms : List Move} (hms : ∀ m ∈ ms, m.LeavesScan r)
    (hs : (s.registry r).Sound) {window : List ConnId} (h : window ∈ windows r ms s) :
    window.Nodup := by
  induction ms generalizing s with
  | nil => exact absurd h List.not_mem_nil
  | cons m ms ih =>
      rw [windows, List.mem_append, Option.mem_toList] at h
      rcases h with h | h
      · rcases fills_perform h hs with ⟨n, left, hfill⟩
        exact hfill.nodup hs
      · exact ih (fun m' hm' => hms m' (List.mem_cons_of_mem m hm'))
          (sound_perform (hms m List.mem_cons_self) hs) h

/-- Two connections that stay registered and alive have alternating turns,
    beginning with the one that is due. -/
theorem filter_windows {a b : ConnId} {ms : List Move} (hms : ∀ m ∈ ms, m.LeavesScan r)
    (hs : (s.registry r).Sound) (hx : Along (Finds r x) ms s) (hy : Along (Finds r y) ms s)
    (hdue : (s.registry r).queue.filter (isEither x y) = [a, b]) :
    ∃ n, (windows r ms s).flatten.filter (isEither x y) = alternating a b n := by
  -- The induction is on the run; the two that are due are exchanged along it.
  induction ms generalizing s a b with
  | nil => exact ⟨0, rfl⟩
  | cons m ms ih =>
      have hsound := sound_perform (hms m List.mem_cons_self) hs
      have hrest := fun m' hm' => hms m' (List.mem_cons_of_mem m hm')
      have hfinds : ∀ id, isEither x y id = true → (s.registry r).lives s.alive id = true ∧
          id ∈ ((m.perform s).registry r).order := by
        intro id hid
        rcases (isEither_iff x y id).mp hid with rfl | rfl
        · exact ⟨hx.1, hsound.mem_of_lives hx.2.head⟩
        · exact ⟨hy.1, hsound.mem_of_lives hy.2.head⟩
      rw [windows]
      rcases hwindow : m.window? r s with _ | window
      · -- Everybody stays in place, so the same two are due.
        rcases churns_perform (hms m List.mem_cons_self) hwindow hs with ⟨new, -, hchurn⟩
        have hsame := hchurn.filter_queue hs (fun id hid => hs.mem_of_lives (hfinds id hid).1)
          fun id hid => (hfinds id hid).2
        exact ih hrest hsound hx.2 hy.2 (hsame.trans hdue)
      · rcases fills_perform hwindow hs with ⟨n, left, hfill⟩
        rcases hfill.filter_queue fun id hid => (hfinds id hid).1 with ⟨rest, hfront, hback⟩
        rw [hdue] at hfront
        simp only [Option.toList_some, List.singleton_append, List.flatten_cons,
          List.filter_append]
        -- The window has taken nobody, the first or both.
        rcases hw : window.filter (isEither x y) with _ | ⟨c, taken⟩
        · rw [hw, List.nil_append] at hfront
          rw [hw, List.append_nil, ← hfront] at hback
          rw [List.nil_append]
          exact ih hrest hsound hx.2 hy.2 hback
        · rw [hw, List.cons_append] at hfront
          rcases List.cons.inj hfront with ⟨rfl, htail⟩
          rcases taken with _ | ⟨d, taken⟩
          · rw [List.nil_append] at htail
            rw [hw, ← htail] at hback
            rcases ih hrest hsound hx.2 hy.2 hback with ⟨k, hk⟩
            exact ⟨k + 1, by rw [hk]; rfl⟩
          · rw [List.cons_append] at htail
            rcases List.cons.inj htail with ⟨rfl, hnil⟩
            rcases List.append_eq_nil_iff.mp hnil.symm with ⟨rfl, rfl⟩
            rw [hw, List.nil_append] at hback
            rcases ih hrest hsound hx.2 hy.2 hback with ⟨k, hk⟩
            exact ⟨k + 2, by rw [hk]; rfl⟩

theorem alternate_windows {ms : List Move} (hms : ∀ m ∈ ms, m.LeavesScan r)
    (hs : (s.registry r).Sound) (hne : x ≠ y) (hx : Along (Finds r x) ms s)
    (hy : Along (Finds r y) ms s) : Alternate x y (windows r ms s).flatten := by
  have hmem : ∀ id, Finds r id s → id ∈ (s.registry r).queue := fun id hid =>
    (Registry.mem_queue_iff _ id).mpr (hs.mem_of_lives hid)
  -- One of the two is due first.
  rcases filter_isEither hne hs.nodup_queue (hmem x hx.head) (hmem y hy.head) with hdue | hdue
  · rcases filter_windows hms hs hx hy hdue with ⟨n, hn⟩
    exact alternate_of_filter hne (Or.inl hn)
  · rcases filter_windows hms hs hx hy hdue with ⟨n, hn⟩
    exact alternate_of_filter hne (Or.inr hn)

/-- What is said of the windows of a stretch of a run: none has anybody in it
    twice, and any two connections that are found all along have their turns
    alternately. So nobody has a second turn before everybody else who stays
    has had one. -/
structure InTurn (r : RegistryKey) (ms : List Move) (s : System) : Prop where
  nodup : ∀ window ∈ windows r ms s, window.Nodup
  alternate : ∀ x y, x ≠ y → Along (Finds r x) ms s → Along (Finds r y) ms s →
    Alternate x y (windows r ms s).flatten

theorem inTurn_of_sound {ms : List Move} (hms : ∀ m ∈ ms, m.LeavesScan r)
    (hs : (s.registry r).Sound) : InTurn r ms s :=
  ⟨fun _ hwindow => nodup_of_mem_windows hms hs hwindow,
    fun _ _ hne hx hy => alternate_windows hms hs hne hx hy⟩

/-! ### Cycles -/

theorem sparesScan_of_isServing {m : Move} (h : m.isServing = true) (r : RegistryKey) :
    m.SparesScan r := by
  refine Move.sparesScan_of_isPlain ?_ r
  cases m <;>
    first
    | rfl
    | exact absurd h Bool.false_ne_true

variable {π δ : Type} {g : Probe π δ} {f : Script δ}

/-- If nobody else scans the registry of a loop, a cycle takes one window. -/
theorem windows_cycleMoves (hg : g.Makes (Move.SparesScan r)) (hf : f.Makes (Move.SparesScan r))
    {l : PollLoop} (hl : l.registry = r) (b : π) (w : World δ) :
    windows r (w.cycleMoves g f l b) w.sys = [(w.sys.fillWindow l).2] := by
  have hrest : ∀ m ∈ w.servingMoves g f l b, m.SparesScan r := by
    intro m hm
    rcases World.allowed_servingMoves hf hg l b w m hm with hspares | hserving
    · exact hspares
    · exact sparesScan_of_isServing hserving r
  rw [World.cycleMoves, windows, windows_of_spares hrest, Move.window?, if_pos hl]
  rfl

/-- Nor does anything in a cycle move the scan but that. -/
theorem leavesScan_cycleMoves (hg : g.Makes (Move.SparesScan r))
    (hf : f.Makes (Move.SparesScan r)) (l : PollLoop) (b : π) (w : World δ) :
    ∀ m ∈ w.cycleMoves g f l b, m.LeavesScan r := by
  intro m hm
  rcases List.mem_cons.mp hm with rfl | hm
  · trivial
  · rcases World.allowed_servingMoves hf hg l b w m hm with hspares | hserving
    · exact hspares.1
    · exact (sparesScan_of_isServing hserving r).1

theorem windows_serveMoves (hg : g.Makes (Move.SparesScan r)) (hf : f.Makes (Move.SparesScan r))
    {l : PollLoop} (hl : l.registry = r) {pauses : List (Pause δ)}
    (hpauses : ∀ x ∈ pauses, ∀ m ∈ x.moves, m.SparesScan r) (b : π) {w : World δ}
    (hw : w.sys.Reached) :
    windows r (World.serveMoves g f l pauses b w) w.sys = World.serveWindows g f l pauses b w ∧
      ∀ m ∈ World.serveMoves g f l pauses b w, m.LeavesScan r := by
  induction pauses generalizing b w with
  | nil => exact ⟨rfl, fun m hm => absurd hm List.not_mem_nil⟩
  | cons x rest ih =>
      have hx := hpauses x List.mem_cons_self
      have hpause : (w.pause x).sys.Reached := hw.run x.moves
      have hcycle := World.run_cycleMoves (g := g) hf l b hpause
      rcases ih (fun y hy => hpauses y (List.mem_cons_of_mem x hy))
        ((w.pause x).runOnce g.check f.handler l b).2.1 (World.reached_runOnce hf l b hpause) with
        ⟨hwindows, hleaves⟩
      unfold World.serveMoves World.serveWindows
      dsimp only
      constructor
      · rw [windows_append, windows_of_spares hx, List.nil_append, windows_append,
          ← show (w.pause x).sys = run x.moves w.sys from rfl, windows_cycleMoves hg hf hl,
          ← hcycle, hwindows]
        rfl
      · intro m hm
        rcases List.mem_append.mp hm with hm | hm
        · exact (hx m hm).1
        · rcases List.mem_append.mp hm with hm | hm
          · exact leavesScan_cycleMoves hg hf l b _ m hm
          · exact hleaves m hm

/-- Whatever happens, every stretch of a run serves the connections of a
    registry in turn, as far as they stay registered and alive, if its scan is
    left to loops. That holds for the cycles of one loop in particular, with
    any backend, any callbacks and anything done between cycles, if none of
    these scans the registry itself: the windows are then those of the cycles. -/
theorem windows_in_turn (n : Nat) (r : RegistryKey) (ms : List Move)
    (hms : ∀ m ∈ ms, m.LeavesScan r) :
    (∀ before during after, ms = before ++ (during ++ after) →
      InTurn r during (run before (init n))) ∧
    ∀ {π δ : Type} (g : Probe π δ) (f : Script δ) (l : PollLoop) (pauses : List (Pause δ)) (b : π)
      (w : World δ), l.registry = r → g.Makes (Move.SparesScan r) →
      f.Makes (Move.SparesScan r) → (∀ x ∈ pauses, ∀ m ∈ x.moves, m.SparesScan r) →
      w.sys = run ms (init n) →
      (World.serve g f l pauses b w).1.sys = run (World.serveMoves g f l pauses b w) w.sys ∧
      windows r (World.serveMoves g f l pauses b w) w.sys =
        World.serveWindows g f l pauses b w ∧
      ∀ before during after, World.serveMoves g f l pauses b w = before ++ (during ++ after) →
        InTurn r during (run before w.sys) := by
  have hinit : ((init n).registry r).Sound := (coherent_init n).sound r
  -- A stretch begins in a state that moves have led to.
  have hstretch : ∀ (trace : List Move) (s : System), (∀ m ∈ trace, m.LeavesScan r) →
      (s.registry r).Sound → ∀ before during after, trace = before ++ (during ++ after) →
        InTurn r during (run before s) := by
    rintro trace s htrace hs before during after rfl
    refine inTurn_of_sound (fun m hm => ?_) (sound_run (fun m hm => ?_) hs)
    · exact htrace m (List.mem_append_right _ (List.mem_append_left _ hm))
    · exact htrace m (List.mem_append_left _ hm)
  refine ⟨hstretch ms (init n) hms hinit, ?_⟩
  intro π δ g f l pauses b w hl hg hf hpauses hw
  have hreached : w.sys.Reached := ⟨n, ms, hw⟩
  rcases windows_serveMoves hg hf hl hpauses b hreached with ⟨hwindows, hleaves⟩
  refine ⟨World.run_serveMoves hf l pauses b hreached, hwindows, hstretch _ _ hleaves ?_⟩
  rw [hw]
  exact sound_run hms hinit

/-- A loop looks at two of three connections at once. The first callback that is
    called closes the connection that shares the window, so the third one is
    next, and after that the first. -/
theorem windows_in_turn_closing :
    let ms : List Move := [.pair 10 11, .pair 12 13, .pair 14 15, .attach 0 0 none,
      .attach 2 0 none, .attach 4 0 none, .write 1 [97]]
    let l : PollLoop := ⟨0, 2, 8, Config.default.pollTimeout, 0⟩
    let f : Script Unit := ⟨fun _ _ _ => [.close 2], fun _ _ _ => (), fun _ _ _ => .returned⟩
    let w : World Unit := ⟨run ms (init 1), ()⟩
    let pauses : List (Pause Unit) := [⟨[], ()⟩, ⟨[], ()⟩, ⟨[], ()⟩]
    let trace := World.serveMoves (Probe.poller Unit) f l pauses (.pollSet ⟨2⟩) w
    (∀ m ∈ ms, m.LeavesScan 0) ∧ (Probe.poller Unit).Makes (Move.SparesScan 0) ∧
      f.Makes (Move.SparesScan 0) ∧
      World.serveWindows (Probe.poller Unit) f l pauses (.pollSet ⟨2⟩) w =
        [[⟨1, 10⟩, ⟨3, 12⟩], [⟨5, 14⟩], [⟨1, 10⟩, ⟨5, 14⟩]] ∧
      Along (Finds 0 ⟨1, 10⟩) trace w.sys ∧ Along (Finds 0 ⟨5, 14⟩) trace w.sys ∧
      Alternate ⟨1, 10⟩ ⟨5, 14⟩ (windows 0 trace w.sys).flatten := by
  intro ms l f w pauses trace
  have hplain : ∀ m ∈ ms, m.isPlain = true := by decide
  have hms : ∀ m ∈ ms, m.LeavesScan 0 := fun m hm => (Move.sparesScan_of_isPlain (hplain m hm) 0).1
  have hg : (Probe.poller Unit).Makes (Move.SparesScan 0) := by
    intro window timeout b w m hm
    exact Move.sparesScan_of_isPlain (List.mem_singleton.mp hm ▸ rfl) 0
  have hf : f.Makes (Move.SparesScan 0) := by
    refine Script.makes_of_allowed fun k data w m hm => ?_
    rw [List.mem_singleton.mp hm]
    exact ⟨Move.sparesScan_of_isPlain rfl 0, rfl⟩
  have hpauses : ∀ x ∈ pauses, ∀ m ∈ x.moves, m.SparesScan 0 := by
    intro x hx m hm
    simp only [pauses, List.mem_cons, List.not_mem_nil, or_false, or_self] at hx
    rw [hx] at hm
    exact absurd hm List.not_mem_nil
  have hturn := ((windows_in_turn 1 0 ms hms).2 (Probe.poller Unit) f l pauses (.pollSet ⟨2⟩) w
    rfl hg hf hpauses rfl).2.2 [] trace [] (List.append_nil trace).symm
  have hx : Along (Finds 0 ⟨1, 10⟩) trace w.sys := by decide +kernel
  have hy : Along (Finds 0 ⟨5, 14⟩) trace w.sys := by decide +kernel
  refine ⟨hms, hg, hf, ?_, hx, hy, hturn.alternate _ _ ?_ hx hy⟩
  · decide +kernel
  · decide

end System

end ReadNotify
