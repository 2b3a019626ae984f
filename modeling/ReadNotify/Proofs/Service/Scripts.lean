import ReadNotify.Proofs.Registration.Nesting

/-!
# Cycles Written Out

A loop that serves a registry calls code of the program: callbacks, the
backend, and whatever the program does between two cycles. What such code does
to the system is a list of moves, chosen with everything in sight that there is
when the code is called. `Script` and `Probe` are functions that choose, and
with them the moves of a cycle can be written down: the window, the question,
the turns with the callbacks inside them, the counting.

That allows to speak of every state in between, and not only of those that the
loop itself gets to see.

A callback must not finish a dispatch that somebody else began. Its own is
still out when it returns, and is finished by the loop.

## Main definitions

* `Script`, `Probe`: What callbacks do, and what asking a backend does.
* `World.turnMoves`, `World.readyMoves`, `World.cycleMoves`: The moves of a
  dispatch, of the turns and of a cycle.
* `World.serve`, `World.serveMoves`: Cycles with other moves between them.

## Theorems

* `run_turnMoves`, `run_cycleMoves`, `run_serveMoves`: A dispatch, a cycle and
  any number of cycles make the moves that were written down.
* `allowed_servingMoves`: Which moves those are.
-/

namespace ReadNotify

variable {π δ : Type}

/-- What callbacks do when they are called: the moves they make, what becomes
    of the desk, and how the call ends. -/
structure Script (δ : Type) where
  moves : CallbackKey → Bytes → World δ → List Move
  desk : CallbackKey → Bytes → World δ → δ
  exit : CallbackKey → Bytes → World δ → Exit

/-- What asking a backend about a window does: the moves it makes, what becomes
    of the desk, the backend afterwards and its answer. -/
structure Probe (π δ : Type) where
  moves : List ConnId → Duration → π → World δ → List Move
  desk : List ConnId → Duration → π → World δ → δ
  answer : List ConnId → Duration → π → World δ → π × Except IoError (List ConnId)

namespace Script

/-- The handler that follows a script. -/
def handler (f : Script δ) : Handler δ := fun k data w =>
  (⟨System.run (f.moves k data w) w.sys, f.desk k data w⟩, f.exit k data w)

/-- Every move of a script is of some kind, and it finishes only what it began. -/
structure Makes (p : Move → Prop) (f : Script δ) : Prop where
  allowed : ∀ k data w, ∀ m ∈ f.moves k data w, p m
  kept : ∀ k data w, w.sys.Reached → ∀ x ∈ w.sys.out, x ∈ (System.run (f.moves k data w) w.sys).out

/-- A script may make any moves that finish nothing. -/
theorem makes_of_allowed {p : Move → Prop} {f : Script δ}
    (hp : ∀ k data w, ∀ m ∈ f.moves k data w, p m ∧ m.ends = false) : f.Makes p := by
  refine ⟨fun k data w m hm => (hp k data w m hm).1, fun k data w _ x hx => ?_⟩
  exact System.run_preserves (q := fun s => x ∈ s.out)
    (fun m hm s hs => Move.mem_out_perform (hp k data w m hm).2 hs) hx

end Script

namespace Probe

/-- The check that follows a probe. -/
def check (g : Probe π δ) : Check π δ := fun window timeout b w =>
  (⟨System.run (g.moves window timeout b w) w.sys, g.desk window timeout b w⟩,
    g.answer window timeout b w)

/-- Every move of a probe is of some kind. -/
def Makes (p : Move → Prop) (g : Probe π δ) : Prop :=
  ∀ window timeout b w, ∀ m ∈ g.moves window timeout b w, p m

/-- Asking one of the two backends. -/
def poller (δ : Type) : Probe Poller δ where
  moves window _ p _ := [.checkPoller window p]
  desk _ _ _ w := w.desk
  answer window _ p w := ((w.sys.checkPoller window p).2.1, .ok (w.sys.checkPoller window p).2.2)

/-- The check of this probe is the one that loops with a backend run. -/
theorem check_poller : (poller δ).check = World.checkPoller := rfl

end Probe

/-- The moves that a loop makes in a cycle besides filling its window. -/
def Move.isServing : Move → Bool
  | .begin .. | .finish .. | .countCycle _ | .countDispatches .. | .note _ => true
  | _ => false

/-- What a program does between two cycles: some moves, and what is on its desk
    afterwards. -/
structure Pause (δ : Type) where
  moves : List Move
  desk : δ

namespace World

variable {p : Move → Prop} {f : Script δ} {g : Probe π δ}

/-- The moves of a dispatch. -/
def turnMoves (f : Script δ) (c : ConnKey) (size : Nat) (w : World δ) : List Move :=
  match w.sys.begin c size with
  | (_, none) => []
  | (s, some (t, data)) =>
    .begin c size :: (f.moves t.callback data { w with sys := s } ++
      [.finish t (f.exit t.callback data { w with sys := s })])

/-- The moves of the turns of the ready members. -/
def readyMoves (f : Script δ) (l : PollLoop) : List ConnId → World δ → List Move
  | [], _ => []
  | id :: rest, w =>
    match w.sys.entry? l id with
    | none => readyMoves f l rest w
    | some c =>
      w.turnMoves f c l.bufferSize ++
        readyMoves f l rest (w.dispatch f.handler c l.bufferSize).1

/-- The moves of a cycle after its window was filled. -/
def servingMoves (g : Probe π δ) (f : Script δ) (l : PollLoop) (b : π) (w : World δ) :
    List Move :=
  let (s, window) := w.sys.fillWindow l
  let w := { w with sys := s.countCycle l }
  .countCycle l ::
    (if window = [] then []
    else
      g.moves window l.timeout b w ++
        match g.check window l.timeout b w with
        | (_, _, .error e) => [.note (.checkFailed e window.length)]
        | (w, _, .ok ready) =>
          readyMoves f l ready w ++ [.countDispatches l (w.dispatchReady f.handler l ready).2])

/-- The moves of a cycle. -/
def cycleMoves (g : Probe π δ) (f : Script δ) (l : PollLoop) (b : π) (w : World δ) :
    List Move := .fillWindow l :: w.servingMoves g f l b

/-- The world after the program has done something between two cycles. -/
def pause (x : Pause δ) (w : World δ) : World δ := ⟨System.run x.moves w.sys, x.desk⟩

/-- Cycles of a loop, each of them after the program has done something. -/
def serve (g : Probe π δ) (f : Script δ) (l : PollLoop) : List (Pause δ) → π → World δ → World δ × π
  | [], b, w => (w, b)
  | x :: rest, b, w =>
    let (w, b, _) := (w.pause x).runOnce g.check f.handler l b
    serve g f l rest b w

/-- The moves of all that. -/
def serveMoves (g : Probe π δ) (f : Script δ) (l : PollLoop) :
    List (Pause δ) → π → World δ → List Move
  | [], _, _ => []
  | x :: rest, b, w =>
    x.moves ++ ((w.pause x).cycleMoves g f l b ++
      let (w, b, _) := (w.pause x).runOnce g.check f.handler l b
      serveMoves g f l rest b w)

/-- The windows of the cycles. -/
def serveWindows (g : Probe π δ) (f : Script δ) (l : PollLoop) :
    List (Pause δ) → π → World δ → List (List ConnId)
  | [], _, _ => []
  | x :: rest, b, w =>
    ((w.pause x).sys.fillWindow l).2 ::
      let (w, b, _) := (w.pause x).runOnce g.check f.handler l b
      serveWindows g f l rest b w

/-! ### Running what was written down -/

/-- A turn is its moves: the dispatch, what the callback does, and its end. -/
theorem run_turnMoves (hf : f.Makes p) (c : ConnKey) (size : Nat) {w : World δ}
    (hw : w.sys.Reached) :
    (w.dispatch f.handler c size).1.sys = System.run (w.turnMoves f c size) w.sys := by
  unfold turnMoves
  -- An empty slot has no moves.
  rcases hb : w.sys.begin c size with ⟨s, _ | ⟨t, data⟩⟩
  · rw [dispatch_of_none (by rw [hb])]
    rfl
  · have hs : (Move.begin c size).perform w.sys = s := by rw [Move.perform, hb]
    have hreached : s.Reached := by
      rw [← hs]
      exact hw.run [.begin c size]
    -- What was taken is out when the call ends, so there is something to finish.
    have hout : t ∈ (System.run (f.moves t.callback data { w with sys := s }) s).out := by
      refine hf.kept t.callback data { w with sys := s } hreached t ?_
      rw [(System.begin_some hb).2]
      exact List.mem_cons_self
    have hdispatch := (dispatch_of_some (w := w) (by rw [hb]) f.handler).2
    rw [hb] at hdispatch
    rw [hdispatch]
    dsimp only
    rw [System.run_cons, System.run_append, hs]
    exact (if_pos hout).symm

theorem reached_dispatch (hf : f.Makes p) (c : ConnKey) (size : Nat) {w : World δ}
    (hw : w.sys.Reached) : (w.dispatch f.handler c size).1.sys.Reached := by
  rw [run_turnMoves hf c size hw]
  exact hw.run _

/-- So are the turns of all ready members. -/
theorem run_readyMoves (hf : f.Makes p) (l : PollLoop) (ready : List ConnId) {w : World δ}
    (hw : w.sys.Reached) :
    (w.dispatchReady f.handler l ready).1.sys = System.run (readyMoves f l ready w) w.sys := by
  -- Each turn leaves a state that moves can bring about, which the next one needs.
  induction ready generalizing w with
  | nil => rfl
  | cons id rest ih =>
      unfold dispatchReady readyMoves
      rcases w.sys.entry? l id with _ | c
      · exact ih hw
      · dsimp only
        rw [System.run_append, ← run_turnMoves hf c l.bufferSize hw]
        exact ih (reached_dispatch hf c l.bufferSize hw)

theorem run_servingMoves (hf : f.Makes p) (l : PollLoop) (b : π) {w : World δ}
    (hw : w.sys.Reached) :
    (w.runOnce g.check f.handler l b).1.sys =
      System.run (w.servingMoves g f l b) (w.sys.fillWindow l).1 := by
  unfold runOnce servingMoves
  dsimp only
  rw [System.run_cons]
  by_cases hempty : (w.sys.fillWindow l).2 = []
  · rw [if_pos hempty, if_pos hempty]
    rfl
  · rw [if_neg hempty, if_neg hempty, System.run_append]
    have hstart : ((w.sys.fillWindow l).1.countCycle l).Reached :=
      hw.run [.fillWindow l, .countCycle l]
    -- The answer comes in the state that the moves of the question lead to.
    rcases hcheck : g.check (w.sys.fillWindow l).2 l.timeout b
      { w with sys := (w.sys.fillWindow l).1.countCycle l } with ⟨w', b', answer⟩
    have hask : System.run (g.moves (w.sys.fillWindow l).2 l.timeout b
        { w with sys := (w.sys.fillWindow l).1.countCycle l })
        ((w.sys.fillWindow l).1.countCycle l) = w'.sys := congrArg (fun x => x.1.sys) hcheck
    have hreached : w'.sys.Reached := by
      rw [← hask]
      exact hstart.run _
    rw [show (Move.countCycle l).perform (w.sys.fillWindow l).1 =
      (w.sys.fillWindow l).1.countCycle l from rfl, hask]
    rcases answer with e | ready
    · rfl
    · dsimp only
      rw [System.run_append, ← run_readyMoves hf l ready hreached]
      rfl

/-- And so is a cycle. -/
theorem run_cycleMoves (hf : f.Makes p) (l : PollLoop) (b : π) {w : World δ}
    (hw : w.sys.Reached) :
    (w.runOnce g.check f.handler l b).1.sys = System.run (w.cycleMoves g f l b) w.sys :=
  run_servingMoves hf l b hw

theorem reached_runOnce (hf : f.Makes p) (l : PollLoop) (b : π) {w : World δ}
    (hw : w.sys.Reached) : (w.runOnce g.check f.handler l b).1.sys.Reached := by
  rw [run_cycleMoves hf l b hw]
  exact hw.run _

/-- A loop and the program around it make the moves that were written down. -/
theorem run_serveMoves (hf : f.Makes p) (l : PollLoop) (pauses : List (Pause δ)) (b : π)
    {w : World δ} (hw : w.sys.Reached) :
    (serve g f l pauses b w).1.sys = System.run (serveMoves g f l pauses b w) w.sys := by
  induction pauses generalizing b w with
  | nil => rfl
  | cons x rest ih =>
      have hpause : (w.pause x).sys.Reached := hw.run x.moves
      unfold serve serveMoves
      dsimp only
      rw [System.run_append, System.run_append,
        ← show (w.pause x).sys = System.run x.moves w.sys from rfl, ← run_cycleMoves hf l b hpause]
      exact ih _ (reached_runOnce hf l b hpause)

/-! ### Which moves those are -/

theorem allowed_turnMoves (hf : f.Makes p) (c : ConnKey) (size : Nat) (w : World δ) :
    ∀ m ∈ w.turnMoves f c size, p m ∨ m.isServing = true := by
  unfold turnMoves
  rcases w.sys.begin c size with ⟨s, _ | ⟨t, data⟩⟩
  · exact fun m hm => absurd hm List.not_mem_nil
  · intro m hm
    -- The dispatch and its end serve, and what is between them is the callback's.
    rcases List.mem_cons.mp hm with rfl | hm
    · exact Or.inr rfl
    · rcases List.mem_append.mp hm with hm | hm
      · exact Or.inl (hf.allowed _ _ _ m hm)
      · exact Or.inr (List.mem_singleton.mp hm ▸ rfl)

theorem allowed_readyMoves (hf : f.Makes p) (l : PollLoop) (ready : List ConnId) (w : World δ) :
    ∀ m ∈ readyMoves f l ready w, p m ∨ m.isServing = true := by
  induction ready generalizing w with
  | nil => exact fun m hm => absurd hm List.not_mem_nil
  | cons id rest ih =>
      unfold readyMoves
      rcases w.sys.entry? l id with _ | c
      · exact ih w
      · intro m hm
        rcases List.mem_append.mp hm with hm | hm
        · exact allowed_turnMoves hf c l.bufferSize w m hm
        · exact ih _ m hm

/-- After filling its window a loop makes the moves of the program's code, and
    its own. -/
theorem allowed_servingMoves (hf : f.Makes p) (hg : g.Makes p) (l : PollLoop) (b : π)
    (w : World δ) : ∀ m ∈ w.servingMoves g f l b, p m ∨ m.isServing = true := by
  unfold servingMoves
  dsimp only
  intro m hm
  rcases List.mem_cons.mp hm with rfl | hm
  · exact Or.inr rfl
  · by_cases hempty : (w.sys.fillWindow l).2 = []
    · rw [if_pos hempty] at hm
      exact absurd hm List.not_mem_nil
    · rw [if_neg hempty] at hm
      rcases List.mem_append.mp hm with hm | hm
      · exact Or.inl (hg _ _ _ _ m hm)
      · -- Either the check has failed or the ready members have had their turns.
        split at hm
        · exact Or.inr (List.mem_singleton.mp hm ▸ rfl)
        · rcases List.mem_append.mp hm with hm | hm
          · exact allowed_readyMoves hf l _ _ m hm
          · exact Or.inr (List.mem_singleton.mp hm ▸ rfl)

end World

end ReadNotify
