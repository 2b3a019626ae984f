import ReadNotify.Proofs.Callbacks.Places
import ReadNotify.Proofs.Registration.Nesting

/-!
# Callbacks Are Linear

A callback that was registered is in exactly one place at every later moment: in the
slot of its connection, out of that slot in the hands of one taker, or destroyed. It
is not lost: what is in no slot and not out was destroyed, once, and has let go of
all that it kept. From then on it is in no slot and nobody takes it. As long as it is
out, nobody takes it a second time.

Destroying what was destroyed before does nothing here. That is never made use of:
a chain that begins with something living that is in no slot destroys nothing twice
(`Does.strict`), and whatever operations destroy was in a slot that they cleared, or
was out, or is new.

## Main definitions

* `System.Strict`: A chain that destroys nothing twice.
* `Move.registers`: The callback that a move registers.
* `System.Linear`: What is known of a callback that was registered.

## Theorems

* `Does.strict`: What destroys something living destroys nothing twice.
* `belongs_registers`: What is registered is in a place of its connection.
* `callbacks_linear`: Every registered callback is linear.
-/

namespace ReadNotify

/-- The callback that a move registers for a connection. It may be refused, and
    then it is destroyed in the same move. -/
def Move.registers (m : Move) (s : System) : Option (CallbackKey × ConnKey) :=
  match m with
  | attach c _ _ => if (s.conn? c).isSome then some (s.callbacks.size, c) else none
  | set _ c _ => some (s.callbacks.size, c)
  | _ => none

namespace System

variable {s t : System} {k : CallbackKey} {c : ConnKey}

/-! ### Nothing is destroyed twice -/

/-- A chain that destroys nothing twice: whatever is to be destroyed is living. -/
inductive Strict : Chore → System → System → Prop where
  | ended {s t : System} {k : CallbackKey} {cb : Callback}
      (hrow : s.callbacks.get? k = some cb) (hlive : cb.ended = none)
      (hrest : Strict (.letGo k cb.holds) (s.endCallback k) t) : Strict (.destroy k) s t
  | done {s : System} {k : CallbackKey} : Strict (.letGo k []) s s
  | kept {s t : System} {k : CallbackKey} {h : ConnKey} {hs : List ConnKey}
      (hheld : (s.letGo k h).isHeld h = true) (hrest : Strict (.letGo k hs) (s.letGo k h) t) :
      Strict (.letGo k (h :: hs)) s t
  | closed {s t : System} {k : CallbackKey} {h : ConnKey} {hs : List ConnKey}
      (hlast : (s.letGo k h).isHeld h = false)
      (hnone : ((s.letGo k h).clearSlot h).2.join = none)
      (hrest : Strict (.letGo k hs) (((s.letGo k h).clearSlot h).1.disconnect h) t) :
      Strict (.letGo k (h :: hs)) s t
  | chained {s u t : System} {k j : CallbackKey} {h : ConnKey} {hs : List ConnKey}
      (hlast : (s.letGo k h).isHeld h = false)
      (hsome : ((s.letGo k h).clearSlot h).2.join = some j)
      (hinner : Strict (.destroy j) ((s.letGo k h).clearSlot h).1 u)
      (hrest : Strict (.letGo k hs) (u.disconnect h) t) : Strict (.letGo k (h :: hs)) s t

/-- What is in a slot is living and in no other. -/
structure Filled (s : System) : Prop where
  seated : ∀ c k, (s.slot c).callback = some k → s.isLive k = true
  alone : ∀ c d k, (s.slot c).callback = some k → (s.slot d).callback = some k → c = d

theorem Sole.filled (h : s.Sole) : s.Filled := ⟨h.livePlaces.seated, h.livePlaces.alone⟩

/-- Slots may be emptied, as long as what is still in one is living. -/
theorem Filled.mono (h : s.Filled)
    (hslot : ∀ c k, (t.slot c).callback = some k → (s.slot c).callback = some k)
    (hlive : ∀ c k, (t.slot c).callback = some k → s.isLive k = true → t.isLive k = true) :
    t.Filled :=
  ⟨fun c k hk => hlive c k hk (h.seated c k (hslot c k hk)),
    fun c d k hc hd => h.alone c d k (hslot c k hc) (hslot d k hd)⟩

theorem Filled.congr (h : s.Filled) (hslot : ∀ c, t.slot c = s.slot c)
    (hlive : ∀ k, t.isLive k = s.isLive k) : t.Filled :=
  h.mono (fun c _ hk => hslot c ▸ hk) fun _ k _ => (hlive k).trans

theorem Filled.clearSlot (h : s.Filled) (c : ConnKey) : (s.clearSlot c).1.Filled := by
  refine h.mono (fun d k hk => ?_) fun _ _ _ hlive => ?_
  · rw [slot_clearSlot] at hk
    split at hk
    · exact absurd hk (by simp [Slot.cleared])
    · exact hk
  · rw [isLive_congr (tables_clearSlot c s).2.1]
    exact hlive

theorem Filled.disconnect (h : s.Filled) (c : ConnKey) : (s.disconnect c).Filled :=
  h.congr (fun d => (frame_disconnect c s d).1) (isLive_congr (tables_disconnect c s).1)

/-- What a cleared slot hands out is in no slot any more. -/
theorem Filled.handed (h : s.Filled) (hsome : (s.clearSlot c).2.join = some k) :
    (s.clearSlot c).1.isLive k = true ∧ ∀ d, ((s.clearSlot c).1.slot d).callback ≠ some k := by
  rcases join_clearSlot hsome with ⟨hreg, hcallback⟩
  refine ⟨?_, fun d hd => ?_⟩
  · rw [isLive_congr (tables_clearSlot c s).2.1]
    exact h.seated c k hcallback
  · rw [slot_clearSlot] at hd
    split at hd
    · exact absurd hd (by simp [Slot.cleared])
    · next hne => exact hne ⟨h.alone d c k hd hcallback, hreg⟩

/-- What is to be destroyed is living and in no slot. -/
def Chore.Due (s : System) : Chore → Prop
  | .destroy k => s.isLive k = true ∧ ∀ c, (s.slot c).callback ≠ some k
  | .letGo _ _ => True

/-- A chain that begins with something living that is in no slot destroys nothing
    twice. -/
theorem Does.strict {chore : Chore} (h : Does chore s t) (hs : s.Filled) (hdue : chore.Due s) :
    Strict chore s t ∧ t.Filled := by
  -- What a chain destroys on the way was handed out by a slot, and slots have
  -- nothing in them but what is living.
  have hgo : ∀ {v : System} (k : CallbackKey) (h : ConnKey), v.Filled → (v.letGo k h).Filled :=
    fun k h hv => hv.congr (fun _ => rfl) (isLive_letGo k h _)
  induction h with
  | spared hdead => exact absurd (hdead.symm.trans hdue.1) Bool.false_ne_true
  | @ended s t k cb hrow hlive hrest ih =>
      have hended : (s.endCallback k).Filled := by
        refine hs.mono (fun _ _ hj => hj) fun c j hj hlive => ?_
        have hne : j ≠ k := by
          rintro rfl
          exact hdue.2 c hj
        rw [isLive_endCallback, hlive, decide_eq_true hne]
        rfl
      rcases ih hended trivial with ⟨hstrict, ht⟩
      exact ⟨.ended hrow hlive hstrict, ht⟩
  | done => exact ⟨.done, hs⟩
  | @kept s t k h hs' hheld hrest ih =>
      rcases ih (hgo k h hs) trivial with ⟨hstrict, ht⟩
      exact ⟨.kept hheld hstrict, ht⟩
  | @closed s t k h hs' hlast hnone hrest ih =>
      rcases ih (((hgo k h hs).clearSlot h).disconnect h) trivial with ⟨hstrict, ht⟩
      exact ⟨.closed hlast hnone hstrict, ht⟩
  | @chained s u t k j h hs' hlast hsome hinner hrest ihinner ihrest =>
      rcases ihinner ((hgo k h hs).clearSlot h) ((hgo k h hs).handed hsome) with ⟨hinner', hu⟩
      rcases ihrest (hu.disconnect h) trivial with ⟨hstrict, ht⟩
      exact ⟨.chained hlast hsome hinner' hstrict, ht⟩

theorem strict_destroy (h : s.Filled) (hlive : s.isLive k = true)
    (hslots : ∀ c, (s.slot c).callback ≠ some k) : Strict (.destroy k) s (s.destroy k) :=
  ((destroys_destroy k s).strict h ⟨hlive, hslots⟩).1

/-! ### Every registered callback -/

/-- What is put into the slot of a connection belongs to that connection. -/
theorem belongs_of_attach (hlive : s.isLive k = true) (hexists : (s.conn? c).isSome = true)
    (r : RegistryKey) : (s.attach c r k).1.Belongs k c := by
  have hslot := slot_install c r k s c
  rw [if_pos ⟨rfl, hexists⟩] at hslot
  have hlive' : (s.install c r k).1.isLive k = true := by
    rw [isLive_congr (install_tables c r k s).1]
    exact hlive
  -- The end of what it replaces may close the connection, and then it falls too.
  exact belongs_destroyAny hlive' (s.slot c).callback
    ⟨.slot c, congrArg Slot.callback hslot, rfl⟩

theorem belongs_set (h : s.Sole) (n : NotifierKey) (c : ConnKey) (hold : Option ConnKey) :
    (s.setFresh n c hold).1.Belongs s.callbacks.size c := by
  rcases livePlaces_addCallback h.livePlaces hold with ⟨-, hlive, -, -⟩
  unfold setFresh
  rcases setCallback_cases n c (s.addCallback hold).2 (s.addCallback hold).1 with
    ⟨-, u, hquiet, heq⟩ | ⟨-, hopen, running, u, v, hquiet, hready, hnoted⟩
  · -- A refused callback is destroyed.
    rw [heq]
    refine ⟨.ended, hasEnded_destroy ?_, trivial⟩
    rw [isLive_congr hquiet.callbacks]
    exact hlive
  · have hexists : (v.conn? c).isSome = true := by
      rcases hc : (s.addCallback hold).1.conn? c with _ | conn
      · rw [isConnected_of_none hc] at hopen
        exact absurd hopen Bool.false_ne_true
      · rcases hquiet.kept c conn hc with ⟨conn', hc', -⟩
        rw [hready.conn?, hc']
        rfl
    have hbelongs : (v.attach c running.registry s.callbacks.size).1.Belongs
        s.callbacks.size c := by
      refine belongs_of_attach ?_ hexists running.registry
      rw [isLive_congr (hready.callbacks.trans hquiet.callbacks)]
      exact hlive
    exact belongs_congr (fun d => congrArg Slot.callback (hnoted.quiet.slot d))
      (hasEnded_congr hnoted.quiet.callbacks _).mpr hnoted.quiet.out hbelongs

/-- A callback that is registered belongs to the connection from then on. -/
theorem belongs_registers (h : s.Sole) {m : Move} (hm : m.registers s = some (k, c)) :
    (m.perform s).Belongs k c := by
  cases m with
  | attach d r hold =>
      simp only [Move.registers, Option.ite_none_right_eq_some, Option.some.injEq,
        Prod.mk.injEq] at hm
      rcases hm with ⟨hexists, rfl, rfl⟩
      exact belongs_of_attach (livePlaces_addCallback h.livePlaces hold).2.1 hexists r
  | set n d hold =>
      simp only [Move.registers, Option.some.injEq, Prod.mk.injEq] at hm
      rcases hm with ⟨rfl, rfl⟩
      exact belongs_set h n d hold
  | _ => exact absurd hm (by simp [Move.registers])

/-- What a dispatch is about to call is in the slot of the connection, and so it
    is not out. -/
theorem isAt_of_begin {size : Nat} {x : Taken} {data : Bytes}
    (h : (s.begin c size).2 = some (x, data)) : s.IsAt x.callback (.slot c) :=
  (begin_some (Prod.ext rfl h)).1

theorem isAt_of_take {pinned : Bool} {x : Taken} (h : (s.take c pinned).2 = some x) :
    s.IsAt x.callback (.slot c) := by
  rcases take_cases c pinned s with ⟨-, heq⟩ | ⟨y, hsome, -, -, heq⟩
  · rw [heq] at h
    exact absurd h (by simp)
  · rw [heq] at h
    rw [← Option.some.inj h]
    exact hsome

/-- Dispatches and cycles are handlings, whatever their callbacks do. -/
theorem handles_cycles {π δ : Type} {check : Check π δ} {call : Handler δ}
    (hcheck : check.Performs fun _ => True) (hcall : call.Performs fun _ => True) (l : PollLoop)
    (b : π) {w : World δ} (hw : w.sys.Reached) :
    (∀ d size, ∃ es, (w.dispatch call d size).1.sys = handle es w.sys) ∧
      (∃ es, (w.runOnce check call l b).1.sys = handle es w.sys) ∧
      ∀ j, ∃ es, (w.workerCycle call j).sys = handle es w.sys := by
  have hmoves : ∀ {v : System}, Nests (fun _ => True) w.sys v → ∃ es, v = handle es w.sys := by
    rintro v ⟨⟨ms, -, rfl⟩, -⟩
    exact ⟨ms.map .move, (handle_moves ms w.sys).symm⟩
  refine ⟨fun d size => hmoves ?_, hmoves ?_, fun j => hmoves ?_⟩
  · exact World.nests_dispatch hcall (fun _ _ => trivial) d size hw fun _ => trivial
  · exact World.nests_runOnce hcheck hcall (fun _ _ => trivial) l b hw fun _ _ => trivial
  · exact World.nests_workerCycle hcall (fun _ _ => trivial) (fun _ _ => trivial) j hw

/-- What is known of a callback that was registered for a connection. -/
structure Linear (s : System) (k : CallbackKey) (c : ConnKey) : Prop where
  /-- It is in the slot of the connection, out of it, or destroyed. -/
  place : ∃! p, s.IsAt k p
  home : ∀ p, s.IsAt k p → p.IsOf c
  /-- It was destroyed once, if it was, has let go of everything then, and will
      never be anywhere again. -/
  once : s.unreported.count k = if s.hasEnded k then 1 else 0
  emptied : s.hasEnded k → s.keeps k = []
  forGood : s.hasEnded k → ∀ es, (handle es s).hasEnded k
  /-- Whoever gets it, to call it or otherwise, gets it out of the slot. -/
  begun : ∀ d size x data, (s.begin d size).2 = some (x, data) → x.callback = k →
    d = c ∧ s.IsAt k (.slot c)
  taken : ∀ d pinned x, (s.take d pinned).2 = some x → x.callback = k →
    d = c ∧ s.IsAt k (.slot c)
  /-- If it is destroyed where it is, nothing is destroyed twice. -/
  cleared : ∀ d, (s.clearSlot d).2.join = some k →
    Strict (.destroy k) (s.clearSlot d).1 ((s.clearSlot d).1.destroy k)
  settled : ∀ x ∈ s.out, x.callback = k → Strict (.destroy k) s (s.destroy k)

theorem Sole.linear (h : s.Sole) (hreported : s.Reported) (hk : s.Belongs k c) :
    s.Linear k c := by
  rcases hk with ⟨p, hp, hof⟩
  have hunique : ∀ q, s.IsAt k q → q = p := fun q hq => h.eq_of_isAt hq hp
  have hhome : ∀ q, s.IsAt k q → q.IsOf c := fun q hq => hunique q hq ▸ hof
  have hslot : ∀ d, s.IsAt k (.slot d) → d = c ∧ s.IsAt k (.slot c) := by
    intro d hd
    have hdc : d = c := hhome (.slot d) hd
    exact ⟨hdc, hdc ▸ hd⟩
  refine ⟨⟨p, hp, hunique⟩, hhome, hreported k, fun hended => ?_, fun hended es => ?_, ?_, ?_, ?_,
    ?_⟩
  · exact List.eq_nil_iff_forall_not_mem.mpr fun d hd =>
      Bool.false_ne_true (hended.2.symm.trans (h.livePlaces.rested k d hd))
  · exact hasEnded_handle es h hended
  · rintro d size x data hbegin rfl
    exact hslot d (isAt_of_begin hbegin)
  · rintro d pinned x htake rfl
    exact hslot d (isAt_of_take htake)
  · intro d hsome
    rcases h.filled.handed hsome with ⟨hlive, hslots⟩
    exact strict_destroy (h.filled.clearSlot d) hlive hslots
  · rintro x hx rfl
    exact strict_destroy h.filled (h.livePlaces.taken x hx) fun d hd =>
      h.livePlaces.apart d x.callback hd x hx rfl

/-- A callback that was registered for a connection is in exactly one place at
    every later moment: the slot of that connection, out of it in the hands of one
    taker, or destroyed, once and for good. That is so after any operations and
    any putting back with any count, and dispatches and cycles whose callbacks do
    such things, at whatever depth, are nothing else. -/
theorem callbacks_linear (r : Nat) (before after : List Handling) (m : Move) (k : CallbackKey)
    (c : ConnKey) (hm : m.registers (handle before (init r)) = some (k, c)) :
    let s := handle after (m.perform (handle before (init r)))
    s.Linear k c ∧
      ∀ {π δ : Type} (check : Check π δ) (call : Handler δ) (l : PollLoop) (b : π) (w : World δ),
        check.Performs (fun _ => True) → call.Performs (fun _ => True) → w.sys.Reached →
          w.sys = s →
            (∀ d size, ∃ es, (w.dispatch call d size).1.sys = handle es s ∧
              (handle es s).Linear k c) ∧
            (∃ es, (w.runOnce check call l b).1.sys = handle es s ∧ (handle es s).Linear k c) ∧
            ∀ j, ∃ es, (w.workerCycle call j).sys = handle es s ∧ (handle es s).Linear k c := by
  intro s
  have hbefore := reported_handle before (sole_init r) (reported_init r)
  have hmove := sole_handovers (fun _ _ _ => reported_handover)
    (handovers_perform m hbefore.1.livePlaces) hbefore.1 hbefore.2
  -- From the registration on the callback is followed as well.
  have hlinear : ∀ es, (handle es (m.perform (handle before (init r)))).Linear k c := by
    intro es
    have hes := reported_handle es hmove.1 hmove.2
    exact hes.1.linear hes.2 (belongs_handle es hmove.1 (belongs_registers hbefore.1 hm))
  have hlater : ∀ es, (handle es s).Linear k c := fun es => by
    rw [show handle es s = handle (after ++ es) _ from (handle_append after es _).symm]
    exact hlinear (after ++ es)
  refine ⟨hlinear after, fun check call l b w hcheck hcall hw hsys => ?_⟩
  rcases handles_cycles hcheck hcall l b hw with ⟨hdispatch, ⟨es, hrun⟩, hcycle⟩
  rw [hsys] at hdispatch hrun hcycle
  refine ⟨fun d size => ?_, ⟨es, hrun, hlater es⟩, fun j => ?_⟩
  · rcases hdispatch d size with ⟨es, hes⟩
    exact ⟨es, hes, hlater es⟩
  · rcases hcycle j with ⟨es, hes⟩
    exact ⟨es, hes, hlater es⟩

/-- While the first callback of a connection is being called another one replaces
    it, and when it is put back with a count that is not its own it is destroyed
    and lets go of the last handle of a third connection, whose callback falls. -/
theorem callbacks_linear_replaced :
    let before : List Handling := [.move (.pair 10 11), .move (.pair 12 13),
      .move (.attach 2 0 none)]
    let after : List Handling := [.move (.drop 2), .move (.begin 0 4), .move (.attach 0 0 none),
      .restore ⟨1, 0, 1, true⟩ 7]
    let s := handle after (Move.perform (.attach 0 0 (some 2)) (handle before (init 1)))
    Move.registers (.attach 0 0 (some 2)) (handle before (init 1)) = some (1, 0) ∧
      s.Linear 1 0 ∧ s.hasEnded 1 ∧ s.unreported = [0, 1] ∧ s.isConnected 2 = false ∧
      (s.slot 0).callback = some 2 := by
  intro before after s
  have hm : Move.registers (.attach 0 0 (some 2)) (handle before (init 1)) = some (1, 0) := by
    decide
  refine ⟨hm, (callbacks_linear 1 before after (.attach 0 0 (some 2)) 1 0 hm).1, ?_, ?_, ?_, ?_⟩
  · decide +kernel
  · decide +kernel
  · decide +kernel
  · decide +kernel

end System

end ReadNotify
