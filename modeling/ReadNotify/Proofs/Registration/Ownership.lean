import ReadNotify.Proofs.Registration.Nesting
import ReadNotify.Proofs.Registration.Orderly
import Mathlib.Data.Set.Card

/-!
# Every Connection Has One Owner

Seen from outside, a registration is a fact about a connection and a notifier:
this notifier *owns* this connection. There are no slots, registries or counts
in that, only a map that says of every connection who owns it, if anybody does.
Registering makes a notifier the owner, whoever it was before. Unregistering,
shutting down and panicking take ownership away, each from whom it says, and
whatever is closed has no owner any more.

The `Ledger` is that map, together with a number that tells how often each
entry was changed. It is kept without looking at the system. All it is told of
a move is what anybody can see: whether a registration was accepted, whether
what a dispatch took was still out, and which connections are open afterwards.
The number is needed because a panicking callback gives up the registration it
was called for and no later one.

What a program that uses notifiers does to the system, with callbacks that do
the same from inside, to any depth, and with any number of threads, is what the
ledger says (`owner_of_run`).

## Main definitions

* `Ledger`, `Ledger.step`: The map, and what a move does to it.
* `System.ledger`: The ledger that is kept along moves.
* `System.Keeps`: The system is what a ledger says.

## Theorems

* `keeps_perform`: Every move does what the ledger says.
* `owner_of_run`: Slots, registries and counters are what the map says.
-/

namespace ReadNotify

/-- Who owns each connection, and how often that has changed. -/
structure Ledger where
  owner : ConnKey → Option NotifierKey
  changes : ConnKey → Nat

namespace Ledger

/-- Nobody owns anything. -/
def empty : Ledger := ⟨fun _ => none, fun _ => 0⟩

/-- Some connections lose their owners, those that have one. -/
def lose (p : ConnKey → Bool) (l : Ledger) : Ledger where
  owner c := if p c then none else l.owner c
  changes c := if p c && (l.owner c).isSome then l.changes c + 1 else l.changes c

/-- A connection gets an owner. -/
def give (c : ConnKey) (n : NotifierKey) (l : Ledger) : Ledger where
  owner d := if d = c then some n else l.owner d
  changes d := if d = c then l.changes d + 1 else l.changes d

/-- What a move is meant to do, given whether a registration was accepted and
    whether what a dispatch took is still out. -/
def act (m : Move) (accepted out : Bool) (l : Ledger) : Ledger :=
  match m with
  | .set n c _ => if accepted then l.give c n else l
  | .unset n c => l.lose fun d => d == c && l.owner d == some n
  | .shutdown n => l.lose fun d => l.owner d == some n
  | .finish t .panicked =>
      l.lose fun d => out && d == t.conn && t.generation == UInt64.ofNat (l.changes d)
  | _ => l

/-- What a move does: what it is meant to do, and then what is not open loses
    its owner. -/
def step (m : Move) (accepted out : Bool) (isOpen : ConnKey → Bool) (l : Ledger) : Ledger :=
  (l.act m accepted out).lose fun c => !isOpen c

end Ledger

namespace Move

/-- Whether a move registers a callback and is not refused. -/
def accepted (m : Move) (s : System) : Bool :=
  match m with
  | set n c hold => (s.setFresh n c hold).2 == .registered
  | _ => false

/-- Whether a move may start or stop a notifier. -/
def turns : Move → Bool
  | set .. | shutdown _ => true
  | _ => false

/-- Whether what a move is about is out. -/
def isOut (m : Move) (s : System) : Bool :=
  match m with
  | finish t _ => decide (t ∈ s.out)
  | _ => false

end Move

namespace System

variable {s t : System} {l : Ledger}

/-- The ledger after moves, by what can be seen of each of them. -/
def ledger : List Move → System → Ledger → Ledger
  | [], _, l => l
  | m :: ms, s, l =>
      ledger ms (m.perform s)
        (l.step m (m.accepted s) (m.isOut s) (m.perform s).isConnected)

/-- A slot is what an owner and a number of changes say. -/
structure Agrees (t : System) (x : Slot) (owner : Option NotifierKey) (changes : Nat) : Prop where
  owned : ∀ n, owner = some n ↔
    ∃ running, t.running? n = some running ∧ x.registry = some running.registry
  isSome : owner.isSome = x.registry.isSome
  generation : x.generation = UInt64.ofNat changes

/-- The system is what a ledger says. -/
def Keeps (l : Ledger) (s : System) : Prop :=
  ∀ c, s.Agrees (s.slot c) (l.owner c) (l.changes c)

theorem keeps_init (n : Nat) : (init n).Keeps .empty := by
  intro c
  have hslot : (init n).slot c = .empty := slot_of_none (Table.get?_empty c)
  rw [hslot]
  refine ⟨fun m => ⟨fun h => ?_, fun h => ?_⟩, rfl, rfl⟩
  · exact absurd h (by simp only [Ledger.empty, reduceCtorEq, not_false_eq_true])
  · rcases h with ⟨running, -, h⟩
    exact absurd h (by simp only [Slot.empty, reduceCtorEq, not_false_eq_true])

theorem Agrees.cleared {x : Slot} {o : Option NotifierKey} {j : Nat} (h : t.Agrees x o j) :
    t.Agrees x.cleared none (j + 1) := by
  refine ⟨fun n => ⟨fun hn => ?_, fun hn => ?_⟩, rfl, ?_⟩
  · exact absurd hn (by simp only [reduceCtorEq, not_false_eq_true])
  · rcases hn with ⟨running, -, hn⟩
    exact absurd hn (by simp only [Slot.cleared, reduceCtorEq, not_false_eq_true])
  · rw [Slot.cleared, h.generation, UInt64.ofNat_add]
    rfl

/-- Agreement depends on the registry, the count and who is running. -/
theorem Agrees.congr {x y : Slot} {o : Option NotifierKey} {j : Nat} (h : s.Agrees x o j)
    (hreg : y.registry = x.registry) (hgen : y.generation = x.generation)
    (hrunning : ∀ n, t.running? n = s.running? n) : t.Agrees y o j := by
  refine ⟨fun n => ?_, ?_, hgen.trans h.generation⟩
  · rw [hrunning, hreg]
    exact h.owned n
  · rw [hreg]
    exact h.isSome

/-- If a slot is swept along, what was aimed at is lost where the connection is
    closed. -/
theorem agrees_swept (ht : t.Orderly) {c : ConnKey} {x : Slot} {o : Option NotifierKey} {j : Nat}
    (h : t.Agrees x o j) (hswept : Swept x t c) :
    t.Agrees (t.slot c) (if !t.isConnected c then none else o)
      (if (!t.isConnected c) && o.isSome then j + 1 else j) := by
  cases hopen : t.isConnected c with
  | true =>
      rcases hswept with hsame | ⟨-, -, hclosed⟩
      · rw [hsame]
        exact h
      · exact absurd (hclosed.symm.trans hopen) Bool.false_ne_true
  | false =>
      have hnone := ht.coherent.closed c hopen
      rcases hswept with hsame | ⟨hsome, hclear, -⟩
      · -- Nothing was there to lose.
        rw [hsame] at hnone ⊢
        have ho : o = none := by
          have hisSome := h.isSome
          rw [hnone] at hisSome
          exact Option.not_isSome_iff_eq_none.mp (hisSome ▸ Bool.false_ne_true)
        rw [ho] at h ⊢
        exact h
      · have ho : o.isSome = true := h.isSome.trans hsome
        rw [hclear, ho]
        exact h.cleared

/-! ### What moves are meant to do -/

/-- Some connections lose their owners, and their slots are cleared. -/
theorem agrees_lose {p : ConnKey → Bool} {c : ConnKey} {m : Move}
    (h : s.Agrees (s.slot c) (l.owner c) (l.changes c)) (hinstalls : m.installs s c = none)
    (hreturns : m.returns s c = none) (htakes : m.takes c = false)
    (hclears : m.clears s c = (p c && (l.owner c).isSome))
    (hrunning : ∀ n, t.running? n = s.running? n) :
    t.Agrees (m.aim s c) ((l.lose p).owner c) ((l.lose p).changes c) := by
  have hs : t.Agrees (s.slot c) (l.owner c) (l.changes c) := h.congr rfl rfl hrunning
  rw [Move.aim_of_clears hinstalls hreturns htakes, hclears]
  simp only [Ledger.lose]
  -- Who loses nothing keeps slot and count, and so does who has nothing to lose.
  cases hp : p c with
  | false =>
      simp only [Bool.false_and, Bool.false_eq_true, if_false]
      exact hs
  | true =>
      cases howner : (l.owner c).isSome with
      | true =>
          simp only [Bool.and_self, if_true]
          exact hs.cleared
      | false =>
          have hnone : l.owner c = none :=
            Option.not_isSome_iff_eq_none.mp (howner ▸ Bool.false_ne_true)
          simp only [Bool.and_false, Bool.false_eq_true, if_false, if_true]
          rwa [hnone] at hs

theorem Keeps.owner_eq_some_iff (h : s.Keeps l) (c : ConnKey) (n : NotifierKey) :
    l.owner c = some n ↔ (s.slot c).registry.isSome = true ∧
      (s.slot c).registry = (s.running? n).map Running.registry := by
  rw [(h c).owned n]
  constructor
  · rintro ⟨running, hn, hreg⟩
    rw [hreg, hn]
    exact ⟨rfl, rfl⟩
  · rintro ⟨hsome, hreg⟩
    -- Without a worker the slot would name no registry.
    rcases hn : s.running? n with _ | running
    · rw [hreg, hn] at hsome
      exact absurd hsome Bool.false_ne_true
    · rw [hn] at hreg
      exact ⟨running, rfl, hreg⟩

/-! ### Who is running -/

/-- A registration that is refused starts nothing, and one that is accepted
    starts the notifier at most, with a registry that is new. -/
theorem running?_setFresh (n : NotifierKey) (c : ConnKey) (hold : Option ConnKey) (s : System) :
    ((s.setFresh n c hold).2 ≠ .registered ∧
      ∀ m, (s.setFresh n c hold).1.running? m = s.running? m) ∨
    ((s.setFresh n c hold).2 = .registered ∧ ∃ running,
      (s.setFresh n c hold).1.running? n = some running ∧
      (∀ m, m ≠ n → (s.setFresh n c hold).1.running? m = s.running? m) ∧
      (s.running? n = some running ∨
        (s.running? n = none ∧ running.registry = s.registries.size))) := by
  have hfresh : ∀ m, (s.addCallback hold).1.running? m = s.running? m := fun _ => rfl
  unfold setFresh
  rcases setCallback_cases n c (s.addCallback hold).2 (s.addCallback hold).1 with
    ⟨hrefused, u, hquiet, heq⟩ | ⟨haccepted, -, running, u, v, hquiet, hready, hnoted⟩
  · -- The callback that is refused is destroyed, which stops nobody.
    refine Or.inl ⟨hrefused, fun m => ?_⟩
    rw [heq, (unwinds_destroy _ u).unwound.running m]
    exact hquiet.running m
  · have hrunning : ∀ m, ((s.addCallback hold).1.setCallback n c
        (s.addCallback hold).2).1.running? m = v.running? m := fun m => by
      rw [hnoted.quiet.running, Move.running?_attach]
    have hsize : u.registries.size = s.registries.size := congrArg Table.size hquiet.registries
    refine Or.inr ⟨haccepted, running, (hrunning n).trans hready.serves, fun m hm => ?_, ?_⟩
    · rw [hrunning]
      rcases hready.started with ⟨-, -, hsame⟩ | ⟨-, -, -, hsame⟩
      · exact (hsame m).trans (hquiet.running m)
      · exact (hsame m hm).trans (hquiet.running m)
    · -- It ran before, or it was started with a registry of its own.
      rcases hready.started with ⟨hserves, -, -⟩ | ⟨hnone, -, hnew, -⟩
      · exact Or.inl ((hquiet.running n).symm.trans hserves)
      · exact Or.inr ⟨(hquiet.running n).symm.trans hnone, hnew.trans hsize⟩

/-- A shutdown stops its notifier and no other. -/
theorem running?_shutdown (n : NotifierKey) (s : System) (m : NotifierKey) :
    (s.shutdown n).running? m = if m = n then none else s.running? m := by
  rcases shutdown_cases n s with ⟨hstopped, hquiet⟩ |
    ⟨running, u, v, -, hquiet, hquiet', hnoted⟩
  · rw [hquiet.running]
    by_cases hm : m = n
    · rw [if_pos hm, hm, hstopped]
    · rw [if_neg hm]
  · have hunwound := (unwinds_detachAll running.registry (v.drain running.registry).2
      (v.drain running.registry).1).unwound
    -- Clearing the slots behind it stops nobody else.
    rw [hnoted.quiet.running, hunwound.running,
      show (v.drain running.registry).1.running? m = v.running? m from rfl, hquiet'.running,
      running?_updateNotifier]
    by_cases hm : m = n
    · rw [if_pos hm, if_pos hm]
      exact Option.bind_eq_none_iff.mpr fun _ _ => rfl
    · rw [if_neg hm, if_neg hm]
      exact hquiet.running m

/-- The other operations start and stop nothing. -/
theorem running?_perform {m : Move} (hm : m.turns = false) (s : System) (n : NotifierKey) :
    (m.perform s).running? n = s.running? n := by
  cases m with
  | set n c hold => exact absurd hm.symm Bool.false_ne_true
  | shutdown n => exact absurd hm.symm Bool.false_ne_true
  | close c => exact (unwinds_close c s).unwound.running n
  | drop c =>
      rw [Move.perform]
      rcases dropHandle_cases c s with heq | ⟨-, heq⟩ | ⟨-, heq⟩
      · rw [heq]
      · rw [heq]
        rfl
      · rw [heq]
        exact (unwinds_close c (s.disown c)).unwound.running n
  | entrust k c =>
      rcases entrust_frame k c s with ⟨callbacks, heq, -⟩
      rw [Move.perform, heq]
      rfl
  | unset m c => exact (unwinds_unsetCallback m c s).unwound.running n
  | begin c size =>
      rw [Move.perform]
      rcases begin_cases c size s with ⟨-, heq⟩ | ⟨t, -, -, -, -, record, heq⟩
      · rw [heq]
      · rw [heq]
        exact (quiet_receive c size (s.takenOut t)).running n
  | finish t exit =>
      rw [Move.perform]
      split
      · cases exit with
        | returned =>
            unfold finish
            rcases putBack_cases t s with ⟨-, -, heq⟩ | ⟨-, -, heq⟩
            · rw [heq]
              rfl
            · rw [heq, running?_settleTaken]
              exact (unwinds_destroy t.callback s).unwound.running n
        | panicked =>
            rcases giveUp_eq t s with ⟨v, hnoted, heq⟩
            have hunwound := unwound_trans
              (unwinds_detachGeneration t.conn t.generation v).unwound
              (unwinds_destroy t.callback _).unwound
            rw [finish, heq, running?_settleTaken]
            exact (hunwound.running n).trans (hnoted.quiet.running n)
      · rfl
  | attach c r hold => exact Move.running?_attach c r _ _ n
  | detach c => exact (unwinds_detach c s).unwound.running n
  | detachFrom c r => exact (unwinds_detachFrom c r s).unwound.running n
  | detachGeneration c g => exact (unwinds_detachGeneration c g s).unwound.running n
  | take c pinned =>
      rw [Move.perform]
      rcases take_cases c pinned s with ⟨-, heq⟩ | ⟨t, -, -, -, heq⟩
      · rw [heq]
      · rw [heq]
        rfl
  | forget t =>
      rw [Move.perform]
      split
      · exact (unwinds_destroy t.callback s).unwound.running n
      · rfl
  | onRegistry r f => rfl
  | fillWindow l => rfl
  | _ => exact (Move.quiet_perform rfl s).running n

/-! ### The aim of every move is what the ledger says -/

/-- A registration that is accepted makes the notifier the owner. Nobody else
    can own anything through a registry that is new. -/
theorem agrees_set (h : s.Keeps l) (hs : s.Orderly) {n : NotifierKey} {c : ConnKey}
    {hold : Option ConnKey} (ht : (s.setFresh n c hold).1.Orderly) (d : ConnKey) :
    (s.setFresh n c hold).1.Agrees ((Move.set n c hold).aim s d)
      ((l.act (.set n c hold) ((Move.set n c hold).accepted s) false).owner d)
      ((l.act (.set n c hold) ((Move.set n c hold).accepted s) false).changes d) := by
  rcases running?_setFresh n c hold s with ⟨hrefused, hrunning⟩ |
    ⟨haccepted, running, hserves, hothers, hstarted⟩
  · have haccepted : (Move.set n c hold).accepted s = false := beq_eq_false_iff_ne.mpr hrefused
    have haim : (Move.set n c hold).aim s d = s.slot d :=
      Move.aim_of_idle (if_neg fun h => hrefused h.2) rfl (Bool.and_false _) rfl
    rw [haccepted, haim]
    exact (h d).congr rfl rfl hrunning
  · have hyes : (Move.set n c hold).accepted s = true := beq_iff_eq.mpr haccepted
    rw [hyes]
    simp only [Ledger.act, if_true, Ledger.give]
    -- Only the slot of `c` is filled; the other owners stay, since only `n` may have started.
    by_cases hd : d = c
    · subst hd
      have hinstalls : (Move.set n d hold).installs s d =
          some (s.callbacks.size, running.registry) := by
        rw [Move.installs, if_pos ⟨rfl, haccepted⟩, hserves]
        rfl
      rw [Move.aim_of_installs hinstalls, if_pos rfl, if_pos rfl]
      refine ⟨fun m => ⟨fun hm => ?_, ?_⟩, rfl, ?_⟩
      · rw [← Option.some.inj hm]
        exact ⟨running, hserves, rfl⟩
      · -- Two running notifiers do not share a registry.
        rintro ⟨other, hother, hreg⟩
        exact congrArg some
          (ht.coherent.apart n m running other hserves hother (Option.some.inj hreg))
      · rw [(h d).generation, UInt64.ofNat_add]
        rfl
    · have haim : (Move.set n c hold).aim s d = s.slot d :=
        Move.aim_of_idle (if_neg fun h => hd h.1.symm) rfl (Bool.and_false _) rfl
      rw [haim, if_neg hd, if_neg hd]
      refine ⟨fun m => ?_, (h d).isSome, (h d).generation⟩
      rw [(h d).owned m]
      by_cases hm : m = n
      · rw [hm]
        rcases hstarted with hserved | ⟨hnone, hnew⟩
        · rw [hserved, hserves]
        · constructor
          · rintro ⟨a, ha, -⟩
            exact absurd (hnone.symm.trans ha)
              (by simp only [reduceCtorEq, not_false_eq_true])
          · -- What a slot names was there before, and this registry was not.
            rintro ⟨a, ha, hreg⟩
            rw [Option.some.inj (ha.symm.trans hserves), hnew] at hreg
            rcases hs.coherent.served d s.registries.size hreg
              (Option.some_ne_none _) with ⟨m', b, hb, hb'⟩
            have hlt := hs.coherent.known m' b hb
            rw [hb'] at hlt
            exact absurd hlt (Nat.lt_irrefl _)
      · rw [hothers m hm]

/-- A shutdown takes from its notifier what the notifier owns. -/
theorem agrees_shutdown (h : s.Keeps l) (hs : s.Orderly) {n : NotifierKey}
    (ht : (s.shutdown n).Orderly) (c : ConnKey) :
    (s.shutdown n).Agrees ((Move.shutdown n).aim s c)
      ((l.act (.shutdown n) false false).owner c)
      ((l.act (.shutdown n) false false).changes c) := by
  have hrunning := running?_shutdown n s
  rw [Move.aim_of_clears rfl rfl rfl]
  simp only [Ledger.act, Ledger.lose, beq_iff_eq]
  by_cases howner : l.owner c = some n
  · rcases ((h c).owned n).mp howner with ⟨running, hn, hreg⟩
    have hclears : (Move.shutdown n).clears s c = true := by
      -- Were the slot not cleared it would still name a registry nobody serves.
      have hgone : ((s.shutdown n).slot c).registry.isNone = true := by
        rw [Option.isNone_iff_eq_none]
        by_contra hkept
        have hsame : ((s.shutdown n).slot c).registry = some running.registry := by
          have hidle : (Move.shutdown n).clears s c = false := by
            simp only [Move.clears, Option.isNone_eq_false_iff.mpr
              (Option.isSome_iff_ne_none.mpr hkept), Bool.and_false]
          rcases Move.perform_slot (.shutdown n) s c with haim | ⟨-, hclear, -⟩
          · rw [Move.aim_of_clears rfl rfl rfl, hidle, if_neg Bool.false_ne_true] at haim
            rw [show (s.shutdown n).slot c = s.slot c from haim]
            exact hreg
          · exact absurd (congrArg Slot.registry hclear) hkept
        -- Somebody would have to serve it after the shutdown, and then before.
        rcases ht.coherent.served c running.registry hsame
          (Option.some_ne_none _) with ⟨m, a, ha, ha'⟩
        rw [hrunning] at ha
        by_cases hm : m = n
        · rw [if_pos hm] at ha
          exact absurd ha (by simp only [reduceCtorEq, not_false_eq_true])
        · rw [if_neg hm] at ha
          exact hm (hs.coherent.apart m n a running ha hn ha')
      simp only [Move.clears, hreg, hn, hgone, Option.map_some, Option.isSome_some,
        beq_self_eq_true, Bool.and_self]
    have hagrees : (s.shutdown n).Agrees (s.slot c).cleared none (l.changes c + 1) := by
      refine ⟨fun m => ⟨fun hm => ?_, ?_⟩, rfl, (h c).cleared.generation⟩
      · exact absurd hm (by simp only [reduceCtorEq, not_false_eq_true])
      · rintro ⟨a, -, ha⟩
        exact absurd ha (by simp only [Slot.cleared, reduceCtorEq, not_false_eq_true])
    rw [if_pos hclears]
    simp only [howner, Option.isSome_some, beq_self_eq_true, Bool.and_self, if_true]
    exact hagrees
  · have hclears : (Move.shutdown n).clears s c = false := by
      rw [Bool.eq_false_iff]
      -- What is cleared named the registry of the notifier.
      intro hclears
      simp only [Move.clears, Bool.and_eq_true, beq_iff_eq] at hclears
      exact howner ((h.owner_eq_some_iff c n).mpr ⟨hclears.1, hclears.2.1⟩)
    have hno : (l.owner c == some n) = false := beq_eq_false_iff_ne.mpr howner
    rw [hclears]
    simp only [howner, hno, Bool.false_eq_true, Bool.false_and, if_false]
    refine ⟨fun m => ?_, (h c).isSome, (h c).generation⟩
    rw [hrunning]
    by_cases hm : m = n
    · rw [if_pos hm, hm]
      refine ⟨fun hn => absurd hn howner, ?_⟩
      rintro ⟨a, ha, -⟩
      exact absurd ha (by simp only [reduceCtorEq, not_false_eq_true])
    · rw [if_neg hm]
      exact (h c).owned m

/-- Moves that are not meant to change any registration agree with a ledger that
    does not change, whatever they do to callbacks. -/
theorem agrees_idle (h : s.Keeps l) {m : Move} (hm : m.turns = false) {c : ConnKey}
    (hinstalls : m.installs s c = none) (hclears : m.clears s c = false) :
    (m.perform s).Agrees (m.aim s c) (l.owner c) (l.changes c) := by
  -- A callback that goes in or out leaves registry and count alone.
  have haim : (m.aim s c).registry = (s.slot c).registry ∧
      (m.aim s c).generation = (s.slot c).generation := by
    rcases hreturns : m.returns s c with _ | k
    · simp only [Move.aim, hinstalls, hreturns, hclears, Bool.false_eq_true, if_false]
      split
      · exact ⟨rfl, rfl⟩
      · exact ⟨rfl, rfl⟩
    · rw [Move.aim_of_returns hinstalls hreturns]
      exact ⟨rfl, rfl⟩
  exact (h c).congr haim.1 haim.2 (running?_perform hm s)

/-- What a move is meant to leave in a slot is what the ledger says. -/
theorem agrees_aim (h : s.Keeps l) (hs : s.Orderly) {m : Move} (hm : m.isInternal = false)
    (ht : (m.perform s).Orderly) (c : ConnKey) :
    (m.perform s).Agrees (m.aim s c) ((l.act m (m.accepted s) (m.isOut s)).owner c)
      ((l.act m (m.accepted s) (m.isOut s)).changes c) := by
  cases m with
  | set n d hold => exact agrees_set h hs ht c
  | shutdown n => exact agrees_shutdown h hs ht c
  | unset n d =>
      refine agrees_lose (h c) rfl rfl rfl ?_ (running?_perform rfl s)
      have howner := h.owner_eq_some_iff c n
      -- To unregister is to clear what the notifier owns.
      rw [Bool.eq_iff_iff]
      simp only [Move.clears, Bool.and_eq_true, beq_iff_eq]
      constructor
      · rintro ⟨hsome, rfl, hreg⟩
        exact ⟨⟨rfl, howner.mpr ⟨hsome, hreg⟩⟩, (h d).isSome.trans hsome⟩
      · rintro ⟨⟨rfl, ho⟩, -⟩
        exact ⟨(howner.mp ho).1, rfl, (howner.mp ho).2⟩
  | finish t exit =>
      cases exit with
      | returned => exact agrees_idle h rfl rfl (Bool.and_false _)
      | panicked =>
          refine agrees_lose (h c) rfl rfl rfl ?_ (running?_perform rfl s)
          rw [Bool.eq_iff_iff]
          -- The ledger compares numbers of changes where the slot compares counts.
          simp only [Move.clears, Move.isOut, Bool.and_eq_true, beq_iff_eq, decide_eq_true_eq,
            (h c).isSome, ← (h c).generation]
          constructor
          · rintro ⟨hsome, ⟨rfl, hout⟩, hgen⟩
            exact ⟨⟨⟨hout, rfl⟩, hgen.symm⟩, hsome⟩
          · rintro ⟨⟨⟨hout, rfl⟩, hgen⟩, hsome⟩
            exact ⟨hsome, ⟨rfl, hout⟩, hgen.symm⟩
  | attach d r hold => exact absurd hm.symm Bool.false_ne_true
  | detach d => exact absurd hm.symm Bool.false_ne_true
  | detachFrom d r => exact absurd hm.symm Bool.false_ne_true
  | detachGeneration d g => exact absurd hm.symm Bool.false_ne_true
  | take d pinned => exact absurd hm.symm Bool.false_ne_true
  | forget t => exact absurd hm.symm Bool.false_ne_true
  | onRegistry r f => exact absurd hm.symm Bool.false_ne_true
  | _ =>
      -- The rest leaves every registration and the ledger alone.
      exact agrees_idle h rfl rfl (Bool.and_false _)

/-- Every move does what the ledger says. -/
theorem keeps_perform (h : s.Keeps l) (hs : s.Orderly) {m : Move} (hm : m.isInternal = false) :
    (m.perform s).Keeps (l.step m (m.accepted s) (m.isOut s) (m.perform s).isConnected) := by
  have ht : (m.perform s).Orderly := orderly_perform m hm hs
  exact fun c => agrees_swept ht (agrees_aim h hs hm ht c) (Move.perform_slot m s c)

theorem keeps_run (ms : List Move) (hms : ∀ m ∈ ms, m.isInternal = false) (h : s.Keeps l)
    (hs : s.Orderly) : (run ms s).Keeps (ledger ms s l) := by
  -- The ledger is kept in step, so the induction is on the moves.
  induction ms generalizing s l with
  | nil => exact h
  | cons m ms ih =>
      have hm : m.isInternal = false := hms m List.mem_cons_self
      rw [run_cons, ledger]
      exact ih (fun m' hm' => hms m' (List.mem_cons_of_mem m hm')) (keeps_perform h hs hm)
        (orderly_perform m hm hs)

/-! ### What can be observed -/

/-- Slots, registries, counts and answers are what a map of owners says. -/
structure Refines (owner : ConnKey → Option NotifierKey) (s : System) : Prop where
  owned : ∀ n c, owner c = some n ↔
    ∃ running, s.running? n = some running ∧ (s.slot c).registry = some running.registry
  listed : ∀ r c id, s.ident c = some id →
    (id ∈ (s.registry r).order ↔ (s.slot c).registry = some r)
  entry : ∀ r c id,
    (id, c) ∈ (s.registry r).refs ↔ id ∈ (s.registry r).order ∧ s.ident c = some id
  nodup : ∀ r, (s.registry r).order.Nodup
  filled : ∀ c k, (s.slot c).callback = some k → (s.slot c).registry.isSome = true
  closed : ∀ c, s.isConnected c = false →
    owner c = none ∧ ∀ r id, s.ident c = some id → id ∉ (s.registry r).order
  alive : ∀ r id, id ∈ (s.registry r).order → ∃ c, s.ident c = some id ∧ s.alive c = true
  hasCallback : ∀ c, s.hasCallback c = (owner c).isSome
  unset : ∀ n c, (s.unsetCallback n c).2 = decide (owner c = some n)
  registered : ∀ n, s.registered n = Set.ncard {c | owner c = some n}

/-- A connection is listed where its slot says, and nowhere else. -/
theorem Orderly.mem_refs_iff (h : s.Orderly) (r : RegistryKey) (c : ConnKey) :
    c ∈ (s.registry r).refs.map Prod.snd ↔ (s.slot c).registry = some r := by
  rw [List.mem_map]
  constructor
  · rintro ⟨⟨id, d⟩, he, rfl⟩
    exact (h.coherent.entry r id d he).2
  · intro hr
    rcases h.coherent.listed c r hr (Option.some_ne_none _) with
      ⟨id, he⟩
    exact ⟨(id, c), he, rfl⟩

/-- A registry has as many entries as connections name it. -/
theorem Orderly.size_registry (h : s.Orderly) (r : RegistryKey) :
    (s.registry r).size = Set.ncard {c | (s.slot c).registry = some r} := by
  have hsound := h.coherent.sound r
  have hrefs : (s.registry r).refs.Nodup := by
    refine List.Nodup.of_map Prod.fst ?_
    rw [hsound.refs_eq]
    exact hsound.nodup_order
  -- Entries of one connection have its identity and are the same.
  have hnodup : ((s.registry r).refs.map Prod.snd).Nodup := by
    refine hrefs.map_on fun e he e' he' heq => ?_
    have hid := (h.coherent.entry r e.1 e.2 he).1
    have hid' := (h.coherent.entry r e'.1 e'.2 he').1
    rw [heq, hid'] at hid
    exact Prod.ext (Option.some.inj hid).symm heq
  have hset : {c | (s.slot c).registry = some r} =
      ↑((s.registry r).refs.map Prod.snd).toFinset := by
    ext c
    rw [Set.mem_ofPred_eq, Finset.mem_coe, List.mem_toFinset]
    exact (h.mem_refs_iff r c).symm
  rw [hset, Set.ncard_coe_finset, List.toFinset_card_of_nodup hnodup, List.length_map,
    Registry.size, ← hsound.refs_eq, List.length_map]

/-- What keeps a ledger and is in order is what its map of owners says. -/
theorem Keeps.refines (h : s.Keeps l) (hs : s.Orderly) : s.Refines l.owner := by
  have hentry : ∀ r c id, s.ident c = some id →
      (id ∈ (s.registry r).order ↔ (s.slot c).registry = some r) := by
    intro r c id hid
    rw [(hs.coherent.sound r).mem_order_iff]
    constructor
    · rintro ⟨d, he⟩
      -- An identity is that of one connection, so the entry is its own.
      rcases hs.coherent.entry r id d he with ⟨hd, hreg⟩
      rw [hs.coherent.ident_inj hid hd]
      exact hreg
    · intro hr
      rcases hs.coherent.listed c r hr (Option.some_ne_none _)
        with ⟨id', he⟩
      have hid' := (hs.coherent.entry r id' c he).1
      rw [Option.some.inj (hid.symm.trans hid')]
      exact ⟨c, he⟩
  have hclosed : ∀ c, s.isConnected c = false → l.owner c = none := by
    intro c hc
    have hsome := (h c).isSome
    rw [hs.coherent.closed c hc] at hsome
    exact Option.not_isSome_iff_eq_none.mp (hsome ▸ Bool.false_ne_true)
  refine ⟨fun n c => (h c).owned n, hentry, ?_, fun r => (hs.coherent.sound r).nodup_order,
    hs.coherent.filled, ?_, ?_, fun c => (h c).isSome.symm, ?_, ?_⟩
  · intro r c id
    rw [(hs.coherent.sound r).mem_order_iff]
    constructor
    · intro he
      exact ⟨⟨c, he⟩, (hs.coherent.entry r id c he).1⟩
    · rintro ⟨⟨d, he⟩, hid⟩
      rw [hs.coherent.ident_inj hid (hs.coherent.entry r id d he).1]
      exact he
  · intro c hc
    refine ⟨hclosed c hc, fun r id hid hmem => ?_⟩
    have hreg := (hentry r c id hid).mp hmem
    rw [hs.coherent.closed c hc] at hreg
    exact absurd hreg (by simp only [reduceCtorEq, not_false_eq_true])
  · intro r id hid
    rcases ((hs.coherent.sound r).mem_order_iff id).mp hid with ⟨c, he⟩
    exact ⟨c, (hs.coherent.entry r id c he).1, hs.alive he⟩
  · intro n c
    rw [Bool.eq_iff_iff, unsetCallback_answer, decide_eq_true_eq]
    exact ((h c).owned n).symm
  · intro n
    rw [System.registered]
    rcases hn : s.running? n with _ | running
    · have hempty : {c | l.owner c = some n} = ∅ := by
        refine Set.eq_empty_of_forall_notMem fun c hc => ?_
        rcases ((h c).owned n).mp hc with ⟨running, hrunning, -⟩
        exact absurd (hn.symm.trans hrunning) (by simp only [reduceCtorEq, not_false_eq_true])
      rw [hempty, Set.ncard_empty]
    · have howners : {c | l.owner c = some n} =
          {c | (s.slot c).registry = some running.registry} := by
        ext c
        rw [Set.mem_ofPred_eq, Set.mem_ofPred_eq, (h c).owned n]
        constructor
        · rintro ⟨a, ha, hreg⟩
          rw [← Option.some.inj (ha.symm.trans hn)]
          exact hreg
        · exact fun hreg => ⟨running, hn, hreg⟩
      rw [howners]
      exact hs.size_registry running.registry

/-- Whatever a program does that uses notifiers, slots, registries, counts and
    answers are what the map of owners says. That holds between any two of its
    operations, also of those that callbacks make while they run; and a cycle
    of a worker, with callbacks that do anything a program may do, is a
    sequence of such operations. -/
theorem owner_of_run (r : Nat) (ms : List Move) (hms : ∀ m ∈ ms, m.isInternal = false) :
    (run ms (init r)).Refines (ledger ms (init r) .empty).owner ∧
    ∀ {δ : Type} (call : Handler δ) (k : WorkerKey) (w : World δ),
      call.Performs (fun m => m.isInternal = false) → w.sys = run ms (init r) →
      ∃ ms', (∀ m ∈ ms', m.isInternal = false) ∧
        (w.workerCycle call k).sys = run (ms ++ ms') (init r) ∧
        (w.workerCycle call k).sys.Refines (ledger (ms ++ ms') (init r) .empty).owner := by
  have hrefines : ∀ ms : List Move, (∀ m ∈ ms, m.isInternal = false) →
      (run ms (init r)).Refines (ledger ms (init r) .empty).owner := fun ms hms =>
    (keeps_run ms hms (keeps_init r) (orderly_init r)).refines (orderly_run ms hms (orderly_init r))
  refine ⟨hrefines ms hms, fun call k w hcall hw => ?_⟩
  -- A cycle makes none of the moves that are internal.
  have hcyclic : ∀ m : Move, m.isCyclic = true → m.isInternal = false := by
    intro m hm
    cases m <;>
      first
      | rfl
      | exact absurd hm Bool.false_ne_true
  rcases (World.nests_workerCycle hcall hcyclic (fun _ _ => rfl) k ⟨r, ms, hw⟩).leads with
    ⟨ms', hms', hcycle⟩
  have happend : (w.workerCycle call k).sys = run (ms ++ ms') (init r) := by
    rw [hcycle, hw, run_append]
  refine ⟨ms', hms', happend, happend ▸ hrefines (ms ++ ms') fun m hm => ?_⟩
  rcases List.mem_append.mp hm with hm | hm
  · exact hms m hm
  · exact hms' m hm

/-- A second notifier takes a connection over while its callback runs, and the
    panic that ends the call does not take it away again. Closing the other
    connection leaves that without an owner. -/
theorem owner_of_run_moved :
    let ms : List Move := [.pair 10 11, .addNotifier .default, .addNotifier .default,
      .set 0 0 none, .begin 0 4, .set 1 0 (some 0), .finish ⟨0, 0, 1, true⟩ .panicked,
      .set 0 1 none, .close 1]
    (∀ m ∈ ms, m.isInternal = false) ∧ (run ms (init 0)).hasCallback 0 = true ∧
      (run ms (init 0)).registered 1 = 1 ∧ (run ms (init 0)).registered 0 = 0 ∧
      (run ms (init 0)).Refines (ledger ms (init 0) .empty).owner ∧
      (ledger ms (init 0) .empty).owner 0 = some 1 ∧
      (ledger ms (init 0) .empty).owner 1 = none := by
  intro ms
  have hms : ∀ m ∈ ms, m.isInternal = false := by decide
  have hrefines := (owner_of_run 0 ms hms).1
  refine ⟨hms, ?_, ?_, ?_, hrefines, ?_, ?_⟩
  · decide +kernel
  · decide +kernel
  · decide +kernel
  · decide +kernel
  · decide +kernel

end System

end ReadNotify
