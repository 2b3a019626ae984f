import ReadNotify.Proofs.System.Operations

/-!
# What Each Move Does to Registrations

Most moves are quiet, and the others do one thing to one slot and then destroy
callbacks. This module says so move by move: which slot gets what, what is out
afterwards, and that every other slot is unchanged or was cleared because its
connection was closed. `perform_slot` is the summary, and nothing later looks
into the operations again to find out about slots.

## Main definitions

* `Move.isQuiet`: The moves that have nothing to do with registrations.
* `Move.installs`: The callback and the registry a move puts into a slot.
* `Move.clears`, `Move.takes`, `Move.returns`: What else is done to a slot.
* `Move.aim`: What a move is meant to leave in a slot.

## Theorems

* `quiet_perform`: Quiet moves are quiet.
* `perform_slot`: A slot after any move.
* `perform_out`, `callbacks_perform`: What is out of the slots after any move,
  and how many callbacks there are.
-/

namespace ReadNotify

namespace Move

variable {s : System}

/-- The moves that have nothing to do with registrations. -/
def isQuiet : Move → Bool
  | pair .. | freshPair | listenOn _ | listen _ | listenLocal | connectAddr _ | connect ..
  | accept .. | write .. | receive .. | addNotifier _ | countCycle _ | countDispatches ..
  | addCounters | openPoller .. | releasePoller _ | checkPoller .. | keepPoller ..
  | finishWorker _ | switch .. | starve _ | refuseThreads _ | openOther _ | closeOther _
  | setReadable .. | note _ => true
  | _ => false

theorem quiet_perform {m : Move} (h : m.isQuiet = true) (s : System) :
    System.Quiet s (m.perform s) := by
  cases m with
  | pair fdA fdB => exact System.quiet_adoptTwo _ _ _ true true s
  | freshPair => exact System.quiet_freshPair s
  | listenOn a => exact System.quiet_adoptResult _ s
  | listen port => exact System.quiet_listen port s
  | listenLocal => exact System.quiet_listenLocal s
  | connectAddr a => exact System.quiet_adoptResult _ s
  | connect host port => exact System.quiet_connect host port s
  | accept c signalled => exact System.quiet_accept c signalled s
  | write c data => exact System.quiet_write c data s
  | receive c n => exact System.quiet_receive c n s
  | addNotifier config => exact System.quiet_addNotifier config s
  | countCycle l => exact System.quiet_of_same rfl rfl rfl (fun _ => rfl) rfl rfl
  | countDispatches l n => exact System.quiet_of_same rfl rfl rfl (fun _ => rfl) rfl rfl
  | addCounters => exact System.quiet_of_same rfl rfl rfl (fun _ => rfl) rfl rfl
  | openPoller kind capacity => exact System.quiet_kernel _ s
  | releasePoller p => exact System.quiet_kernel _ s
  | checkPoller window p => exact System.quiet_checkPoller window p s
  | keepPoller k p => exact System.quiet_updateWorker k _ s
  | finishWorker k => exact System.quiet_finishWorker k s
  | switch thread held => exact System.quiet_of_same rfl rfl rfl (fun _ => rfl) rfl rfl
  | starve starved => exact System.quiet_kernel _ s
  | refuseThreads error => exact System.quiet_kernel _ s
  | openOther pollable => exact System.quiet_kernel _ s
  | closeOther o => exact System.quiet_kernel _ s
  | setReadable o readable => exact System.quiet_kernel _ s
  | note record => exact System.quiet_note record s
  | _ => exact absurd h Bool.false_ne_true

/-- The callback and the registry that a move puts into a slot. -/
def installs (m : Move) (s : System) (c : ConnKey) : Option (CallbackKey × RegistryKey) :=
  match m with
  | attach d r _ => if d = c ∧ (s.conn? c).isSome then some (s.callbacks.size, r) else none
  | set n d hold =>
      if d = c ∧ (s.setFresh n d hold).2 = .registered then
        ((s.setFresh n d hold).1.running? n).map fun running =>
          (s.callbacks.size, running.registry)
      else none
  | _ => none

/-- Whether a move is meant to clear a registration. A shutdown is meant to
    clear whatever it finds in the notifier's registry. -/
def clears (m : Move) (s : System) (c : ConnKey) : Bool :=
  (s.slot c).registry.isSome &&
    match m with
    | detach d => d == c
    | detachFrom d r => d == c && (s.slot c).registry == some r
    | detachGeneration d g => d == c && (s.slot c).generation == g
    | unset n d => d == c && (s.slot c).registry == (s.running? n).map Running.registry
    | shutdown n =>
        (s.slot c).registry == (s.running? n).map Running.registry &&
          ((s.shutdown n).slot c).registry.isNone
    | finish t .panicked =>
        t.conn == c && decide (t ∈ s.out) && (s.slot c).generation == t.generation
    | _ => false

/-- Whether a move takes the callback out of a slot. -/
def takes (m : Move) (c : ConnKey) : Bool :=
  match m with
  | take d _ | begin d _ => d == c
  | _ => false

/-- The callback that a move puts back into a slot. -/
def returns (m : Move) (s : System) (c : ConnKey) : Option CallbackKey :=
  match m with
  | finish t .returned =>
      if t.conn = c ∧ t ∈ s.out ∧ s.mayReturn t = true then some t.callback else none
  | _ => none

/-- What a move is meant to leave in a slot. -/
def aim (m : Move) (s : System) (c : ConnKey) : Slot :=
  match m.installs s c, m.returns s c with
  | some (k, r), _ => ⟨some k, some r, (s.slot c).generation + 1⟩
  | none, some k => { s.slot c with callback := some k }
  | none, none =>
    if m.clears s c then (s.slot c).cleared
    else if m.takes c then { s.slot c with callback := none }
    else s.slot c

/-- What is out of the slots after a move. -/
def outAfter (m : Move) (s : System) : List Taken :=
  match m with
  | take c pinned => (s.take c pinned).2.toList ++ s.out
  | begin c size => ((s.begin c size).2.map Prod.fst).toList ++ s.out
  | finish t _ | forget t =>
      if t ∈ s.out then s.out.filter fun x => x.callback != t.callback else s.out
  | _ => s.out

theorem registered_of_clears {m : Move} {c : ConnKey} (h : m.clears s c = true) :
    (s.slot c).registry.isSome = true := (Bool.and_eq_true_iff.mp h).1

theorem aim_of_idle {m : Move} {c : ConnKey} (hinstalls : m.installs s c = none)
    (hreturns : m.returns s c = none) (hclears : m.clears s c = false)
    (htakes : m.takes c = false) : m.aim s c = s.slot c := by
  simp only [aim, hinstalls, hreturns, hclears, htakes, Bool.false_eq_true, if_false]

theorem aim_of_clears {m : Move} {c : ConnKey} (hinstalls : m.installs s c = none)
    (hreturns : m.returns s c = none) (htakes : m.takes c = false) :
    m.aim s c = if m.clears s c then (s.slot c).cleared else s.slot c := by
  simp only [aim, hinstalls, hreturns, htakes, Bool.false_eq_true, if_false]

theorem aim_of_installs {m : Move} {c : ConnKey} {k : CallbackKey} {r : RegistryKey}
    (h : m.installs s c = some (k, r)) :
    m.aim s c = ⟨some k, some r, (s.slot c).generation + 1⟩ := by
  simp only [aim, h]

theorem aim_of_returns {m : Move} {c : ConnKey} {k : CallbackKey}
    (hinstalls : m.installs s c = none) (h : m.returns s c = some k) :
    m.aim s c = { s.slot c with callback := some k } := by
  simp only [aim, hinstalls, h]

theorem aim_of_isQuiet {m : Move} (h : m.isQuiet = true) (s : System) (c : ConnKey) :
    m.aim s c = s.slot c := by
  -- A quiet move is not among those that do anything to a slot.
  cases m <;>
    first
    | exact absurd h Bool.false_ne_true
    | exact aim_of_idle rfl rfl (Bool.and_false _) rfl

/-- A slot after a move that clears at most one registration. -/
theorem swept_of_clears {m : Move} {c : ConnKey} {t : System} {q : Prop} [Decidable q]
    (hinstalls : m.installs s c = none) (hreturns : m.returns s c = none)
    (htakes : m.takes c = false) (hclears : m.clears s c = true ↔ q)
    (h : System.Swept (if q then (s.slot c).cleared else s.slot c) t c) :
    System.Swept (m.aim s c) t c := by
  rw [aim_of_clears hinstalls hreturns htakes]
  by_cases hq : q
  · rw [if_pos (hclears.mpr hq)]
    rwa [if_pos hq] at h
  · rw [if_neg fun hc => hq (hclears.mp hc)]
    rwa [if_neg hq] at h

theorem swept_attach (c : ConnKey) (r : RegistryKey) (k : CallbackKey) (s : System)
    (d : ConnKey) :
    System.Swept (if d = c ∧ (s.conn? c).isSome then ⟨some k, some r, (s.slot c).generation + 1⟩
      else s.slot d) (s.attach c r k).1 d := by
  have hslot := System.slot_install c r k s d
  have hdestroy := System.swept_destroyAny (s.install c r k).2.1 (s.install c r k).1 d
  rw [hslot] at hdestroy
  exact hdestroy

theorem running?_attach (c : ConnKey) (r : RegistryKey) (k : CallbackKey) (s : System)
    (n : NotifierKey) : (s.attach c r k).1.running? n = s.running? n := by
  rcases System.install_frame c r k s with ⟨registries, -, heq⟩
  have hinstall : (s.install c r k).1.running? n = s.running? n := by
    rw [heq]
    rfl
  rw [← hinstall]
  exact (System.unwinds_destroyAny (s.install c r k).2.1 _).unwound.running n

theorem swept_set (n : NotifierKey) (c : ConnKey) (hold : Option ConnKey) (s : System)
    (d : ConnKey) :
    System.Swept ((set n c hold).aim s d) ((set n c hold).perform s) d := by
  have hfresh : ∀ e, (s.addCallback hold).1.slot e = s.slot e := fun _ => rfl
  rcases System.setCallback_cases n c s.callbacks.size (s.addCallback hold).1 with
    ⟨hrefused, u, hquiet, heq⟩ | ⟨haccepted, hopen, running, u, v, hquiet, hready, hnoted⟩
  · -- A refused registration destroys the new callback, which may close others.
    have hidle : (set n c hold).aim s d = s.slot d :=
      aim_of_idle (if_neg fun h => hrefused h.2) rfl (Bool.and_false _) rfl
    have hdestroy := System.swept_destroy s.callbacks.size u d
    rw [hquiet.slot, hfresh] at hdestroy
    rw [hidle, show (set n c hold).perform s = _ from heq]
    exact hdestroy
  · -- Starting the worker has touched no slot when the callback is put in.
    have hslot : ∀ e, v.slot e = s.slot e := fun e => by
      rw [← hfresh, ← hquiet.slot]
      exact System.slot_congr (hready.conn? e)
    have hsome : (v.conn? c).isSome = true := by
      rcases hquiet.isConnected c with hsame | ⟨hnone, -⟩
      · rw [hopen] at hsame
        rcases hc : v.conn? c with _ | conn
        · rw [hready.conn?] at hc
          rw [System.isConnected_of_none hc] at hsame
          exact absurd hsame Bool.false_ne_true
        · rfl
      · rw [System.isConnected_of_none hnone] at hopen
        exact absurd hopen Bool.false_ne_true
    -- Which registry that was is still to be seen afterwards.
    have hserves : ((set n c hold).perform s).running? n = some running := by
      rw [show (set n c hold).perform s = ((s.addCallback hold).1.setCallback n c
        s.callbacks.size).1 from rfl, hnoted.quiet.running n, running?_attach]
      exact hready.serves
    have hattach := (swept_attach c running.registry s.callbacks.size v d).noted hnoted
    rw [hslot, hslot] at hattach
    by_cases hd : d = c
    · subst hd
      have hinstalls : (set n d hold).installs s d = some (s.callbacks.size, running.registry) := by
        simp only [installs]
        rw [if_pos ⟨trivial, haccepted⟩, show (s.setFresh n d hold).1.running? n = _ from hserves]
        rfl
      rw [aim_of_installs hinstalls]
      rw [if_pos ⟨rfl, hsome⟩] at hattach
      exact hattach
    · have hidle : (set n c hold).aim s d = s.slot d :=
        aim_of_idle (if_neg fun h => hd h.1.symm) rfl (Bool.and_false _) rfl
      rw [if_neg fun h => hd h.1] at hattach
      rw [hidle]
      exact hattach

theorem swept_unset (n : NotifierKey) (c : ConnKey) (s : System) (d : ConnKey) :
    System.Swept (if d = c ∧ (s.slot d).registry.isSome ∧
        (s.slot d).registry = (s.running? n).map Running.registry then (s.slot d).cleared
      else s.slot d) (s.unsetCallback n c).1 d := by
  have hslot : ∀ e, (s.acquire (.state n)).slot e = s.slot e := fun _ => rfl
  rcases System.unsetCallback_cases n c s with ⟨hstopped, -, hnoted⟩ |
    ⟨running, hrunning, -, hnoted⟩
  · rw [hstopped, Option.map_none, if_neg]
    · exact Or.inl (hnoted.quiet.slot d)
    · -- Without a worker there is no registry the slot could name.
      rintro ⟨-, hsome, hnone⟩
      rw [hnone] at hsome
      exact absurd hsome Bool.false_ne_true
  · have hdetach := System.swept_detachFrom c running.registry (s.acquire (.state n)) d
    rw [hslot] at hdetach
    rw [hrunning, Option.map_some]
    refine System.Swept.noted ?_ hnoted
    by_cases hr : d = c ∧ (s.slot d).registry = some running.registry
    · rw [if_pos hr] at hdetach
      rwa [if_pos ⟨hr.1, Option.isSome_iff_exists.mpr ⟨_, hr.2⟩, hr.2⟩]
    · rw [if_neg hr] at hdetach
      rwa [if_neg fun h => hr ⟨h.1, h.2.2⟩]

theorem swept_shutdown (n : NotifierKey) (s : System) (c : ConnKey) :
    System.Swept ((shutdown n).aim s c) ((shutdown n).perform s) c := by
  rw [aim_of_clears rfl rfl rfl]
  rcases System.shutdown_cases n s with ⟨hstopped, hquiet⟩ |
    ⟨running, u, v, hrunning, hquiet, hquiet', hnoted⟩
  · have hclears : (shutdown n).clears s c = false := by
      simp only [clears, hstopped, Option.map_none]
      rcases (s.slot c).registry with _ | r
      · rfl
      · rfl
    rw [hclears]
    exact Or.inl (hquiet.slot c)
  · -- Draining empties the registry and leaves slots to the loop behind it.
    have hslot : (v.drain running.registry).1.slot c = s.slot c :=
      (hquiet'.slot c).trans (hquiet.slot c)
    have hunwound := (System.unwinds_detachAll running.registry
      (v.drain running.registry).2 (v.drain running.registry).1).unwound
    have hswept : ((s.slot c).registry ≠ some running.registry ∨
        ((s.shutdown n).slot c).registry ≠ none) →
        System.Swept (s.slot c) (s.shutdown n) c := by
      intro hkept
      rw [← hslot] at hkept ⊢
      refine (System.swept_of_unwound hunwound fun hopen => ?_).noted hnoted
      rcases hkept with hother | hkept
      · exact System.slot_detachAll _ _ _ c hother hopen
      · rw [hnoted.quiet.slot] at hkept
        rcases hunwound.slots c with hsame | ⟨-, hclear⟩
        · exact hsame
        · rw [hclear] at hkept
          exact absurd rfl hkept
    cases hclears : (shutdown n).clears s c with
    | true =>
        -- The slot names no registry any more, so it was cleared.
        rw [if_pos rfl]
        simp only [clears, Bool.and_eq_true, Option.isNone_iff_eq_none] at hclears
        refine Or.inl ?_
        rcases hunwound.slots c with hsame | ⟨-, hclear⟩
        · have hnone := hclears.2.2
          rw [hnoted.quiet.slot, hsame, hslot] at hnone
          rw [hnone] at hclears
          exact absurd hclears.1 Bool.false_ne_true
        · rw [hslot] at hclear
          exact (hnoted.quiet.slot c).trans hclear
    | false =>
        rw [if_neg Bool.false_ne_true]
        apply hswept
        -- Either the slot named another registry or it still names this one.
        by_contra hboth
        rw [not_or, not_not, not_not] at hboth
        simp only [clears, hboth.1, hboth.2, hrunning, Option.map_some, Option.isSome_some,
          beq_self_eq_true, Option.isNone_none, Bool.and_true, Bool.true_eq_false] at hclears

/-- The call has returned: the callback goes back, or is destroyed. -/
theorem swept_returned {t : Taken} (hout : t ∈ s.out) (c : ConnKey) :
    System.Swept ((finish t .returned).aim s c) (s.finish t .returned) c := by
  rcases System.putBack_cases t s with ⟨hmay, -, heq⟩ | ⟨hmay, -, heq⟩
  · have hslot := System.slot_updateSlot s t.conn
      (fun x => { x with callback := some t.callback }) c
    have hafter : (s.finish t .returned).slot c =
        (s.updateSlot t.conn fun x => { x with callback := some t.callback }).slot c := by
      rw [System.finish, heq]
      rfl
    refine Or.inl (hafter.trans (hslot.trans ?_))
    -- Only the slot that it was taken from is filled.
    by_cases hc : t.conn = c
    · have hreturns : (finish t .returned).returns s c = some t.callback :=
        if_pos ⟨hc, hout, hmay⟩
      rw [aim_of_returns rfl hreturns, if_pos ⟨hc.symm, System.isSome_of_mayReturn hmay⟩, hc]
    · have hreturns : (finish t .returned).returns s c = none := if_neg fun h => hc h.1
      rw [aim_of_idle rfl hreturns (Bool.and_false _) rfl, if_neg fun h => hc h.1.symm]
  · have hreturns : (finish t .returned).returns s c = none := by
      refine if_neg fun h => ?_
      rw [hmay] at h
      exact Bool.false_ne_true h.2.2
    rw [aim_of_idle rfl hreturns (Bool.and_false _) rfl, System.finish, heq]
    exact System.swept_settleTaken (System.swept_destroy t.callback s c) t.callback

/-- The call has panicked: the registration it was made for is cleared, and then
    the callback is destroyed. -/
theorem swept_panicked {t : Taken} (hout : t ∈ s.out) (c : ConnKey) :
    System.Swept ((finish t .panicked).aim s c) (s.finish t .panicked) c := by
  rcases System.giveUp_eq t s with ⟨v, hnoted, heq⟩
  have hdetach := System.swept_detachGeneration t.conn t.generation v c
  have hdestroy := System.swept_destroy t.callback (v.detachGeneration t.conn t.generation).1 c
  have hshut := (System.unwinds_destroy t.callback
    (v.detachGeneration t.conn t.generation).1).unwound.shut c
  -- Clearing and destroying both sweep, and the first decides what is aimed at.
  rw [hnoted.quiet.slot] at hdetach
  have hclears : (finish t .panicked).clears s c = true ↔
      c = t.conn ∧ (s.slot c).registry.isSome = true ∧ (s.slot c).generation = t.generation := by
    simp only [clears, Bool.and_eq_true, beq_iff_eq, decide_eq_true_eq]
    exact ⟨fun h => ⟨h.2.1.1.symm, h.1, h.2.2⟩, fun h => ⟨h.2.1, ⟨h.1.symm, hout⟩, h.2.2⟩⟩
  rw [System.finish, heq]
  refine System.swept_settleTaken ?_ t.callback
  exact swept_of_clears rfl rfl rfl hclears (hdetach.trans hdestroy hshut)

theorem swept_finish (t : Taken) (exit : Exit) (s : System) (c : ConnKey) :
    System.Swept ((finish t exit).aim s c) ((finish t exit).perform s) c := by
  rw [perform]
  by_cases hout : t ∈ s.out
  · rw [if_pos hout]
    cases exit with
    | returned => exact swept_returned hout c
    | panicked => exact swept_panicked hout c
  · have hidle : (finish t exit).aim s c = s.slot c := by
      cases exit with
      | returned =>
          have hreturns : (finish t .returned).returns s c = none := if_neg fun h => hout h.2.1
          exact aim_of_idle rfl hreturns (Bool.and_false _) rfl
      | panicked =>
          have hclears : (finish t .panicked).clears s c = false := by
            simp only [clears, hout, decide_false, Bool.and_false, Bool.false_and]
          exact aim_of_idle rfl rfl hclears rfl
    rw [if_neg hout, hidle]
    exact Or.inl rfl

theorem swept_drop (c : ConnKey) (s : System) (d : ConnKey) :
    System.Swept (s.slot d) (s.dropHandle c).1 d := by
  rcases System.dropHandle_cases c s with heq | ⟨-, heq⟩ | ⟨-, heq⟩
  · rw [heq]
    exact Or.inl rfl
  · rw [heq]
    exact Or.inl (System.frame_disown c s d).1
  · rw [heq, ← (System.frame_disown c s d).1]
    exact System.swept_close c _ d

theorem swept_take {m : Move} {c : ConnKey} {s t : System} {d : ConnKey}
    (hinstalls : m.installs s c = none) (hreturns : m.returns s c = none)
    (hclears : m.clears s c = false) (htakes : m.takes c = decide (d = c))
    (hcases : ((s.slot d).callback = none ∧ t.slot c = s.slot c) ∨
      ∃ x : Taken, (s.slot d).callback = some x.callback ∧ x.conn = d ∧
        t.slot c = (s.takenOut x).slot c) :
    System.Swept (m.aim s c) t c := by
  simp only [aim, hinstalls, hreturns, hclears, htakes, Bool.false_eq_true, if_false,
    decide_eq_true_eq]
  refine Or.inl ?_
  -- An empty slot stays empty, which is what emptying it means.
  rcases hcases with ⟨hnone, hsame⟩ | ⟨x, hsome, hconn, hout⟩
  · rw [hsame]
    by_cases hd : d = c
    · rw [if_pos hd, ← hd, ← hnone]
    · rw [if_neg hd]
  · rw [hout, System.slot_takenOut x s d hconn hsome]
    by_cases hd : d = c
    · rw [if_pos hd, if_pos hd.symm, hd]
    · rw [if_neg hd, if_neg fun h => hd h.symm]

/-- A slot after any move: what the move was meant to leave there, or cleared,
    and then the connection is closed. -/
theorem perform_slot (m : Move) (s : System) (c : ConnKey) :
    System.Swept (m.aim s c) (m.perform s) c := by
  -- Moves that destroy callbacks leave a slot as aimed, or closed and cleared.
  cases m with
  | close d =>
      have hidle : (close d).aim s c = s.slot c := aim_of_idle rfl rfl (Bool.and_false _) rfl
      rw [hidle]
      exact System.swept_close d s c
  | drop d =>
      have hidle : (drop d).aim s c = s.slot c := aim_of_idle rfl rfl (Bool.and_false _) rfl
      rw [hidle]
      exact swept_drop d s c
  | set n d hold => exact swept_set n d hold s c
  | entrust k d =>
      have hidle : (entrust k d).aim s c = s.slot c :=
        aim_of_idle rfl rfl (Bool.and_false _) rfl
      rcases System.entrust_frame k d s with ⟨callbacks, heq, -⟩
      rw [hidle, perform, heq]
      exact Or.inl rfl
  | unset n d =>
      refine swept_of_clears rfl rfl rfl ?_ (swept_unset n d s c)
      simp only [clears, Bool.and_eq_true, beq_iff_eq]
      exact ⟨fun h => ⟨h.2.1.symm, h.1, h.2.2⟩, fun h => ⟨h.2.1, h.1.symm, h.2.2⟩⟩
  | shutdown n => exact swept_shutdown n s c
  | begin d size =>
      refine swept_take rfl rfl (Bool.and_false _) rfl ?_
      rcases System.begin_cases d size s with ⟨hnone, heq⟩ |
        ⟨t, hsome, hconn, -, -, record, heq⟩
      · exact Or.inl ⟨hnone, by rw [perform, heq]⟩
      · refine Or.inr ⟨t, hsome, hconn, ?_⟩
        rw [perform, heq]
        exact (System.quiet_receive d size (s.takenOut t)).slot c
  | finish t exit => exact swept_finish t exit s c
  | attach d r hold =>
      have hattach := swept_attach d r s.callbacks.size (s.addCallback hold).1 c
      by_cases hc : d = c ∧ (s.conn? c).isSome
      · have hinstalls : (attach d r hold).installs s c = some (s.callbacks.size, r) := if_pos hc
        rcases hc with ⟨rfl, hsome⟩
        rw [aim_of_installs hinstalls]
        rw [if_pos ⟨rfl, hsome⟩] at hattach
        exact hattach
      · have hidle : (attach d r hold).aim s c = s.slot c :=
          aim_of_idle (if_neg hc) rfl (Bool.and_false _) rfl
        rw [if_neg (by rintro ⟨rfl, hsome⟩; exact hc ⟨rfl, hsome⟩)] at hattach
        rw [hidle]
        exact hattach
  | detach d =>
      refine swept_of_clears rfl rfl rfl ?_ (System.swept_detach d s c)
      simp only [clears, Bool.and_eq_true, beq_iff_eq]
      exact ⟨fun h => ⟨h.2.symm, h.1⟩, fun h => ⟨h.2, h.1.symm⟩⟩
  | detachFrom d r =>
      refine swept_of_clears rfl rfl rfl ?_ (System.swept_detachFrom d r s c)
      simp only [clears, Bool.and_eq_true, beq_iff_eq]
      exact ⟨fun h => ⟨h.2.1.symm, h.2.2⟩,
        fun h => ⟨Option.isSome_iff_exists.mpr ⟨r, h.2⟩, h.1.symm, h.2⟩⟩
  | detachGeneration d g =>
      refine swept_of_clears rfl rfl rfl ?_ (System.swept_detachGeneration d g s c)
      simp only [clears, Bool.and_eq_true, beq_iff_eq]
      exact ⟨fun h => ⟨h.2.1.symm, h.1, h.2.2⟩, fun h => ⟨h.2.1, h.1.symm, h.2.2⟩⟩
  | take d pinned =>
      refine swept_take rfl rfl (Bool.and_false _) rfl ?_
      rcases System.take_cases d pinned s with ⟨hnone, heq⟩ | ⟨t, hsome, hconn, -, heq⟩
      · exact Or.inl ⟨hnone, by rw [perform, heq]⟩
      · exact Or.inr ⟨t, hsome, hconn, by rw [perform, heq]⟩
  | forget t =>
      have hidle : (forget t).aim s c = s.slot c := aim_of_idle rfl rfl (Bool.and_false _) rfl
      rw [hidle, perform]
      by_cases hout : t ∈ s.out
      · rw [if_pos hout]
        exact System.swept_destroy t.callback s c
      · rw [if_neg hout]
        exact Or.inl rfl
  | onRegistry r f =>
      have hidle : (onRegistry r f).aim s c = s.slot c :=
        aim_of_idle rfl rfl (Bool.and_false _) rfl
      rw [hidle]
      exact Or.inl rfl
  | fillWindow l =>
      have hidle : (fillWindow l).aim s c = s.slot c :=
        aim_of_idle rfl rfl (Bool.and_false _) rfl
      rw [hidle]
      exact Or.inl rfl
  | _ =>
      rw [aim_of_isQuiet rfl]
      exact Or.inl ((quiet_perform rfl s).slot c)

/-! ### What is out, and how many callbacks there are -/

theorem attach_frame (c : ConnKey) (r : RegistryKey) (k : CallbackKey) (s : System) :
    (s.attach c r k).1.out = s.out ∧ (s.attach c r k).1.callbacks.size = s.callbacks.size := by
  rcases System.install_frame c r k s with ⟨registries, -, heq⟩
  have hunwound := (System.unwinds_destroyAny (s.install c r k).2.1 (s.install c r k).1).unwound
  have hout : (s.install c r k).1.out = s.out := by
    rw [heq]
    rfl
  have hsize : (s.install c r k).1.callbacks.size = s.callbacks.size := by
    rw [heq]
    rfl
  exact ⟨hunwound.out.trans hout, hunwound.callbacks.trans hsize⟩

theorem set_frame (n : NotifierKey) (c : ConnKey) (hold : Option ConnKey) (s : System) :
    (s.setFresh n c hold).1.out = s.out ∧
      (s.setFresh n c hold).1.callbacks.size = s.callbacks.size + 1 := by
  have hsize : (s.addCallback hold).1.callbacks.size = s.callbacks.size + 1 :=
    Table.size_add _ _
  have hfresh : (s.addCallback hold).1.out = s.out := rfl
  unfold System.setFresh
  rcases System.setCallback_cases n c (s.addCallback hold).2 (s.addCallback hold).1 with
    ⟨-, u, hquiet, heq⟩ | ⟨-, -, running, u, v, hquiet, hready, hnoted⟩
  · have hunwound := (System.unwinds_destroy (s.addCallback hold).2 u).unwound
    rw [heq, hunwound.out, hunwound.callbacks, hquiet.out, hquiet.callbacks]
    exact ⟨hfresh, hsize⟩
  · rcases attach_frame c running.registry (s.addCallback hold).2 v with ⟨hout, hcallbacks⟩
    rw [hnoted.quiet.out, hnoted.quiet.callbacks, hout, hcallbacks, hready.out,
      hready.callbacks, hquiet.out, hquiet.callbacks]
    exact ⟨hfresh, hsize⟩

theorem shutdown_frame (n : NotifierKey) (s : System) :
    (s.shutdown n).out = s.out ∧ (s.shutdown n).callbacks.size = s.callbacks.size := by
  rcases System.shutdown_cases n s with ⟨-, hquiet⟩ |
    ⟨running, u, v, -, hquiet, hquiet', hnoted⟩
  · exact ⟨hquiet.out, congrArg Table.size hquiet.callbacks⟩
  · have hunwound := (System.unwinds_detachAll running.registry
      (v.drain running.registry).2 (v.drain running.registry).1).unwound
    have hdrain : (v.drain running.registry).1.callbacks = v.callbacks := rfl
    rw [hnoted.quiet.out, hnoted.quiet.callbacks, hunwound.out, hunwound.callbacks, hdrain,
      hquiet'.callbacks]
    exact ⟨hquiet'.out.trans hquiet.out, congrArg Table.size hquiet.callbacks⟩

theorem drop_frame (c : ConnKey) (s : System) :
    (s.dropHandle c).1.out = s.out ∧
      (s.dropHandle c).1.callbacks.size = s.callbacks.size := by
  rcases System.dropHandle_cases c s with heq | ⟨-, heq⟩ | ⟨-, heq⟩
  · rw [heq]
    exact ⟨rfl, rfl⟩
  · rw [heq]
    exact ⟨rfl, rfl⟩
  · have hunwound := (System.unwinds_close c (s.disown c)).unwound
    rw [heq]
    exact ⟨hunwound.out, hunwound.callbacks⟩

/-- Finishing a dispatch or destroying what is out strikes it from what is out. -/
theorem finish_frame (t : Taken) (exit : Exit) (s : System) :
    (s.finish t exit).out = s.out.filter (fun x => x.callback != t.callback) ∧
      (s.finish t exit).callbacks.size = s.callbacks.size := by
  cases exit with
  | returned =>
      unfold System.finish
      rcases System.putBack_cases t s with ⟨-, -, heq⟩ | ⟨-, -, heq⟩
      · rw [heq]
        exact ⟨rfl, rfl⟩
      · have hunwound := (System.unwinds_destroy t.callback s).unwound
        rw [heq, System.out_settleTaken, System.callbacks_settleTaken, hunwound.out]
        exact ⟨rfl, hunwound.callbacks⟩
  | panicked =>
      rcases System.giveUp_eq t s with ⟨v, hnoted, heq⟩
      have hunwound := System.unwound_trans
        (System.unwinds_detachGeneration t.conn t.generation v).unwound
        (System.unwinds_destroy t.callback _).unwound
      rw [System.finish, heq, System.out_settleTaken, System.callbacks_settleTaken, hunwound.out,
        hnoted.quiet.out]
      exact ⟨rfl, hunwound.callbacks.trans (congrArg Table.size hnoted.quiet.callbacks)⟩

/-- What is out of the slots after any move. -/
theorem perform_out (m : Move) (s : System) : (m.perform s).out = m.outAfter s := by
  -- Only a dispatch takes out, and only its end or a forgetting strikes out.
  cases m with
  | close d => exact (System.unwinds_close d s).unwound.out
  | drop d => exact (drop_frame d s).1
  | set n d hold => exact (set_frame n d hold s).1
  | entrust k d =>
      rcases System.entrust_frame k d s with ⟨callbacks, heq, -⟩
      rw [perform, heq]
      rfl
  | unset n d => exact (System.unwinds_unsetCallback n d s).unwound.out
  | shutdown n => exact (shutdown_frame n s).1
  | begin d size =>
      rcases System.begin_cases d size s with ⟨-, heq⟩ | ⟨t, -, -, -, hanswer, record, heq⟩
      · rw [perform, outAfter, heq]
        rfl
      · rw [perform, outAfter, hanswer, heq]
        exact (System.quiet_receive d size (s.takenOut t)).out
  | finish t exit =>
      by_cases hout : t ∈ s.out
      · rw [perform, outAfter, if_pos hout, if_pos hout]
        exact (finish_frame t exit s).1
      · rw [perform, outAfter, if_neg hout, if_neg hout]
  | attach d r hold => exact (attach_frame d r _ (s.addCallback hold).1).1
  | detach d => exact (System.unwinds_detach d s).unwound.out
  | detachFrom d r => exact (System.unwinds_detachFrom d r s).unwound.out
  | detachGeneration d g => exact (System.unwinds_detachGeneration d g s).unwound.out
  | take d pinned =>
      rcases System.take_cases d pinned s with ⟨-, heq⟩ | ⟨t, -, -, -, heq⟩
      · rw [perform, outAfter, heq]
        rfl
      · rw [perform, outAfter, heq]
        rfl
  | forget t =>
      by_cases hout : t ∈ s.out
      · rw [perform, outAfter, if_pos hout, if_pos hout]
        exact congrArg (List.filter fun x : Taken => x.callback != t.callback)
          (System.unwinds_destroy t.callback s).unwound.out
      · rw [perform, outAfter, if_neg hout, if_neg hout]
  | onRegistry r f => rfl
  | fillWindow l => rfl
  | _ => exact (quiet_perform rfl s).out

/-- How many callbacks a move makes. -/
def creates : Move → Nat
  | set .. | attach .. => 1
  | _ => 0

theorem callbacks_perform (m : Move) (s : System) :
    (m.perform s).callbacks.size = s.callbacks.size + m.creates := by
  cases m with
  | close d => exact (System.unwinds_close d s).unwound.callbacks
  | drop d => exact (drop_frame d s).2
  | set n d hold => exact (set_frame n d hold s).2
  | entrust k d =>
      rcases System.entrust_frame k d s with ⟨callbacks, heq, hsize⟩
      rw [perform, heq]
      exact hsize
  | unset n d => exact (System.unwinds_unsetCallback n d s).unwound.callbacks
  | shutdown n => exact (shutdown_frame n s).2
  | begin d size =>
      rcases System.begin_cases d size s with ⟨-, heq⟩ | ⟨t, -, -, -, -, record, heq⟩
      · rw [perform, heq]
        rfl
      · rw [perform, heq]
        exact congrArg Table.size (System.quiet_receive d size (s.takenOut t)).callbacks
  | finish t exit =>
      rw [perform]
      by_cases hout : t ∈ s.out
      · rw [if_pos hout]
        exact (finish_frame t exit s).2
      · rw [if_neg hout]
        rfl
  | attach d r hold =>
      exact (attach_frame d r _ (s.addCallback hold).1).2.trans (Table.size_add _ _)
  | detach d => exact (System.unwinds_detach d s).unwound.callbacks
  | detachFrom d r => exact (System.unwinds_detachFrom d r s).unwound.callbacks
  | detachGeneration d g => exact (System.unwinds_detachGeneration d g s).unwound.callbacks
  | take d pinned =>
      rcases System.take_cases d pinned s with ⟨-, heq⟩ | ⟨t, -, -, -, heq⟩
      · rw [perform, heq]
        rfl
      · rw [perform, heq]
        rfl
  | forget t =>
      rw [perform]
      by_cases hout : t ∈ s.out
      · rw [if_pos hout]
        exact (System.unwinds_destroy t.callback s).unwound.callbacks
      · rw [if_neg hout]
        rfl
  | onRegistry r f => rfl
  | fillWindow l => rfl
  | _ => exact congrArg Table.size (quiet_perform rfl s).callbacks

/-- What is put into a slot is a new callback. -/
theorem installs_new {m : Move} {s : System} {c : ConnKey} {k : CallbackKey} {r : RegistryKey}
    (h : m.installs s c = some (k, r)) : k = s.callbacks.size ∧ m.creates = 1 := by
  cases m with
  | attach d r' hold =>
      simp only [installs, Option.ite_none_right_eq_some, Option.some.injEq, Prod.mk.injEq] at h
      exact ⟨h.2.1.symm, rfl⟩
  | set n d hold =>
      simp only [installs, Option.ite_none_right_eq_some, Option.map_eq_some_iff,
        Prod.mk.injEq] at h
      rcases h.2 with ⟨running, -, hk, -⟩
      exact ⟨hk.symm, rfl⟩
  | _ => exact absurd h (by simp only [installs, reduceCtorEq, not_false_eq_true])

theorem not_lt_of_installs {m : Move} {s : System} {c : ConnKey} {k : CallbackKey}
    {r : RegistryKey} (h : m.installs s c = some (k, r)) : ¬ k < s.callbacks.size := by
  rw [(installs_new h).1]
  exact Nat.lt_irrefl _

end Move

end ReadNotify
