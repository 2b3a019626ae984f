import ReadNotify.Proofs.Registration.Orderly

/-!
# Registering While Somebody Closes

Registering looks first whether the connection is open and puts the callback into
its slot afterwards. Closing clears the slot first and marks the connection closed
afterwards, and then it releases the socket. Callers on several threads take these
steps in any order.

A caller that has seen the connection open may put his callback in when another one
has already cleared the slot. Then the connection is closed and registered, and its
registry goes on listing it. It takes both for that, a caller between looking and
putting in at the same time as one between clearing and marking. Where the two
sections exclude each other every step keeps everything in order, so what is closed
has no registration, whoever closed it and whoever was refused.

The connection is one that the program keeps a handle of, as everybody does who
calls something on it. So no destructor can be the one that closes it.

## Main definitions

* `System.registerFresh`: Registering after the look.
* `Caller`, `Caller.advance`: A caller and his next step.
* `Race`, `Race.run`: Callers on one connection, whose steps alternate.
* `Race.isApart`, `Race.apart`: The two sections exclude each other.

## Theorems

* `advance_setting`, `advance_closing`: Steps in a row are the whole operation.
* `Race.safe_step`, `Race.safe_run`: What a step keeps, and what all of them keep.
* `registered_of_overlap`: A closed connection that is registered.
* `unregistered_of_apart`: Where the sections exclude each other there is none.
-/

namespace ReadNotify

namespace System

variable {s t : System} {c : ConnKey}

/-! ### The steps -/

/-- Registering looks whether the connection is open, and if it is goes on. -/
theorem setCallback_eq (n : NotifierKey) (c : ConnKey) (k : CallbackKey) (s : System) :
    s.setCallback n c k =
      if s.isConnected c then s.register n c k else (s.destroy k, .refused .notConnected) := rfl

/-- Registers a new callback after the look. -/
def registerFresh (n : NotifierKey) (c : ConnKey) (hold : Option ConnKey) (s : System) :
    System × SetResult :=
  (s.addCallback hold).1.register n c (s.addCallback hold).2

theorem registerFresh_of_open (hopen : s.isConnected c = true) (n : NotifierKey)
    (hold : Option ConnKey) : s.registerFresh n c hold = s.setFresh n c hold := by
  have hfresh : (s.addCallback hold).1.isConnected c = true := hopen
  rw [setFresh, setCallback_eq, if_pos hfresh, registerFresh]

end System

/-- A caller of an operation on one connection, and how far he is in it. -/
inductive Caller where
  /-- He is about to register a new callback with a notifier. It may keep a handle. -/
  | setting (n : NotifierKey) (hold : Option ConnKey)
  /-- He has seen the connection open. -/
  | looked (n : NotifierKey) (hold : Option ConnKey)
  /-- He is about to close the connection. -/
  | closing
  /-- He has cleared the registration. -/
  | cleared
  /-- He has marked the connection closed. -/
  | marked
  | done
  deriving DecidableEq

namespace Caller

/-- The next step of a caller. -/
def advance (c : ConnKey) (x : Caller) (s : System) : System × Caller :=
  match x with
  | setting n hold =>
    if s.isConnected c then (s, looked n hold) else ((s.setFresh n c hold).1, done)
  | looked n hold => ((s.registerFresh n c hold).1, done)
  | closing => ((s.detach c).1, cleared)
  | cleared =>
    match s.markClosed c with
    | (s, true) => (s, marked)
    | (s, false) => (s, done)
  | marked =>
    let s := s.releaseSocket c
    (s.note (.connectionClosed (s.label c)), done)
  | done => (s, done)

/-- He has not taken a step. -/
def isFresh : Caller → Bool
  | setting .. | closing => true
  | _ => false

/-- He has seen the connection open and has not put his callback in. -/
def isLooked : Caller → Bool
  | looked .. => true
  | _ => false

/-- So many steps of one caller with nobody else's in between. -/
def advances (c : ConnKey) : Nat → Caller → System → System × Caller
  | 0, x, s => (s, x)
  | i + 1, x, s => advances c i (x.advance c s).2 (x.advance c s).1

/-- The steps of registering in a row are registering. -/
theorem advance_setting (c : ConnKey) (n : NotifierKey) (hold : Option ConnKey) (s : System) :
    advances c 2 (setting n hold) s = ((s.setFresh n c hold).1, done) := by
  cases hopen : s.isConnected c with
  | true => simp [advances, advance, hopen, System.registerFresh_of_open hopen]
  | false => simp [advances, advance, hopen]

/-- The steps of closing in a row are closing. -/
theorem advance_closing (c : ConnKey) (s : System) :
    advances c 3 closing s = (s.close c, done) := by
  unfold System.close System.disconnect
  rcases hmark : (s.detach c).1.markClosed c with ⟨u, _ | _⟩
  · simp [advances, advance, hmark]
  · simp [advances, advance, hmark]

end Caller

/-- Callers of operations on one connection. -/
structure Race where
  sys : System
  callers : List Caller

namespace Race

variable {c : ConnKey} {x : Race}

/-- The next step of the caller with some number, if there is one. -/
def step (c : ConnKey) (i : Nat) (x : Race) : Race :=
  match x.callers[i]? with
  | none => x
  | some caller =>
    ⟨(caller.advance c x.sys).1, x.callers.set i (caller.advance c x.sys).2⟩

/-- Steps of the callers in some order. -/
def run (c : ConnKey) (is : List Nat) (x : Race) : Race := is.foldl (fun x i => x.step c i) x

/-- No caller is between looking and putting in while another one is between
    clearing and marking. -/
def isApart (x : Race) : Bool := !(x.callers.any Caller.isLooked && x.callers.contains .cleared)

/-- The two sections exclude each other at every moment. -/
def apart (c : ConnKey) : List Nat → Race → Bool
  | [], x => x.isApart
  | i :: is, x => x.isApart && apart c is (x.step c i)

end Race

/-! ### What the steps keep -/

namespace System

variable {s t : System} {c : ConnKey}

/-- A connection that is open stays open as long as the program has a handle. -/
theorem Does.isConnected {chore : Chore} (h : Does chore s t) (howned : s.isOwned c = true)
    (hopen : s.isConnected c = true) : t.isConnected c = true := by
  -- What is closed on the way has no handle left, and so it is not this one.
  have hother : ∀ {v : System} {h : ConnKey}, v.isOwned c = true → v.isHeld h = false → c ≠ h := by
    rintro v h howned hlast rfl
    exact Bool.false_ne_true (hlast.symm.trans ((isHeld_iff v c).mpr (Or.inl howned)))
  have hclear : ∀ (v : System) (h : ConnKey), v.isOwned c = true → v.isConnected c = true →
      (v.clearSlot h).1.isOwned c = true ∧ (v.clearSlot h).1.isConnected c = true := by
    intro v h howned hopen
    rcases frame_clearSlot h v c with ⟨-, hconn, howner, -⟩
    exact ⟨howner.trans howned, hconn.trans hopen⟩
  have hdisconnect : ∀ (v : System) {h : ConnKey}, c ≠ h → v.isOwned c = true →
      v.isConnected c = true →
      (v.disconnect h).isOwned c = true ∧ (v.disconnect h).isConnected c = true := by
    intro v h hne howned hopen
    rcases frame_disconnect h v c with ⟨-, -, howner, hconn⟩
    refine ⟨howner.trans howned, ?_⟩
    rw [hconn, hopen, decide_eq_true hne]
    rfl
  -- Along the chain the program keeps its handle, which is why it stays open.
  induction h with
  | spared hdead => exact hopen
  | ended hrow hlive hrest ih => exact ih howned hopen
  | done => exact hopen
  | kept hheld hrest ih => exact ih howned hopen
  | @closed s t k h hs hlast hnone hrest ih =>
      rcases hclear (s.letGo k h) h howned hopen with ⟨howned', hopen'⟩
      rcases hdisconnect _ (hother (v := s.letGo k h) howned hlast) howned' hopen' with
        ⟨howned'', hopen''⟩
      exact ih howned'' hopen''
  | @chained s u t k j h hs hlast hsome hinner hrest ihinner ihrest =>
      rcases hclear (s.letGo k h) h howned hopen with ⟨howned', hopen'⟩
      have howner : u.isOwned c = true := (hinner.unwinds.unwound.owned c).trans howned'
      rcases hdisconnect u (hother (v := s.letGo k h) howned hlast) howner
        (ihinner howned' hopen') with ⟨howned'', hopen''⟩
      exact ihrest howned'' hopen''

/-- An open connection that the program has a handle of. -/
def Stands (s : System) (c : ConnKey) : Prop := s.isOwned c = true ∧ s.isConnected c = true

theorem Stands.destroyAny (h : s.Stands c) (k : Option CallbackKey) :
    (s.destroyAny k).Stands c := by
  cases k with
  | none => exact h
  | some k =>
      exact ⟨((unwinds_destroy k s).unwound.owned c).trans h.1,
        (destroys_destroy k s).isConnected h.1 h.2⟩

theorem Stands.detach (h : s.Stands c) (d : ConnKey) : (s.detach d).1.Stands c := by
  rcases frame_clearSlot d s c with ⟨-, hopen, howned, -⟩
  have hclear : (s.clearSlot d).1.Stands c := ⟨howned.trans h.1, hopen.trans h.2⟩
  unfold System.detach
  rcases hd : s.clearSlot d with ⟨u, _ | callback⟩ <;> rw [hd] at hclear
  · exact hclear
  · exact hclear.destroyAny callback

theorem Stands.congr (h : s.Stands c) (hconn : t.conn? c = s.conn? c) : t.Stands c :=
  ⟨(isOwned_congr hconn).trans h.1, (isConnected_congr hconn).trans h.2⟩

theorem Stands.quiet (h : s.Stands c) (hquiet : Quiet s t) : t.Stands c := by
  rcases hc : s.conn? c with _ | conn
  · exact absurd ((isConnected_of_none hc).symm.trans h.2) Bool.false_ne_true
  · rcases hquiet.kept c conn hc with ⟨conn', hc', -, -, hopen, -, howned⟩
    rcases h with ⟨hown, hconn⟩
    refine ⟨?_, ?_⟩
    · rw [isOwned, hc] at hown
      rw [isOwned, hc']
      exact howned.trans hown
    · rw [isConnected_of_conn? hc'] at *
      rw [isConnected_of_conn? hc] at hconn
      exact hopen.trans hconn

theorem Stands.attach (h : s.Stands c) (d : ConnKey) (r : RegistryKey) (k : CallbackKey) :
    (s.attach d r k).1.Stands c := by
  rcases install_frame d r k s with ⟨registries, -, heq⟩
  have hframe := frame_updateSlot s d (fun y => ⟨some k, some r, y.generation + 1⟩) c
  have hinstall : (s.install d r k).1.Stands c := by
    rw [heq]
    exact ⟨hframe.2.2.1.trans h.1, hframe.2.1.trans h.2⟩
  exact hinstall.destroyAny _

theorem Stands.setFresh (h : s.Stands c) (n : NotifierKey) (d : ConnKey) (hold : Option ConnKey) :
    (s.setFresh n d hold).1.Stands c := by
  have hfresh : (s.addCallback hold).1.Stands c := h
  unfold System.setFresh
  rcases setCallback_cases n d (s.addCallback hold).2 (s.addCallback hold).1 with
    ⟨-, u, hquiet, heq⟩ | ⟨-, -, running, u, v, hquiet, hready, hnoted⟩
  · rw [heq]
    exact (hfresh.quiet hquiet).destroyAny (some _)
  · exact (((hfresh.quiet hquiet).congr (hready.conn? c)).attach d running.registry _).quiet
      hnoted.quiet

/-- The mark that a connection is closed is a mark and nothing else. -/
theorem frame_markClosed (c : ConnKey) (s : System) (d : ConnKey) :
    (s.markClosed c).1.slot d = s.slot d ∧ (s.markClosed c).1.ident d = s.ident d ∧
      (s.markClosed c).1.isOwned d = s.isOwned d ∧
      (s.markClosed c).1.isConnected d = (s.isConnected d && decide (d ≠ c)) := by
  unfold markClosed
  cases hopen : s.isConnected c with
  | false =>
      refine ⟨rfl, rfl, rfl, ?_⟩
      by_cases hd : d = c
      · simp [hd, hopen]
      · simp [hd]
  | true =>
      unfold slot ident isOwned isConnected
      simp only [if_true, conn?_updateConn]
      by_cases hd : d = c
      · rw [if_pos hd, hd]
        rcases s.conn? c with _ | conn
        · exact ⟨rfl, rfl, rfl, rfl⟩
        · exact ⟨rfl, rfl, rfl, by simp⟩
      · simp [hd]

theorem conn?_releaseSocket (c : ConnKey) (s : System) (d : ConnKey) :
    (s.releaseSocket c).conn? d =
      if d = c then (s.conn? c).map fun conn => { conn with socket := none } else s.conn? d := by
  unfold releaseSocket
  rcases hsocket : (s.conn? c).bind Connection.socket with _ | socket
  · by_cases hd : d = c
    · -- There is no socket to release.
      rw [if_pos hd, hd]
      rcases hc : s.conn? c with _ | conn
      · rfl
      · rw [hc, Option.bind_some] at hsocket
        rw [Option.map_some, ← hsocket]
    · rw [if_neg hd]
  · exact conn?_updateConn s c (fun conn => { conn with socket := none }) d

theorem frame_releaseSocket (c : ConnKey) (s : System) (d : ConnKey) :
    (s.releaseSocket c).slot d = s.slot d ∧ (s.releaseSocket c).ident d = s.ident d ∧
      (s.releaseSocket c).isOwned d = s.isOwned d ∧
      (s.releaseSocket c).isConnected d = s.isConnected d := by
  unfold slot ident isOwned isConnected
  rw [conn?_releaseSocket]
  by_cases hd : d = c
  · rw [if_pos hd, hd]
    rcases s.conn? c with _ | conn
    · exact ⟨rfl, rfl, rfl, rfl⟩
    · exact ⟨rfl, rfl, rfl, rfl⟩
  · rw [if_neg hd]
    exact ⟨rfl, rfl, rfl, rfl⟩

theorem orderly_detach (h : s.Orderly) (c : ConnKey) : (s.detach c).1.Orderly :=
  ⟨coherent_unwinds (unwinds_detach c s) h.coherent, heldBut_detach c s _ h.held⟩

/-- Whatever leaves slots, identities, owners and tables alone keeps everything in
    order, if it opens nothing and closes nothing that is registered. -/
theorem Orderly.of_frame (h : s.Orderly)
    (hframe : ∀ d, t.slot d = s.slot d ∧ t.ident d = s.ident d ∧ t.isOwned d = s.isOwned d)
    (hopen : ∀ d, t.isConnected d = true → s.isConnected d = true)
    (hclosed : ∀ d, t.isConnected d = false → (s.slot d).registry = none)
    (htables : t.registries = s.registries ∧ t.notifiers = s.notifiers ∧
      t.callbacks = s.callbacks) : t.Orderly := by
  refine ⟨h.coherent.congr (fun d => (hframe d).2.1)
    (fun d => congrArg Slot.registry (hframe d).1) (fun d k hk => ?_) hclosed htables.1
    (fun n => by rw [running?, running?, htables.2.1]), h.held.of_frame hopen
      (fun d => (hframe d).2.2) htables.2.2⟩
  rw [(hframe d).1] at hk ⊢
  exact h.coherent.filled d k hk

/-- A connection without a registration may be marked closed. -/
theorem orderly_markClosed (h : s.Orderly) (hnone : (s.slot c).registry = none) :
    (s.markClosed c).1.Orderly := by
  have hframe := frame_markClosed c s
  refine h.of_frame (fun d => ⟨(hframe d).1, (hframe d).2.1, (hframe d).2.2.1⟩) (fun d hd => ?_)
    (fun d hd => ?_) ?_
  · rw [(hframe d).2.2.2, Bool.and_eq_true] at hd
    exact hd.1
  · rw [(hframe d).2.2.2, Bool.and_eq_false_iff, decide_eq_false_iff_not, not_not] at hd
    rcases hd with hd | rfl
    · exact h.coherent.closed d hd
    · exact hnone
  · unfold markClosed
    split
    · exact ⟨rfl, rfl, rfl⟩
    · exact ⟨rfl, rfl, rfl⟩

theorem orderly_releaseSocket (h : s.Orderly) (c : ConnKey) : (s.releaseSocket c).Orderly := by
  have hframe := frame_releaseSocket c s
  have hsame : ∀ d, (s.releaseSocket c).isConnected d = s.isConnected d := fun d =>
    (hframe d).2.2.2
  refine h.of_frame (fun d => ⟨(hframe d).1, (hframe d).2.1, (hframe d).2.2.1⟩)
    (fun d hd => (hsame d).symm.trans hd)
    (fun d hd => h.coherent.closed d ((hsame d).symm.trans hd)) ?_
  unfold releaseSocket
  split
  · exact ⟨rfl, rfl, rfl⟩
  · exact ⟨rfl, rfl, rfl⟩

end System

namespace Race

variable {c : ConnKey} {x : Race}

/-- What every step keeps: everything is in order, who has seen the connection open
    is right, and what was cleared is still clear. -/
structure Safe (c : ConnKey) (x : Race) : Prop where
  orderly : x.sys.Orderly
  owned : x.sys.isOwned c = true
  right : ∀ n hold, .looked n hold ∈ x.callers → x.sys.isConnected c = true
  clear : .cleared ∈ x.callers → (x.sys.slot c).registry = none

/-- Nobody has looked while somebody has cleared. -/
theorem notMem_of_isApart (h : x.isApart = true) (hcleared : .cleared ∈ x.callers)
    (n : NotifierKey) (hold : Option ConnKey) : .looked n hold ∉ x.callers := by
  intro hlooked
  have hany : x.callers.any Caller.isLooked = true := List.any_eq_true.mpr ⟨_, hlooked, rfl⟩
  have hcontains : x.callers.contains .cleared = true := List.contains_iff_mem.mpr hcleared
  rw [isApart, hany, hcontains] at h
  exact Bool.false_ne_true h

/-- A step that leaves the caller in neither section. -/
theorem Safe.settled (h : x.Safe c) {i : Nat} {s : System} {y : Caller} (horderly : s.Orderly)
    (howned : s.isOwned c = x.sys.isOwned c) (hy : y = .done ∨ y = .marked)
    (hright : ∀ n hold, .looked n hold ∈ x.callers → s.isConnected c = true)
    (hclear : .cleared ∈ x.callers → (s.slot c).registry = none) :
    Safe c ⟨s, x.callers.set i y⟩ := by
  refine ⟨horderly, howned.trans h.owned, fun n hold hmem => ?_, fun hmem => ?_⟩
  · rcases List.mem_or_eq_of_mem_set hmem with hbefore | hnew
    · exact hright n hold hbefore
    · rcases hy with rfl | rfl
      · exact absurd hnew (by simp)
      · exact absurd hnew (by simp)
  · rcases List.mem_or_eq_of_mem_set hmem with hbefore | hnew
    · exact hclear hbefore
    · rcases hy with rfl | rfl
      · exact absurd hnew (by simp)
      · exact absurd hnew (by simp)

theorem safe_step (h : x.Safe c) (hapart : x.isApart = true) (i : Nat)
    (hapart' : (x.step c i).isApart = true) : (x.step c i).Safe c := by
  unfold step at hapart' ⊢
  rcases hi : x.callers[i]? with _ | caller
  · exact h
  rw [hi] at hapart'
  dsimp only at hapart' ⊢
  have hmem : caller ∈ x.callers := List.mem_of_getElem? hi
  have hlt : i < x.callers.length := (List.getElem?_eq_some_iff.mp hi).1
  have hset : ∀ y, y ∈ x.callers.set i y := fun y => List.mem_set hlt y
  -- One case for each place in which the caller may be. The others stay where they are.
  cases caller with
  | setting n hold =>
      cases hopen : x.sys.isConnected c with
      | true =>
          -- He looks, and he is right.
          simp only [Caller.advance, hopen, if_true] at hapart' ⊢
          refine ⟨h.orderly, h.owned, fun _ _ _ => hopen, fun hcleared => ?_⟩
          exact absurd (hset (.looked n hold)) (notMem_of_isApart hapart' hcleared n hold)
      | false =>
          -- He is refused, and the end of his callback clears slots at most.
          have hnone := h.orderly.coherent.closed c hopen
          have hunwinds := System.unwinds_destroy (x.sys.addCallback hold).2
            (x.sys.addCallback hold).1
          have hrefused : (x.sys.setFresh n c hold).1 =
              (x.sys.addCallback hold).1.destroy (x.sys.addCallback hold).2 := by
            have hfresh : ¬ (x.sys.addCallback hold).1.isConnected c = true :=
              fun hc => Bool.false_ne_true (hopen.symm.trans hc)
            rw [System.setFresh, System.setCallback_eq, if_neg hfresh]
          simp only [Caller.advance, hopen, Bool.false_eq_true, if_false]
          refine h.settled (System.orderly_setFresh h.orderly n c hold) ?_ (Or.inl rfl)
            (fun n' hold' hlooked => ?_) fun _ => ?_
          · rw [hrefused, hunwinds.unwound.owned]
            rfl
          · exact absurd (hopen.symm.trans (h.right n' hold' hlooked)) Bool.false_ne_true
          · rw [hrefused]
            exact hunwinds.unwound.registry_none hnone
  | looked n hold =>
      -- The connection is still open, so this is a registration like any other.
      have hopen := h.right n hold hmem
      have hstands := System.Stands.setFresh ⟨h.owned, hopen⟩ n c hold
      have heq : (Caller.looked n hold).advance c x.sys = ((x.sys.setFresh n c hold).1, .done) := by
        rw [Caller.advance, System.registerFresh_of_open hopen]
      rw [heq]
      refine h.settled (System.orderly_setFresh h.orderly n c hold)
        (hstands.1.trans h.owned.symm) (Or.inl rfl) (fun _ _ _ => hstands.2) fun hcleared => ?_
      exact absurd hmem (notMem_of_isApart hapart hcleared n hold)
  | closing =>
      -- He is between clearing and marking now, so nobody else is between the others.
      have hunwinds := System.unwinds_detach c x.sys
      refine ⟨System.orderly_detach h.orderly c, (hunwinds.unwound.owned c).trans h.owned,
        fun n hold hlooked => ?_, fun _ => System.registry_detach_self c x.sys⟩
      exact absurd hlooked (notMem_of_isApart hapart' (hset .cleared) n hold)
  | cleared =>
      have hnone := h.clear hmem
      rcases System.frame_markClosed c x.sys c with ⟨hslot, -, howned, -⟩
      have horderly := System.orderly_markClosed h.orderly hnone
      have hnobody := notMem_of_isApart hapart hmem
      rw [Caller.advance]
      rcases hmark : x.sys.markClosed c with ⟨s, _ | _⟩ <;> rw [hmark] at hslot howned horderly
      · exact h.settled horderly howned (Or.inl rfl)
          (fun n hold hlooked => absurd hlooked (hnobody n hold)) fun _ => hslot ▸ hnone
      · exact h.settled horderly howned (Or.inr rfl)
          (fun n hold hlooked => absurd hlooked (hnobody n hold)) fun _ => hslot ▸ hnone
  | marked =>
      rcases System.frame_releaseSocket c x.sys c with ⟨hslot, -, howned, hopen⟩
      have hquiet := System.quiet_note
        (.connectionClosed ((x.sys.releaseSocket c).label c)) (x.sys.releaseSocket c)
      refine h.settled (System.orderly_quiet (System.orderly_releaseSocket h.orderly c) hquiet)
        howned (Or.inl rfl) (fun n hold hlooked => ?_) fun hcleared => ?_
      · exact hopen.trans (h.right n hold hlooked)
      · exact (congrArg Slot.registry hslot).trans (h.clear hcleared)
  | done =>
      exact h.settled h.orderly rfl (Or.inl rfl) h.right h.clear

theorem safe_run (is : List Nat) (h : x.Safe c) (hapart : apart c is x = true) :
    (run c is x).Safe c := by
  induction is generalizing x with
  | nil => exact h
  | cons i is ih =>
      simp only [apart, Bool.and_eq_true] at hapart
      -- The next moment is apart too, whether or not it is the last one.
      have hnext : (x.step c i).isApart = true := by
        cases is with
        | nil => exact hapart.2
        | cons j js =>
            simp only [apart, Bool.and_eq_true] at hapart
            exact hapart.2.1
      exact ih (safe_step h hapart.1 i hnext) hapart.2

end Race

namespace System

open Race

/-- One caller looks, another one closes the connection, and then the first one puts
    his callback in. Both are done, and the connection is closed and registered. -/
theorem registered_of_overlap :
    ¬ ∀ (r : Nat) (before : List Move) (c : ConnKey) (callers : List Caller) (is : List Nat),
      (∀ m ∈ before, m.isInternal = false) → (∀ y ∈ callers, y.isFresh = true) →
        (System.run before (init r)).isOwned c = true → Caller.closing ∈ callers →
          let x := Race.run c is ⟨System.run before (init r), callers⟩
          (∀ y ∈ x.callers, y = .done) → x.sys.isConnected c = false →
            (x.sys.slot c).callback = none ∧ (x.sys.slot c).registry = none ∧
              ∀ q, ∀ e ∈ (x.sys.registry q).refs, e.2 ≠ c := by
  intro hclosed
  have hnone := hclosed 0 [.pair 10 11, .addNotifier Config.default] 0
    [.setting 0 none, .closing] [0, 1, 1, 1, 0] (by decide) (by decide) (by decide) (by decide)
    (by decide +kernel) (by decide +kernel)
  exact absurd hnone.1 (by decide +kernel)

/-- Callers register callbacks of a connection and close it, any number of them and
    with their steps in any order. If nobody ever is between looking and putting in
    while somebody is between clearing and marking, then whenever the connection is
    closed it has no callback, names no registry and is in none, and nobody can
    take a callback of it. -/
theorem unregistered_of_apart (r : Nat) (before : List Move)
    (hbefore : ∀ m ∈ before, m.isInternal = false) (c : ConnKey)
    (howned : (System.run before (init r)).isOwned c = true) (callers : List Caller)
    (hfresh : ∀ y ∈ callers, y.isFresh = true) (is : List Nat)
    (hapart : Race.apart c is ⟨System.run before (init r), callers⟩ = true) :
    let s := (Race.run c is ⟨System.run before (init r), callers⟩).sys
    s.isConnected c = false →
      (s.slot c).callback = none ∧ (s.slot c).registry = none ∧
        (∀ q, ∀ e ∈ (s.registry q).refs, e.2 ≠ c ∧ s.ident c ≠ some e.1) ∧
        (∀ pinned, s.take c pinned = (s, none)) ∧ ∀ size, s.begin c size = (s, none) := by
  intro s hclosed
  have hnobody : ∀ y : Caller, y.isFresh = false → y ∉ callers := fun y hy hmem =>
    Bool.false_ne_true (hy.symm.trans (hfresh y hmem))
  have hsafe : s.Orderly := (safe_run is (x := ⟨System.run before (init r), callers⟩)
    ⟨orderly_run before hbefore (orderly_init r), howned,
      fun n hold hmem => absurd hmem (hnobody _ rfl), fun hmem => absurd hmem (hnobody _ rfl)⟩
    hapart).orderly
  have hregistry := hsafe.coherent.closed c hclosed
  have hcallback := callback_of_unregistered (hsafe.coherent.filled c) hregistry
  have hlisted : ∀ q, ∀ e ∈ (s.registry q).refs, e.2 ≠ c := by
    rintro q e he rfl
    have hnamed := (hsafe.coherent.entry q e.1 e.2 he).2
    rw [hregistry] at hnamed
    exact absurd hnamed (by simp)
  refine ⟨hcallback, hregistry, fun q e he => ⟨hlisted q e he, fun hident => ?_⟩,
    take_of_none hcallback, begin_of_none hcallback⟩
  -- The identity in an entry is that of its connection.
  exact hlisted q e he (hsafe.coherent.ident_inj (hsafe.coherent.entry q e.1 e.2 he).1 hident)

/-- Two callers register and two close, one after the other except for the end of
    the first close, which the second refused caller overtakes. -/
theorem unregistered_of_apart_refused :
    let before : List Move := [.pair 10 11, .addNotifier Config.default]
    let callers : List Caller := [.setting 0 none, .closing, .setting 0 none, .closing]
    let is := [0, 0, 1, 1, 2, 3, 3, 1]
    let s := (Race.run 0 is ⟨System.run before (init 0), callers⟩).sys
    Race.apart 0 is ⟨System.run before (init 0), callers⟩ = true ∧ s.isConnected 0 = false ∧
      s.unreported = [1, 0] ∧ (s.slot 0).registry = none := by
  intro before callers is s
  have hapart : Race.apart 0 is ⟨System.run before (init 0), callers⟩ = true := by
    decide +kernel
  have hclosed : s.isConnected 0 = false := by decide +kernel
  refine ⟨hapart, hclosed, by decide +kernel, ?_⟩
  exact (unregistered_of_apart 0 before (by decide) 0 (by decide) callers (by decide) is hapart
    hclosed).2.1

end System

end ReadNotify
