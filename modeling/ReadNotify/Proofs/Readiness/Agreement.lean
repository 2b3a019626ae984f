import ReadNotify.Proofs.Readiness.Neighbours
import ReadNotify.Proofs.Readiness.Sync
import ReadNotify.System.Cycle

/-!
# Both Backends Agree

A backend with an interest set is opened at some time and asked about one window
after the other, and anything can happen in between: connections are made and
closed, bytes arrive and are read, and numbers pass from closed connections to
new ones. A window may name connections that were closed long ago.

The set is never led astray by any of this. Whenever it is asked about a window
whose members are open, or closed with a number that nobody uses, it answers
what the stateless backend answers in the same state, and that is the members
that can be read, in the order of the window.

## Main definitions

* `Moment`: Something that happens, or a question to the backend.
* `Moment.history`, `Moment.ProperHistory`: Histories of a backend.
* `Move.ProperRun`: What comes before the backend is opened.
* `System.readsNow`: A member that is open and can be read.

## Theorems

* `attended_pass`: The backend and its set stay in step.
* `backends_agree`: Both backends report the open members that can be read.
-/

namespace ReadNotify

namespace System

variable {s t : System} {mine : Option InterestKey} {c : ConnKey} {id : ConnId} {q : SocketKey}

/-- The socket of the connection of an identity while it is open. -/
def socketOf (s : System) (id : ConnId) : Option SocketKey := (s.find? id).bind s.socket?

/-- Whether an identity is that of an open connection from which reading would not
    have to wait. -/
def readsNow (s : System) (id : ConnId) : Bool :=
  (s.find? id).any fun c => s.isConnected c && s.canRead c

theorem ident_of_find? (h : s.find? id = some c) : s.ident c = some id := by
  rcases Kernel.find?_eq_some h with ⟨conn, hconn, hid⟩
  rw [ident, conn?, hconn, Option.map_some, beq_iff_eq.mp hid]

/-- An identity leads to one connection. -/
theorem Numbered.find?_eq_some_iff (h : s.Numbered mine) :
    s.find? id = some c ↔ s.ident c = some id := by
  refine ⟨ident_of_find?, fun hc => ?_⟩
  rcases Option.map_eq_some_iff.mp hc with ⟨conn, hconn, hid⟩
  have hfound : (s.find? id).isSome = true := Kernel.find?_isSome hconn (beq_iff_eq.mpr hid)
  rcases Option.isSome_iff_exists.mp hfound with ⟨d, hd⟩
  -- Serials count connections, so no two have one identity.
  have hserial := (h.serial d id (ident_of_find? hd)).symm.trans (h.serial c id hc)
  rw [hd, Nat.succ.inj hserial]

theorem Numbered.socketOf_eq_some_iff (h : s.Numbered mine) :
    s.socketOf id = some q ↔ ∃ c, s.ident c = some id ∧ s.socket? c = some q := by
  simp only [socketOf, Option.bind_eq_some_iff, h.find?_eq_some_iff]

/-- The number of an open connection denotes its socket. -/
theorem Numbered.holds (h : s.Numbered mine) (hq : s.socketOf id = some q) :
    s.kernel.Holds id.raw (.socket q) := by
  rcases h.socketOf_eq_some_iff.mp hq with ⟨c, hc, hsocket⟩
  rcases h.raw c q hsocket with ⟨id', hid', hraw⟩
  rw [hc] at hid'
  rw [← Option.some.inj hid'] at hraw
  exact ⟨h.wired.isOpen c q hsocket, hraw⟩

theorem Numbered.weaken (h : s.Numbered mine) : s.Numbered none :=
  ⟨h.wired, h.tidy, h.serial, h.raw, by simp,
    fun j x hx d hd => ⟨by simp, (h.pollers j x hx d hd).2⟩⟩

theorem readsNow_eq (h : s.Numbered mine) (id : ConnId) :
    s.readsNow id = (s.socketOf id).any s.kernel.readable := by
  rw [readsNow, socketOf]
  rcases s.find? id with _ | c
  · rfl
  · rw [Option.any_some, Option.bind_some, h.wired.linked, canRead]
    -- A connection without a socket is found by neither.
    rcases s.socket? c with _ | q
    · rfl
    · rfl

end System

/-- Something that happens, or the backend is asked about a window. -/
inductive Moment where
  | passed (m : Move)
  | asked (window : List ConnId)

namespace Moment

/-- What happens to the system and the backend. -/
def pass (moment : Moment) (x : System × Poller) : System × Poller :=
  match moment with
  | passed m => (m.perform x.1, x.2)
  | asked window => ((x.1.checkPoller window x.2).1, (x.1.checkPoller window x.2).2.1)

/-- The backend is asked about windows of connections that were made, and nothing
    else is done to it. -/
def Proper (moment : Moment) (x : System × Poller) : Prop :=
  match moment with
  | passed m => m.Proper x.2.set? x.1
  | asked window => ∀ id ∈ window, (x.1.find? id).isSome = true

/-- One moment after the other. -/
def history (moments : List Moment) (x : System × Poller) : System × Poller :=
  moments.foldl (fun x moment => moment.pass x) x

/-- Every moment of a history is proper when it comes. -/
def ProperHistory : List Moment → System × Poller → Prop
  | [], _ => True
  | moment :: rest, x => moment.Proper x ∧ ProperHistory rest (moment.pass x)

end Moment

/-- Every move is proper when it is made. -/
def Move.ProperRun (mine : Option InterestKey) : List Move → System → Prop
  | [], _ => True
  | m :: rest, s => m.Proper mine s ∧ ProperRun mine rest (m.perform s)

theorem Move.properRun_append {mine : Option InterestKey} {ms ms' : List Move} {s : System} :
    ProperRun mine (ms ++ ms') s ↔ ProperRun mine ms s ∧ ProperRun mine ms' (System.run ms s) := by
  induction ms generalizing s with
  | nil => exact ⟨fun h => ⟨trivial, h⟩, fun h => h.2⟩
  | cons m rest ih =>
      rw [List.cons_append, ProperRun, ProperRun, ih, and_assoc]
      rfl

theorem Move.properRun_of_spares {mine : Option InterestKey} {ms : List Move} {s : System}
    (h : ProperRun none ms s) (hset : ∀ m ∈ ms, m.SparesSet mine) : ProperRun mine ms s := by
  induction ms generalizing s with
  | nil => trivial
  | cons m rest ih =>
      exact ⟨proper_of_spares h.1 (hset m List.mem_cons_self),
        ih h.2 fun m' hm' => hset m' (List.mem_cons_of_mem m hm')⟩

namespace System

variable {s t : System} {capacity : Nat} {p : Poller} {mine : Option InterestKey} {id : ConnId}
  {window : List ConnId}

theorem numbered_moves {ms : List Move} (h : s.Numbered mine) (hms : Move.ProperRun mine ms s) :
    (run ms s).Numbered mine := by
  induction ms generalizing s with
  | nil => exact h
  | cons m rest ih => exact ih (numbered_perform h hms.1).1 hms.2

/-- A backend in use: if it has an interest set, the two are in step, and numbers
    are remembered for connections that were made. -/
structure Attended (capacity : Nat) (x : System × Poller) : Prop where
  numbered : x.1.Numbered x.2.set?
  capacity_eq : x.2.capacity = capacity
  inStep : ∀ e, x.2 = .epoll e → Epoll.InStep x.1.socketOf e x.1.kernel ∧
    ∀ y ∈ e.watched, ∃ c, x.1.ident c = some y.2

/-- What happens beside the backend leaves it and its set in step. -/
theorem attended_passed (h : Attended capacity (s, p)) {m : Move} (hm : m.Proper p.set? s) :
    Attended capacity (m.perform s, p) := by
  rcases numbered_perform h.numbered hm with ⟨hnumbered, hbeside⟩
  have hfollows := (follows_perform h.numbered.wired m).2
  refine ⟨hnumbered, h.capacity_eq, fun e he => ?_⟩
  rcases h.inStep e he with ⟨hstep, hknown⟩
  have hmine : e.set ∈ p.set? := by
    rw [show p = .epoll e from he]
    rfl
  have hset : (s.kernel.shape? e.set).isSome = true := hstep.exists_set
  have hless := hbeside.kernel.less e.set hmine hset
  refine ⟨⟨hnumbered.tidy, ?_, ?_, ?_, ?_, ?_⟩, ?_⟩
  · rw [hbeside.kernel.shape e.set hmine hset]
    exact hset
  · intro id q hq
    exact hnumbered.holds hq
  · intro t ht
    exact hstep.loopless t (hless t ht)
  · intro t ht
    exact hstep.covered t (hless t ht)
  · intro y hy
    refine ⟨(hstep.armed y hy).1, fun q hq => ?_⟩
    -- What is open now and was remembered before was open before.
    rcases hnumbered.socketOf_eq_some_iff.mp hq with ⟨c, hc, hsocket⟩
    rcases hknown y hy with ⟨d, hd⟩
    have hcd : c = d := Nat.succ.inj
      ((hnumbered.serial c _ hc).symm.trans (hnumbered.serial d _ (hbeside.ident d _ hd)))
    rcases hfollows.gained c q hsocket with hold | ⟨hnone, -⟩
    · have hbefore := h.numbered.socketOf_eq_some_iff.mpr ⟨c, hcd ▸ hd, hold⟩
      exact hbeside.kernel.kept h.numbered.tidy e.set hmine _ q ((hstep.armed y hy).2 q hbefore)
        (hnumbered.wired.isOpen c q hsocket)
    · rw [ident, ← hcd, show s.conn? c = none from hnone] at hd
      exact absurd hd (by simp)
  · intro y hy
    rcases hknown y hy with ⟨c, hc⟩
    exact ⟨c, hbeside.ident c _ hc⟩

theorem attended_moves {ms : List Move} (h : Attended capacity (s, p))
    (hms : Move.ProperRun p.set? ms s) : Attended capacity (run ms s, p) := by
  induction ms generalizing s with
  | nil => exact h
  | cons m rest ih => exact ih (attended_passed h hms.1) hms.2

/-- A backend keeps its set. -/
theorem set?_checkPoller (window : List ConnId) (p : Poller) (s : System) :
    (s.checkPoller window p).2.1.set? = p.set? := by
  cases p with
  | pollSet q => rfl
  | epoll e =>
      rcases Epoll.frame_sync window e s.kernel with ⟨watched, hframe⟩
      unfold checkPoller Poller.check
      dsimp only
      rw [hframe]
      rfl

/-- Whatever the backend is asked about, it and its set are in step afterwards. -/
theorem attended_asked (h : Attended capacity (s, p))
    (hmade : ∀ id ∈ window, (s.find? id).isSome = true) :
    Attended capacity ((s.checkPoller window p).1, (s.checkPoller window p).2.1) := by
  have hset := set?_checkPoller window p s
  have hidle : Idle { s with kernel := (p.check window s.kernel).2.1 }
      (s.checkPoller window p).1 := idle_notePolls _ _
  have hbackend : (s.checkPoller window p).2.1 = (p.check window s.kernel).1 := rfl
  generalize ht : (s.checkPoller window p).1 = t at hidle
  -- For the rest of the system this is a question like any other.
  have hquestion : t.Numbered none := by
    have hperform := (numbered_perform h.numbered.weaken (m := .checkPoller window p)
      (fun d _ => by simp)).1
    rw [Move.perform, ht] at hperform
    exact hperform
  have hsocketOf : t.socketOf = s.socketOf := by
    funext id
    refine Option.ext fun q => ?_
    rw [hquestion.socketOf_eq_some_iff, h.numbered.socketOf_eq_some_iff]
    simp only [hidle.ident, hidle.still.steady.socket]
    rfl
  have hkernel : t.kernel = (p.check window s.kernel).2.1 := hidle.kernel
  have hpollers : ∀ j x, t.workers.get? j = some x → ∀ d ∈ x.poller.set?,
      d ∉ p.set? ∧ d < t.kernel.interests.size := by
    intro j x hx d hd
    rcases hidle.pollers j x hx with ⟨y, hy, hyx⟩
    exact ⟨(h.numbered.pollers j y hy d (hyx ▸ hd)).1, (hquestion.pollers j x hx d hd).2⟩
  rcases p with q | e
  · refine ⟨hquestion, h.capacity_eq, fun e he => ?_⟩
    exact absurd (hbackend.symm.trans he) (by simp [Poller.check])
  · rcases h.inStep e rfl with ⟨hstep, hknown⟩
    rcases Epoll.inStep_check hstep window with ⟨watched, hafter, hwatched, hstep'⟩
    rw [← hkernel, ← hsocketOf] at hstep'
    have hnow : (s.checkPoller window (.epoll e)).2.1 = .epoll { e with watched } :=
      hbackend.trans hafter
    rw [hnow]
    refine ⟨⟨hquestion.wired, hquestion.tidy, hquestion.serial, hquestion.raw, ?_, hpollers⟩,
      h.capacity_eq, fun e' he' => ?_⟩
    · intro d hd
      rw [← Option.some.inj hd]
      exact hstep'.exists_set
    · rw [← Poller.epoll.inj he']
      refine ⟨hstep', fun y hy => ?_⟩
      have hmade' : ∃ c, s.ident c = some y.2 := by
        rcases hwatched y hy with hold | hmember
        · exact hknown y hold
        · rcases Option.isSome_iff_exists.mp (hmade y.2 hmember) with ⟨c, hc⟩
          exact ⟨c, ident_of_find? hc⟩
      rcases hmade' with ⟨c, hc⟩
      exact ⟨c, (hidle.ident c).trans hc⟩

theorem set?_history (moments : List Moment) (x : System × Poller) :
    (Moment.history moments x).2.set? = x.2.set? := by
  induction moments generalizing x with
  | nil => rfl
  | cons moment rest ih =>
      refine (ih _).trans ?_
      -- A question may change what is remembered, and not which set it is.
      cases moment with
      | passed m => rfl
      | asked window => exact set?_checkPoller window x.2 x.1

/-- A backend is attended all through a history. -/
theorem attended_history {moments : List Moment} {x : System × Poller}
    (h : Attended capacity x) (hproper : Moment.ProperHistory moments x) :
    Attended capacity (Moment.history moments x) := by
  induction moments generalizing x with
  | nil => exact h
  | cons moment rest ih =>
      refine ih ?_ hproper.2
      cases moment with
      | passed m => exact attended_passed h hproper.1
      | asked window => exact attended_asked h hproper.1

/-- A backend that was just opened has a set that is new and watches nothing, or
    none. -/
theorem create_cases {kind : BackendKind} {k k' : Kernel}
    (hopen : Poller.create kind capacity k = (k', .ok p)) :
    (kind = .poll ∧ p = .pollSet ⟨capacity⟩) ∨
      (kind = .epoll ∧ p = .epoll ⟨k.interests.size, [], capacity⟩ ∧
        k'.interests.get? k.interests.size = some { fd := k.freshFd }) := by
  cases kind with
  | poll =>
      unfold Poller.create at hopen
      dsimp only at hopen
      split at hopen
      · simp at hopen
      · exact Or.inl ⟨rfl, (Except.ok.inj (Prod.mk.inj hopen).2).symm⟩
  | epoll =>
      unfold Poller.create Kernel.openInterest at hopen
      dsimp only at hopen
      -- A set that could not be opened is no backend.
      by_cases hstarved : k.starved = true
      · rw [if_pos hstarved] at hopen
        simp at hopen
      · rw [if_neg hstarved] at hopen
        dsimp only at hopen
        split at hopen
        · simp at hopen
        · rcases Prod.mk.inj hopen with ⟨hk, hp⟩
          rw [← hk, ← Except.ok.inj hp, Table.get?_add, if_pos rfl]
          exact Or.inr ⟨rfl, rfl, rfl⟩

/-- A backend that was just opened is in step with its set. -/
theorem attended_create (h : s.Numbered none) {kind : BackendKind} {k : Kernel}
    (hopen : Poller.create kind capacity s.kernel = (k, .ok p)) :
    Attended capacity ({ s with kernel := k }, p) := by
  have hbeside : Beside none s { s with kernel := k } := by
    have hcreate := (Poller.aside_create kind capacity h.sets).1
    rw [hopen] at hcreate
    exact beside_kernel hcreate
  have hwired : ({ s with kernel := k } : System).Wired := by
    have hsockets := Poller.sockets_create kind capacity s.kernel
    rw [hopen] at hsockets
    exact wired_still h.wired (still_kernel hsockets)
  have hnumbered := h.beside hwired hbeside
  rcases create_cases hopen with ⟨-, rfl⟩ | ⟨-, rfl, hnew⟩
  · exact ⟨hnumbered, rfl, fun e he => absurd he (by simp)⟩
  · have htargets : k.targets s.kernel.interests.size = [] := by
      rw [Kernel.targets, Kernel.entries, hnew]
      rfl
    have hset : (k.shape? s.kernel.interests.size).isSome = true :=
      Kernel.shape?_isSome_iff.mpr ⟨_, hnew⟩
    -- The set is new and empty, and no other backend has it.
    refine ⟨⟨hwired, hnumbered.tidy, hnumbered.serial, hnumbered.raw, ?_, ?_⟩, rfl, ?_⟩
    · intro e he
      rw [← Option.some.inj he]
      exact hset
    · intro j x hx d hd
      refine ⟨fun heq => ?_, (hnumbered.pollers j x hx d hd).2⟩
      exact Nat.lt_irrefl d (Option.some.inj heq ▸ (h.pollers j x hx d hd).2)
    · intro e he
      rw [← Poller.epoll.inj he]
      refine ⟨⟨hnumbered.tidy, hset, fun id q hq => hnumbered.holds hq, ?_, ?_, ?_⟩, ?_⟩
      · intro t ht
        rw [htargets] at ht
        exact absurd ht List.not_mem_nil
      · intro t ht
        rw [htargets] at ht
        exact absurd ht List.not_mem_nil
      · simp
      · simp

/-- A backend in use reports an open member that can be read, whatever the others
    are. -/
theorem Attended.mem_checkPoller (h : Attended capacity (s, p)) (hfits : window.length ≤ capacity)
    (hid : id ∈ window) (hreads : s.readsNow id = true) :
    id ∈ (s.checkPoller window p).2.2 := by
  rw [readsNow_eq h.numbered, Option.any_eq_true] at hreads
  rcases hreads with ⟨q, hq, hreadable⟩
  rcases p with x | e
  · exact PollSet.mem_ready h.numbered.tidy (fun id q hq => h.numbered.holds hq) hid hq hreadable
  · have hcapacity : e.capacity = capacity := h.capacity_eq
    exact Epoll.mem_check (h.inStep e rfl).1 (hcapacity ▸ hfits) hid hq hreadable

end System

/-- A backend with an interest set is opened in any state that a program can bring
    about and has any history from then on. When it is asked about a window that
    it has room for, of connections that are open or closed with a number that
    nobody uses, it answers what the stateless backend answers: those that are
    open and can be read, in the order of the window. Neither call fails, and
    members that are closed are left out. -/
theorem backends_agree {δ : Type} {registries capacity : Nat} {before : List Move} {s : System}
    (hs : s = System.run before (System.init registries))
    (hbefore : Move.ProperRun none before (System.init registries)) {k : Kernel} {p : Poller}
    (hopen : Poller.create .epoll capacity s.kernel = (k, .ok p)) {moments : List Moment}
    (hproper : Moment.ProperHistory moments ({ s with kernel := k }, p))
    {w : World δ} {q : Poller}
    (hnow : (w.sys, q) = Moment.history moments ({ s with kernel := k }, p))
    {window : List ConnId} (hfits : window.length ≤ capacity)
    (hsettled : ∀ id ∈ window, ∃ c, w.sys.find? id = some c ∧
      (w.sys.isConnected c = true ∨
        (w.sys.isConnected c = false ∧ w.sys.kernel.at? id.raw = none)))
    (timeout : Duration) :
    (World.checkPoller window timeout q w).2.2 = .ok (window.filter w.sys.readsNow) ∧
      (World.checkPoller window timeout (.pollSet ⟨capacity⟩) w).2.2 =
        .ok (window.filter w.sys.readsNow) := by
  have hnumbered := System.numbered_moves (System.numbered_init registries) hbefore
  rw [← hs] at hnumbered
  have hattended := System.attended_history (System.attended_create hnumbered hopen) hproper
  have hset := System.set?_history moments ({ s with kernel := k }, p)
  rw [← hnow] at hattended hset
  -- What was opened with a set has one still.
  obtain ⟨e, hq⟩ : ∃ e, q = .epoll e := by
    rcases System.create_cases hopen with ⟨hkind, -⟩ | ⟨-, rfl, -⟩
    · exact absurd hkind (by simp)
    · rcases q with x | e
      · exact absurd hset (by simp [Poller.set?])
      · exact ⟨e, rfl⟩
  have hstep := (hattended.inStep e hq).1
  have hcapacity : e.capacity = capacity := by
    rw [← hattended.capacity_eq, show (w.sys, q).2 = .epoll e from hq]
    rfl
  have hnow := hattended.numbered
  have hsettled' : ∀ id ∈ window, Settled w.sys.socketOf w.sys.kernel id := by
    intro id hid
    rcases hsettled id hid with ⟨c, hc, hopen | ⟨-, hunused⟩⟩
    · refine Or.inl ?_
      rw [System.socketOf, hc, Option.bind_some, ← hnow.wired.linked]
      exact hopen
    · exact Or.inr hunused
  have hreads : ∀ id, w.sys.readsNow id = (w.sys.socketOf id).any w.sys.kernel.readable :=
    System.readsNow_eq hnow
  have hepoll := Epoll.check_eq hstep (hcapacity ▸ hfits) hsettled'
  have hpollSet := PollSet.ready_eq hnow.tidy (fun id q hq => hnow.holds hq) hsettled'
  constructor
  · rw [List.filter_congr fun id _ => hreads id, ← hepoll, hq]
    rfl
  · rw [List.filter_congr fun id _ => hreads id, ← hpollSet]
    rfl

/-- A connection is asked about and closed, its number is reused, and the backend
    is asked about the old identity again. Then the other end is closed, and the
    connection that has the number now is written to. -/
def Moment.reuse : List Moment :=
  [.asked [⟨1, 3⟩], .passed (.close 0), .passed .freshPair, .asked [⟨1, 3⟩], .passed (.close 1),
    .passed (.write 3 [7])]

/-- The connection that has the number is found ready, although the number is
    remembered for another one, and a closed member is left out. -/
theorem backends_agree_reuse :
    let s := System.run [.freshPair] (System.init 0)
    let start := ({ s with kernel := (Poller.create .epoll 2 s.kernel).1 },
      Poller.epoll ⟨0, [], 2⟩)
    let now := Moment.history Moment.reuse start
    (World.checkPoller [⟨2, 4⟩, ⟨3, 3⟩] .zero now.2 ⟨now.1, ()⟩).2.2 = .ok [⟨3, 3⟩] ∧
      (World.checkPoller [⟨2, 4⟩, ⟨3, 3⟩] .zero (.pollSet ⟨2⟩) (⟨now.1, ()⟩ : World Unit)).2.2 =
        .ok [⟨3, 3⟩] := by
  intro s start now
  have hopen : Poller.create .epoll 2 s.kernel =
      ((Poller.create .epoll 2 s.kernel).1, .ok (.epoll ⟨0, [], 2⟩)) :=
    Prod.ext rfl (by decide +kernel)
  have hproper : Moment.ProperHistory Moment.reuse start := by
    have hfirst : ∀ id ∈ [(⟨1, 3⟩ : ConnId)], (start.1.find? id).isSome = true := by
      decide +kernel
    have hagain : ∀ id ∈ [(⟨1, 3⟩ : ConnId)],
        ((Moment.history (Moment.reuse.take 3) start).1.find? id).isSome = true := by
      decide +kernel
    exact ⟨hfirst, trivial, trivial, hagain, trivial, trivial, trivial⟩
  have hsettled : ∀ id ∈ [(⟨2, 4⟩ : ConnId), ⟨3, 3⟩], ∃ c, now.1.find? id = some c ∧
      (now.1.isConnected c = true ∨
        (now.1.isConnected c = false ∧ now.1.kernel.at? id.raw = none)) := by
    intro id hid
    rcases List.mem_cons.mp hid with rfl | hid
    · exact ⟨1, by decide +kernel⟩
    · rw [List.mem_singleton.mp hid]
      exact ⟨2, by decide +kernel⟩
  have hready : [⟨2, 4⟩, ⟨3, 3⟩].filter now.1.readsNow = [⟨3, 3⟩] := by decide +kernel
  have hnow : (now.1, now.2) = Moment.history Moment.reuse start := Prod.mk.eta
  clear_value now
  have hagree := backends_agree (w := ⟨now.1, ()⟩) (q := now.2) (s := s) rfl ⟨trivial, trivial⟩
    hopen hproper hnow (by decide) hsettled .zero
  rw [hready] at hagree
  exact hagree

end ReadNotify
