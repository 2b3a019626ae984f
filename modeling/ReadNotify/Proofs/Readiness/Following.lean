import ReadNotify.Proofs.Readiness.Agreement

/-!
# The Interest Set Follows the Window

What the kernel watches and what the backend remembers are two lists kept by two
parties, and a window is a third. Right after the set was brought in line with a
window the three agree, whatever happened before: every entry is remembered, every
number that is remembered is that of a member, and every open member is watched.
So an empty window empties the set, and a window for which the call to wait has
room fills no more than that.

Every entry is about a file that is open now, and that is a socket unless a member
is stale. The number of a closed connection may have gone to any other file of the
program, to the end of a pipe or to the interest set of another backend. The backend,
which asks by number, then watches that file if it can be watched at all.

## Main definitions

* `Epoll.Follows`: The set, what is remembered and a window agree.

## Theorems

* `Epoll.follows_sync`: A set in step follows any window.
* `set_follows_window`: It does so after any history.
-/

namespace ReadNotify

namespace Epoll

/-- The interest set, what the backend remembers and a window agree, given the sockets
    of the connections that are open. -/
structure Follows (sock : ConnId → Option SocketKey) (window : List ConnId) (x : Epoll)
    (k : Kernel) : Prop where
  /-- What is watched is open under its number and can be watched. It is a socket, unless
      the number is that of closed connections only and has gone to another file. -/
  entry : ∀ t ∈ k.targets x.set,
    k.Holds t.1 t.2 ∧ k.pollable t.2 = true ∧ t.2 ≠ .interests x.set ∧
      ((∃ q, t.2 = .socket q) ∨ ∀ id, id.raw = t.1 → sock id = none)
  member : ∀ t ∈ k.targets x.set, ∃ id ∈ window, id.raw = t.1
  covered : ∀ t ∈ k.targets x.set, t.1 ∈ x.watched.map Prod.fst
  key : ∀ fd ∈ x.watched.map Prod.fst, ∃ id ∈ window, id.raw = fd
  armed : ∀ id ∈ window, ∀ q, sock id = some q → (id.raw, .socket q) ∈ k.targets x.set
  /-- The call to wait has room for all entries, and reports all that are ready. -/
  whole : window.length ≤ x.room → (k.targets x.set).length ≤ x.room ∧
    ∀ fd, fd ∈ (k.wait x.set x.room).2 ↔ ∃ f, (fd, f) ∈ k.targets x.set ∧ k.ready f = true
  nothing : window = [] → k.targets x.set = [] ∧ x.watched = []

variable {sock : ConnId → Option SocketKey} {x : Epoll} {k : Kernel}

/-- A set in step with what is remembered follows any window. -/
theorem follows_sync (h : InStep sock x k) (window : List ConnId) :
    Follows sock window (x.sync window k).1 (x.sync window k).2.1 := by
  rcases inStep_sync h window with ⟨hstep, hleft, hmembers, -⟩
  have hlength := length_targets_sync h window
  have hwatched := watched_sync window x k
  rcases frame_sync window x k with ⟨watched, hframe⟩
  rw [hframe] at hstep hwatched ⊢
  generalize (x.sync window k).2.1 = k' at hstep hleft hmembers hlength ⊢
  have hkey : ∀ y ∈ watched, ∃ id ∈ window, id.raw = y.1 := by
    intro y hy
    rcases hwatched y hy with ⟨-, hkept⟩ | hmember
    · exact hkept
    · exact ⟨y.2, hmember, (hstep.armed y hy).1.symm⟩
  refine ⟨fun t ht => ?_, hleft, hstep.covered, fun fd hfd => ?_, hmembers, fun hroom => ?_,
    fun hempty => ⟨?_, ?_⟩⟩
  · have hheld := hstep.tidy.held x.set t ht
    refine ⟨hheld, hstep.tidy.pollable x.set t ht, hstep.loopless t ht, ?_⟩
    by_cases hsocket : ∃ q, t.2 = .socket q
    · exact Or.inl hsocket
    · refine Or.inr fun id hid => Option.eq_none_iff_forall_ne_some.mpr fun q hq => hsocket ?_
      -- An open connection would hold the number itself.
      exact ⟨q, hstep.tidy.unique _ _ _ hheld (hid ▸ hstep.numbered id q hq)⟩
  · rcases List.mem_map.mp hfd with ⟨y, hy, rfl⟩
    exact hkey y hy
  · exact ⟨Nat.le_trans hlength hroom, Kernel.mem_wait (Nat.le_trans hlength hroom)⟩
  · rw [hempty] at hlength
    exact List.eq_nil_of_length_eq_zero (Nat.le_zero.mp hlength)
  · refine List.eq_nil_iff_forall_not_mem.mpr fun y hy => ?_
    rcases hkey y hy with ⟨id, hid, -⟩
    exact absurd (hempty ▸ hid) List.not_mem_nil

end Epoll

/-- A backend with an interest set is opened in any state that a program can bring about
    and has any history from then on. Right after it was brought in line with any
    window, the set follows that window. -/
theorem set_follows_window {registries capacity : Nat} {before : List Move} {s : System}
    (hs : s = System.run before (System.init registries))
    (hbefore : Move.ProperRun none before (System.init registries)) {k : Kernel} {p : Poller}
    (hopen : Poller.create .epoll capacity s.kernel = (k, .ok p)) {moments : List Moment}
    (hproper : Moment.ProperHistory moments ({ s with kernel := k }, p)) {t : System} {x : Epoll}
    (hnow : (t, .epoll x) = Moment.history moments ({ s with kernel := k }, p))
    (window : List ConnId) :
    x.capacity = capacity ∧ Epoll.Follows t.socketOf window (x.sync window t.kernel).1
      (x.sync window t.kernel).2.1 := by
  have hnumbered := System.numbered_moves (System.numbered_init registries) hbefore
  rw [← hs] at hnumbered
  -- Every history keeps the set in step with what its backend remembers.
  have hattended := System.attended_history (System.attended_create hnumbered hopen) hproper
  rw [← hnow] at hattended
  exact ⟨hattended.capacity_eq, Epoll.follows_sync (hattended.inStep x rfl).1 window⟩

/-- After a number was reused, a window of a stale member, of the member that has the
    number now and of one whose number nobody uses. -/
theorem set_follows_window_reuse :
    let s := System.run [.freshPair] (System.init 0)
    let start := ({ s with kernel := (Poller.create .epoll 2 s.kernel).1 },
      Poller.epoll ⟨0, [], 2⟩)
    let now := Moment.history Moment.reuse start
    let x : Epoll := ⟨0, [(3, ⟨1, 3⟩)], 2⟩
    let window : List ConnId := [⟨1, 3⟩, ⟨3, 3⟩, ⟨2, 4⟩]
    now.2 = .epoll x ∧ now.1.socketOf ⟨3, 3⟩ = some 2 ∧
      (x.sync window now.1.kernel).1.watched = [(3, ⟨3, 3⟩)] ∧
      (x.sync window now.1.kernel).2.1.targets 0 = [(3, .socket 2)] ∧
      Epoll.Follows now.1.socketOf window (x.sync window now.1.kernel).1
        (x.sync window now.1.kernel).2.1 := by
  intro s start now x window
  have hopen : Poller.create .epoll 2 s.kernel =
      ((Poller.create .epoll 2 s.kernel).1, .ok (.epoll ⟨0, [], 2⟩)) :=
    Prod.ext rfl (by decide +kernel)
  have hproper : Moment.ProperHistory Moment.reuse start := by
    have hfirst : ∀ id ∈ [(⟨1, 3⟩ : ConnId)], (start.1.find? id).isSome = true := by
      decide +kernel
    have hagain : ∀ id ∈ [(⟨1, 3⟩ : ConnId)],
        ((Moment.history (Moment.reuse.take 3) start).1.find? id).isSome = true := by
      decide +kernel
    exact ⟨hfirst, trivial, trivial, hagain, trivial, trivial, trivial⟩
  have hbackend : now.2 = .epoll x := by decide +kernel
  refine ⟨hbackend, by decide +kernel, by decide +kernel, by decide +kernel, ?_⟩
  have hnow : (now.1, .epoll x) = Moment.history Moment.reuse start := by
    rw [← hbackend]
  clear_value now
  exact (set_follows_window (s := s) rfl ⟨trivial, trivial⟩ hopen hproper hnow window).2

/-- A connection is closed and the end of a pipe gets its number. A window that still names
    the connection has the pipe watched, and has nothing watched if it is a plain file. -/
example :
    let s := System.run [.freshPair] (System.init 0)
    let start := ({ s with kernel := (Poller.create .epoll 4 s.kernel).1 },
      Poller.epoll ⟨0, [], 4⟩)
    let watched (pollable : Bool) : List (Nat × OpenFile) :=
      let now := Moment.history [.passed (.close 0), .passed (.openOther pollable)] start
      ((⟨0, [], 4⟩ : Epoll).sync [⟨1, 3⟩] now.1.kernel).2.1.targets 0
    watched true = [(3, .other 0)] ∧ watched false = [] := by
  decide +kernel

/-- A connection is closed and another interest set gets its number. A window that still
    names the connection has that set watched, and nothing else. -/
theorem set_watches_set :
    let s := System.run [.freshPair] (System.init 0)
    let start := ({ s with kernel := (Poller.create .epoll 4 s.kernel).1 },
      Poller.epoll ⟨0, [], 4⟩)
    let moments : List Moment := [.passed (.close 0), .passed (.openPoller .epoll 4)]
    let now := Moment.history moments start
    let x : Epoll := ⟨0, [], 4⟩
    Moment.ProperHistory moments start ∧ now.2 = .epoll x ∧
      (now.1.find? ⟨1, 3⟩).isSome = true ∧
      (x.sync [⟨1, 3⟩] now.1.kernel).2.1.targets 0 = [(3, .interests 1)] ∧
      ¬ ∀ t ∈ (x.sync [⟨1, 3⟩] now.1.kernel).2.1.targets 0, ∃ q, t.2 = .socket q := by
  intro s start moments now x
  have htargets : (x.sync [⟨1, 3⟩] now.1.kernel).2.1.targets 0 = [(3, .interests 1)] := by
    decide +kernel
  refine ⟨⟨trivial, trivial, trivial⟩, by decide +kernel, by decide +kernel, htargets, ?_⟩
  rw [htargets]
  intro h
  rcases h _ List.mem_cons_self with ⟨q, hq⟩
  exact absurd hq (by simp only [reduceCtorEq, not_false_eq_true])

end ReadNotify
