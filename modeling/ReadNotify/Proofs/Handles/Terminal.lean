import ReadNotify.Proofs.Callbacks.Places
import ReadNotify.Proofs.Handles.Settlement
import ReadNotify.Proofs.Streams.Conservation

/-!
# Closed for Good

A connection is closed by name, or because the last handle of it is gone, and the latter
can happen anywhere: while another callback is destroyed, in the middle of a shutdown, or
while its own callback is being called. However it came about, three marks say so from
then on: it is not connected, it has no socket, and its slot names no registry. Nothing
sets any of them again, and every operation on the connection looks at one of them first
and does nothing more.

So it need not be asked which operation comes when. A closed connection is closed in
every state that follows, and what is said of operations is said of one state.

A callback that was being called when its connection was closed finds its slot without
a registration when it returns, and is destroyed. The other end of the stream loses
nothing: what was queued for it is still there, nobody adds to it, and it reads all of
that and then the end.

## Main definitions

* `System.Final`: What operations on a closed connection do.

## Theorems

* `final_of_closed`: They do nothing.
* `isConnected_run_false`: What is closed stays closed.
* `Belongs.retired`: The callbacks of a closed connection are in no slot.
* `delivered_of_closed`: The other end reads what was queued.
* `closed_for_good`: All of this from the close on.
-/

namespace ReadNotify

namespace System

variable {s t u : System} {b c d : ConnKey} {k : CallbackKey} {p q e : SocketKey}

/-! ### One state -/

/-- What operations on a closed connection do. Reading does not wait and gives nothing,
    everything else fails as not connected or finds nothing to do, and all leave the
    state as it is, except that a rejected callback is destroyed and so is one that has
    been called. -/
structure Final (t : System) (c : ConnKey) : Prop where
  isConnected : t.isConnected c = false
  close : t.close c = t
  canRead : t.canRead c = true
  receive : ∀ n, t.receive c n = (t, [])
  write : ∀ data, t.write c data = (t, .error (.plain .notConnected))
  accept : ∀ signalled, t.accept c signalled = (t, .error (.plain .notConnected))
  localAddr : t.localAddr c = .error (.plain .notConnected)
  peerAddr : t.peerAddr c = .error (.plain .notConnected)
  set : ∀ n k, t.setCallback n c k = (t.destroy k, .refused .notConnected)
  unset : ∀ n, t.unsetCallback n c = (t, false)
  begin : ∀ size, t.begin c size = (t, none)
  restore : ∀ x, x.conn = c → t.restore x = (t, false)
  finish : ∀ x, x.conn = c → t.finish x .returned = t.forget x ∧
    t.finish x .panicked = (t.note (.callbackPanicked (t.label c))).forget x

/-- Clearing a registration that is not there does nothing. -/
theorem detach_of_unregistered (h : (s.slot c).registry = none) : s.detach c = (s, false) := by
  rw [detach]
  rcases clearSlot_cases c s with ⟨-, heq⟩ | ⟨conn, r, -, -, hr, -⟩
  · rw [heq]
  · rw [hr] at h
    exact absurd h (by simp only [reduceCtorEq, not_false_eq_true])

/-- What is closed has neither socket nor registration, and so nothing can be done with
    it. -/
theorem final_of_closed (h : t.Enrolled) (hwired : t.Wired) (hclosed : t.isConnected c = false) :
    Final t c := by
  have hregistry := h.closed c hclosed
  have hcallback := callback_of_unregistered (fun k => h.filled c k) hregistry
  have hsocket : t.socket? c = none := by
    have hlinked := hwired.linked c
    rw [hclosed] at hlinked
    exact Option.isSome_eq_false_iff.mp hlinked.symm |> Option.isNone_iff_eq_none.mp
  have hdetach := detach_of_unregistered hregistry
  -- What it is asked with does not matter to a slot without a registration.
  have hrestore : ∀ x : Taken, x.conn = c → t.restore x = (t, false) := by
    rintro x rfl
    rw [restore, if_neg]
    simp only [mayReturn, hregistry, Option.isSome_none, Bool.and_false, Bool.false_and,
      Bool.false_eq_true, not_false_eq_true]
  refine ⟨hclosed, ?_, ?_, fun n => receive_of_none hsocket n, fun data => ?_, fun signalled => ?_,
    ?_, ?_, fun n k => ?_, fun n => ?_, begin_of_none hcallback, hrestore, fun x hx => ⟨?_, ?_⟩⟩
  · rw [close, hdetach, disconnect, markClosed, hclosed]
    rfl
  · rw [canRead, hsocket]
  · rw [write, hsocket]
  · rw [accept, hsocket]
  · rw [localAddr, hsocket]
  · rw [peerAddr, hsocket]
  · rw [setCallback, hclosed]
    rfl
  · have hnone : ∀ r, (t.acquire (.state n)).detachFrom c r = (t.acquire (.state n), false) := by
      intro r
      rw [detachFrom, if_neg]
      rw [show (t.acquire (.state n)).slot c = t.slot c from rfl, hregistry]
      simp only [reduceCtorEq, not_false_eq_true]
    unfold unsetCallback
    dsimp only
    rcases (t.acquire (.state n)).running? n with _ | running
    · exact congrArg (·, false) (release_acquire (.state n) t)
    · dsimp only
      rw [hnone]
      exact congrArg (·, false) (release_acquire (.state n) t)
  · rw [finish, putBack, hrestore x hx]
    rfl
  · -- There is no registration left that would have to be cleared.
    have hgeneration : ∀ g, (t.note (.callbackPanicked (t.label c))).detachGeneration c g =
        (t.note (.callbackPanicked (t.label c)), false) := by
      intro g
      have hnoted := detach_of_unregistered (s := t.note (.callbackPanicked (t.label c))) hregistry
      rw [detachGeneration, hnoted, ite_self]
    rw [finish, giveUp, hx, hgeneration]
    rfl

/-! ### Later states -/

/-- What is closed stays closed: only what is new gets a socket. -/
theorem isConnected_run_false (ms : List Move) (h : s.Wired) (hexists : (s.conn? c).isSome = true)
    (hclosed : s.isConnected c = false) : (run ms s).isConnected c = false := by
  rcases follows_run ms h with ⟨hwired, hfollows⟩
  rw [hwired.linked, Bool.eq_false_iff]
  intro hsome
  rcases Option.isSome_iff_exists.mp hsome with ⟨q, hq⟩
  rcases hfollows.gained c q hq with hold | ⟨hnone, -⟩
  · rw [h.linked, hold] at hclosed
    exact Bool.false_ne_true hclosed.symm
  · rw [hnone] at hexists
    exact Bool.false_ne_true hexists

/-- A callback of a connection that is closed is in no slot. It belongs to that
    connection for good, and there it cannot be. -/
theorem Belongs.retired (h : t.Sole) (hk : t.Belongs k c) (hnone : (t.slot c).callback = none)
    (d : ConnKey) : (t.slot d).callback ≠ some k := by
  intro hd
  rcases hk with ⟨place, hat, hof⟩
  rcases h.eq_of_isAt (q := .slot d) hat hd
  rcases (show d = c from hof)
  rw [hnone] at hd
  exact absurd hd (by simp only [reduceCtorEq, not_false_eq_true])

/-- The callbacks of a connection at one time belong to it at every later one. -/
theorem belongs_run (ms : List Move) (h : s.Sole) (hk : s.Belongs k c) :
    (run ms s).Sole ∧ (run ms s).Belongs k c := by
  rw [← handle_moves]
  exact ⟨(sole_handle (q := fun _ => True) (fun _ _ _ _ _ => trivial) _ h trivial).1,
    belongs_handle _ h hk⟩

/-! ### The other end -/

theorem stream_of_none {f : Move → System → Option (ConnKey × Bytes)} {r : System → ConnKey → Bool}
    {ms : List Move} (h : ∀ v w, ms = v ++ w → ∀ d, r (run v s) d = false) :
    stream f r ms s = [] := by
  induction ms generalizing s with
  | nil => rfl
  | cons m ms ih =>
      have hfirst : ∀ d, r s d = false := h [] (m :: ms) rfl
      rw [stream, portion_of_none hfirst, List.nil_append]
      exact ih fun v w hms => h (m :: v) w (congrArg (m :: ·) hms)

/-- What was queued for the other end of a closed connection is what it reads and what is
    still queued. Nobody has the socket that is gone, so nobody adds to it. -/
theorem delivered_of_closed (ms : List Move) (h : s.Wired) (he : s.socket? b = some e)
    (hpeer : s.kernel.peer? e = some p) (hdown : s.kernel.isOpen p = false)
    (hopen : (run ms s).isConnected b = true) :
    delivered b ms s ++ (run ms s).queued b = s.queued b ∧
      ∀ size, ((run ms s).receive b size).2 = ((run ms s).queued b).take size := by
  rcases follows_run ms h with ⟨hwired, hfollows⟩
  -- The reading end still has its socket, with the other end where it was.
  have he' : (run ms s).socket? b = some e := by
    rw [hwired.linked, Option.isSome_iff_exists] at hopen
    rcases hopen with ⟨e', he'⟩
    rw [he', (Follows.same_iff h hfollows he he').mp rfl]
  have hpeer' : (run ms s).kernel.peer? e = some p :=
    (hfollows.peer e (h.known he)).trans hpeer
  have hputs : stream Move.puts (fun s => s.holds p) ms s = [] := by
    refine stream_of_none fun v w hms d => decide_eq_false fun hd => ?_
    rcases follows_run v h with ⟨hv, hbefore⟩
    -- Whoever had the socket would have it open.
    rcases hbefore.isOpen p (hv.isOpen d p hd) with hup | hnew
    · exact Bool.false_ne_true (hdown.symm.trans hup)
    · have hback := h.kernel.paired e p hpeer
      rw [Kernel.peer?, hnew] at hback
      exact absurd hback (by simp only [Option.bind_none, reduceCtorEq, not_false_eq_true])
  have hinbox := inbox_run ms h (Or.inl ⟨hwired.isOpen b e he', hpeer'⟩)
  rw [hputs, List.append_nil] at hinbox
  have hgets : delivered b ms s = stream Move.gets (fun s => s.holds e) ms s :=
    @stream_holds s b e Move.gets [] ms h (fun _ _ _ _ => socket?_of_gets) he
  refine ⟨?_, fun size => hands_of_peer hwired he' hpeer' (Or.inl rfl)⟩
  rw [queued_of_some he', queued_of_some he, hinbox, hgets]

/-! ### The close -/

/-- What is closed by name is closed. -/
theorem isConnected_close (c : ConnKey) (s : System) : (s.close c).isConnected c = false := by
  rw [close, (frame_disconnect c _ c).2.2.2]
  simp

/-- What neither destroys callbacks nor gives handles up closes nothing. -/
theorem isConnected_of_not_releases {m : Move} (hm : m.releases = false)
    (hopen : s.isConnected c = true) : (m.perform s).isConnected c = true := by
  have hquiet : ∀ {t : System}, Quiet s t → t.isConnected c = true := by
    intro t h
    rcases h.isConnected c with hsame | ⟨-, hnew⟩
    · exact hsame.trans hopen
    · exact hnew
  cases m with
  | entrust k d =>
      rcases entrust_frame k d s with ⟨callbacks, heq, -⟩
      rw [Move.perform, heq]
      exact hopen
  | begin d size => exact ((steady_begin d size s).isConnected c).trans hopen
  | take d pinned =>
      rcases take_cases d pinned s with ⟨-, heq⟩ | ⟨x, -, -, -, heq⟩
      · rw [Move.perform, heq]
        exact hopen
      · rw [Move.perform, heq]
        exact ((still_takenOut x s).steady.isConnected c).trans hopen
  | onRegistry r f => exact hopen
  | fillWindow l => exact hopen
  | close d => exact absurd hm.symm Bool.false_ne_true
  | drop d => exact absurd hm.symm Bool.false_ne_true
  | set n d hold => exact absurd hm.symm Bool.false_ne_true
  | unset n d => exact absurd hm.symm Bool.false_ne_true
  | shutdown n => exact absurd hm.symm Bool.false_ne_true
  | finish x exit => exact absurd hm.symm Bool.false_ne_true
  | attach d r hold => exact absurd hm.symm Bool.false_ne_true
  | detach d => exact absurd hm.symm Bool.false_ne_true
  | detachFrom d r => exact absurd hm.symm Bool.false_ne_true
  | detachGeneration d g => exact absurd hm.symm Bool.false_ne_true
  | forget x => exact absurd hm.symm Bool.false_ne_true
  | _ => exact hquiet (Move.quiet_perform rfl s)

/-- What a program that uses notifiers can do keeps everything in order. -/
theorem ordered_run (r : Nat) (ms : List Move) (hms : ∀ m ∈ ms, m.isInternal = false) :
    (run ms (init r)).Orderly ∧ (run ms (init r)).Wired ∧ (run ms (init r)).Sole := by
  refine ⟨orderly_run ms hms (orderly_init r), wired_run r ms, ?_⟩
  have hsole := sole_handle (q := fun _ => True) (fun _ _ _ _ _ => trivial) (ms.map .move)
    (sole_init r) trivial
  rw [handle_moves] at hsole
  exact hsole.1

/-- Closed is closed for good. A connection is closed when it was closed by name, and when
    nobody has a handle of it any more. Let it be open before some operation of a program
    that uses notifiers and closed after it, whichever operation that was and however it
    came to that. Then in every state that follows operations on it find it closed and do
    nothing. Its callbacks are in no slot, so that none of them is called again, and one
    that is being called is destroyed in the end. Whoever is at the other end and is open
    reads what was queued for it before the close, and then the end. -/
theorem closed_for_good (r : Nat) (before after : List Move) (m : Move) (c : ConnKey)
    (hms : ∀ x ∈ before ++ m :: after, x.isInternal = false)
    (hopen : (run before (init r)).isConnected c = true)
    (hclosed : (m.perform (run before (init r))).isConnected c = false) :
    let u := run before (init r)
    let s := m.perform u
    let t := run after s
    ((u.close c).isConnected c = false ∧ ∀ d, s.isHeld d = false → s.isConnected d = false) ∧
    Final t c ∧
    (∀ k, u.Belongs k c → ∀ d, (t.slot d).callback ≠ some k ∧
      ∀ size x data, (t.begin d size).2 = some (x, data) → x.callback ≠ k) ∧
    Cut u s c ∧
    ∀ b, u.Joined c b → t.isConnected b = true →
      delivered b after s ++ t.queued b = u.queued b ∧
        ∀ size, (t.receive b size).2 = (t.queued b).take size := by
  intro u s t
  have hrun : run (before ++ [m]) (init r) = s := run_append before [m] (init r)
  have hrun' : run (before ++ m :: after) (init r) = t := run_append before (m :: after) (init r)
  rcases ordered_run r before (fun x hx => hms x (List.mem_append_left _ hx)) with
    ⟨hu, hwu, hsole⟩
  rcases ordered_run r (before ++ [m]) (fun x hx => hms x (by
    rcases List.mem_append.mp hx with hx | hx
    · exact List.mem_append_left _ hx
    · exact List.mem_append_right _ (List.mem_singleton.mp hx ▸ List.mem_cons_self))) with
    ⟨hs, hws, -⟩
  rcases ordered_run r (before ++ m :: after) hms with ⟨ht, hwt, hsolet⟩
  rw [hrun] at hs hws
  rw [hrun'] at ht hwt hsolet
  have hfollows : Follows u s := (follows_perform hwu m).2
  -- It is closed now, and so it is later.
  have hexists := isSome_of_isConnected hopen
  have hgone : t.isConnected c = false :=
    isConnected_run_false after hws (hfollows.kept c hexists) hclosed
  have hfinal := final_of_closed ht.coherent.enrolled hwt hgone
  -- Only what releases handles closes anything, and of that all is known.
  have hreleases : m.releases = true := by
    by_contra hm
    have hstays := isConnected_of_not_releases (Bool.eq_false_iff.mpr hm) hopen
    exact Bool.false_ne_true (hclosed.symm.trans hstays)
  have hinternal : m.isInternal = false :=
    hms m (List.mem_append_right _ List.mem_cons_self)
  have hcollapse : Collapses _ u s := collapses_releases (e := .move m) (fun d q hold heq => by
    rw [Handling.move.inj heq] at hinternal
    exact absurd hinternal.symm Bool.false_ne_true) hreleases hu.coherent.enrolled
  have hcarries : Carries u s := carries_handling hwu (e := .move m) hreleases
  have hnone : (t.slot c).callback = none :=
    callback_of_unregistered (fun k => ht.coherent.filled c k) (ht.coherent.closed c hgone)
  refine ⟨⟨isConnected_close c u, fun d hd => ?_⟩, hfinal, fun k hk d => ?_,
    hcollapse.cut hwu hs.coherent.enrolled hws hopen hclosed, fun b hjoined hb => ?_⟩
  · rw [Bool.eq_false_iff]
    intro hd'
    rcases hs.held d hd' with hheld | hfalse
    · exact Bool.false_ne_true (hd.symm.trans hheld)
    · exact hfalse.elim
  · have hlater : t.Belongs k c := by
      rw [← show run (m :: after) u = t from rfl]
      exact (belongs_run (m :: after) hsole hk).2
    have hslot := hlater.retired hsolet hnone
    refine ⟨hslot d, fun size x data hbegin hsame => hslot d ?_⟩
    have hstart : t.begin d size = ((t.begin d size).1, some (x, data)) := Prod.ext rfl hbegin
    rw [← hsame]
    exact (begin_some hstart).1
  · rcases hjoined with ⟨p, e, hp, he, hpeer⟩
    have hother : (u.conn? b).isSome = true := by
      refine isSome_of_isConnected ?_
      rw [hwu.linked, he]
      rfl
    -- The other end was open all along.
    have hb' : s.isConnected b = true := by
      by_contra hshut
      have hlater := isConnected_run_false after hws (hfollows.kept b hother)
        (Bool.eq_false_iff.mpr hshut)
      exact Bool.false_ne_true (hlater.symm.trans hb)
    have he' : s.socket? b = some e := by
      rw [hws.linked, Option.isSome_iff_exists] at hb'
      rcases hb' with ⟨e', he'⟩
      rw [he', (Follows.same_iff hwu hfollows he he').mp rfl]
    have hdown : s.kernel.isOpen p = false := by
      rcases hfollows.owned c p hp with hsame | ⟨-, hdown⟩
      · rw [hws.linked, hsame] at hclosed
        exact absurd hclosed.symm Bool.false_ne_true
      · exact hdown
    have hpeer' : s.kernel.peer? e = some p := (hfollows.peer e (hwu.known he)).trans hpeer
    have hqueued : s.queued b = u.queued b := by
      rw [queued_of_some he', queued_of_some he]
      rcases hcarries.inbox e (hws.isOpen b e he') with ⟨-, hsame⟩ | ⟨hnew, -⟩
      · exact hsame
      · have hknown := hwu.known he
        rw [hnew] at hknown
        exact absurd hknown Bool.false_ne_true
    rw [← hqueued]
    exact delivered_of_closed after hws he' hpeer' hdown hb

/-- A connection is closed in the middle of its own dispatch, because another callback is
    destroyed that kept the last handle of it. Its callback returns and is destroyed, it
    can be neither written to nor registered again, and the other end reads what was on
    its way. -/
theorem closed_for_good_cascade :
    let before : List Move := [.pair 10 11, .pair 12 13, .addNotifier .default,
      .set 0 0 (some 2), .set 0 2 none, .write 3 [97], .begin 2 16, .write 2 [98, 99], .drop 2]
    let after : List Move := [.receive 3 1, .write 2 [100], .set 0 2 none,
      .finish ⟨1, 2, 1, true⟩ .returned]
    let u := run before (init 0)
    let s := (Move.close 0).perform u
    let t := run after s
    u.isConnected 2 = true ∧ s.isConnected 2 = false ∧ Final t 2 ∧ u.Belongs 1 2 ∧
      (∀ d, (t.slot d).callback ≠ some 1) ∧ t.isLive 1 = false ∧ Cut u s 2 ∧ u.Joined 2 3 ∧
      delivered 3 after s = [98] ∧ t.queued 3 = [99] ∧
      delivered 3 after s ++ t.queued 3 = u.queued 3 := by
  intro before after u s t
  have hms : ∀ x ∈ before ++ .close 0 :: after, x.isInternal = false := by decide
  have hopen : u.isConnected 2 = true := by decide +kernel
  have hclosed : s.isConnected 2 = false := by decide +kernel
  have hbelongs : u.Belongs 1 2 := ⟨.out ⟨1, 2, 1, true⟩, ⟨by decide +kernel, rfl⟩, rfl⟩
  have hjoined : u.Joined 2 3 := ⟨2, 3, by decide +kernel⟩
  rcases closed_for_good 0 before after (.close 0) 2 hms hopen hclosed with
    ⟨-, hfinal, hretired, hcut, hpeer⟩
  refine ⟨hopen, hclosed, hfinal, hbelongs, fun d => (hretired 1 hbelongs d).1, ?_, hcut, hjoined,
    ?_, ?_, (hpeer 3 hjoined (by decide +kernel)).1⟩
  · decide +kernel
  · decide +kernel
  · decide +kernel

end System

end ReadNotify
