import ReadNotify.Proofs.Streams.Sockets
import ReadNotify.Proofs.Readiness.Entries
import Mathlib.Data.List.Nodup

/-!
# Many Sockets Closed in Any Order

Which of several sockets is closed first makes no difference to those that stay
open. A socket that stays open has one peer at most. If that is closed, it is
told once, and what it is told depends on the peer as it was in the beginning,
because nobody else changes the peer meanwhile. Interest sets watch what stays
open, in an order that may differ, since taking notice moves entries.

## Main definitions

* `Kernel.casualties`: What closing one socket takes down, and whether it was
  abandoned.
* `Kernel.Razed`: Sockets were taken down, and nothing else was done.
* `Kernel.Same`: Two states that cannot be told apart by what is open, but for
  the turns of the entries of interest sets.

## Theorems

* `razed_closes`: What closing many sockets comes to.
* `same_closes`: It does not depend on the order.
-/

namespace ReadNotify

namespace Kernel

variable {k k' k'' : Kernel} {q : SocketKey} {D D' : List (SocketKey × Bool)}

/-- Sockets were taken down, each for a reason that its peer was told, and
    nothing else was done. -/
structure Razed (D : List (SocketKey × Bool)) (k k' : Kernel) : Prop where
  frame : ∃ sockets interests, k' = { k with sockets, interests }
  sockets : k'.sockets.size = k.sockets.size
  interests : k'.interests.size = k.interests.size
  downed : Downed (D.map Prod.fst) k k'
  spared : ∀ p, k'.isOpen p = true → (∀ d ∈ D, k.peer? p ≠ some d.1) → k'.socket? p = k.socket? p
  told : ∀ p d sock, k'.isOpen p = true → d ∈ D → k.peer? p = some d.1 →
    k.socket? d.1 = some sock → k'.socket? p = (k.socket? p).map (cutOff sock d.2)
  shape : ∀ e, k'.shape? e = k.shape? e
  targets : ∀ e, (k'.targets e).Perm
    ((k.targets e).filter fun t => decide (∀ d ∈ D, t.2 ≠ .socket d.1))

theorem razed_nil (k : Kernel) : Razed [] k k := by
  refine ⟨⟨k.sockets, k.interests, rfl⟩, rfl, rfl, downed_nil k, fun _ _ _ => rfl,
    fun _ _ _ _ hd => absurd hd List.not_mem_nil, fun _ => rfl, fun e => ?_⟩
  rw [List.filter_eq_self.mpr]
  intro t _
  exact decide_eq_true fun d hd => absurd hd List.not_mem_nil

/-- What stays open was open and was not taken down. -/
theorem Razed.isOpen (h : Razed D k k') {p : SocketKey} (hp : k'.isOpen p = true) :
    k.isOpen p = true ∧ p ∉ D.map Prod.fst := by
  rw [h.downed.isOpen, Bool.and_eq_true, decide_eq_true_eq] at hp
  exact hp

/-- What was taken down first is neither told nor changed by what is taken down
    later. -/
theorem razed_cons {d : SocketKey × Bool} (hpaired : ∀ p q, k.peer? p = some q → k.peer? q = some p)
    (hopen : ∀ d' ∈ D, k.isOpen d'.1 = true) (hnew : d.1 ∉ D.map Prod.fst)
    (h : Razed [d] k k') (h' : Razed D k' k'') : Razed (d :: D) k k'' := by
  have hapart : ∀ d' ∈ D, d'.1 ≠ d.1 := fun d' hd' heq =>
    hnew (heq ▸ List.mem_map_of_mem hd')
  refine ⟨?_, h'.sockets.trans h.sockets, h'.interests.trans h.interests,
    downed_trans h.downed h'.downed, fun p hp hpeer => ?_, fun p d' sock hp hd' hpeer hsock => ?_,
    fun e => (h'.shape e).trans (h.shape e), fun e => ?_⟩
  · rcases h.frame with ⟨_, _, rfl⟩
    rcases h'.frame with ⟨sockets, interests, rfl⟩
    exact ⟨sockets, interests, rfl⟩
  · rw [h'.spared p hp fun d' hd' => ?_, h.spared p (h'.isOpen hp).1 fun d' hd' => ?_]
    · rw [List.mem_singleton.mp hd']
      exact hpeer d List.mem_cons_self
    · rw [h.downed.peer]
      exact hpeer d' (List.mem_cons_of_mem d hd')
  · have hup := (h'.isOpen hp).1
    rcases List.mem_cons.mp hd' with rfl | hd'
    · -- It is told now, and its peer is not closed a second time.
      rw [h'.spared p hp fun d' hd'' hpeer' => ?_,
        h.told p d' sock hup List.mem_cons_self hpeer hsock]
      rw [h.downed.peer, hpeer] at hpeer'
      exact hapart d' hd'' (Option.some.inj hpeer').symm
    · -- Its peer has not changed when it is told.
      have hsock' : k'.socket? d'.1 = some sock := by
        rw [h.spared d'.1, hsock]
        · rw [h.downed.isOpen, hopen d' hd', Bool.true_and, decide_eq_true_eq, List.map_singleton,
            List.mem_singleton]
          exact hapart d' hd'
        · intro d'' hd'' hpeer'
          rw [List.mem_singleton.mp hd'', hpaired p d'.1 hpeer] at hpeer'
          exact (h.isOpen hup).2 (Option.some.inj hpeer' ▸ List.mem_singleton_self d.1)
      rw [h'.told p d' sock hp hd' ((h.downed.peer p).trans hpeer) hsock', h.spared p hup]
      intro d'' hd'' hpeer'
      rw [List.mem_singleton.mp hd'', hpeer] at hpeer'
      exact hapart d' hd' (Option.some.inj hpeer')
  · refine (h'.targets e).trans (((h.targets e).filter _).trans ?_)
    rw [List.filter_filter]
    simp only [List.mem_cons, List.not_mem_nil, or_false, forall_eq, forall_eq_or_imp,
      Bool.decide_and, Bool.and_comm]
    exact List.Perm.refl _

/-- The peer of a closing socket after it was told, before anybody takes notice. -/
def tell (k : Kernel) (sock : Socket) (abandoned : Bool) : Kernel :=
  match sock.peer with
  | some p => k.updateSocket p (cutOff sock abandoned)
  | none => k

theorem tell_frame (k : Kernel) (sock : Socket) (abandoned : Bool) :
    ∃ sockets, k.tell sock abandoned = { k with sockets } ∧ sockets.size = k.sockets.size := by
  unfold tell
  rcases sock.peer with _ | p
  · exact ⟨k.sockets, rfl, rfl⟩
  · exact ⟨_, rfl, Table.size_update _ _ _⟩

theorem socket?_tell (k : Kernel) (sock : Socket) (abandoned : Bool) (p : SocketKey) :
    (k.tell sock abandoned).socket? p =
      if sock.peer = some p then (k.socket? p).map (cutOff sock abandoned) else k.socket? p := by
  unfold tell
  rcases sock.peer with _ | p'
  · rw [if_neg (by simp only [reduceCtorEq, not_false_eq_true])]
  · rw [socket?_updateSocket]
    -- Only the peer is told.
    by_cases hp : p = p'
    · rw [if_pos hp, if_pos (congrArg some hp.symm), hp]
    · rw [if_neg hp, if_neg fun h => hp (Option.some.inj h).symm]

/-- The three parts of taking down an open socket: the peer is told, those who
    watch the peer take notice, and the socket goes. -/
theorem closeOne_eq {sock : Socket} (hq : k.socket? q = some sock) (hsock : sock.isOpen = true)
    (abandoned : Bool) : ∃ v, Reordered (k.tell sock abandoned) v ∧
      closeOne abandoned k q = (v.updateSocket q fun x =>
        { x with isOpen := false, inbox := [], backlog := none }).forget (.socket q) := by
  simp only [closeOne, hq, hsock, Bool.not_true, Bool.false_eq_true, if_false, tell]
  rcases sock.peer with _ | p
  · exact ⟨k, reordered_refl k, rfl⟩
  · exact ⟨_, reordered_wake _ (.socket p), rfl⟩

/-- Taking one socket down. -/
theorem razed_closeOne (abandoned : Bool) (hopen : k.isOpen q = true)
    (hpaired : ∀ p q, k.peer? p = some q → k.peer? q = some p) :
    Razed [(q, abandoned)] k (closeOne abandoned k q) := by
  have hdowned := downed_closeOne abandoned k q
  rcases hq : k.socket? q with _ | sock
  · rw [Kernel.isOpen, hq] at hopen
    exact absurd hopen Bool.false_ne_true
  · have hsock : sock.isOpen = true := by
      rw [Kernel.isOpen, hq] at hopen
      exact hopen
    have hpeer : k.peer? q = sock.peer := by rw [peer?, hq, Option.bind_some]
    rcases closeOne_eq hq hsock abandoned with ⟨v, hv, heq⟩
    rcases tell_frame k sock abandoned with ⟨sockets, htell, hsize⟩
    rcases hv.frame with ⟨interests, hframe⟩
    -- What anybody else finds when it looks.
    have hsocket : ∀ p, p ≠ q → (closeOne abandoned k q).socket? p =
        if k.peer? q = some p then (k.socket? p).map (cutOff sock abandoned)
        else k.socket? p := by
      intro p hp
      have hlook : (closeOne abandoned k q).socket? p = (k.tell sock abandoned).socket? p := by
        rw [heq, hframe]
        exact (socket?_updateSocket _ q _ p).trans (if_neg hp)
      rw [hlook, socket?_tell, hpeer]
    have hother : ∀ p, (closeOne abandoned k q).isOpen p = true → p ≠ q := by
      rintro p hp rfl
      rw [hdowned.isOpen, decide_eq_false (not_not.mpr (List.mem_singleton_self p)),
        Bool.and_false] at hp
      exact Bool.false_ne_true hp
    refine ⟨?_, ?_, ?_, hdowned, fun p hp hnone => ?_, fun p d sock' hp hd hp' hsock' => ?_,
      fun e => ?_, fun e => ?_⟩
    · rw [heq, hframe, htell]
      exact ⟨_, _, rfl⟩
    · rw [heq, hframe, htell]
      exact (Table.size_update _ _ _).trans hsize
    · rw [heq, size_forget]
      refine hv.size.trans ?_
      rw [htell]
    · rw [hsocket p (hother p hp), if_neg]
      exact fun h => hnone (q, abandoned) List.mem_cons_self (hpaired q p h)
    · rw [List.mem_singleton.mp hd] at hp' hsock' ⊢
      rw [hsocket p (hother p hp), if_pos (hpaired p q hp'), Option.some.inj (hq.symm.trans hsock')]
    · rw [heq, shape?_forget]
      refine (hv.shape e).trans ?_
      rw [htell]
      rfl
    · -- Telling the peer is nothing that interest sets see.
      have htargets : (v.targets e).Perm (k.targets e) := by
        have hperm := hv.targets e
        rw [htell] at hperm
        exact hperm
      rw [heq, targets_forget]
      refine (htargets.filter _).trans (List.Perm.of_eq (List.filter_congr fun t _ => ?_))
      rw [Bool.eq_iff_iff, decide_eq_true_eq, bne_iff_ne]
      simp only [List.mem_singleton, forall_eq]

/-- Taking several sockets down, one after the other. -/
theorem razed_foldl (hpaired : ∀ p q, k.peer? p = some q → k.peer? q = some p)
    (hopen : ∀ d ∈ D, k.isOpen d.1 = true) (honce : (D.map Prod.fst).Nodup) :
    Razed D k (D.foldl (fun k d => closeOne d.2 k d.1) k) := by
  -- On those that go down; the others stay open, and pairs stay pairs.
  induction D generalizing k with
  | nil => exact razed_nil k
  | cons d D ih =>
      rw [List.map_cons, List.nodup_cons] at honce
      have hfirst := razed_closeOne d.2 (hopen d List.mem_cons_self) hpaired
      have hrest : ∀ d' ∈ D, k.isOpen d'.1 = true := fun d' hd' =>
        hopen d' (List.mem_cons_of_mem d hd')
      refine razed_cons hpaired hrest honce.1 hfirst
        (ih (fun p q hp => ?_) (fun d' hd' => ?_) honce.2)
      · rw [hfirst.downed.peer] at hp ⊢
        exact hpaired p q hp
      · rw [hfirst.downed.isOpen, hrest d' hd', Bool.true_and, decide_eq_true_eq,
          List.map_singleton, List.mem_singleton]
        exact fun heq => honce.1 (heq ▸ List.mem_map_of_mem hd')

/-! ### Closing -/

/-- What closing a socket takes down: all that waits there, which is abandoned,
    and the socket. -/
def casualties (k : Kernel) (q : SocketKey) : List (SocketKey × Bool) :=
  (if k.isOpen q then (k.backlog? q).getD [] else []).map (·, true) ++ [(q, false)]

theorem map_fst_casualties (k : Kernel) (q : SocketKey) :
    (k.casualties q).map Prod.fst = k.takenDown q := by
  rw [casualties, takenDown, List.map_append, List.map_map]
  exact congrArg (· ++ [q]) (List.map_id _)

theorem close_eq_foldl (k : Kernel) (q : SocketKey) :
    k.close q = (k.casualties q).foldl (fun k d => closeOne d.2 k d.1) k := by
  have hwaiting : k.close q = closeOne false
      ((if k.isOpen q then (k.backlog? q).getD [] else []).foldl (closeOne true) k) q := by
    unfold close Kernel.isOpen backlog?
    rcases k.socket? q with _ | sock
    · rfl
    · rfl
  rw [hwaiting, casualties, List.foldl_append, List.foldl_map]
  rfl

/-- Sockets that may be closed together: each is open, none waits anywhere. -/
structure Closable (k : Kernel) (qs : List SocketKey) : Prop where
  wired : k.Wired
  once : qs.Nodup
  isOpen : ∀ q ∈ qs, k.isOpen q = true
  free : ∀ q ∈ qs, ∀ l w, k.backlog? l = some w → q ∉ w

variable {qs : List SocketKey}

theorem mem_takenDown {p : SocketKey} :
    p ∈ k.takenDown q ↔ (∃ w, k.isOpen q = true ∧ k.backlog? q = some w ∧ p ∈ w) ∨ p = q := by
  rw [takenDown, List.mem_append, List.mem_singleton]
  refine or_congr_left ⟨fun hp => ?_, ?_⟩
  · -- Those that wait go down with an open listener only.
    by_cases hopen : k.isOpen q = true
    · rw [if_pos hopen] at hp
      rcases hw : k.backlog? q with _ | w
      · rw [hw] at hp
        exact absurd hp List.not_mem_nil
      · rw [hw] at hp
        exact ⟨w, hopen, rfl, hp⟩
    · rw [if_neg hopen] at hp
      exact absurd hp List.not_mem_nil
  · rintro ⟨w, hopen, hw, hp⟩
    rw [if_pos hopen, hw]
    exact hp

/-- What is closed with one of them is closed with no other. -/
theorem Closable.nodup (h : k.Closable qs) : (qs.flatMap k.takenDown).Nodup := by
  -- None waits twice at one listener, and none at two of them.
  refine List.nodup_flatMap.mpr ⟨fun q hq => ?_,
    List.Pairwise.imp_of_mem (fun {p q} hp hq hpq => ?_)
    h.once⟩
  · refine List.nodup_append.mpr ⟨?_, List.nodup_singleton q, ?_⟩
    · split
      · rcases hw : k.backlog? q with _ | w
        · exact List.nodup_nil
        · exact (h.wired.waiting q w hw).1
      · exact List.nodup_nil
    · rintro a ha _ hb rfl
      rcases mem_takenDown.mp (List.mem_append_left [q] ha) with ⟨w, -, hw, hmem⟩ | -
      · exact h.free q hq q w hw (List.mem_singleton.mp hb ▸ hmem)
      · split at ha
        · rcases hw : k.backlog? q with _ | w
          · rw [hw] at ha
            exact List.not_mem_nil ha
          · rw [hw] at ha
            exact h.free q hq q w hw (List.mem_singleton.mp hb ▸ ha)
        · exact List.not_mem_nil ha
  · intro a ha hb
    rcases mem_takenDown.mp ha with ⟨w, -, hw, ha⟩ | rfl
    · rcases mem_takenDown.mp hb with ⟨w', -, hw', hb⟩ | rfl
      · exact hpq (h.wired.apart p q w w' a hw hw' ha hb)
      · exact h.free a hq p w hw ha
    · rcases mem_takenDown.mp hb with ⟨w', -, hw', hb⟩ | rfl
      · exact h.free a hp q w' hw' hb
      · exact hpq rfl

/-- After one of them was closed the others may still be closed, and take down
    what they would have taken down. -/
theorem Closable.tail (h : k.Closable (q :: qs)) :
    (k.close q).Closable qs ∧ ∀ p ∈ qs, (k.close q).casualties p = k.casualties p := by
  have hdown := downed_close k q
  -- What goes down with the first is none of the others.
  have hother : ∀ p ∈ qs, p ∉ k.takenDown q := by
    intro p hp hmem
    rcases mem_takenDown.mp hmem with ⟨w, -, hw, hmem⟩ | rfl
    · exact h.free p (List.mem_cons_of_mem q hp) q w hw hmem
    · exact (List.nodup_cons.mp h.once).1 hp
  have hopen : ∀ p ∈ qs, (k.close q).isOpen p = true := fun p hp => by
    rw [hdown.isOpen, h.isOpen p (List.mem_cons_of_mem q hp), Bool.true_and]
    exact decide_eq_true (hother p hp)
  refine ⟨⟨wired_close h.wired (h.free q List.mem_cons_self), (List.nodup_cons.mp h.once).2, hopen,
    fun p hp l w hw => ?_⟩, fun p hp => ?_⟩
  · rw [hdown.backlog] at hw
    split at hw
    · exact absurd hw (by simp only [reduceCtorEq, not_false_eq_true])
    · exact h.free p (List.mem_cons_of_mem q hp) l w hw
  · have hbacklog : (k.close q).backlog? p = k.backlog? p := by
      rw [hdown.backlog, if_neg fun hmem => hother p hp hmem.1]
    rw [casualties, casualties, hopen p hp, h.isOpen p (List.mem_cons_of_mem q hp), hbacklog]

theorem closes_eq_foldl (h : k.Closable qs) :
    qs.foldl close k = (qs.flatMap k.casualties).foldl (fun k d => closeOne d.2 k d.1) k := by
  induction qs generalizing k with
  | nil => rfl
  | cons q qs ih =>
      rcases h.tail with ⟨htail, hsame⟩
      have hflat : qs.flatMap (k.close q).casualties = qs.flatMap k.casualties :=
        List.flatMap_congr hsame
      rw [List.foldl_cons, ih htail, hflat, List.flatMap_cons, List.foldl_append, ← close_eq_foldl]

/-- Closing sockets takes down what each of them takes down. -/
theorem razed_closes (h : k.Closable qs) :
    Razed (qs.flatMap k.casualties) k (qs.foldl close k) := by
  have hfst : (qs.flatMap k.casualties).map Prod.fst = qs.flatMap k.takenDown := by
    rw [List.map_flatMap]
    exact List.flatMap_congr fun q _ => map_fst_casualties k q
  rw [closes_eq_foldl h]
  refine razed_foldl h.wired.paired (fun d hd => ?_) (hfst ▸ h.nodup)
  have hmem : d.1 ∈ qs.flatMap k.takenDown := hfst ▸ List.mem_map_of_mem hd
  rcases List.mem_flatMap.mp hmem with ⟨q, hq, hd⟩
  rcases mem_takenDown.mp hd with ⟨w, -, hw, hd⟩ | heq
  · exact (h.wired.waiting q w hw).2 d.1 hd
  · exact heq ▸ h.isOpen q hq

/-! ### Any order -/

/-- The same files are open, those that are sockets with the same contents, and
    interest sets watch the same, whatever the order of the turns. -/
structure Same (k k' : Kernel) : Prop where
  frame : ∃ sockets interests, k' = { k with sockets, interests }
  sockets : k'.sockets.size = k.sockets.size
  interests : k'.interests.size = k.interests.size
  isOpen : ∀ q, k'.isOpen q = k.isOpen q
  socket : ∀ q, k.isOpen q = true → k'.socket? q = k.socket? q
  shape : ∀ e, k'.shape? e = k.shape? e
  targets : ∀ e, (k'.targets e).Perm (k.targets e)

/-- What is left does not depend on the order in which sockets were taken
    down. -/
theorem Razed.same (h : Razed D k k') (h' : Razed D' k k'')
    (hpaired : ∀ p q, k.peer? p = some q → k.peer? q = some p)
    (hmem : ∀ d, d ∈ D ↔ d ∈ D') : Same k' k'' := by
  have hopen : ∀ q, k''.isOpen q = k'.isOpen q := by
    intro q
    rw [h.downed.isOpen, h'.downed.isOpen]
    simp only [List.mem_map, hmem]
  refine ⟨?_, h'.sockets.trans h.sockets.symm, h'.interests.trans h.interests.symm, hopen,
    fun p hp => ?_, fun e => (h'.shape e).trans (h.shape e).symm, fun e => ?_⟩
  · rcases h.frame with ⟨_, _, rfl⟩
    rcases h'.frame with ⟨sockets, interests, rfl⟩
    exact ⟨sockets, interests, rfl⟩
  · by_cases hpeer : ∀ d ∈ D, k.peer? p ≠ some d.1
    · rw [h.spared p hp hpeer, h'.spared p ((hopen p).trans hp) fun d hd =>
        hpeer d ((hmem d).mpr hd)]
    · simp only [not_forall, not_not] at hpeer
      rcases hpeer with ⟨d, hd, hpeer⟩
      -- A peer that is known to point back exists.
      rcases hsock : k.socket? d.1 with _ | sock
      · have hback := hpaired p d.1 hpeer
        rw [peer?, hsock] at hback
        exact absurd hback (by simp only [Option.bind_none, reduceCtorEq, not_false_eq_true])
      · rw [h.told p d sock hp hd hpeer hsock, h'.told p d sock ((hopen p).trans hp)
          ((hmem d).mp hd) hpeer hsock]
  · refine (h'.targets e).trans (List.Perm.trans (List.Perm.of_eq ?_) (h.targets e).symm)
    simp only [hmem]

/-- Closing sockets in another order leaves the same. -/
theorem same_closes {qs' : List SocketKey} (h : k.Closable qs) (hperm : qs'.Perm qs) :
    Same (qs.foldl close k) (qs'.foldl close k) := by
  have h' : k.Closable qs' := ⟨h.wired, hperm.nodup_iff.mpr h.once,
    fun q hq => h.isOpen q (hperm.mem_iff.mp hq), fun q hq => h.free q (hperm.mem_iff.mp hq)⟩
  refine (razed_closes h).same (razed_closes h') h.wired.paired fun d => ?_
  simp only [List.mem_flatMap, hperm.mem_iff]

end Kernel

end ReadNotify
