import ReadNotify.Proofs.Readiness.Controls
import ReadNotify.Proofs.Streams.Watching

/-!
# An Interest Set in Line with a Window

What the backend remembers and what is in its interest set drift apart, since a
closed file leaves the set and nobody tells the backend. Two things stay true.
Nothing is watched under a number that the backend does not remember, and if it
remembers a number for a connection that is still open, that connection's socket
is watched. Memory of a closed connection says nothing, and does no harm: it can
only lead to the wrong one of two controls, and the other is tried then.

After the set was brought in line with a window every open member is watched,
and nothing is watched but under the numbers of members. So there are no more
entries than members, a window that fits the backend fits the call to wait, and
what is reported is what is ready.

## Main definitions

* `Epoll.InStep`: What the backend remembers agrees with its interest set.
* `Epoll.Armed`: What arming a number ends with.

## Theorems

* `Epoll.armed_arm`: Either control will do, if the other is tried after it.
* `Epoll.inStep_sync`: It does so after any window.
* `Epoll.mem_wait`: What a call to wait reports.
* `Epoll.check_eq`, `PollSet.ready_eq`: The ready members of a window.
* `Epoll.mem_check`, `PollSet.mem_ready`: One member, whatever the others are.
-/

namespace ReadNotify

namespace Epoll

variable {sock : ConnId → Option SocketKey} {x : Epoll} {k k' : Kernel} {fd : Nat} {id : ConnId}
  {window : List ConnId}

/-- What the backend remembers agrees with its interest set, given the sockets of
    the connections that are open. -/
structure InStep (sock : ConnId → Option SocketKey) (x : Epoll) (k : Kernel) : Prop where
  tidy : k.Tidy
  exists_set : (k.shape? x.set).isSome = true
  numbered : ∀ id q, sock id = some q → k.Holds id.raw (.socket q)
  loopless : ∀ t ∈ k.targets x.set, t.2 ≠ .interests x.set
  covered : ∀ t ∈ k.targets x.set, t.1 ∈ x.watched.map Prod.fst
  armed : ∀ y ∈ x.watched, y.1 = y.2.raw ∧
    ∀ q, sock y.2 = some q → (y.1, .socket q) ∈ k.targets x.set

/-- What a number denotes is what is watched under it. -/
theorem InStep.file_eq (h : InStep sock x k) {t : Nat × OpenFile} {f : OpenFile}
    (ht : t ∈ k.targets x.set) (hat : k.at? t.1 = some f) : t.2 = f :=
  h.tidy.unique t.1 t.2 f (h.tidy.held x.set t ht) (Kernel.holds_of_at? hat)

theorem mem_of_watches? (h : x.watches? fd = some id) : (fd, id) ∈ x.watched := by
  rcases Option.map_eq_some_iff.mp h with ⟨y, hy, hid⟩
  have hfd : y.1 = fd := by simpa using List.find?_some hy
  rw [← hfd, ← hid]
  exact List.mem_of_find?_eq_some hy

theorem not_covered (h : InStep sock x k) (hnone : (x.watches? fd).isSome = false) :
    ∀ t ∈ k.targets x.set, t.1 ≠ fd := by
  intro t ht hfd
  rcases List.mem_map.mp (h.covered t ht) with ⟨y, hy, hfst⟩
  rw [watches?, Option.isSome_map, ← Bool.not_eq_true, List.find?_isSome] at hnone
  exact hnone ⟨y, hy, beq_iff_eq.mpr (hfst.trans hfd)⟩

/-- Forgetting a number forgets no other. -/
theorem covered_unwatch {n : Nat} (h : n ∈ x.watched.map Prod.fst) (hne : n ≠ fd) :
    n ∈ (x.unwatch fd).watched.map Prod.fst := by
  rcases List.mem_map.mp h with ⟨y, hy, hfst⟩
  exact List.mem_map.mpr ⟨y, List.mem_filter.mpr ⟨hy, bne_iff_ne.mpr (hfst ▸ hne)⟩, hfst⟩

/-! ### Numbers that left the window -/

/-- A number under which nothing is watched may be forgotten. -/
theorem inStep_unwatch (h : InStep sock x k) (hnone : ∀ t ∈ k.targets x.set, t.1 ≠ fd) :
    InStep sock (x.unwatch fd) k :=
  ⟨h.tidy, h.exists_set, h.numbered, h.loopless,
    fun t ht => covered_unwatch (h.covered t ht) (hnone t ht),
    fun y hy => h.armed y (List.mem_of_mem_filter hy)⟩

/-- A number is forgotten and deleted. -/
theorem inStep_drop (h : InStep sock x k) (fd : Nat) :
    InStep sock (x.unwatch fd) (k.control x.set .delete fd).1 ∧
      (∀ t ∈ (k.control x.set .delete fd).1.targets x.set, t ∈ k.targets x.set ∧ t.1 ≠ fd) ∧
      ∀ n f, (k.control x.set .delete fd).1.Holds n f ↔ k.Holds n f := by
  have hdelete := Kernel.rewritten_delete h.tidy h.loopless fd
  -- Everything under that number goes, and nothing else does.
  have hmem : ∀ t, t ∈ (k.control x.set .delete fd).1.targets x.set ↔
      t ∈ k.targets x.set ∧ t.1 ≠ fd := by
    intro t
    rw [hdelete.self.mem_iff, List.mem_filter, bne_iff_ne]
  have htidy := hdelete.tidy h.tidy ((h.tidy.once x.set).filter _) fun t ht =>
    h.tidy.sound t (List.mem_of_mem_filter ht)
  refine ⟨⟨htidy, ?_, ?_, ?_, ?_, ?_⟩, fun t ht => (hmem t).mp ht,
    fun n f => hdelete.holds_iff⟩
  · rw [show (x.unwatch fd).set = x.set from rfl, hdelete.shape]
    exact h.exists_set
  · intro id q hq
    exact hdelete.holds_iff.mpr (h.numbered id q hq)
  · intro t ht
    exact h.loopless t ((hmem t).mp ht).1
  · intro t ht
    rcases (hmem t).mp ht with ⟨hold, hne⟩
    exact covered_unwatch (h.covered t hold) hne
  · intro y hy
    rcases List.mem_filter.mp hy with ⟨hy, hne⟩
    refine ⟨(h.armed y hy).1, fun q hq => (hmem _).mpr ⟨(h.armed y hy).2 q hq, ?_⟩⟩
    exact bne_iff_ne.mp hne

theorem inStep_dropAll (fds : List Nat) (h : InStep sock x k) :
    InStep sock (dropAll fds x k).1 (dropAll fds x k).2.1 ∧
      (∀ t ∈ (dropAll fds x k).2.1.targets x.set, t ∈ k.targets x.set ∧ t.1 ∉ fds) ∧
      ∀ n f, (dropAll fds x k).2.1.Holds n f ↔ k.Holds n f := by
  -- On the numbers. What one drop has taken out stays out.
  induction fds generalizing x k with
  | nil => exact ⟨h, fun t ht => ⟨ht, List.not_mem_nil⟩, fun _ _ => Iff.rfl⟩
  | cons fd rest ih =>
      rcases inStep_drop h fd with ⟨hdrop, hgone, hfirst⟩
      rcases ih hdrop with ⟨hstep, htargets, hrest⟩
      refine ⟨hstep, fun t ht => ?_, fun n f => (hrest n f).trans (hfirst n f)⟩
      rcases htargets t ht with ⟨hold, hrest⟩
      rcases hgone t hold with ⟨hfirst, hne⟩
      exact ⟨hfirst, by simp [hne, hrest]⟩

/-- A number that is remembered and not stale is that of a member. -/
theorem member_of_not_stale {n : Nat} (hmem : n ∈ x.watched.map Prod.fst)
    (hkept : n ∉ x.stale window) : ∃ id ∈ window, id.raw = n := by
  by_contra hnone
  refine hkept (List.mem_filter.mpr ⟨hmem, ?_⟩)
  rw [Bool.not_eq_true', List.any_eq_false]
  intro id hid hraw
  exact hnone ⟨id, hid, beq_iff_eq.mp hraw⟩

theorem inStep_dropStale (h : InStep sock x k) (window : List ConnId) :
    InStep sock (dropAll (x.stale window) x k).1 (dropAll (x.stale window) x k).2.1 ∧
      (∀ t ∈ (dropAll (x.stale window) x k).2.1.targets x.set, ∃ id ∈ window, id.raw = t.1) ∧
      ∀ n f, (dropAll (x.stale window) x k).2.1.Holds n f ↔ k.Holds n f := by
  rcases inStep_dropAll (x.stale window) h with ⟨hstep, htargets, hholds⟩
  refine ⟨hstep, fun t ht => ?_, hholds⟩
  -- What is watched still is remembered, and was not to be forgotten.
  rcases htargets t ht with ⟨hold, hkept⟩
  exact member_of_not_stale (h.covered t hold) hkept

/-! ### Members of the window -/

/-- What arming a number ends with. The file of the number is watched besides
    what was, or nothing is watched under the number and the kernel refuses to,
    for a reason that does not make the other control be tried. -/
def Armed (x : Epoll) (k : Kernel) (fd : Nat) (r : Kernel × Except Int Unit) : Prop :=
  (∃ f l, k.at? fd = some f ∧ k.pollable f = true ∧ f ≠ .interests x.set ∧ r.2 = .ok () ∧
    Kernel.Rewritten x.set l k r.1 ∧ (∀ t, t ∈ l ↔ t ∈ k.targets x.set ∨ t = (fd, f)) ∧ l.Nodup) ∨
  ∃ code, r = (k, .error code) ∧ code ≠ IoError.noEntry ∧ code ≠ IoError.entryExists ∧
    (∀ t ∈ k.targets x.set, t.1 ≠ fd) ∧ ∀ q, k.at? fd ≠ some (.socket q)

/-- The first control decides where it succeeds or fails for good. -/
theorem Armed.arm_eq {known : Bool}
    (h : Armed x k fd (k.control x.set (if known then .modify else .add) fd)) :
    x.arm k fd known = k.control x.set (if known then .modify else .add) fd := by
  rcases h with ⟨f, l, -, -, -, hok, -⟩ | ⟨code, hcode, hentry, hexists, -⟩
  · rcases hresult : k.control x.set (if known then .modify else .add) fd with ⟨k', code | _⟩
    · rw [hresult] at hok
      simp at hok
    · cases known with
      | false => simp_all [arm]
      | true => simp_all [arm]
  · cases known with
    | false => simp_all [arm]
    | true => simp_all [arm]

/-- A number that nobody uses is refused by any control. -/
theorem armed_of_none (h : InStep sock x k) (hat : k.at? fd = none) (op : InterestControl) :
    Armed x k fd (k.control x.set op fd) := by
  refine Or.inr ⟨_, Kernel.control_of_none hat op, by decide, by decide, ?_, by simp [hat]⟩
  intro t ht hfd
  exact Kernel.at?_eq_none_iff.mp hat t.2 (hfd ▸ h.tidy.held x.set t ht)

/-- So is the number of the set itself. -/
theorem armed_of_self (h : InStep sock x k) (hat : k.at? fd = some (.interests x.set))
    (op : InterestControl) : Armed x k fd (k.control x.set op fd) := by
  refine Or.inr ⟨_, Kernel.control_of_self hat op, by decide, by decide, ?_, by simp [hat]⟩
  intro t ht hfd
  exact h.loopless t ht (h.file_eq ht (hfd ▸ hat))

/-- And the number of a file that cannot be watched. -/
theorem armed_of_unpollable (h : InStep sock x k) {f : OpenFile} (hat : k.at? fd = some f)
    (hf : k.pollable f = false) (op : InterestControl) :
    Armed x k fd (k.control x.set op fd) := by
  refine Or.inr ⟨_, Kernel.control_of_unpollable hat hf op, by decide, by decide, ?_, ?_⟩
  · intro t ht hfd
    have hwatch := h.tidy.pollable x.set t ht
    rw [h.file_eq ht (hfd ▸ hat), hf] at hwatch
    exact Bool.false_ne_true hwatch
  · rintro q hq
    rw [Option.some.inj (hat.symm.trans hq)] at hf
    exact Bool.false_ne_true hf.symm

/-- Adding is right where nothing is watched. -/
theorem armed_add (h : InStep sock x k) (hnone : ∀ t ∈ k.targets x.set, t.1 ≠ fd) :
    Armed x k fd (k.control x.set .add fd) := by
  rcases hat : k.at? fd with _ | f
  · exact armed_of_none h hat .add
  · cases hwatch : k.pollable f with
    | false => exact armed_of_unpollable h hat hwatch .add
    | true =>
        by_cases hf : f = .interests x.set
        · exact armed_of_self h (hf ▸ hat) .add
        · rcases Kernel.add_cases hat hwatch hf with
            ⟨hmem, -⟩ | ⟨-, hcontains, heq⟩ | ⟨hnot, hadd, -, hok⟩
          · exact absurd rfl (hnone _ hmem)
          · -- A socket contains no set.
            refine Or.inr ⟨_, heq, by decide, by decide, hnone, ?_⟩
            rintro q hq
            rw [Option.some.inj (hat.symm.trans hq), Kernel.contains] at hcontains
            cases hsize : k.interests.size with
            | zero => simp [hsize, Kernel.containsWithin] at hcontains
            | succ n => simp [hsize, Kernel.containsWithin] at hcontains
          · exact Or.inl ⟨f, _, hat, hwatch, hf, hok, hadd h.exists_set, by simp,
              h.tidy.nodup_concat hnot⟩

/-- Changing is right where something is watched, and reports if nothing is. -/
theorem armed_modify (h : InStep sock x k) (fd : Nat) :
    Armed x k fd (k.control x.set .modify fd) ∨
      k.control x.set .modify fd = (k, .error IoError.noEntry) ∧
        ∀ t ∈ k.targets x.set, t.1 ≠ fd := by
  rcases hat : k.at? fd with _ | f
  · exact Or.inl (armed_of_none h hat .modify)
  · cases hwatch : k.pollable f with
    | false => exact Or.inl (armed_of_unpollable h hat hwatch .modify)
    | true =>
        -- The set itself is refused, and any other file is changed or found missing.
        by_cases hf : f = .interests x.set
        · exact Or.inl (armed_of_self h (hf ▸ hat) .modify)
        · rcases Kernel.modify_cases hat hwatch hf with ⟨hmem, hmodify, hok⟩ | ⟨hnot, hmodify⟩
          · refine Or.inl (Or.inl ⟨f, _, hat, hwatch, hf, hok, hmodify.rewritten, fun t => ?_,
              h.tidy.once x.set⟩)
            exact ⟨Or.inl, fun ht => ht.elim id fun heq => heq ▸ hmem⟩
          · refine Or.inr ⟨hmodify, fun t ht hfd => hnot ?_⟩
            have hfile : t.2 = f := h.file_eq ht (hfd ▸ hat)
            rw [← hfile, ← hfd]
            exact ht

/-- Whichever control is tried first, the other makes up for it. -/
theorem armed_arm (h : InStep sock x k) {known : Bool}
    (hknown : known = false → ∀ t ∈ k.targets x.set, t.1 ≠ fd) :
    Armed x k fd (x.arm k fd known) := by
  cases known with
  | false =>
      have hadd := armed_add h (hknown rfl)
      rw [Armed.arm_eq hadd]
      exact hadd
  | true =>
      rcases armed_modify h fd with hmodify | ⟨hmissing, hnone⟩
      · rw [Armed.arm_eq hmodify]
        exact hmodify
      · -- The kernel has dropped the entry, so it is added.
        have harm : x.arm k fd true = k.control x.set .add fd := by
          simp [arm, hmissing]
        rw [harm]
        exact armed_add h hnone

/-- A number whose file is watched now is remembered for a connection. -/
theorem inStep_watch (h : InStep sock x k) {f : OpenFile} {l : List (Nat × OpenFile)}
    (hat : k.at? id.raw = some f) (hwatch : k.pollable f = true) (hf : f ≠ .interests x.set)
    (hl : Kernel.Rewritten x.set l k k')
    (hmem : ∀ t, t ∈ l ↔ t ∈ k.targets x.set ∨ t = (id.raw, f)) (hnodup : l.Nodup) :
    InStep sock (x.watch id.raw id) k' := by
  have htarget : ∀ t, t ∈ k'.targets x.set ↔ t ∈ k.targets x.set ∨ t = (id.raw, f) :=
    fun t => hl.self.mem_iff.trans (hmem t)
  refine ⟨?_, ?_, ?_, ?_, ?_, ?_⟩
  · refine hl.tidy h.tidy hnodup fun t ht => ?_
    rcases (hmem t).mp ht with hold | rfl
    · exact h.tidy.sound t hold
    · exact ⟨Kernel.holds_of_at? hat, hwatch⟩
  · exact (congrArg Option.isSome (hl.shape x.set)).trans h.exists_set
  · intro i q hq
    exact hl.holds_iff.mpr (h.numbered i q hq)
  · intro t ht
    rcases (htarget t).mp ht with hold | rfl
    · exact h.loopless t hold
    · exact hf
  · -- What is watched under another number was remembered before.
    intro t ht
    rw [watch, List.map_append, List.mem_append]
    by_cases hfd : t.1 = id.raw
    · exact Or.inr (List.mem_singleton.mpr hfd)
    · rcases (htarget t).mp ht with hold | rfl
      · exact Or.inl (covered_unwatch (h.covered t hold) hfd)
      · exact absurd rfl hfd
  · intro y hy
    rcases List.mem_append.mp hy with hold | hnew
    · rcases h.armed y (List.mem_of_mem_filter hold) with ⟨hraw, hsock⟩
      exact ⟨hraw, fun q hq => (htarget _).mpr (Or.inl (hsock q hq))⟩
    · rw [List.mem_singleton.mp hnew]
      refine ⟨rfl, fun q hq => (htarget _).mpr (Or.inr ?_)⟩
      rw [h.tidy.unique id.raw f _ (Kernel.holds_of_at? hat) (h.numbered id q hq)]

/-- A member is watched after its turn if it is open. -/
theorem inStep_armMember (h : InStep sock x k) (id : ConnId) :
    InStep sock (x.armMember k id).1 (x.armMember k id).2.1 ∧
      (∀ t ∈ k.targets x.set, t ∈ (x.armMember k id).2.1.targets x.set) ∧
      (∀ t ∈ (x.armMember k id).2.1.targets x.set, t ∈ k.targets x.set ∨ t.1 = id.raw) ∧
      (∀ q, sock id = some q → (id.raw, .socket q) ∈ (x.armMember k id).2.1.targets x.set) ∧
      ∀ n f, (x.armMember k id).2.1.Holds n f ↔ k.Holds n f := by
  unfold armMember
  by_cases hwatched : x.watches? id.raw = some id
  · -- If the member is remembered nothing is done, and nothing is to be done.
    rw [if_pos hwatched]
    exact ⟨h, fun t ht => ht, fun t ht => Or.inl ht,
      fun q hq => (h.armed _ (mem_of_watches? hwatched)).2 q hq, fun _ _ => Iff.rfl⟩
  · rw [if_neg hwatched]
    rcases armed_arm h (not_covered h) with ⟨f, l, hat, hwatch, hf, hok, hl, hmem, hnodup⟩ |
      ⟨code, heq, -, -, hnone, hsocket⟩
    · rcases hresult : x.arm k id.raw (x.watches? id.raw).isSome with ⟨k', code | _⟩
      · rw [hresult] at hok
        simp at hok
      · rw [hresult] at hl
        have htarget : ∀ t, t ∈ k'.targets x.set ↔ t ∈ k.targets x.set ∨ t = (id.raw, f) :=
          fun t => hl.self.mem_iff.trans (hmem t)
        refine ⟨inStep_watch h hat hwatch hf hl hmem hnodup,
          fun t ht => (htarget t).mpr (Or.inl ht), ?_, ?_, fun n g => hl.holds_iff⟩
        · intro t ht
          exact ((htarget t).mp ht).imp_right fun heq => congrArg Prod.fst heq
        · intro q hq
          refine (htarget _).mpr (Or.inr ?_)
          rw [h.tidy.unique id.raw f _ (Kernel.holds_of_at? hat) (h.numbered id q hq)]
    · -- Only a connection that is not open is refused.
      rw [heq]
      refine ⟨inStep_unwatch h hnone, fun t ht => ht, fun t ht => Or.inl ht, fun q hq => ?_,
        fun _ _ => Iff.rfl⟩
      exact absurd (h.tidy.at?_eq_some_iff.mpr (h.numbered id q hq)) (hsocket q)

/-- Arming all members keeps the set in step and has every socket of the window watched.
    -/
theorem inStep_armAll (h : InStep sock x k) (window : List ConnId) :
    InStep sock (armAll window x k).1 (armAll window x k).2.1 ∧
      (∀ t ∈ k.targets x.set, t ∈ (armAll window x k).2.1.targets x.set) ∧
      (∀ t ∈ (armAll window x k).2.1.targets x.set,
        t ∈ k.targets x.set ∨ ∃ id ∈ window, id.raw = t.1) ∧
      (∀ id ∈ window, ∀ q, sock id = some q →
        (id.raw, .socket q) ∈ (armAll window x k).2.1.targets x.set) ∧
      ∀ n f, (armAll window x k).2.1.Holds n f ↔ k.Holds n f := by
  -- On the members. What is armed for one stays watched while the others are armed.
  induction window generalizing x k with
  | nil =>
      exact ⟨h, fun t ht => ht, fun t ht => Or.inl ht, fun id hid => absurd hid List.not_mem_nil,
        fun _ _ => Iff.rfl⟩
  | cons id rest ih =>
      rcases inStep_armMember h id with ⟨hstep, hkept, hnew, hself, hfirst⟩
      rcases ih hstep with ⟨hrest, hkeptRest, hnewRest, hmembers, hholds⟩
      have hset : (x.armMember k id).1.set = x.set := by
        rcases frame_armMember x k id with ⟨watched, hframe⟩
        rw [hframe]
      rw [hset] at hkeptRest hnewRest hmembers
      refine ⟨hrest, fun t ht => hkeptRest t (hkept t ht), fun t ht => ?_, fun i hi q hq => ?_,
        fun n f => (hholds n f).trans (hfirst n f)⟩
      · rcases hnewRest t ht with hold | ⟨i, hi, hraw⟩
        · exact (hnew t hold).imp_right fun hraw => ⟨id, List.mem_cons_self, hraw.symm⟩
        · exact Or.inr ⟨i, List.mem_cons_of_mem id hi, hraw⟩
      · rcases List.mem_cons.mp hi with rfl | hi
        · exact hkeptRest _ (hself q hq)
        · exact hmembers i hi q hq

/-- The set is in line with a window: its open members are watched, and nothing
    but under the numbers of members. -/
theorem inStep_sync (h : InStep sock x k) (window : List ConnId) :
    InStep sock (x.sync window k).1 (x.sync window k).2.1 ∧
      (∀ t ∈ (x.sync window k).2.1.targets x.set, ∃ id ∈ window, id.raw = t.1) ∧
      (∀ id ∈ window, ∀ q, sock id = some q →
        (id.raw, .socket q) ∈ (x.sync window k).2.1.targets x.set) ∧
      ∀ n f, (x.sync window k).2.1.Holds n f ↔ k.Holds n f := by
  rcases inStep_dropStale h window with ⟨hdrop, hleft, hfirst⟩
  rcases inStep_armAll hdrop window with ⟨harm, -, hnew, hmembers, hrest⟩
  have hset : (dropAll (x.stale window) x k).1.set = x.set := by
    rcases frame_dropAll (x.stale window) x k with ⟨watched, hframe⟩
    rw [hframe]
  rw [hset] at hnew hmembers
  exact ⟨harm, fun t ht => (hnew t ht).elim (hleft t) id, hmembers,
    fun n f => (hrest n f).trans (hfirst n f)⟩

theorem InStep.reorder (h : InStep sock x k) (hsame : Kernel.Reordered k k') :
    InStep sock x k' := by
  have hrewritten : Kernel.Rewritten x.set (k.targets x.set) k k' := hsame.rewritten
  -- The order of the turns says nothing about what is watched.
  have hmem : ∀ t, t ∈ k'.targets x.set ↔ t ∈ k.targets x.set := fun t =>
    (hsame.targets x.set).mem_iff
  refine ⟨hrewritten.tidy h.tidy (h.tidy.once x.set) h.tidy.sound, ?_, ?_, ?_, ?_, ?_⟩
  · rw [hsame.shape]
    exact h.exists_set
  · intro id q hq
    exact hrewritten.holds_iff.mpr (h.numbered id q hq)
  · intro t ht
    exact h.loopless t ((hmem t).mp ht)
  · intro t ht
    exact h.covered t ((hmem t).mp ht)
  · intro y hy
    exact ⟨(h.armed y hy).1, fun q hq => (hmem _).mpr ((h.armed y hy).2 q hq)⟩

/-! ### What is reported -/

end Epoll

namespace Kernel

variable {k : Kernel} {e : InterestKey}

theorem ready_socket (k : Kernel) (q : SocketKey) : k.ready (.socket q) = k.readable q := by
  rw [ready]
  cases k.interests.size with
  | zero => rfl
  | succ n => rfl

/-- Whoever has room for all entries gets those that are ready. -/
theorem serve_hits (ready : OpenFile → Bool) (room : Nat) (is : List Interest)
    (hroom : is.length ≤ room) :
    (Interest.serve ready room is).1 = is.filter fun i => ready i.file := by
  -- There is room for all, so none is left unreached.
  induction is generalizing room with
  | nil =>
      cases room with
      | zero => rfl
      | succ room => rfl
  | cons i rest ih =>
      rw [List.length_cons] at hroom
      obtain ⟨n, rfl⟩ : ∃ n, room = n + 1 := ⟨room - 1, by omega⟩
      unfold Interest.serve
      cases hready : ready i.file with
      | true =>
          rw [List.filter_cons, hready, ← ih n (by omega)]
          rfl
      | false =>
          rw [List.filter_cons, hready, ← ih (n + 1) (by omega)]
          rfl

/-- What a call to wait reports if it has room. -/
theorem mem_wait {room : Nat} (hroom : (k.targets e).length ≤ room) (fd : Nat) :
    fd ∈ (k.wait e room).2 ↔ ∃ f, (fd, f) ∈ k.targets e ∧ k.ready f = true := by
  have hhits := serve_hits k.ready room (k.entries e) (by simpa [targets] using hroom)
  -- Every entry that is ready is reported.
  have hwait : (k.wait e room).2 =
      ((k.entries e).filter fun i => k.ready i.file).map Interest.fd := by
    rw [← hhits]
    rfl
  rw [hwait, List.mem_map]
  constructor
  · rintro ⟨i, hi, rfl⟩
    rcases List.mem_filter.mp hi with ⟨hi, hready⟩
    exact ⟨i.file, List.mem_map.mpr ⟨i, hi, rfl⟩, hready⟩
  · rintro ⟨f, hf, hready⟩
    rcases List.mem_map.mp hf with ⟨i, hi, htarget⟩
    rcases Prod.mk.inj htarget with ⟨rfl, rfl⟩
    exact ⟨i, List.mem_filter.mpr ⟨hi, hready⟩, rfl⟩

/-- There are no more entries than numbers under which something is watched. -/
theorem Tidy.length_targets_le (h : k.Tidy) {ns : List Nat}
    (hns : ∀ t ∈ k.targets e, t.1 ∈ ns) : (k.targets e).length ≤ ns.length := by
  have hnodup : ((k.targets e).map Prod.fst).Nodup := by
    refine (h.once e).map_on ?_
    intro t ht u hu hfst
    exact Prod.ext hfst (h.unique t.1 t.2 u.2 (h.held e t ht) (hfst ▸ h.held e u hu))
  have hsub : (k.targets e).map Prod.fst ⊆ ns := by
    intro n hn
    rcases List.mem_map.mp hn with ⟨t, ht, rfl⟩
    exact hns t ht
  simpa using (hnodup.subperm hsub).length_le

end Kernel

variable {sock : ConnId → Option SocketKey} {x : Epoll} {k : Kernel} {window : List ConnId}

/-- A member of a window is settled: its connection is open, or nobody uses its
    number. -/
def Settled (sock : ConnId → Option SocketKey) (k : Kernel) (id : ConnId) : Prop :=
  (sock id).isSome = true ∨ k.at? id.raw = none

/-- The stateless backend reports an open member that can be read. -/
theorem PollSet.mem_ready (htidy : k.Tidy)
    (hnumbered : ∀ id q, sock id = some q → k.Holds id.raw (.socket q)) {id : ConnId}
    (hid : id ∈ window) {q : SocketKey} (hq : sock id = some q) (hreadable : k.readable q = true) :
    id ∈ ready k window := by
  refine List.mem_filter.mpr ⟨hid, ?_⟩
  rw [isReady, htidy.at?_eq_some_iff.mpr (hnumbered id q hq)]
  exact (Kernel.ready_socket k q).trans hreadable

/-- The stateless backend reports the open members that can be read. -/
theorem PollSet.ready_eq (htidy : k.Tidy)
    (hnumbered : ∀ id q, sock id = some q → k.Holds id.raw (.socket q))
    (hsettled : ∀ id ∈ window, Settled sock k id) :
    ready k window = window.filter fun id => (sock id).any k.readable := by
  refine List.filter_congr fun id hid => ?_
  rw [isReady]
  rcases hsettled id hid with hopen | hunused
  · rcases Option.isSome_iff_exists.mp hopen with ⟨q, hq⟩
    rw [htidy.at?_eq_some_iff.mpr (hnumbered id q hq), hq]
    exact Kernel.ready_socket k q
  · -- A number nobody uses is not that of an open connection.
    rw [hunused]
    cases hq : sock id with
    | none => rfl
    | some q =>
        rw [htidy.at?_eq_some_iff.mpr (hnumbered id q hq)] at hunused
        simp at hunused

namespace Epoll

theorem readable_sync (window : List ConnId) (x : Epoll) (k : Kernel) (q : SocketKey) :
    (x.sync window k).2.1.readable q = k.readable q := by
  rw [Kernel.readable, Kernel.readable, Kernel.socket?, Kernel.socket?, sockets_sync]

/-- What is remembered after a window was remembered before, under the number of a
    member, or is a member's own. -/
theorem watched_sync (window : List ConnId) (x : Epoll) (k : Kernel) :
    ∀ y ∈ (x.sync window k).1.watched,
      (y ∈ x.watched ∧ ∃ id ∈ window, id.raw = y.1) ∨ y.2 ∈ window := by
  have hdrop : ∀ (fds : List Nat) (z : Epoll) (k : Kernel),
      ∀ y ∈ (dropAll fds z k).1.watched, y ∈ z.watched ∧ y.1 ∉ fds := by
    intro fds
    induction fds with
    | nil => exact fun z k y hy => ⟨hy, List.not_mem_nil⟩
    | cons fd rest ih =>
        intro z k y hy
        rcases ih (z.unwatch fd) _ y hy with ⟨hold, hrest⟩
        rcases List.mem_filter.mp hold with ⟨hold, hne⟩
        exact ⟨hold, fun hmem => (List.mem_cons.mp hmem).elim (bne_iff_ne.mp hne) hrest⟩
  have hkept : ∀ y ∈ (dropAll (x.stale window) x k).1.watched,
      y ∈ x.watched ∧ ∃ id ∈ window, id.raw = y.1 := by
    intro y hy
    rcases hdrop _ x k y hy with ⟨hold, hkept⟩
    exact ⟨hold, member_of_not_stale (List.mem_map_of_mem hold) hkept⟩
  have harm : ∀ (members : List ConnId) (z : Epoll) (k : Kernel),
      ∀ y ∈ (armAll members z k).1.watched, y ∈ z.watched ∨ y.2 ∈ members := by
    intro members
    induction members with
    | nil => exact fun z k y hy => Or.inl hy
    | cons id rest ih =>
        intro z k y hy
        -- One member adds a line about itself at most.
        have hmember : ∀ y ∈ (z.armMember k id).1.watched, y ∈ z.watched ∨ y.2 = id := by
          unfold armMember
          split
          · exact fun y hy => Or.inl hy
          · rcases z.arm k id.raw (z.watches? id.raw).isSome with ⟨k', code | _⟩
            · exact fun y hy => Or.inl (List.mem_of_mem_filter hy)
            · intro y hy
              rcases List.mem_append.mp hy with hold | hnew
              · exact Or.inl (List.mem_of_mem_filter hold)
              · exact Or.inr (congrArg Prod.snd (List.mem_singleton.mp hnew))
        rcases ih _ _ y hy with hold | hnew
        · exact (hmember y hold).imp_right fun heq => List.mem_cons.mpr (Or.inl heq)
        · exact Or.inr (List.mem_cons_of_mem id hnew)
  intro y hy
  exact (harm window _ _ y hy).imp_left (hkept y)

/-- The set is still in step after any call. -/
theorem inStep_check (h : InStep sock x k) (window : List ConnId) :
    ∃ watched, (Poller.check window (.epoll x) k).1 = .epoll { x with watched } ∧
      (∀ y ∈ watched, y ∈ x.watched ∨ y.2 ∈ window) ∧
      InStep sock { x with watched } (Poller.check window (.epoll x) k).2.1 := by
  have hsync := (inStep_sync h window).1
  have hwatched := watched_sync window x k
  rcases frame_sync window x k with ⟨watched, hframe⟩
  rw [hframe] at hsync hwatched
  unfold Poller.check
  dsimp only
  rw [hframe]
  refine ⟨watched, rfl, fun y hy => (hwatched y hy).imp_left And.left, ?_⟩
  split
  · exact hsync
  · exact hsync.reorder (Kernel.reordered_wait _ _ _)

/-- There are as many entries as members at most. -/
theorem length_targets_sync (h : InStep sock x k) (window : List ConnId) :
    ((x.sync window k).2.1.targets x.set).length ≤ window.length := by
  rcases inStep_sync h window with ⟨hstep, hleft, -, -⟩
  have hlength : ((x.sync window k).2.1.targets x.set).length ≤ (window.map ConnId.raw).length := by
    refine hstep.tidy.length_targets_le fun t ht => ?_
    rcases hleft t ht with ⟨id, hid, hraw⟩
    exact List.mem_map.mpr ⟨id, hid, hraw⟩
  rwa [List.length_map] at hlength

/-- The backend reports the members under whose numbers something ready is watched
    after the set was brought in line with the window. -/
theorem check_reports (h : InStep sock x k) (hfits : window.length ≤ x.capacity) :
    ∃ hits : List Nat, (Poller.check window (.epoll x) k).2.2.1 =
        window.filter (fun id => hits.contains id.raw) ∧
      ∀ fd, fd ∈ hits ↔ ∃ f, (fd, f) ∈ (x.sync window k).2.1.targets x.set ∧
        (x.sync window k).2.1.ready f = true := by
  rcases frame_sync window x k with ⟨watched, hframe⟩
  have hroom : ((x.sync window k).2.1.targets x.set).length ≤ max x.capacity 1 :=
    Nat.le_trans (Nat.le_trans (length_targets_sync h window) hfits) (Nat.le_max_left _ _)
  refine ⟨((x.sync window k).2.1.wait x.set (max x.capacity 1)).2, ?_, Kernel.mem_wait hroom⟩
  -- Nothing is asked about an empty window, and nothing would be reported.
  by_cases hempty : window = []
  · rw [hempty]
    rfl
  · unfold Poller.check
    dsimp only
    rw [if_neg hempty, hframe]
    rfl

/-- An open member that can be read is reported, whatever the others are. -/
theorem mem_check (h : InStep sock x k) (hfits : window.length ≤ x.capacity) {id : ConnId}
    (hid : id ∈ window) {q : SocketKey} (hq : sock id = some q) (hreadable : k.readable q = true) :
    id ∈ (Poller.check window (.epoll x) k).2.2.1 := by
  rcases check_reports h hfits with ⟨hits, hcheck, hhits⟩
  rcases inStep_sync h window with ⟨-, -, hmembers, -⟩
  rw [hcheck, List.mem_filter, List.contains_iff_mem, hhits]
  refine ⟨hid, .socket q, hmembers id hid q hq, ?_⟩
  rw [Kernel.ready_socket, readable_sync]
  exact hreadable

/-- The backend with an interest set reports the open members that can be read,
    whatever it was asked before. -/
theorem check_eq (h : InStep sock x k) (hfits : window.length ≤ x.capacity)
    (hsettled : ∀ id ∈ window, Settled sock k id) :
    (Poller.check window (.epoll x) k).2.2.1 =
      window.filter fun id => (sock id).any k.readable := by
  rcases check_reports h hfits with ⟨hits, hcheck, hhits⟩
  rcases inStep_sync h window with ⟨hstep, -, hmembers, hholds⟩
  rcases frame_sync window x k with ⟨watched, hframe⟩
  rw [hframe] at hstep
  rw [hcheck]
  refine List.filter_congr fun id hid => ?_
  rw [Bool.eq_iff_iff, List.contains_iff_mem, hhits]
  constructor
  · rintro ⟨f, hf, hready⟩
    have hheld := hstep.tidy.held x.set _ hf
    rcases hsettled id hid with hopen | hunused
    · rcases Option.isSome_iff_exists.mp hopen with ⟨q, hq⟩
      have hfile := hstep.tidy.unique _ f _ hheld (hstep.numbered id q hq)
      rw [hfile, Kernel.ready_socket, readable_sync] at hready
      rw [hq]
      exact hready
    · -- Nothing is watched under a number that nobody uses.
      exact absurd ((hholds _ f).mp hheld) (Kernel.at?_eq_none_iff.mp hunused f)
  · intro hready
    obtain ⟨q, hq, hreadable⟩ : ∃ q, sock id = some q ∧ k.readable q = true := by
      simpa [Option.any_eq_true] using hready
    refine ⟨.socket q, hmembers id hid q hq, ?_⟩
    rw [Kernel.ready_socket, readable_sync]
    exact hreadable

end Epoll

end ReadNotify
