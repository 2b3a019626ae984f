import ReadNotify.Proofs.Readiness.Bystanders
import ReadNotify.Readiness.Poller

/-!
# Controls

A control changes what one interest set watches. As long as numbers and entries
are in order there is one entry at most for a number, so adding and changing end
with the file of the number being watched, and deleting ends with nothing being
watched under it. Which of the first two is tried first makes no difference.

For every other interest set a control is something that happens aside, and so
is all that other backends do.

## Main definitions

* `Kernel.Rewritten`: What one interest set watches was changed, and nothing else.

## Theorems

* `rewritten_delete`: Deleting.
* `aside_of_set`: Opening or closing one set.
* `Poller.aside_create`, `Poller.aside_release`, `Poller.aside_check`: Backends
  with other interest sets.
-/

namespace ReadNotify

namespace Kernel

variable {k k' k'' : Kernel} {mine : Option InterestKey} {d e : InterestKey} {fd : Nat}
  {f : OpenFile}
  {l : List (Nat × OpenFile)}

/-- What one interest set watches was changed, and nothing else but the turns of
    entries. -/
structure Rewritten (e : InterestKey) (l : List (Nat × OpenFile)) (k k' : Kernel) : Prop where
  frame : ∃ interests, k' = { k with interests }
  size : k'.interests.size = k.interests.size
  shape : ∀ d, k'.shape? d = k.shape? d
  self : (k'.targets e).Perm l
  others : ∀ d, d ≠ e → (k'.targets d).Perm (k.targets d)

/-- Where only turns have changed every set watches what it did. -/
theorem Reordered.rewritten (h : Reordered k k') : Rewritten e (k.targets e) k k' :=
  ⟨h.frame, h.size, h.shape, h.targets e, fun d _ => h.targets d⟩

/-- And turns may change after a set was rewritten. -/
theorem Rewritten.reorder (h : Rewritten e l k k') (h' : Reordered k' k'') :
    Rewritten e l k k'' := by
  refine ⟨?_, h'.size.trans h.size, fun d => (h'.shape d).trans (h.shape d),
    (h'.targets e).trans h.self, fun d hd => (h'.targets d).trans (h.others d hd)⟩
  -- The kernel is the old one but for its interest sets.
  rcases h.frame with ⟨_, rfl⟩
  rcases h'.frame with ⟨interests, rfl⟩
  exact ⟨interests, rfl⟩

/-- Nothing else is what sockets and numbers are. -/
theorem Rewritten.socket? (h : Rewritten e l k k') (q : SocketKey) :
    k'.socket? q = k.socket? q := by
  rcases h.frame with ⟨interests, rfl⟩
  rfl

/-- Numbers are held by files, whatever watches these. -/
theorem Rewritten.holds_iff (h : Rewritten e l k k') : k'.Holds fd f ↔ k.Holds fd f := by
  cases f with
  | socket q => exact holds_socket_iff (h.socket? q)
  | interests d => rw [Holds, Holds, h.shape]
  | other o =>
      rcases h.frame with ⟨interests, rfl⟩
      exact Iff.rfl

theorem Rewritten.pollable_eq (h : Rewritten e l k k') (f : OpenFile) :
    k'.pollable f = k.pollable f := by
  rcases h.frame with ⟨interests, rfl⟩
  exact pollable_congr rfl f

/-- What is watched is in order already: it can be watched, and holds its number. -/
theorem Tidy.sound (hk : k.Tidy) :
    ∀ t ∈ k.targets e, k.Holds t.1 t.2 ∧ k.pollable t.2 = true :=
  fun t ht => ⟨hk.held e t ht, hk.pollable e t ht⟩

/-- Numbers and entries stay in order if the new entries of the one set are. -/
theorem Rewritten.tidy (h : Rewritten e l k k') (hk : k.Tidy) (hnodup : l.Nodup)
    (hsound : ∀ t ∈ l, k.Holds t.1 t.2 ∧ k.pollable t.2 = true) : k'.Tidy := by
  -- Every entry is one of the new list, or another set had it before.
  have hentry : ∀ d, ∀ t ∈ k'.targets d, k.Holds t.1 t.2 ∧ k.pollable t.2 = true := by
    intro d t ht
    by_cases hd : d = e
    · exact hsound t (h.self.mem_iff.mp (hd ▸ ht))
    · exact hk.sound t ((h.others d hd).mem_iff.mp ht)
  refine ⟨fun fd f g hf hg => hk.unique fd f g (h.holds_iff.mp hf) (h.holds_iff.mp hg),
    fun d t ht => h.holds_iff.mpr (hentry d t ht).1,
    fun d t ht => (h.pollable_eq t.2).trans (hentry d t ht).2, ?_, ?_⟩
  · intro d
    by_cases hd : d = e
    · exact hd ▸ h.self.nodup_iff.mpr hnodup
    · exact (h.others d hd).nodup_iff.mpr (hk.once d)
  · intro m w hw q hq
    rw [backlog?, h.socket?] at hw
    rw [number?, h.socket?]
    exact hk.waiting m w hw q hq

/-- So they denote the same files. -/
theorem Rewritten.at? (h : Rewritten e l k k') (hk : k.Tidy) (hk' : k'.Tidy) (fd : Nat) :
    k'.at? fd = k.at? fd := by
  refine Option.ext fun f => ?_
  rw [hk'.at?_eq_some_iff, hk.at?_eq_some_iff, h.holds_iff]

/-- For any other set this happens aside. -/
theorem Rewritten.aside (h : Rewritten d l k k') (hne : d ∉ mine) (hnodup : k.Tidy → l.Nodup)
    (hsound : k.Tidy → ∀ t ∈ l, k.Holds t.1 t.2 ∧ k.pollable t.2 = true) : Aside mine k k' := by
  -- The rewritten set is none of them.
  have hother : ∀ e ∈ mine, (k'.targets e).Perm (k.targets e) := fun e he =>
    h.others e fun heq => hne (heq ▸ he)
  refine ⟨fun hk => h.tidy hk (hnodup hk) (hsound hk), Nat.le_of_eq h.size.symm, ?_, ?_, ?_,
    fun e _ _ => h.shape e, fun e he _ t ht => (hother e he).mem_iff.mp ht,
    fun _ e he _ _ ht _ => (hother e he).mem_iff.mpr ht⟩
  · intro q hq
    rwa [h.socket?]
  · intro q n hn
    rwa [number?, h.socket?]
  · intro q _ hq
    rwa [Kernel.isOpen, h.socket?] at hq

/-! ### What a control does -/

/-- An entry is listed, whether it is queued or not. -/
theorem listed_iff (k : Kernel) (e : InterestKey) (fd : Nat) (f : OpenFile) :
    Interest.listed (k.entries e) fd f = true ↔ (fd, f) ∈ k.targets e := by
  rw [Interest.listed, List.any_eq_true, targets, List.mem_map]
  simp only [Bool.and_eq_true, beq_iff_eq, Interest.target, Prod.mk.injEq]

/-- Taking notice of a file changes turns. -/
theorem reordered_notice (k : Kernel) (e : InterestKey) (f : OpenFile) :
    Reordered k (k.notice e f) := by
  unfold notice
  dsimp only
  split
  · exact reordered_trans (reordered_trans (reordered_examine k f) (reordered_queue f _ e))
      (reordered_wake _ (.interests e))
  · exact reordered_examine k f

theorem shape?_isSome_iff : (k.shape? e).isSome = true ↔ ∃ x, k.interests.get? e = some x := by
  rw [shape?, Option.isSome_map, Option.isSome_iff_exists]

/-- Rewriting the entries of a set. -/
theorem rewritten_update (hset : (k.shape? e).isSome = true) (g : List Interest → List Interest) :
    Rewritten e ((g (k.entries e)).map Interest.target) k
      (k.updateInterests e fun x => { x with entries := g x.entries }) := by
  rcases shape?_isSome_iff.mp hset with ⟨x, hx⟩
  refine ⟨⟨_, rfl⟩, Table.size_update _ _ _, ?_, ?_, ?_⟩
  · intro d
    rw [shape?, shape?, updateInterests, Table.get?_update]
    -- Its number and whether it is open stay.
    by_cases hd : d = e
    · rw [if_pos hd, hd, Option.map_map]
      rfl
    · rw [if_neg hd]
  · rw [targets, entries_updateInterests, if_pos rfl, hx, entries_of_get? hx]
    exact List.Perm.refl _
  · intro d hd
    rw [targets, targets, entries_updateInterests, if_neg hd]

/-- A set that does not exist is not changed by rewriting it. -/
theorem updateInterests_of_none (hset : (k.shape? e).isSome = false)
    (g : InterestSet → InterestSet) : k.updateInterests e g = k := by
  have hsize : ¬ e < k.interests.rows.size := by
    intro hlt
    have hrow : k.interests.get? e = some k.interests.rows[e] := Array.getElem?_eq_getElem hlt
    simp [shape?, hrow] at hset
  rw [updateInterests, Table.update, dif_neg hsize]

/-- A number that nobody uses is refused before the set is looked at. -/
theorem control_of_none (h : k.at? fd = none) (op : InterestControl) :
    k.control e op fd = (k, .error IoError.badDescriptor) := by
  simp only [control, h]

/-- A file that cannot be watched refuses every control. -/
theorem control_of_unpollable (h : k.at? fd = some f) (hf : k.pollable f = false)
    (op : InterestControl) : k.control e op fd = (k, .error IoError.notPermitted) := by
  simp only [control, h, hf, Bool.not_false, if_true]

/-- A set cannot watch itself. -/
theorem control_of_self (h : k.at? fd = some (.interests e)) (op : InterestControl) :
    k.control e op fd = (k, .error IoError.invalidArgument) := by
  have hset : k.pollable (.interests e) = true := rfl
  simp only [control, h, hset, Bool.not_true, Bool.false_eq_true, if_false, if_true]

/-- What was not watched is so once when it is added. -/
theorem Tidy.nodup_concat (hk : k.Tidy) {t : Nat × OpenFile} (hnot : t ∉ k.targets e) :
    (k.targets e ++ [t]).Nodup := by
  refine List.nodup_append.mpr ⟨hk.once e, List.nodup_singleton _, ?_⟩
  rintro u hu v hv rfl
  exact hnot (List.mem_singleton.mp hv ▸ hu)

/-- Adding fails, or the file of the number is watched then. -/
theorem add_cases (h : k.at? fd = some f) (hwatch : k.pollable f = true)
    (hf : f ≠ .interests e) :
    ((fd, f) ∈ k.targets e ∧ ∃ code, k.control e .add fd = (k, .error code)) ∨
    ((fd, f) ∉ k.targets e ∧ k.contains e f = true ∧
      k.control e .add fd = (k, .error IoError.nestedLoop)) ∨
    ((fd, f) ∉ k.targets e ∧ ((k.shape? e).isSome = true →
      Rewritten e (k.targets e ++ [(fd, f)]) k (k.control e .add fd).1) ∧
      ((k.shape? e).isSome = false → Reordered k (k.control e .add fd).1) ∧
      (k.control e .add fd).2 = .ok ()) := by
  have hlisted := listed_iff k e fd f
  simp only [control, h, hwatch, Bool.not_true, Bool.false_eq_true, if_false, if_neg hf]
  cases hpresent : Interest.listed (k.entries e) fd f with
  | true =>
      refine Or.inl ⟨hlisted.mp hpresent, ?_⟩
      split
      · exact ⟨_, rfl⟩
      · exact ⟨_, rfl⟩
  | false =>
      have habsent : (fd, f) ∉ k.targets e := by
        rw [← hlisted, hpresent]
        exact Bool.false_ne_true
      refine Or.inr ?_
      -- Whether the set would come to contain itself is asked first.
      cases hcontains : k.contains e f with
      | true => exact Or.inl ⟨habsent, rfl, rfl⟩
      | false =>
          refine Or.inr ⟨habsent, fun hset => ?_, fun hset => ?_, rfl⟩
          · have hadd := rewritten_update hset fun is => is ++ [⟨fd, f, false⟩]
            rw [List.map_append] at hadd
            exact hadd.reorder (reordered_notice _ e f)
          · have hsame := updateInterests_of_none hset fun x =>
              { x with entries := x.entries ++ [⟨fd, f, false⟩] }
            simp only [Bool.false_eq_true, if_false, hsame]
            exact reordered_notice k e f

/-- Changing finds the file of the number being watched, or fails. -/
theorem modify_cases (h : k.at? fd = some f) (hwatch : k.pollable f = true)
    (hf : f ≠ .interests e) :
    ((fd, f) ∈ k.targets e ∧ Reordered k (k.control e .modify fd).1 ∧
      (k.control e .modify fd).2 = .ok ()) ∨
    ((fd, f) ∉ k.targets e ∧ k.control e .modify fd = (k, .error IoError.noEntry)) := by
  have hlisted := listed_iff k e fd f
  simp only [control, h, hwatch, Bool.not_true, Bool.false_eq_true, if_false, if_neg hf]
  -- An entry that is there is only noticed.
  cases hpresent : Interest.listed (k.entries e) fd f with
  | true => exact Or.inl ⟨hlisted.mp hpresent, reordered_notice k e f, rfl⟩
  | false =>
      refine Or.inr ⟨?_, rfl⟩
      rw [← hlisted, hpresent]
      exact Bool.false_ne_true

/-- Deleting takes out the file of the number, or finds nothing to take out. -/
theorem delete_cases (h : k.at? fd = some f) (hwatch : k.pollable f = true)
    (hf : f ≠ .interests e) :
    ((fd, f) ∈ k.targets e ∧
      Rewritten e ((k.targets e).filter fun t => t != (fd, f)) k (k.control e .delete fd).1) ∨
    ((fd, f) ∉ k.targets e ∧ (k.control e .delete fd).1 = k) := by
  have hlisted := listed_iff k e fd f
  simp only [control, h, hwatch, Bool.not_true, Bool.false_eq_true, if_false, if_neg hf]
  cases hpresent : Interest.listed (k.entries e) fd f with
  | true =>
      have hmem := hlisted.mp hpresent
      -- A set that has an entry exists.
      have hset : (k.shape? e).isSome = true := by
        refine shape?_isSome_iff.mpr (Option.isSome_iff_exists.mp ?_)
        rcases hx : k.interests.get? e with _ | x
        · simp [targets, entries, hx] at hmem
        · rfl
      have hdelete := rewritten_update hset fun is =>
        is.filter fun i => !(i.fd == fd && i.file == f)
      rw [show ((k.entries e).filter fun i => !(i.fd == fd && i.file == f)).map Interest.target =
        (k.targets e).filter fun t => t != (fd, f) by rw [targets, List.filter_map]; rfl] at hdelete
      exact Or.inl ⟨hmem, hdelete⟩
  | false =>
      refine Or.inr ⟨?_, rfl⟩
      rw [← hlisted, hpresent]
      exact Bool.false_ne_true

/-- Deleting leaves nothing under the number. -/
theorem rewritten_delete (hk : k.Tidy) (hself : ∀ t ∈ k.targets e, t.2 ≠ .interests e) (fd : Nat) :
    Rewritten e ((k.targets e).filter fun t => t.1 != fd) k (k.control e .delete fd).1 := by
  -- There is nothing to delete unless the number denotes what is watched under it.
  have habsent : (∀ t ∈ k.targets e, t.1 ≠ fd) → (k.control e .delete fd).1 = k →
      Rewritten e ((k.targets e).filter fun t => t.1 != fd) k (k.control e .delete fd).1 := by
    intro hnone hsame
    rw [hsame, List.filter_eq_self.mpr fun t ht => bne_iff_ne.mpr (hnone t ht)]
    exact (reordered_refl k).rewritten
  have hdenotes : ∀ t ∈ k.targets e, t.1 = fd → k.at? fd = some t.2 := by
    intro t ht hfd
    rw [hk.at?_eq_some_iff, ← hfd]
    exact hk.held e t ht
  rcases hat : k.at? fd with _ | f
  · refine habsent (fun t ht hfd => ?_) (by rw [control_of_none hat])
    exact absurd (hat.symm.trans (hdenotes t ht hfd)) (by simp)
  · cases hwatch : k.pollable f with
    | false =>
        refine habsent (fun t ht hfd => ?_) (by rw [control_of_unpollable hat hwatch])
        rw [Option.some.inj (hat.symm.trans (hdenotes t ht hfd)), hk.pollable e t ht] at hwatch
        exact absurd hwatch.symm Bool.false_ne_true
    | true =>
      by_cases hf : f = .interests e
      · rw [hf] at hat
        refine habsent (fun t ht hfd => ?_) (by rw [control_of_self hat])
        exact hself t ht (Option.some.inj (hat.symm.trans (hdenotes t ht hfd))).symm
      · rcases delete_cases hat hwatch hf with ⟨-, hdelete⟩ | ⟨hnot, hsame⟩
        · rw [show ((k.targets e).filter fun t => t.1 != fd) =
            (k.targets e).filter fun t => t != (fd, f) from List.filter_congr fun t ht => ?_]
          · exact hdelete
          · by_cases hfd : t.1 = fd
            · have hfile := Option.some.inj (hat.symm.trans (hdenotes t ht hfd))
              rw [show t = (fd, f) from Prod.ext hfd hfile.symm]
              simp
            · have hne : t ≠ (fd, f) := fun heq => hfd (congrArg Prod.fst heq)
              rw [bne_iff_ne.mpr hfd, bne_iff_ne.mpr hne]
        · refine habsent (fun t ht hfd => hnot ?_) hsame
          have hfile := Option.some.inj (hat.symm.trans (hdenotes t ht hfd))
          rw [hfile, ← hfd]
          exact ht

/-- Waiting for one set reorders. -/
theorem reordered_wait (k : Kernel) (e : InterestKey) (room : Nat) :
    Reordered k (k.wait e room).1 := by
  have hperm := (Interest.perm_serve k.ready room (k.entries e)).map Interest.target
  unfold wait
  rcases hserve : Interest.serve k.ready room (k.entries e) with ⟨hits, passed, unreached⟩
  rw [hserve] at hperm
  refine (reordered_foldl (fun i k => reordered_examine k i.file) _ k).update (fun _ => rfl)
    (fun _ => rfl) fun x _ => ?_
  have hqueue : Interest.target ∘ Interest.queue = Interest.target := rfl
  have hunqueue : Interest.target ∘ Interest.unqueue = Interest.target := rfl
  simp only [List.map_append, List.map_map, hqueue, hunqueue] at hperm ⊢
  exact List.perm_append_comm.trans hperm

/-! ### Other interest sets -/

/-- A control of another set leaves the sets that are watched over. -/
theorem aside_control (hne : d ∉ mine) (op : InterestControl) (fd : Nat) :
    Aside mine k (k.control d op fd).1 := by
  rcases hat : k.at? fd with _ | f
  · rw [control_of_none hat]
    exact aside_refl mine k
  · cases hwatch : k.pollable f with
    | false =>
        rw [control_of_unpollable hat hwatch]
        exact aside_refl mine k
    | true =>
      by_cases hf : f = .interests d
      · rw [hf] at hat
        rw [control_of_self hat]
        exact aside_refl mine k
      · -- Whatever is done is done to the entries of that set.
        cases op with
        | add =>
            rcases add_cases hat hwatch hf with
              ⟨-, code, heq⟩ | ⟨-, -, heq⟩ | ⟨hnot, hadd, hnone, -⟩
            · rw [heq]
              exact aside_refl mine k
            · rw [heq]
              exact aside_refl mine k
            · cases hset : (k.shape? d).isSome with
              | false => exact aside_reordered (hnone hset)
              | true =>
                  refine (hadd hset).aside hne (fun hk => ?_) (fun hk t ht => ?_)
                  · exact hk.nodup_concat hnot
                  · rcases List.mem_append.mp ht with ht | ht
                    · exact hk.sound t ht
                    · rw [List.mem_singleton.mp ht]
                      exact ⟨holds_of_at? hat, hwatch⟩
        | modify =>
            rcases modify_cases hat hwatch hf with ⟨-, hreordered, -⟩ | ⟨-, heq⟩
            · exact aside_reordered hreordered
            · rw [heq]
              exact aside_refl mine k
        | delete =>
            rcases delete_cases hat hwatch hf with ⟨-, hdelete⟩ | ⟨-, heq⟩
            · exact hdelete.aside hne (fun hk => (hk.once d).filter _)
                fun hk t ht => hk.sound t (List.mem_of_mem_filter ht)
            · rw [heq]
              exact aside_refl mine k

/-- One set is opened or closed: its number was nobody's if it has one now, no
    set watches it, and no set watches more. -/
theorem aside_of_set (hsocket : ∀ q, k'.socket? q = k.socket? q)
    (hothers : k'.others = k.others)
    (hsize : k.interests.size ≤ k'.interests.size)
    (hshape : ∀ c, c ≠ d → k'.shape? c = k.shape? c)
    (hfresh : ∀ n, k'.shape? d = some (n, true) → ∀ g, ¬ k.Holds n g)
    (htargets : ∀ c, (k'.targets c).Sublist (k.targets c))
    (hleft : k.Tidy → ∀ c, ∀ t ∈ k'.targets c, t.2 ≠ .interests d)
    (hmine : ∀ e ∈ mine, (k.shape? e).isSome = true → e ≠ d)
    (hkept : ∀ e ∈ mine, ∀ n q, (n, .socket q) ∈ k.targets e → (n, .socket q) ∈ k'.targets e) :
    Aside mine k k' := by
  refine ⟨fun hk => hk.of_others (some (.interests d)) ?_ (fun f _ => pollable_congr hothers f) ?_
    htargets ?_ ?_, hsize, ?_, ?_, ?_,
    fun e he hset => hshape e (hmine e he hset), fun e _ _ t ht => (htargets e).subset ht,
    fun _ e he n q ht _ => hkept e he n q ht⟩
  · intro n f hf
    cases f with
    | socket q => exact holds_socket_iff (hsocket q)
    | interests c => rw [Holds, Holds, hshape c fun heq => hf (heq ▸ rfl)]
    | other o => exact holds_other_iff hothers
  · intro f hf n hn
    rw [← Option.some.inj hf] at hn
    exact hfresh n hn
  · intro c t ht hd
    exact hleft hk c t ht (Option.some.inj hd).symm
  · intro l w hw q hq
    rw [backlog?, hsocket] at hw
    rw [number?, hsocket]
    exact hk.waiting l w hw q hq
  · intro q hq
    rwa [hsocket]
  · intro q n hn
    rwa [number?, hsocket]
  · intro q _ hq
    rwa [Kernel.isOpen, hsocket] at hq

/-- Opening another set. -/
theorem aside_openInterest (k : Kernel) : Aside mine k k.openInterest.1 := by
  unfold openInterest
  split
  · exact aside_refl mine k
  · have hnone : k.interests.get? k.interests.size = none := Array.getElem?_eq_none (Nat.le_refl _)
    have hnew : (k.interests.add { fd := k.freshFd }).get? k.interests.size =
        some { fd := k.freshFd } := by rw [Table.get?_add, if_pos rfl]
    have hold : ∀ d, d ≠ k.interests.size →
        (k.interests.add { fd := k.freshFd }).get? d = k.interests.get? d := by
      intro d hd
      rw [Table.get?_add, if_neg hd]
    have hunset : k.shape? k.interests.size = none := by rw [shape?, hnone]; rfl
    generalize hk' : ({ k with interests := k.interests.add { fd := k.freshFd } } : Kernel) = k'
    have hinterests : k'.interests = k.interests.add { fd := k.freshFd } := by rw [← hk']
    have htargets : ∀ d, k'.targets d = k.targets d := by
      intro d
      by_cases hd : d = k.interests.size
      · rw [targets, targets, entries, entries, hinterests, hd, hnew, hnone]
      · rw [targets, targets, entries, entries, hinterests, hold d hd]
    refine aside_of_set (d := k.interests.size) ?_ ?_ ?_ ?_ ?_ ?_ ?_ ?_ ?_
    · intro q
      rw [← hk']
      rfl
    · rw [← hk']
    · rw [hinterests, Table.size_add]
      exact Nat.le_succ _
    · intro c hc
      rw [shape?, shape?, hinterests, hold c hc]
    · intro n hn
      rw [shape?, hinterests, hnew] at hn
      rw [← (Prod.mk.inj (Option.some.inj hn)).1]
      exact not_holds_freshFd k
    · intro c
      rw [htargets]
    · -- What is watched held its number, and the set had none.
      intro hk c t ht heq
      rw [htargets] at ht
      have hheld := hk.held c t ht
      rw [heq, Holds, hunset] at hheld
      exact absurd hheld (by simp)
    · rintro e _ hset rfl
      rw [hunset] at hset
      exact Bool.false_ne_true hset
    · intro e _ n q ht
      rwa [htargets]

/-- Closing another set. -/
theorem aside_closeInterest (k : Kernel) (hne : d ∉ mine) :
    Aside mine k (k.closeInterest d) := by
  generalize hk' : k.closeInterest d = k'
  have hrow : ∀ c, k'.interests.get? c =
      (if c = d then (k.interests.get? d).map fun x => { x with isOpen := false, entries := [] }
        else k.interests.get? c).map fun x =>
          { x with entries := x.entries.filter fun i => i.file != .interests d } := by
    intro c
    rw [← hk', closeInterest, get?_forget, updateInterests, Table.get?_update]
  have htargets : ∀ c, c ≠ d →
      k'.targets c = (k.targets c).filter fun t => t.2 != .interests d := by
    intro c hc
    rw [← hk', closeInterest, targets_forget, targets, targets, entries_updateInterests, if_neg hc]
  have hempty : k'.targets d = [] := by
    rw [targets, entries, hrow, if_pos rfl]
    cases k.interests.get? d with
    | none => rfl
    | some x => rfl
  have hother : ∀ e ∈ mine, e ≠ d := fun e he heq => hne (heq ▸ he)
  -- Another set loses what watched the closed one, which is no socket.
  refine aside_of_set (d := d) ?_ ?_ ?_ ?_ ?_ ?_ ?_ (fun e he _ => hother e he) ?_
  · intro q
    rw [← hk']
    rfl
  · rw [← hk']
    rfl
  · rw [← hk', closeInterest, size_forget]
    exact Nat.le_of_eq (Table.size_update _ _ _).symm
  · intro c hc
    rw [shape?, shape?, hrow, if_neg hc, Option.map_map]
    rfl
  · intro n hn
    rw [shape?, hrow, if_pos rfl] at hn
    cases hd : k.interests.get? d with
    | none => simp [hd] at hn
    | some x => simp [hd] at hn
  · intro c
    by_cases hc : c = d
    · rw [hc, hempty]
      exact List.nil_sublist _
    · rw [htargets c hc]
      exact List.filter_sublist
  · intro _ c t ht
    by_cases hc : c = d
    · rw [hc, hempty] at ht
      exact absurd ht List.not_mem_nil
    · rw [htargets c hc, List.mem_filter, bne_iff_ne] at ht
      exact ht.2
  · intro e he n q ht
    rw [htargets e (hother e he), List.mem_filter]
    exact ⟨ht, by simp⟩

theorem aside_examineAll (fs : List OpenFile) (k : Kernel) : Aside mine k (fs.foldl examine k) := by
  induction fs generalizing k with
  | nil => exact aside_refl mine k
  | cons f rest ih => exact aside_trans (aside_reordered (reordered_examine k f)) (ih _)

end Kernel

namespace Epoll

variable {mine : Option InterestKey}

/-- Bringing a set in line changes nothing of the backend but its memory. -/
theorem frame_armMember (x : Epoll) (k : Kernel) (id : ConnId) :
    ∃ watched, (x.armMember k id).1 = { x with watched } := by
  unfold armMember
  split
  · exact ⟨_, rfl⟩
  · rcases x.arm k id.raw (x.watches? id.raw).isSome with ⟨k', code | _⟩
    · exact ⟨_, rfl⟩
    · exact ⟨_, rfl⟩

theorem frame_armAll (window : List ConnId) (x : Epoll) (k : Kernel) :
    ∃ watched, (armAll window x k).1 = { x with watched } := by
  induction window generalizing x k with
  | nil => exact ⟨_, rfl⟩
  | cons id rest ih =>
      rcases frame_armMember x k id with ⟨_, hfirst⟩
      rcases ih (x.armMember k id).1 (x.armMember k id).2.1 with ⟨watched, hrest⟩
      refine ⟨watched, hrest.trans ?_⟩
      rw [hfirst]

theorem frame_dropAll (fds : List Nat) (x : Epoll) (k : Kernel) :
    ∃ watched, (dropAll fds x k).1 = { x with watched } := by
  induction fds generalizing x k with
  | nil => exact ⟨_, rfl⟩
  | cons fd rest ih => exact ih (x.unwatch fd) _

theorem frame_sync (window : List ConnId) (x : Epoll) (k : Kernel) :
    ∃ watched, (x.sync window k).1 = { x with watched } := by
  rcases frame_dropAll (x.stale window) x k with ⟨_, hdrop⟩
  rcases frame_armAll window (dropAll (x.stale window) x k).1
    (dropAll (x.stale window) x k).2.1 with ⟨watched, harm⟩
  refine ⟨watched, harm.trans ?_⟩
  rw [hdrop]

theorem aside_arm (x : Epoll) (hne : x.set ∉ mine) (k : Kernel) (fd : Nat) (known : Bool) :
    Kernel.Aside mine k (x.arm k fd known).1 := by
  unfold arm
  generalize (if known = true then
    (InterestControl.modify, InterestControl.add, IoError.noEntry)
    else (InterestControl.add, InterestControl.modify, IoError.entryExists)) = choice
  rcases choice with ⟨op, op', retryOn⟩
  have hfirst := Kernel.aside_control (k := k) hne op fd
  dsimp only
  rcases hcontrol : k.control x.set op fd with ⟨k', code | _⟩ <;> rw [hcontrol] at hfirst
  · dsimp only
    split
    · exact Kernel.aside_trans hfirst (Kernel.aside_control hne op' fd)
    · exact hfirst
  · exact hfirst

theorem aside_armMember (x : Epoll) (hne : x.set ∉ mine) (k : Kernel) (id : ConnId) :
    Kernel.Aside mine k (x.armMember k id).2.1 := by
  have harm := aside_arm x hne k id.raw (x.watches? id.raw).isSome
  unfold armMember
  split
  · exact Kernel.aside_refl mine k
  · rcases hresult : x.arm k id.raw (x.watches? id.raw).isSome with ⟨k', code | _⟩
    · rw [hresult] at harm
      exact harm
    · rw [hresult] at harm
      exact harm

theorem aside_armAll (window : List ConnId) (x : Epoll) (hne : x.set ∉ mine) (k : Kernel) :
    Kernel.Aside mine k (armAll window x k).2.1 := by
  induction window generalizing x k with
  | nil => exact Kernel.aside_refl mine k
  | cons id rest ih =>
      rcases frame_armMember x k id with ⟨watched, hframe⟩
      have hset : (x.armMember k id).1.set ∉ mine := by
        rw [hframe]
        exact hne
      exact Kernel.aside_trans (aside_armMember x hne k id) (ih (x.armMember k id).1 hset _)

theorem aside_dropAll (fds : List Nat) (x : Epoll) (hne : x.set ∉ mine) (k : Kernel) :
    Kernel.Aside mine k (dropAll fds x k).2.1 := by
  -- The numbers are those of another set.
  induction fds generalizing x k with
  | nil => exact Kernel.aside_refl mine k
  | cons fd rest ih =>
      exact Kernel.aside_trans (Kernel.aside_control hne _ fd) (ih (x.unwatch fd) hne
        (k.control x.set .delete fd).1)

/-- Bringing another set in line leaves them as well. -/
theorem aside_sync (window : List ConnId) (x : Epoll) (hne : x.set ∉ mine) (k : Kernel) :
    Kernel.Aside mine k (x.sync window k).2.1 := by
  rcases frame_dropAll (x.stale window) x k with ⟨watched, hframe⟩
  have hset : (dropAll (x.stale window) x k).1.set ∉ mine := by
    rw [hframe]
    exact hne
  exact Kernel.aside_trans (aside_dropAll _ x hne k)
    (aside_armAll window (dropAll (x.stale window) x k).1 hset _)

end Epoll

namespace Poller

variable {k : Kernel} {mine : Option InterestKey}

/-- The interest set of a backend, if it has one. -/
def set? : Poller → Option InterestKey
  | pollSet _ => none
  | epoll x => some x.set

/-- A backend that is new has a set of its own, if it has one. -/
theorem aside_create (kind : BackendKind) (capacity : Nat)
    (hmine : ∀ e ∈ mine, (k.shape? e).isSome = true) :
    Kernel.Aside mine k (create kind capacity k).1 ∧
      ∀ p, (create kind capacity k).2 = .ok p → ∀ d ∈ p.set?,
        d ∉ mine ∧ d < (create kind capacity k).1.interests.size := by
  unfold create
  cases kind with
  | poll =>
      dsimp only
      split
      · exact ⟨Kernel.aside_refl mine k, by simp⟩
      · refine ⟨Kernel.aside_refl mine k, ?_⟩
        intro p hp
        rw [← Except.ok.inj hp]
        simp [set?]
  | epoll =>
      have hopen : Kernel.Aside mine k k.openInterest.1 := Kernel.aside_openInterest k
      dsimp only
      rcases hresult : k.openInterest with ⟨k', code | d⟩ <;> rw [hresult] at hopen
      · exact ⟨hopen, by simp⟩
      · have hnew : d = k.interests.size ∧ d < k'.interests.size := by
          unfold Kernel.openInterest at hresult
          split at hresult
          · simp at hresult
          · rcases Prod.mk.inj hresult with ⟨rfl, hd⟩
            rw [← Except.ok.inj hd]
            exact ⟨rfl, by rw [Table.size_add]; exact Nat.lt_succ_self _⟩
        have hd : d ∉ mine := by
          -- The new set comes after all that exist.
          intro hmem
          rcases Kernel.shape?_isSome_iff.mp (hmine d hmem) with ⟨x, hx⟩
          have hnone : k.interests.get? k.interests.size = none :=
            Array.getElem?_eq_none (Nat.le_refl _)
          rw [hnew.1, hnone] at hx
          exact absurd hx (by simp)
        dsimp only
        split
        · exact ⟨Kernel.aside_trans hopen (Kernel.aside_closeInterest k' hd), by simp⟩
        · refine ⟨hopen, ?_⟩
          intro p hp e he
          rw [← Except.ok.inj hp] at he
          rw [← Option.some.inj he]
          exact ⟨hd, hnew.2⟩

theorem aside_release (p : Poller) (hp : ∀ d ∈ p.set?, d ∉ mine) (k : Kernel) :
    Kernel.Aside mine k (p.release k) := by
  cases p with
  | pollSet q => exact Kernel.aside_refl mine k
  | epoll x => exact Kernel.aside_closeInterest k (hp x.set rfl)

theorem aside_check (window : List ConnId) (p : Poller) (hp : ∀ d ∈ p.set?, d ∉ mine) (k : Kernel) :
    Kernel.Aside mine k (p.check window k).2.1 := by
  cases p with
  | pollSet q => exact Kernel.aside_examineAll _ k
  | epoll x =>
      have hsync := Epoll.aside_sync window x (hp x.set rfl) k
      unfold check
      dsimp only
      split
      · exact hsync
      · exact Kernel.aside_trans hsync (Kernel.aside_reordered (Kernel.reordered_wait _ _ _))

end Poller

end ReadNotify
