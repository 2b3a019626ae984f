import ReadNotify.Kernel.Other
import ReadNotify.Proofs.Readiness.Numbers
import ReadNotify.Proofs.Streams.Opening
import ReadNotify.Proofs.Streams.Teardown

/-!
# What Happens Without an Interest Set

Most of what happens to the open files of a process does not name one particular
interest set. Sockets that exist keep their numbers meanwhile, what was closed
stays closed, and the set is affected in one way only: it loses the entries of
what is closed. `Kernel.Aside` says so, and composes.

## Main definitions

* `Kernel.Aside`: What is done without naming one interest set.

## Theorems

* `aside_trans`: Two such things in a row are one.
* `aside_updateSocket`, `aside_addSocket`, `aside_number`, `aside_shut`: What is
  done to sockets.
* `aside_close`, `aside_listen`, `aside_connect`, `aside_accept`: Calls.
* `aside_openOther`, `aside_closeOther`, `aside_setReadable`: Other files.
-/

namespace ReadNotify

namespace Kernel

variable {k k' k'' : Kernel} {mine : Option InterestKey} {q : SocketKey} {fd : Nat} {f : OpenFile}

/-- What keeps numbers and entries in order: besides one file everything holds
    its number as before. That one may hold a number now that nobody held, and no
    set watches it. -/
theorem Tidy.of_others (h : k.Tidy) (g : Option OpenFile)
    (hothers : ∀ fd f, f ∉ g → (k'.Holds fd f ↔ k.Holds fd f))
    (hpollable : ∀ f, f ∉ g → k'.pollable f = k.pollable f)
    (hfresh : ∀ f ∈ g, ∀ fd, k'.Holds fd f → ∀ f', ¬ k.Holds fd f')
    (htargets : ∀ e, (k'.targets e).Sublist (k.targets e))
    (hleft : ∀ e, ∀ t ∈ k'.targets e, t.2 ∉ g)
    (hwaiting : ∀ l w, k'.backlog? l = some w → ∀ q ∈ w, k'.number? q = none) : k'.Tidy := by
  refine ⟨?_, ?_, ?_, fun e => (h.once e).sublist (htargets e), hwaiting⟩
  · intro fd f f' hf hf'
    by_cases hg : f ∈ g
    · by_cases hg' : f' ∈ g
      · exact Option.mem_unique hg hg'
      · exact absurd ((hothers fd f' hg').mp hf') (hfresh f hg fd hf f')
    · have hold := (hothers fd f hg).mp hf
      by_cases hg' : f' ∈ g
      · exact absurd hold (hfresh f' hg' fd hf' f)
      · exact h.unique fd f f' hold ((hothers fd f' hg').mp hf')
  · intro e t ht
    exact (hothers t.1 t.2 (hleft e t ht)).mpr (h.held e t ((htargets e).subset ht))
  · intro e t ht
    exact (hpollable t.2 (hleft e t ht)).trans (h.pollable e t ((htargets e).subset ht))

/-- A socket that is what it was holds what it held. -/
theorem holds_socket_iff (h : k'.socket? q = k.socket? q) :
    k'.Holds fd (.socket q) ↔ k.Holds fd (.socket q) := by
  rw [Holds, Holds, Kernel.isOpen, Kernel.isOpen, number?, number?, h]

/-- The files of the third sort hold what they held as long as none is opened or
    closed. -/
theorem holds_other_iff (h : k'.others = k.others) {o : OtherKey} :
    k'.Holds fd (.other o) ↔ k.Holds fd (.other o) := by
  rw [Holds, Holds, otherShape?, otherShape?, h]

/-- What can be watched hangs on them alone. -/
theorem pollable_congr (h : k'.others = k.others) (f : OpenFile) :
    k'.pollable f = k.pollable f := by
  cases f with
  | socket q => rfl
  | interests e => rfl
  | other o => rw [pollable, pollable, h]

/-- What is done without naming one interest set, or if there is none yet:
    sockets that exist keep their numbers, what is closed stays closed, and the
    set keeps the entries of what is open still, and gets no others. -/
structure Aside (mine : Option InterestKey) (k k' : Kernel) : Prop where
  tidy : k.Tidy → k'.Tidy
  size : k.interests.size ≤ k'.interests.size
  known : ∀ q, (k.socket? q).isSome = true → (k'.socket? q).isSome = true
  number : ∀ q n, k.number? q = some n → k'.number? q = some n
  isOpen : ∀ q, (k.socket? q).isSome = true → k'.isOpen q = true → k.isOpen q = true
  shape : ∀ e ∈ mine, (k.shape? e).isSome = true → k'.shape? e = k.shape? e
  less : ∀ e ∈ mine, (k.shape? e).isSome = true → ∀ t ∈ k'.targets e, t ∈ k.targets e
  kept : k.Tidy → ∀ e ∈ mine, ∀ fd q, (fd, .socket q) ∈ k.targets e → k'.isOpen q = true →
    (fd, .socket q) ∈ k'.targets e

/-- What has a number exists. -/
theorem known_of_number? {n : Nat} (h : k.number? q = some n) : (k.socket? q).isSome = true := by
  rcases hq : k.socket? q with _ | x
  · simp [number?, hq] at h
  · rfl

/-- Two things done aside are done aside together. -/
theorem aside_trans (h : Aside mine k k') (h' : Aside mine k' k'') : Aside mine k k'' := by
  have hshape : ∀ e ∈ mine, (k.shape? e).isSome = true → (k'.shape? e).isSome = true := by
    intro e he hsome
    rw [h.shape e he hsome]
    exact hsome
  refine ⟨fun hk => h'.tidy (h.tidy hk), Nat.le_trans h.size h'.size,
    fun q hq => h'.known q (h.known q hq), fun q n hn => h'.number q n (h.number q n hn),
    fun q hq hopen => h.isOpen q hq (h'.isOpen q (h.known q hq) hopen),
    fun e he hsome => (h'.shape e he (hshape e he hsome)).trans (h.shape e he hsome),
    fun e he hsome t ht => h.less e he hsome t (h'.less e he (hshape e he hsome) t ht), ?_⟩
  intro hk e he fd q hmem hopen
  -- What is open at the end was open in between.
  have hknown := known_of_number? (hk.held e _ hmem).2
  exact h'.kept (h.tidy hk) e he fd q
    (h.kept hk e he fd q hmem (h'.isOpen q (h.known q hknown) hopen)) hopen

/-- What leaves the numbers, the marks and the contents of all sets alone. -/
theorem aside_of_same (hsize : k.interests.size ≤ k'.interests.size)
    (hknown : ∀ q, (k.socket? q).isSome = true → (k'.socket? q).isSome = true)
    (hnumber : ∀ q, k'.number? q = k.number? q) (hopen : ∀ q, k'.isOpen q = k.isOpen q)
    (hshape : ∀ e, k'.shape? e = k.shape? e) (htargets : ∀ e, (k'.targets e).Perm (k.targets e))
    (hothers : k'.others = k.others)
    (hwaiting : ∀ l w, k'.backlog? l = some w → ∀ q ∈ w,
      k.number? q = none ∨ ∃ l' w', k.backlog? l' = some w' ∧ q ∈ w') : Aside mine k k' := by
  -- What a file holds depends on its own row alone.
  have hholds : ∀ fd f, k'.Holds fd f ↔ k.Holds fd f := by
    intro fd f
    cases f with
    | socket q => rw [Holds, Holds, hopen, hnumber]
    | interests e => rw [Holds, Holds, hshape]
    | other o => exact holds_other_iff hothers
  refine ⟨fun hk => ⟨?_, ?_, ?_, ?_, ?_⟩, hsize, hknown, fun q n hn => (hnumber q).trans hn,
    fun q _ hq => (hopen q).symm.trans hq, fun e _ _ => hshape e,
    fun e _ _ t ht => (htargets e).mem_iff.mp ht,
    fun _ e _ fd q hmem _ => (htargets e).mem_iff.mpr hmem⟩
  · intro fd f g hf hg
    exact hk.unique fd f g ((hholds fd f).mp hf) ((hholds fd g).mp hg)
  · intro d t ht
    exact (hholds t.1 t.2).mpr (hk.held d t ((htargets d).mem_iff.mp ht))
  · intro d t ht
    exact (pollable_congr hothers t.2).trans (hk.pollable d t ((htargets d).mem_iff.mp ht))
  · intro d
    exact (htargets d).nodup_iff.mpr (hk.once d)
  · intro l w hw q hq
    rw [hnumber]
    rcases hwaiting l w hw q hq with hnone | ⟨l', w', hw', hq'⟩
    · exact hnone
    · exact hk.waiting l' w' hw' q hq'

/-- Three tables decide it. Limits, ports and addresses do not count. -/
theorem aside_of_tables (hsockets : k'.sockets = k.sockets)
    (hinterests : k'.interests = k.interests) (hothers : k'.others = k.others) :
    Aside mine k k' := by
  have hsocket : ∀ q, k'.socket? q = k.socket? q := fun q => by rw [socket?, socket?, hsockets]
  have hsize : k.interests.size = k'.interests.size := congrArg Table.size hinterests.symm
  -- All that is asked of a kernel here is read off the tables.
  refine aside_of_same (Nat.le_of_eq hsize) ?_ ?_ ?_ ?_ ?_ hothers ?_
  · intro q hq
    rwa [hsocket]
  · intro q
    rw [number?, number?, hsocket]
  · intro q
    rw [Kernel.isOpen, Kernel.isOpen, hsocket]
  · intro d
    rw [shape?, shape?, hinterests]
  · intro d
    rw [targets, targets, entries, entries, hinterests]
  · intro l w hw q hq
    refine Or.inr ⟨l, w, ?_, hq⟩
    rwa [backlog?, hsocket] at hw

theorem aside_refl (mine : Option InterestKey) (k : Kernel) : Aside mine k k :=
  aside_of_tables rfl rfl rfl

/-- The turns of entries do not count either. -/
theorem aside_reordered (h : Reordered k k') : Aside mine k k' := by
  rcases h with ⟨⟨interests, rfl⟩, hsize, hshape, htargets⟩
  exact aside_of_same (Nat.le_of_eq hsize.symm) (fun _ hq => hq) (fun _ => rfl)
    (fun _ => rfl) hshape htargets rfl (fun l w hw q hq => Or.inr ⟨l, w, hw, hq⟩)

/-! ### Sockets -/

/-- A socket that is rewritten keeps its number. -/
theorem number?_updateSocket {f : Socket → Socket} (hf : ∀ x, (f x).fd = x.fd) (k : Kernel)
    (p q : SocketKey) : (k.updateSocket p f).number? q = k.number? q := by
  rw [number?, number?, socket?_updateSocket]
  by_cases hq : q = p
  · rw [if_pos hq, hq]
    cases k.socket? p with
    | none => rfl
    | some x => exact hf x
  · rw [if_neg hq]

theorem isOpen_updateSocket {f : Socket → Socket} (hf : ∀ x, (f x).isOpen = x.isOpen) (k : Kernel)
    (p q : SocketKey) : (k.updateSocket p f).isOpen q = k.isOpen q := by
  rw [Kernel.isOpen, Kernel.isOpen, socket?_updateSocket]
  by_cases hq : q = p
  · rw [if_pos hq, hq]
    cases k.socket? p with
    | none => rfl
    | some x => exact hf x
  · rw [if_neg hq]

/-- A backlog after one socket was rewritten. -/
theorem backlog?_updateSocket (f : Socket → Socket) (k : Kernel) (p l : SocketKey) :
    (k.updateSocket p f).backlog? l =
      if l = p then (k.socket? p).bind fun x => (f x).backlog else k.backlog? l := by
  rw [backlog?, backlog?, socket?_updateSocket]
  by_cases hl : l = p
  · rw [if_pos hl, if_pos hl, Option.bind_map]
    rfl
  · rw [if_neg hl, if_neg hl]

/-- Rewriting a socket under its number, as long as nothing with a number is put
    into its backlog. -/
theorem aside_updateSocket {f : Socket → Socket} (hfd : ∀ x, (f x).fd = x.fd)
    (hopen : ∀ x, (f x).isOpen = x.isOpen) (p : SocketKey)
    (hbacklog : ∀ x w, (f x).backlog = some w → ∀ q ∈ w,
      k.number? q = none ∨ ∃ w', x.backlog = some w' ∧ q ∈ w') :
    Aside mine k (k.updateSocket p f) := by
  refine aside_of_same (Nat.le_refl _) ?_ (number?_updateSocket hfd k p)
    (isOpen_updateSocket hopen k p) (fun _ => rfl) (fun _ => List.Perm.refl _) rfl ?_
  · intro q hq
    rwa [known_updateSocket]
  · intro l w hw q hq
    rw [backlog?_updateSocket] at hw
    by_cases hl : l = p
    · rw [if_pos hl] at hw
      rcases Option.bind_eq_some_iff.mp hw with ⟨x, hx, hxw⟩
      refine (hbacklog x w hxw q hq).imp_right ?_
      rintro ⟨w', hw', hq'⟩
      exact ⟨p, w', by rw [backlog?, hx, Option.bind_some, hw'], hq'⟩
    · rw [if_neg hl] at hw
      exact Or.inr ⟨l, w, hw, hq⟩

/-- Rewriting a socket that keeps its number, its mark and its backlog. -/
theorem aside_rewrite {f : Socket → Socket} (hfd : ∀ x, (f x).fd = x.fd)
    (hopen : ∀ x, (f x).isOpen = x.isOpen) (hbacklog : ∀ x, (f x).backlog = x.backlog)
    (k : Kernel) (p : SocketKey) : Aside mine k (k.updateSocket p f) := by
  refine aside_updateSocket hfd hopen p ?_
  intro x w hw q hq
  exact Or.inr ⟨w, (hbacklog x).symm.trans hw, hq⟩

/-- What waited to be accepted gets a number that nobody holds. -/
theorem aside_number {p : SocketKey} (hnone : k.number? p = none)
    (hfree : ∀ g, ¬ k.Holds fd g) (hunlisted : ∀ l w, k.backlog? l = some w → p ∉ w) :
    Aside mine k (k.updateSocket p fun x => { x with fd := some fd }) := by
  have hopen := isOpen_updateSocket (f := fun x => { x with fd := some fd }) (fun _ => rfl) k p
  have hsocket : ∀ q, q ≠ p →
      (k.updateSocket p fun x => { x with fd := some fd }).socket? q = k.socket? q := by
    intro q hq
    rw [socket?_updateSocket, if_neg hq]
  have hother : ∀ q, q ≠ p →
      (k.updateSocket p fun x => { x with fd := some fd }).number? q = k.number? q := by
    intro q hq
    rw [number?, number?, hsocket q hq]
  have hself : ∀ n, (k.updateSocket p fun x => { x with fd := some fd }).number? p = some n →
      n = fd := by
    intro n hn
    rw [number?, socket?_updateSocket, if_pos rfl] at hn
    cases hp : k.socket? p with
    | none => simp [hp] at hn
    | some x => simpa [hp] using hn.symm
  -- Whatever has a number is another socket, and that one has not changed.
  have hne : ∀ q n, k.number? q = some n → q ≠ p := by
    rintro q n hn rfl
    simp [hnone] at hn
  refine ⟨fun hk => hk.of_others (some (.socket p)) ?_ (fun f _ => pollable_congr rfl f) ?_ ?_ ?_
    ?_, Nat.le_refl _, ?_, ?_, ?_, fun _ _ _ => rfl, fun _ _ _ t ht => ht,
    fun _ _ _ _ _ hmem _ => hmem⟩
  · intro n f hf
    cases f with
    | interests d => exact Iff.rfl
    | other o => exact Iff.rfl
    | socket q => exact holds_socket_iff (hsocket q fun heq => hf (heq ▸ rfl))
  · rintro f hf n hn
    rw [← Option.some.inj hf] at hn
    rw [hself n hn.2]
    exact hfree
  · exact fun d => List.Sublist.refl _
  · -- What is watched had a number before.
    intro d t ht hp
    have hheld := hk.held d t ht
    rw [← Option.some.inj hp] at hheld
    exact hne p t.1 hheld.2 rfl
  · intro l w hw q hq
    have hold : k.backlog? l = some w := by
      rw [backlog?_updateSocket] at hw
      by_cases hl : l = p
      · rwa [if_pos hl, ← hl] at hw
      · rwa [if_neg hl] at hw
    have hqp : q ≠ p := fun heq => hunlisted l w hold (heq ▸ hq)
    exact (hother q hqp).trans (hk.waiting l w hold q hq)
  · intro q hq
    rwa [known_updateSocket]
  · intro q n hn
    exact (hother q (hne q n hn)).trans hn
  · intro q _ hq
    exact (hopen q).symm.trans hq

/-- A new socket, under a number that nobody holds or without one. Nothing with
    a number waits there, and it waits nowhere if it has a number. -/
theorem aside_addSocket {x : Socket} (hfree : ∀ n, x.fd = some n → ∀ g, ¬ k.Holds n g)
    (hbacklog : ∀ w, x.backlog = some w → ∀ q ∈ w, k.number? q = none ∧ q ≠ k.sockets.size)
    (hunlisted : x.fd ≠ none → ∀ l w, k.backlog? l = some w → k.sockets.size ∉ w) :
    Aside mine k (k.addSocket x).1 := by
  have hnone : k.socket? k.sockets.size = none := socket?_size k
  have hother : ∀ q, q ≠ k.sockets.size → (k.addSocket x).1.socket? q = k.socket? q := by
    intro q hq
    rw [socket?_addSocket, if_neg hq]
  have hself : (k.addSocket x).1.socket? k.sockets.size = some x := by
    rw [socket?_addSocket, if_pos rfl]
  have hne : ∀ q, (k.socket? q).isSome = true → q ≠ k.sockets.size := by
    rintro q hq rfl
    simp [hnone] at hq
  refine ⟨fun hk => hk.of_others (some (.socket k.sockets.size)) ?_
    (fun f _ => pollable_congr rfl f) ?_ ?_ ?_ ?_, Nat.le_refl _,
    ?_, ?_, ?_, fun _ _ _ => rfl, fun _ _ _ t ht => ht, fun _ _ _ _ _ hmem _ => hmem⟩
  · intro n f hf
    cases f with
    | interests d => exact Iff.rfl
    | other o => exact Iff.rfl
    | socket q => exact holds_socket_iff (hother q fun heq => hf (heq ▸ rfl))
  · intro f hf n hn
    rw [← Option.some.inj hf, Holds, number?, hself] at hn
    exact hfree n hn.2
  · exact fun d => List.Sublist.refl _
  · intro d t ht hsize
    have hheld := hk.held d t ht
    rw [← Option.some.inj hsize] at hheld
    exact hne _ (known_of_number? hheld.2) rfl
  · intro l w hw q hq
    by_cases hl : l = k.sockets.size
    · -- What waits at the new socket is none that exists with a number.
      rw [backlog?, hl, hself] at hw
      rw [number?, hother q (hbacklog w hw q hq).2]
      exact (hbacklog w hw q hq).1
    · have hold : k.backlog? l = some w := by rwa [backlog?, hother l hl] at hw
      by_cases hnew : q = k.sockets.size
      · rw [number?, hnew, hself]
        by_contra hfd
        exact hunlisted hfd l w hold (hnew ▸ hq)
      · rw [number?, hother q hnew]
        exact hk.waiting l w hold q hq
  · intro q hq
    rwa [hother q (hne q hq)]
  · intro q n hn
    rwa [number?, hother q (hne q (known_of_number? hn))]
  · intro q hq hopen
    rwa [Kernel.isOpen, hother q (hne q hq)] at hopen

/-- A socket that is closed leaves all sets. -/
theorem aside_shut (k : Kernel) (p : SocketKey) : Aside mine k ((k.updateSocket p fun x =>
    { x with isOpen := false, inbox := [], backlog := none }).forget (.socket p)) := by
  generalize hk' : (k.updateSocket p fun x =>
    { x with isOpen := false, inbox := [], backlog := none }).forget (.socket p) = k'
  have hsocket : ∀ q, k'.socket? q = (k.updateSocket p fun x =>
      { x with isOpen := false, inbox := [], backlog := none }).socket? q := by
    intro q
    rw [← hk']
    rfl
  have hnumber : ∀ q, k'.number? q = k.number? q := by
    intro q
    rw [number?, hsocket]
    exact number?_updateSocket (f := fun x =>
      { x with isOpen := false, inbox := [], backlog := none }) (fun _ => rfl) k p q
  have hother : ∀ q, q ≠ p → k'.socket? q = k.socket? q := by
    intro q hq
    rw [hsocket, socket?_updateSocket, if_neg hq]
  have hshut : k'.isOpen p = false ∧ k'.backlog? p = none := by
    rw [Kernel.isOpen, backlog?, hsocket, socket?_updateSocket, if_pos rfl]
    cases k.socket? p with
    | none => exact ⟨rfl, rfl⟩
    | some x => exact ⟨rfl, rfl⟩
  have hopen : ∀ q, k'.isOpen q = true → q ≠ p ∧ k.isOpen q = true := by
    intro q hq
    have hne : q ≠ p := by
      rintro rfl
      rw [hshut.1] at hq
      exact Bool.false_ne_true hq
    refine ⟨hne, ?_⟩
    rwa [Kernel.isOpen, hother q hne] at hq
  have hshape : ∀ d, k'.shape? d = k.shape? d := by
    intro d
    rw [← hk', shape?_forget]
    rfl
  have hothers : k'.others = k.others := by
    rw [← hk']
    rfl
  have htargets : ∀ d, k'.targets d = (k.targets d).filter fun t => t.2 != .socket p := by
    intro d
    rw [← hk', targets_forget]
    rfl
  have hmem : ∀ d t, t ∈ k'.targets d ↔ t ∈ k.targets d ∧ t.2 ≠ .socket p := by
    intro d t
    rw [htargets, List.mem_filter, bne_iff_ne]
  -- The socket keeps its number but holds it no longer, so nobody holds a new one.
  refine ⟨fun hk => hk.of_others (some (.socket p)) ?_ (fun f _ => pollable_congr hothers f) ?_ ?_
    ?_ ?_, ?_, ?_, ?_, ?_, fun e _ _ => hshape e, fun e _ _ t ht => ((hmem e t).mp ht).1, ?_⟩
  · intro n f hf
    cases f with
    | interests d => rw [Holds, Holds, hshape]
    | other o => exact holds_other_iff hothers
    | socket q => exact holds_socket_iff (hother q fun heq => hf (heq ▸ rfl))
  · intro f hf n hn
    rw [← Option.some.inj hf, Holds, hshut.1] at hn
    exact absurd hn.1 Bool.false_ne_true
  · intro d
    rw [htargets]
    exact List.filter_sublist
  · intro d t ht hp
    exact ((hmem d t).mp ht).2 (Option.some.inj hp).symm
  · intro l w hw q hq
    have hl : l ≠ p := by
      rintro rfl
      rw [hshut.2] at hw
      simp at hw
    rw [backlog?, hother l hl] at hw
    rw [hnumber]
    exact hk.waiting l w hw q hq
  · rw [← hk', size_forget]
    exact Nat.le_refl _
  · intro q hq
    rw [hsocket, known_updateSocket]
    exact hq
  · intro q n hn
    exact (hnumber q).trans hn
  · intro q _ hq
    exact (hopen q hq).2
  · intro _ e _ n q hq hup
    exact (hmem e _).mpr ⟨hq, fun heq => (hopen q hup).1 (OpenFile.socket.inj heq)⟩

/-! ### Moving bytes and closing -/

/-- Reading takes bytes out of a queue, or the error that is reported once. -/
theorem aside_receive (k : Kernel) (q : SocketKey) (n : Nat) : Aside mine k (k.receive q n).1 := by
  -- There was something to read, nothing, or an error.
  rcases receive_cases k q n with ⟨sock, -, heq⟩ | ⟨-, -, hsame | hreported⟩
  · rw [heq]
    exact aside_rewrite (f := fun x => { x with inbox := x.inbox.drop n }) (fun _ => rfl)
      (fun _ => rfl) (fun _ => rfl) k q
  · rw [hsame]
    exact aside_refl mine k
  · rw [hreported]
    exact aside_rewrite (f := fun x => { x with pendingError := none }) (fun _ => rfl)
      (fun _ => rfl) (fun _ => rfl) k q

/-- Bytes arrive at the peer and wake those who watch it. If it is closed the stream is
    marked as broken. -/
theorem aside_pass (k : Kernel) (q : SocketKey) (sock : Socket) (data : Bytes) :
    Aside mine k (k.pass q sock data).1 := by
  unfold pass
  split
  · exact aside_refl mine k
  · rcases sock.peer with _ | p
    · exact aside_refl mine k
    · dsimp only
      split
      · exact aside_trans (aside_rewrite (f := fun x => { x with inbox := x.inbox ++ data })
          (fun _ => rfl) (fun _ => rfl) (fun _ => rfl) k p)
          (aside_reordered (reordered_wake _ (.socket p)))
      · exact aside_rewrite (f := fun x => { x with broken := true }) (fun _ => rfl)
          (fun _ => rfl) (fun _ => rfl) k q

/-- A stream on the network may have an error to report first. -/
theorem aside_send (k : Kernel) (q : SocketKey) (data : Bytes) :
    Aside mine k (k.send q data).1 := by
  unfold send
  rcases k.socket? q with _ | sock
  · exact aside_refl mine k
  · have hpass : Aside mine k (k.pass q sock data).1 := aside_pass k q sock data
    dsimp only
    split
    · exact aside_refl mine k
    · -- Only a stream on the network can have an error waiting.
      rcases sock.domain with _ | _
      · exact hpass
      · rcases sock.pendingError with _ | code
        · exact hpass
        · exact aside_rewrite (f := fun x => { x with pendingError := none }) (fun _ => rfl)
            (fun _ => rfl) (fun _ => rfl) k q

/-- The peer of what is closed gets to know of it. -/
theorem aside_tell (k : Kernel) (sock : Socket) (abandoned : Bool) :
    Aside mine k (k.tell sock abandoned) := by
  unfold tell
  rcases sock.peer with _ | p
  · exact aside_refl mine k
  · -- Neither domain touches more than the marks of the stream.
    refine aside_rewrite ?_ ?_ ?_ k p
    all_goals
      intro x
      rw [cutOff]
      cases sock.domain with
      | unix => rfl
      | internet => rfl

/-- A socket that is closed tells its peer and leaves the sets. To close it again does
    nothing. -/
theorem aside_closeOne (abandoned : Bool) (k : Kernel) (q : SocketKey) :
    Aside mine k (closeOne abandoned k q) := by
  rcases hq : k.socket? q with _ | sock
  · simp only [closeOne, hq]
    exact aside_refl mine k
  · cases hopen : sock.isOpen with
    | false =>
        simp only [closeOne, hq, hopen, Bool.not_false, if_true]
        exact aside_refl mine k
    | true =>
        -- The peer is told and its watchers woken before the socket goes.
        rcases closeOne_eq hq hopen abandoned with ⟨v, hv, heq⟩
        rw [heq]
        exact aside_trans (aside_trans (aside_tell k sock abandoned) (aside_reordered hv))
          (aside_shut v q)

/-- A listener goes with all that waits at it. -/
theorem aside_close (k : Kernel) (q : SocketKey) : Aside mine k (k.close q) := by
  rw [close_eq_foldl]
  generalize k.casualties q = down
  -- One socket after the other.
  induction down generalizing k with
  | nil => exact aside_refl mine k
  | cons d rest ih =>
      rw [List.foldl_cons]
      exact aside_trans (aside_closeOne d.2 k d.1) (ih _)

/-! ### Opening -/

/-- What may open sockets, each of which has a number. -/
structure Numbers (mine : Option InterestKey) (k k' : Kernel) (qs : List SocketKey) : Prop where
  aside : Aside mine k k'
  numbered : ∀ q ∈ qs, (k'.number? q).isSome = true

theorem numbers_nil (h : Aside mine k k') : Numbers mine k k' [] :=
  ⟨h, fun _ hq => absurd hq List.not_mem_nil⟩

/-- What is opened keeps its number. -/
theorem Numbers.trans {qs : List SocketKey} (h : Numbers mine k k' qs) (h' : Aside mine k' k'') :
    Numbers mine k k'' qs := by
  refine ⟨aside_trans h.aside h', ?_⟩
  intro q hq
  rcases Option.isSome_iff_exists.mp (h.numbered q hq) with ⟨n, hn⟩
  rw [h'.number q n hn]
  rfl

/-- Something may be done aside before a socket is opened. -/
theorem Numbers.of_aside {qs : List SocketKey} (h : Aside mine k k') (h' : Numbers mine k' k'' qs) :
    Numbers mine k k'' qs := ⟨aside_trans h h'.aside, h'.numbered⟩

theorem aside_freshPort (k : Kernel) : Aside mine k k.freshPort.1 := aside_of_tables rfl rfl rfl

/-- A number that is given out is held by nobody. -/
theorem not_holds_freshFd (k : Kernel) (g : OpenFile) : ¬ k.Holds k.freshFd g :=
  at?_eq_none_iff.mp (at?_freshFd k) g

/-- A new socket has the number it was given. -/
theorem number?_addSocket (k : Kernel) (x : Socket) :
    (k.addSocket x).1.number? k.sockets.size = x.fd := by
  rw [number?, socket?_addSocket_self, Option.bind_some]

/-- A socket where nothing waits is added under a number that nobody holds. -/
theorem numbers_addSocket (h : k.Wired) {x : Socket} {n : Nat} (hfd : x.fd = some n)
    (hfree : ∀ g, ¬ k.Holds n g) (hbacklog : x.backlog.getD [] = []) :
    Numbers mine k (k.addSocket x).1 [k.sockets.size] := by
  refine ⟨aside_addSocket ?_ ?_ ?_, ?_⟩
  · intro m hm
    rw [← Option.some.inj (hfd.symm.trans hm)]
    exact hfree
  · intro w hw q hq
    rw [hw, Option.getD_some] at hbacklog
    rw [hbacklog] at hq
    exact absurd hq List.not_mem_nil
  · intro _ l w hw
    exact h.notMem_of_size_le (Nat.le_refl _) hw
  · intro q hq
    rw [List.mem_singleton.mp hq, number?_addSocket, hfd]
    rfl

/-- A number is held by who held it before, or by the new socket. -/
theorem holds_addSocket {x : Socket} {n : Nat} {g : OpenFile} (h : (k.addSocket x).1.Holds n g) :
    k.Holds n g ∨ x.fd = some n := by
  cases g with
  | interests d => exact Or.inl h
  | other o => exact Or.inl h
  | socket q =>
      rw [Holds, Kernel.isOpen, number?, socket?_addSocket] at h
      -- The new socket is the only one that can hold a new number.
      by_cases hq : q = k.sockets.size
      · rw [if_pos hq] at h
        exact Or.inr h.2
      · rw [if_neg hq] at h
        exact Or.inl h

/-- Two numbers that the program chooses, free and different. -/
theorem numbers_openPair (h : k.Wired) {fdA fdB : Nat} (hA : k.at? fdA = none)
    (hB : k.at? fdB = none) (hne : fdA ≠ fdB) :
    Numbers mine k (k.openPair fdA fdB).1 [k.sockets.size, k.sockets.size + 1] := by
  have hfirst : Numbers mine k (k.addSocket
      { domain := .unix, fd := some fdA, peer := some (k.sockets.size + 1) }).1 [k.sockets.size] :=
    numbers_addSocket h rfl (at?_eq_none_iff.mp hA) rfl
  -- The second number is still nobody's, and nothing waits at the first socket.
  have hsecond : Aside mine (k.addSocket
      { domain := .unix, fd := some fdA, peer := some (k.sockets.size + 1) }).1
      (k.openPair fdA fdB).1 := by
    refine aside_addSocket ?_ ?_ ?_
    · intro n hn g hg
      rw [← Option.some.inj hn] at hg
      rcases holds_addSocket hg with hold | hnew
      · exact at?_eq_none_iff.mp hB g hold
      · exact hne (Option.some.inj hnew)
    · simp
    · intro _ l w hw
      rw [size_addSocket]
      rw [backlog?, socket?_addSocket] at hw
      by_cases hl : l = k.sockets.size
      · simp [hl] at hw
      · rw [if_neg hl] at hw
        exact h.notMem_of_size_le (Nat.le_succ _) hw
  refine ⟨aside_trans hfirst.aside hsecond, ?_⟩
  intro q hq
  rcases List.mem_cons.mp hq with rfl | hq
  · exact (hfirst.trans hsecond).numbered _ List.mem_cons_self
  · have hsize := size_addSocket k
      { domain := .unix, fd := some fdA, peer := some (k.sockets.size + 1) }
    have hnumber := number?_addSocket (k.addSocket
      { domain := .unix, fd := some fdA, peer := some (k.sockets.size + 1) }).1
      { domain := .unix, fd := some fdB, peer := some k.sockets.size }
    rw [hsize] at hnumber
    rw [List.mem_singleton.mp hq, openPair, hnumber]
    rfl

/-- A listener gets the lowest free number. -/
theorem numbers_listen (h : k.Wired) (a : Address) :
    Numbers mine k (k.listen a).1 (opened (k.listen a).2) := by
  unfold listen
  split
  · exact numbers_nil (aside_refl mine k)
  · rcases k.listenFault a.ip with _ | code
    · dsimp only
      split
      · exact numbers_nil (aside_refl mine k)
      · -- A port of the system is counted first, which concerns no number.
        by_cases hport : a.port = 0
        · rw [if_pos hport]
          have hwired : k.freshPort.1.Wired := wired_alike h (alike_of_sockets rfl)
          exact Numbers.of_aside (aside_freshPort k)
            (numbers_addSocket hwired rfl (not_holds_freshFd _) rfl)
        · rw [if_neg hport]
          exact numbers_addSocket h rfl (not_holds_freshFd _) rfl
    · exact numbers_nil (aside_refl mine k)

/-- A socket without a number is added and waits at a listener. -/
theorem aside_enqueue {x : Socket} (hfd : x.fd = none) (hbacklog : x.backlog = none)
    (k : Kernel) (l : SocketKey) {server : SocketKey} (hserver : server = k.sockets.size) :
    Aside mine k ((k.addSocket x).1.updateSocket l fun y =>
      { y with backlog := y.backlog.map fun waiting => waiting ++ [server] }) := by
  have hnew : Aside mine k (k.addSocket x).1 :=
    aside_addSocket (by simp [hfd]) (by simp [hbacklog]) (by simp [hfd])
  refine aside_trans hnew (aside_updateSocket (f := fun y =>
    { y with backlog := y.backlog.map fun waiting => waiting ++ [server] })
    (fun _ => rfl) (fun _ => rfl) l ?_)
  intro y w hw q hq
  rcases Option.map_eq_some_iff.mp hw with ⟨w', hw', rfl⟩
  rcases List.mem_append.mp hq with hq | hq
  · exact Or.inr ⟨w', hw', hq⟩
  · rw [List.mem_singleton.mp hq, hserver, number?_addSocket]
    exact Or.inl hfd

/-- The client gets a number at once. The other end waits at the listener without one.
    -/
theorem numbers_connect (h : k.Wired) (a : Address) :
    Numbers mine k (k.connect a).1 (opened (k.connect a).2) := by
  unfold connect
  split
  · exact numbers_nil (aside_refl mine k)
  · dsimp only
    rcases k.reachFault (IpAddress.target a.ip) with _ | code
    · rcases k.listener? ⟨a.ip.target, a.port⟩ with _ | l
      · exact numbers_nil (aside_refl mine k)
      · dsimp only
        have hwired : k.freshPort.1.Wired := wired_alike h (alike_of_sockets rfl)
        -- The client has a number, and the server gets one when it is accepted.
        refine Numbers.of_aside (aside_freshPort k) ?_
        refine ((numbers_addSocket hwired ?_ (not_holds_freshFd _) ?_).trans
          (aside_enqueue ?_ ?_ _ l ?_)).trans (aside_reordered (reordered_wake _ (.socket l)))
        · rfl
        · rfl
        · rfl
        · rfl
        · exact (size_addSocket _ _).symm
    · exact numbers_nil (aside_refl mine k)

/-- What waited first gets the lowest free number. That it had none is part of what is
    in order. -/
theorem numbers_accept (h : k.Wired) (q : SocketKey) (signalled : Bool) :
    k.Tidy → Numbers mine k (k.accept q signalled).1 (opened (k.accept q signalled).2) := by
  intro htidy
  unfold accept
  split
  · exact numbers_nil (aside_refl mine k)
  · rcases hq : k.socket? q with _ | sock
    · exact numbers_nil (aside_refl mine k)
    · dsimp only
      rcases hbacklog : sock.backlog with _ | _ | ⟨c, rest⟩
      · exact numbers_nil (aside_refl mine k)
      · exact numbers_nil (aside_refl mine k)
      · have hwaits : k.backlog? q = some (c :: rest) := by
          rw [backlog?, hq, Option.bind_some, hbacklog]
        have hnone := htidy.waiting q _ hwaits c List.mem_cons_self
        have hnumber := number?_updateSocket (f := fun x => { x with backlog := some rest })
          (fun _ => rfl) k q
        have hopen := isOpen_updateSocket (f := fun x => { x with backlog := some rest })
          (fun _ => rfl) k q
        -- It is taken out of the backlog before it gets its number.
        have hdequeue :
            Aside mine k (k.updateSocket q fun x => { x with backlog := some rest }) := by
          refine aside_updateSocket (f := fun x => { x with backlog := some rest })
            (fun _ => rfl) (fun _ => rfl) q ?_
          intro x w hw p hp
          rw [← Option.some.inj hw] at hp
          exact Or.inl (htidy.waiting q _ hwaits p (List.mem_cons_of_mem c hp))
        refine ⟨aside_trans hdequeue (aside_number ?_ ?_ ?_), ?_⟩
        · rw [hnumber]
          exact hnone
        · intro g hg
          refine not_holds_freshFd k g ?_
          cases g with
          | interests d => exact hg
          | other o => exact hg
          | socket p => exact ⟨(hopen p).symm.trans hg.1, (hnumber p).symm.trans hg.2⟩
        · -- It waited at one listener and there only once.
          intro l w hw hmem
          rw [backlog?_updateSocket] at hw
          by_cases hl : l = q
          · rw [if_pos hl, hq, Option.bind_some] at hw
            rw [← Option.some.inj hw] at hmem
            exact (List.nodup_cons.mp (h.waiting q _ hwaits).1).1 hmem
          · rw [if_neg hl] at hw
            exact hl (h.apart l q w _ c hw hwaits hmem List.mem_cons_self)
        · intro p hp
          rw [opened, List.mem_singleton] at hp
          have hknown := known_of_isOpen ((h.waiting q _ hwaits).2 c List.mem_cons_self)
          rw [← known_updateSocket (fun x => { x with backlog := some rest }) k q c] at hknown
          rcases Option.isSome_iff_exists.mp hknown with ⟨y, hy⟩
          rw [hp, number?, socket?_updateSocket, if_pos rfl, hy]
          rfl

/-- A listener and a client with numbers, and the client's other end, which waits
    at the listener without one. -/
theorem numbers_addWaiting (h : k.Wired) {x y z : Socket}
    (hz : z.fd = some k.freshFd ∧ z.backlog = some [k.sockets.size + 2])
    (hx : x.fd = some (k.addSocket z).1.freshFd ∧ x.backlog = none)
    (hy : y.fd = none ∧ y.backlog = none) :
    Numbers mine k (((k.addSocket z).1.addSocket x).1.addSocket y).1
      [k.sockets.size, k.sockets.size + 1] := by
  have hsize : (k.addSocket z).1.sockets.size = k.sockets.size + 1 := size_addSocket k z
  -- The three are added one after the other, and each finds its number free.
  have hlistener : Aside mine k (k.addSocket z).1 := by
    refine aside_addSocket ?_ ?_ ?_
    · intro n hn
      rw [← Option.some.inj (hz.1.symm.trans hn)]
      exact not_holds_freshFd k
    · -- What waits there does not exist yet.
      intro w hw p hp
      rw [← Option.some.inj (hz.2.symm.trans hw), List.mem_singleton] at hp
      have hnone : k.socket? p = none :=
        Array.getElem?_eq_none (by rw [hp]; exact Nat.le_add_right _ 2)
      have hlater : (k.sockets.size + 2 : Nat) ≠ k.sockets.size := by omega
      exact ⟨by rw [number?, hnone]; rfl, hp ▸ hlater⟩
    · intro _ l w hw
      exact h.notMem_of_size_le (Nat.le_refl _) hw
  have hclient : Aside mine (k.addSocket z).1 ((k.addSocket z).1.addSocket x).1 := by
    refine aside_addSocket ?_ (by simp [hx.2]) ?_
    · intro n hn
      rw [← Option.some.inj (hx.1.symm.trans hn)]
      exact not_holds_freshFd _
    · intro _ l w hw hmem
      rw [hsize] at hmem
      rw [backlog?, socket?_addSocket] at hw
      by_cases hl : l = k.sockets.size
      · rw [if_pos hl, Option.bind_some, hz.2] at hw
        rw [← Option.some.inj hw, List.mem_singleton] at hmem
        omega
      · rw [if_neg hl] at hw
        exact h.notMem_of_size_le (Nat.le_succ _) hw hmem
  have hserver : Aside mine ((k.addSocket z).1.addSocket x).1
      (((k.addSocket z).1.addSocket x).1.addSocket y).1 :=
    aside_addSocket (by simp [hy.1]) (by simp [hy.2]) (by simp [hy.1])
  have hfirst : (k.addSocket z).1.number? k.sockets.size = some k.freshFd := by
    rw [number?_addSocket, hz.1]
  have hsecond : ((k.addSocket z).1.addSocket x).1.number? (k.sockets.size + 1) =
      some (k.addSocket z).1.freshFd := by
    rw [← hsize, number?_addSocket, hx.1]
  refine ⟨aside_trans (aside_trans hlistener hclient) hserver, ?_⟩
  intro q hq
  rcases List.mem_cons.mp hq with rfl | hq
  · rw [hserver.number _ _ (hclient.number _ _ hfirst)]
    rfl
  · rw [List.mem_singleton.mp hq, hserver.number _ _ hsecond]
    rfl

/-- A listener and a client of it, which is accepted later. -/
theorem numbers_listenLocal (h : k.Wired) :
    (∃ code, k.listenLocal = (k, .error code)) ∨
      ∃ k', k.listenLocal = (k', .ok (k.sockets.size, k.sockets.size + 1)) ∧
        Numbers mine k k' [k.sockets.size, k.sockets.size + 1] := by
  unfold listenLocal
  split
  · exact Or.inl ⟨_, rfl⟩
  · refine Or.inr ⟨_, rfl, numbers_addWaiting h ⟨?_, ?_⟩ ⟨?_, ?_⟩ ⟨?_, ?_⟩⟩
    all_goals rfl

/-! ### Other files -/

/-- What is done to one file that is neither socket nor interest set: it may be
    opened under a number that nobody holds, or leave the sets that watch it. -/
theorem aside_of_other {o : OtherKey} (hsockets : k'.sockets = k.sockets)
    (hsize : k'.interests.size = k.interests.size) (hshape : ∀ e, k'.shape? e = k.shape? e)
    (hothers : ∀ p, p ≠ o → k'.others.get? p = k.others.get? p)
    (hfresh : ∀ n, k'.otherShape? o = some (n, true) → ∀ g, ¬ k.Holds n g)
    (htargets : ∀ e, (k'.targets e).Sublist (k.targets e))
    (hleft : k.Tidy → ∀ e, ∀ t ∈ k'.targets e, t.2 ≠ .other o)
    (hkept : ∀ e n q, (n, .socket q) ∈ k.targets e → (n, .socket q) ∈ k'.targets e) :
    Aside mine k k' := by
  have hsocket : ∀ q, k'.socket? q = k.socket? q := fun q => by rw [socket?, socket?, hsockets]
  have hne : ∀ {p}, .other p ∉ some (OpenFile.other o) → p ≠ o := fun hp heq => hp (heq ▸ rfl)
  refine ⟨fun hk => hk.of_others (some (.other o)) ?_ ?_ ?_ htargets ?_ ?_,
    Nat.le_of_eq hsize.symm, ?_, ?_, ?_, fun e _ _ => hshape e,
    fun e _ _ t ht => (htargets e).subset ht, fun _ e _ n q ht _ => hkept e n q ht⟩
  · intro n f hf
    -- Files of the two other sorts are what they were.
    cases f with
    | socket q => exact holds_socket_iff (hsocket q)
    | interests e => rw [Holds, Holds, hshape]
    | other p => rw [Holds, Holds, otherShape?, otherShape?, hothers p (hne hf)]
  · intro f hf
    cases f with
    | other p => rw [pollable, pollable, hothers p (hne hf)]
    | _ => rfl
  · intro f hf n hn
    rw [← Option.some.inj hf] at hn
    exact hfresh n hn
  · intro e t ht ho
    exact hleft hk e t ht (Option.some.inj ho).symm
  · intro l w hw q hq
    rw [backlog?, hsocket] at hw
    rw [number?, hsocket]
    exact hk.waiting l w hw q hq
  · intro q hq
    rwa [hsocket]
  · intro q n hn
    rwa [number?, hsocket]
  · intro q _ hq
    rwa [Kernel.isOpen, hsocket] at hq

/-- A new file gets a number that nobody holds, and no set watches it. -/
theorem aside_openOther (pollable : Bool) (k : Kernel) :
    Aside mine k (k.openOther pollable).1 := by
  unfold openOther
  split
  · exact aside_refl mine k
  · refine aside_of_other (o := k.others.size) rfl rfl (fun _ => rfl) ?_ ?_
      (fun _ => List.Sublist.refl _) ?_ (fun _ _ _ ht => ht)
    · intro p hp
      exact (Table.get?_add _ _ _).trans (if_neg hp)
    · intro n hn
      rw [otherShape?, Table.get?_add, if_pos rfl] at hn
      rw [← (Prod.mk.inj (Option.some.inj hn)).1]
      exact not_holds_freshFd k
    · -- What is watched is there already.
      intro hk e t ht heq
      have hheld := hk.held e t ht
      rw [heq, Holds, otherShape?, show k.others.get? k.others.size = none from
        Array.getElem?_eq_none (Nat.le_refl _)] at hheld
      exact absurd hheld (by simp only [Option.map_none, reduceCtorEq, not_false_eq_true])

/-- A file that is closed holds its number no longer, and the sets let go of it. -/
theorem aside_closeOther (o : OtherKey) (k : Kernel) : Aside mine k (k.closeOther o) := by
  have htargets : ∀ e, (k.closeOther o).targets e =
      (k.targets e).filter fun t => t.2 != .other o := by
    intro e
    rw [closeOther, targets_forget]
    rfl
  have hrow : ∀ p, (k.closeOther o).others.get? p =
      if p = o then (k.others.get? o).map fun x => { x with isOpen := false }
      else k.others.get? p := fun p => Table.get?_update _ _ _ p
  refine aside_of_other (o := o) rfl (size_forget _ _) ?_ ?_ ?_ ?_ ?_ ?_
  · intro e
    rw [closeOther, shape?_forget]
    rfl
  · intro p hp
    rw [hrow, if_neg hp]
  · -- It is closed, and holds nothing.
    intro n hn
    rw [otherShape?, hrow, if_pos rfl] at hn
    rcases k.others.get? o with _ | x
    · exact absurd hn (by simp)
    · exact absurd hn (by simp)
  · intro e
    rw [htargets]
    exact List.filter_sublist
  · intro _ e t ht
    rw [htargets, List.mem_filter, bne_iff_ne] at ht
    exact ht.2
  · intro e n q ht
    rw [htargets, List.mem_filter]
    exact ⟨ht, by simp only [bne_iff_ne, ne_eq, reduceCtorEq, not_false_eq_true]⟩

/-- Whether something can be read makes no difference to numbers and entries. -/
theorem aside_setReadable (o : OtherKey) (readable : Bool) (k : Kernel) :
    Aside mine k (k.setReadable o readable) := by
  have hrow : ∀ p, (k.others.update o fun x => { x with readable }).get? p =
      if p = o then (k.others.get? o).map fun x => { x with readable }
      else k.others.get? p := fun p => Table.get?_update _ _ _ p
  have hrewrite : Aside mine k (k.updateOther o fun x => { x with readable }) := by
    refine ⟨fun hk => hk.of_others none ?_ ?_ (fun f hf => absurd hf (by simp))
      (fun _ => List.Sublist.refl _) (fun _ _ _ => by simp) hk.waiting, Nat.le_refl _,
      fun _ hq => hq, fun _ _ hn => hn, fun _ _ hq => hq, fun _ _ _ => rfl,
      fun _ _ _ _ ht => ht, fun _ _ _ _ _ ht _ => ht⟩
    · intro n f _
      cases f with
      | other p =>
          rw [Holds, Holds, otherShape?, otherShape?, updateOther, hrow]
          by_cases hp : p = o
          · rw [if_pos hp, hp, Option.map_map]
            rfl
          · rw [if_neg hp]
      | _ => exact Iff.rfl
    · intro f _
      cases f with
      | other p =>
          rw [pollable, pollable, updateOther, hrow]
          by_cases hp : p = o
          · rw [if_pos hp, hp]
            cases k.others.get? o with
            | none => rfl
            | some x => rfl
          · rw [if_neg hp]
      | _ => rfl
  unfold setReadable
  dsimp only
  split
  · exact aside_trans hrewrite (aside_reordered (reordered_wake _ (.other o)))
  · exact hrewrite

end Kernel

end ReadNotify
