import ReadNotify.Proofs.Registration.Enrolled

/-!
# What Is Given Up

Of a connection that exists nobody can get a handle who could not get it from somebody
who has one. So its handles only become fewer in number or change hands, and the
question is when it is closed. In a chain it is closed exactly when the last handle
goes: what is closed on the way has no handle when it happens and gets none
afterwards, and what has lost its last handle is closed before the chain goes on.

The two halves are not alike. While a handle is given up and before the connection is
closed there is an open connection without a handle, so that the second half holds of
whole chains only, whereas the first holds of every single step. The first is
`Yields`, which chains are put together by, and `Sheds` is both.

## Main definitions

* `System.Yields`: Handles are given up, and what keeps one stays open.
* `System.Sheds`: And what keeps none is closed.
* `Handling.closes`: A connection is closed by name.

## Theorems

* `Does.yields`: What chains give up.
* `sheds_perform`, `sheds_handling`: And what everything that can be done gives up.
-/

namespace ReadNotify

/-- Whether a handling closes a connection by name. -/
def Handling.closes (c : ConnKey) (s : System) : Handling → Bool
  | .move (.close d) => d == c && (s.conn? c).isSome
  | _ => false

namespace System

variable {s t u : System} {but : ConnKey → Prop}

/-- Handles are given up, and what somebody still has a handle of stays open, but
    for some. -/
structure Yields (but : ConnKey → Prop) (s t : System) : Prop where
  held : ∀ c, t.isHeld c = true → s.isHeld c = true
  stays : ∀ c, ¬ but c → s.isConnected c = true → t.isHeld c = true → t.isConnected c = true

/-- Where nothing happens nothing is given up. -/
theorem yields_refl (but : ConnKey → Prop) (s : System) : Yields but s s :=
  ⟨fun _ h => h, fun _ _ h _ => h⟩

/-- What is given up in one part and in the next is given up in both. -/
theorem yields_trans (h : Yields but s t) (h' : Yields but t u) : Yields but s u :=
  ⟨fun c hc => h.held c (h'.held c hc), fun c hbut hopen hc =>
    h'.stays c hbut (h.stays c hbut hopen (h'.held c hc)) hc⟩

/-- More connections may be excepted. -/
theorem Yields.mono {but' : ConnKey → Prop} (h : Yields but s t) (hbut : ∀ c, but c → but' c) :
    Yields but' s t := ⟨h.held, fun c hc => h.stays c fun hb => hc (hbut c hb)⟩

/-- It depends on owners, on what callbacks keep and on what is open. -/
theorem yields_of_frame (hopen : ∀ c, t.isConnected c = s.isConnected c)
    (hheld : ∀ c, t.isHeld c = s.isHeld c) : Yields but s t :=
  ⟨fun c hc => hheld c ▸ hc, fun c _ hc _ => (hopen c).trans hc⟩

/-! ### Chains -/

/-- Whoever has a handle after a callback has let go of one had it before. -/
theorem isHeld_of_letGo {k : CallbackKey} {h c : ConnKey} (hc : (s.letGo k h).isHeld c = true) :
    s.isHeld c = true := by
  rcases (isHeld_iff_keeps _ c).mp hc with howned | ⟨j, hj⟩
  · exact (isHeld_iff_keeps s c).mpr (Or.inl howned)
  · refine (isHeld_iff_keeps s c).mpr (Or.inr ⟨j, ?_⟩)
    rw [keeps_letGo] at hj
    -- What the callback keeps still is among what it kept.
    split at hj
    · next hjk => exact hjk ▸ List.mem_of_mem_erase hj
    · exact hj

theorem yields_letGo (k : CallbackKey) (h : ConnKey) (s : System) : Yields but s (s.letGo k h) :=
  ⟨fun _ => isHeld_of_letGo, fun _ _ hc _ => hc⟩

/-- A slot that is cleared concerns nobody's handles. -/
theorem yields_clearSlot (c : ConnKey) (s : System) : Yields but s (s.clearSlot c).1 :=
  yields_of_frame (fun d => (frame_clearSlot c s d).2.1)
    (fun d => isHeld_congr (frame_clearSlot c s d).2.2.1 (tables_clearSlot c s).2.1)

/-- Closing what nobody has a handle of, or what is excepted. -/
theorem yields_disconnect {c : ConnKey} (hc : s.isHeld c = false ∨ but c) :
    Yields but s (s.disconnect c) := by
  have hheld : ∀ d, (s.disconnect c).isHeld d = s.isHeld d := fun d =>
    isHeld_congr (frame_disconnect c s d).2.2.1 (tables_disconnect c s).1
  refine ⟨fun d hd => hheld d ▸ hd, fun d hbut hopen hd => ?_⟩
  rw [(frame_disconnect c s d).2.2.2, hopen, Bool.true_and, decide_eq_true_eq]
  rintro rfl
  rcases hc with hlast | hc
  · rw [hheld, hlast] at hd
    exact absurd hd Bool.false_ne_true
  · exact hbut hc

/-- A chain closes nothing that somebody still has a handle of. -/
theorem Does.yields {chore : Chore} (h : Does chore s t) : Yields but s t := by
  -- What was without a handle when it was about to be closed is so when it is closed.
  have hlost : ∀ {v w : System} {c : ConnKey}, Yields but v w → v.isHeld c = false →
      w.isHeld c = false ∨ but c := fun hyields hlast =>
    Or.inl (Bool.eq_false_iff.mpr fun hc =>
      Bool.false_ne_true (hlast.symm.trans (hyields.held _ hc)))
  induction h with
  | spared hdead => exact yields_refl but _
  | @ended s t k cb hrow hlive hrest ih =>
      have hend : Yields but s (s.endCallback k) :=
        yields_of_frame (fun _ => rfl) (isHeld_endCallback k s)
      exact yields_trans hend ih
  | done => exact yields_refl but _
  | @kept s t k h hs hheld hrest ih => exact yields_trans (yields_letGo k h s) ih
  | @closed s t k h hs hlast hnone hrest ih =>
      have hclear : Yields but (s.letGo k h) ((s.letGo k h).clearSlot h).1 := yields_clearSlot h _
      exact yields_trans (yields_trans (yields_letGo k h s)
        (yields_trans hclear (yields_disconnect (hlost hclear hlast)))) ih
  | @chained s u t k j h hs hlast hsome hinner hrest ihinner ihrest =>
      have hinner' := yields_trans (yields_clearSlot h (s.letGo k h)) ihinner
      exact yields_trans (yields_trans (yields_letGo k h s)
        (yields_trans hinner' (yields_disconnect (hlost hinner' hlast)))) ihrest

/-- The chain that destroying a callback sets off. -/
theorem yields_destroy (k : CallbackKey) (s : System) : Yields but s (s.destroy k) :=
  (destroys_destroy k s).yields

theorem yields_destroyAny (k : Option CallbackKey) (s : System) :
    Yields but s (s.destroyAny k) := by
  cases k with
  | none => exact yields_refl but s
  | some k => exact yields_destroy k s

/-- Clearing a registration ends what was in the slot, and that is a chain. -/
theorem yields_detach (c : ConnKey) (s : System) : Yields but s (s.detach c).1 := by
  have hclear : Yields but s (s.clearSlot c).1 := yields_clearSlot c s
  unfold detach
  -- A slot without a registration has nothing to end.
  rcases hc : s.clearSlot c with ⟨u, _ | callback⟩
  · rw [hc] at hclear
    exact hclear
  · rw [hc] at hclear
    exact yields_trans hclear (yields_destroyAny callback u)

theorem yields_detachFrom (c : ConnKey) (r : RegistryKey) (s : System) :
    Yields but s (s.detachFrom c r).1 := by
  unfold detachFrom
  split
  · exact yields_detach c s
  · exact yields_refl but s

theorem yields_detachGeneration (c : ConnKey) (g : UInt64) (s : System) :
    Yields but s (s.detachGeneration c g).1 := by
  unfold detachGeneration
  split
  · exact yields_detach c s
  · exact yields_refl but s

/-- Clearing registrations one by one. -/
theorem yields_detachAll (r : RegistryKey) (cs : List ConnKey) (s : System) :
    Yields but s (s.detachAll r cs) := by
  induction cs generalizing s with
  | nil => exact yields_refl but s
  | cons c rest ih => exact yields_trans (yields_detachFrom c r s) (ih _)

/-- Closing what is excepted, or what nobody has a handle of. -/
theorem yields_close {c : ConnKey} (hc : s.isHeld c = false ∨ but c) :
    Yields but s (s.close c) := by
  have hdetach : Yields but s (s.detach c).1 := yields_detach c s
  refine yields_trans hdetach (yields_disconnect (hc.imp_left fun hlast => ?_))
  exact Bool.eq_false_iff.mpr fun h =>
    Bool.false_ne_true (hlast.symm.trans (hdetach.held c h))

/-! ### Everything that can be done -/

/-- Of what existed before, handles are given up only; what keeps one stays open,
    but for some, and what loses the last one is closed. What is new is open as long
    as somebody has a handle of it. -/
structure Sheds (but : ConnKey → Prop) (s t : System) : Prop where
  known : ∀ c, (s.conn? c).isSome = true → (t.conn? c).isSome = true
  held : ∀ c, (s.conn? c).isSome = true → t.isHeld c = true → s.isHeld c = true
  shut : ∀ c, (s.conn? c).isSome = true → t.isConnected c = true → s.isConnected c = true
  last : ∀ c, (s.conn? c).isSome = true → t.isConnected c = true → s.isHeld c = true →
    t.isHeld c = true
  stays : ∀ c, ¬ but c → s.isConnected c = true → t.isHeld c = true → t.isConnected c = true
  fresh : ∀ c, ¬ but c → s.conn? c = none → (t.conn? c).isSome = true →
    (t.isConnected c = true ↔ t.isHeld c = true)

/-- What is open exists. -/
theorem isSome_of_isConnected {c : ConnKey} (h : s.isConnected c = true) :
    (s.conn? c).isSome = true := by
  rcases hc : s.conn? c with _ | conn
  · rw [isConnected_of_none hc] at h
    exact absurd h Bool.false_ne_true
  · rfl

/-- Shedding is passed on. What came with the first part and was closed in the second
    has lost its last handle there. -/
theorem sheds_trans (h : Sheds but s t) (h' : Sheds but t u) : Sheds but s u := by
  refine ⟨fun c hc => h'.known c (h.known c hc),
    fun c hc hheld => h.held c hc (h'.held c (h.known c hc) hheld),
    fun c hc hopen => h.shut c hc (h'.shut c (h.known c hc) hopen), fun c hc hopen hheld => ?_,
    fun c hbut hopen hheld => ?_, fun c hbut hnone hsome => ?_⟩
  · -- What is open in the end was open in between, and had a handle then.
    have hopen' := h'.shut c (h.known c hc) hopen
    exact h'.last c (h.known c hc) hopen (h.last c hc hopen' hheld)
  · have hc := h.known c (isSome_of_isConnected hopen)
    exact h'.stays c hbut (h.stays c hbut hopen (h'.held c hc hheld)) hheld
  · rcases hc : t.conn? c with _ | conn
    · exact h'.fresh c hbut hc hsome
    · -- It came with the first part and may have been closed in the second.
      have hknown : (t.conn? c).isSome = true := by rw [hc]; rfl
      have hfresh := h.fresh c hbut hnone hknown
      constructor
      · intro hopen
        have hopen' := h'.shut c hknown hopen
        exact h'.last c hknown hopen (hfresh.mp hopen')
      · intro hheld
        exact h'.stays c hbut (hfresh.mpr (h'.held c hknown hheld)) hheld

/-- What opens nothing yields, and leaves nothing open that has lost its last
    handle. -/
theorem sheds_of_yields (hunwound : ∀ c, (t.conn? c).isSome = (s.conn? c).isSome)
    (hshut : ∀ c, t.isConnected c = true → s.isConnected c = true) (hyields : Yields but s t)
    (hheld : t.HeldBut fun c => s.isHeld c = false) : Sheds but s t := by
  refine ⟨fun c hc => (hunwound c).trans hc, fun c _ => hyields.held c, fun c _ => hshut c,
    fun c _ hopen hc => ?_, hyields.stays, fun c _ hnone hsome => ?_⟩
  · rcases hheld c hopen with h | h
    · exact h
    · exact absurd (h.symm.trans hc) Bool.false_ne_true
  · rw [hunwound, hnone] at hsome
    exact absurd hsome Bool.false_ne_true

/-- Everything that has a handle is excepted from what has none. -/
theorem heldBut_unheld (s : System) : s.HeldBut fun c => s.isHeld c = false := by
  intro c _
  cases hc : s.isHeld c with
  | true => exact Or.inl rfl
  | false => exact Or.inr hc

/-- What has an identity exists. -/
theorem isSome_of_ident {c : ConnKey} (h : t.ident c = s.ident c) :
    (t.conn? c).isSome = (s.conn? c).isSome := by
  have hsome := congrArg Option.isSome h
  rwa [System.ident, System.ident, Option.isSome_map, Option.isSome_map] at hsome

/-- A chain sheds if it yields and leaves no open connection without a handle. -/
theorem sheds_unwinds (hunwinds : Unwinds s t) (hyields : Yields but s t)
    (hheld : t.HeldBut fun c => s.isHeld c = false) : Sheds but s t :=
  sheds_of_yields (fun c => isSome_of_ident (hunwinds.unwound.ident c)) hunwinds.unwound.shut
    hyields
    hheld

/-- Destroying a callback sheds: whatever loses its last handle is closed on the way. -/
theorem sheds_destroy (k : CallbackKey) (s : System) : Sheds but s (s.destroy k) :=
  sheds_unwinds (unwinds_destroy k s) (yields_destroy k s)
    (heldBut_destroy k s _ (heldBut_unheld s))

theorem sheds_destroyAny (k : Option CallbackKey) (s : System) : Sheds but s (s.destroyAny k) :=
  sheds_unwinds (unwinds_destroyAny k s) (yields_destroyAny k s)
    (heldBut_destroyAny k s _ (heldBut_unheld s))

theorem sheds_detach (c : ConnKey) (s : System) : Sheds but s (s.detach c).1 :=
  sheds_unwinds (unwinds_detach c s) (yields_detach c s) (heldBut_detach c s _ (heldBut_unheld s))

theorem sheds_detachFrom (c : ConnKey) (r : RegistryKey) (s : System) :
    Sheds but s (s.detachFrom c r).1 :=
  sheds_unwinds (unwinds_detachFrom c r s) (yields_detachFrom c r s)
    (heldBut_detachFrom c r s _ (heldBut_unheld s))

theorem sheds_detachGeneration (c : ConnKey) (g : UInt64) (s : System) :
    Sheds but s (s.detachGeneration c g).1 :=
  sheds_unwinds (unwinds_detachGeneration c g s) (yields_detachGeneration c g s)
    (heldBut_detachGeneration c g s _ (heldBut_unheld s))

theorem sheds_detachAll (r : RegistryKey) (cs : List ConnKey) (s : System) :
    Sheds but s (s.detachAll r cs) :=
  sheds_unwinds (unwinds_detachAll r cs s) (yields_detachAll r cs s)
    (heldBut_detachAll r cs s _ (heldBut_unheld s))

/-- A connection that is closed by name is one of those that are excepted. -/
theorem sheds_close {c : ConnKey} (hc : but c) (s : System) : Sheds but s (s.close c) :=
  sheds_unwinds (unwinds_close c s) (yields_close (Or.inr hc))
    (heldBut_close c s _ fun d hd => (heldBut_unheld s d hd).imp_right Or.inl)

/-- It depends on which connections there are, on owners, on what callbacks keep and
    on what is open. -/
theorem sheds_of_frame (hconn : ∀ c, (t.conn? c).isSome = (s.conn? c).isSome)
    (hopen : ∀ c, t.isConnected c = s.isConnected c) (howned : ∀ c, t.isOwned c = s.isOwned c)
    (hcallbacks : t.callbacks = s.callbacks) : Sheds but s t := by
  have hheld : ∀ c, t.isHeld c = s.isHeld c := fun c => isHeld_congr (howned c) hcallbacks
  refine sheds_of_yields hconn (fun c hc => hopen c ▸ hc) (yields_of_frame hopen hheld)
    fun c _ => ?_
  rw [hheld]
  exact heldBut_unheld s c (hopen c ▸ ‹_›)

/-- It depends on connections and on what callbacks keep. -/
theorem sheds_congr (hconn : ∀ c, t.conn? c = s.conn? c) (hcallbacks : t.callbacks = s.callbacks) :
    Sheds but s t :=
  sheds_of_frame (fun c => congrArg Option.isSome (hconn c)) (fun c => isConnected_congr (hconn c))
    (fun c => isOwned_congr (hconn c)) hcallbacks

theorem sheds_refl (but : ConnKey → Prop) (s : System) : Sheds but s s :=
  sheds_congr (fun _ => rfl) rfl

/-- What is in slots decides nothing about handles. -/
theorem sheds_updateSlot (c : ConnKey) (f : Slot → Slot) (s : System) :
    Sheds but s (s.updateSlot c f) :=
  sheds_of_frame (fun d => isSome_of_ident (frame_updateSlot s c f d).1)
    (fun d => (frame_updateSlot s c f d).2.1) (fun d => (frame_updateSlot s c f d).2.2.1) rfl

/-- What is new belongs to the program and is open. -/
theorem sheds_quiet (h : Quiet s t) : Sheds but s t := by
  have hsame : ∀ c, (s.conn? c).isSome = true → (t.conn? c).isSome = true ∧
      t.isConnected c = s.isConnected c ∧ t.isOwned c = s.isOwned c := by
    intro c hc
    rcases Option.isSome_iff_exists.mp hc with ⟨conn, hconn⟩
    rcases h.kept c conn hconn with ⟨conn', hconn', -, -, hopen, -, howned⟩
    refine ⟨by rw [hconn']; rfl, ?_, ?_⟩
    · rw [isConnected_of_conn? hconn', isConnected_of_conn? hconn, hopen]
    · simp only [isOwned, hconn', hconn, howned]
  have hheld : ∀ c, (s.conn? c).isSome = true → t.isHeld c = s.isHeld c := fun c hc =>
    isHeld_congr (hsame c hc).2.2 h.callbacks
  refine ⟨fun c hc => (hsame c hc).1, fun c hc hh => hheld c hc ▸ hh,
    fun c hc hopen => (hsame c hc).2.1 ▸ hopen, fun c hc _ hh => (hheld c hc).trans hh,
    fun c _ hopen _ => (hsame c (isSome_of_isConnected hopen)).2.1.trans hopen,
    fun c _ hnone hsome => ?_⟩
  rcases Option.isSome_iff_exists.mp hsome with ⟨conn, hconn⟩
  rcases h.fresh c conn hnone hconn with ⟨-, -, hopen, howned⟩
  have hopen' : t.isConnected c = true := (isConnected_of_conn? hconn).trans hopen
  have howned' : t.isOwned c = true := by simp only [isOwned, hconn, howned]
  exact iff_of_true hopen' ((isHeld_iff t c).mpr (Or.inl howned'))

/-- A handle is handed on by somebody who has one. -/
theorem sheds_gain (hconn : ∀ c, t.conn? c = s.conn? c)
    (hgain : ∀ c, t.isHeld c = true ↔ s.isHeld c = true) : Sheds but s t := by
  have hheld : ∀ c, t.isHeld c = s.isHeld c := fun c => Bool.eq_iff_iff.mpr (hgain c)
  have hopen : ∀ c, t.isConnected c = s.isConnected c := fun c => isConnected_congr (hconn c)
  refine sheds_of_yields (fun c => congrArg Option.isSome (hconn c)) (fun c hc => hopen c ▸ hc)
    (yields_of_frame hopen hheld) fun c hc => ?_
  rw [hheld]
  exact heldBut_unheld s c (hopen c ▸ hc)

/-- A new callback keeps the handle it was given, and the others keep what they kept. -/
theorem keeps_addCallback (hold : Option ConnKey) (s : System) (k : CallbackKey) :
    (s.addCallback hold).1.keeps k = if k = s.callbacks.size then hold.toList else s.keeps k := by
  simp only [keeps, addCallback, Table.get?_add]
  by_cases hk : k = s.callbacks.size
  · rw [if_pos hk, if_pos hk]
  · rw [if_neg hk, if_neg hk]

/-- A handle for a new callback is a copy of one that somebody has. -/
theorem sheds_addCallback {hold : Option ConnKey} (hhold : ∀ d, hold = some d → s.isHeld d = true) :
    Sheds but s (s.addCallback hold).1 := by
  refine sheds_gain (fun _ => rfl) fun c => ?_
  simp only [isHeld_iff_keeps, keeps_addCallback]
  constructor
  · rintro (howned | ⟨k, hk⟩)
    · exact Or.inl howned
    · split at hk
      · exact (isHeld_iff_keeps s c).mp (hhold c (Option.mem_toList.mp hk))
      · exact Or.inr ⟨k, hk⟩
  · rintro (howned | ⟨k, hk⟩)
    · exact Or.inl howned
    · refine Or.inr ⟨k, ?_⟩
      rw [if_neg]
      · exact hk
      · -- The new number was nobody's.
        rintro rfl
        rw [keeps, show s.callbacks.get? s.callbacks.size = none from
          Array.getElem?_eq_none (Nat.le_refl _)] at hk
        exact absurd hk List.not_mem_nil

/-- What callbacks keep after one of them got another handle. -/
theorem keeps_entrust {k : CallbackKey} {c : ConnKey}
    (h : s.isLive k = true ∧ s.isHeld c = true) (j : CallbackKey) :
    (s.entrust k c).keeps j = if j = k then s.keeps k ++ [c] else s.keeps j := by
  rw [entrust, if_pos h]
  simp only [keeps, Table.get?_update]
  by_cases hj : j = k
  · rw [if_pos hj, if_pos hj]
    -- What was destroyed gets nothing, but this one is living.
    rcases hrow : s.callbacks.get? k with _ | cb
    · have hlive := h.1
      rw [isLive, hrow] at hlive
      exact absurd hlive Bool.false_ne_true
    · rfl
  · rw [if_neg hj, if_neg hj]

/-- A handle is handed on by somebody who has one, so no connection gets its first
    handle so. -/
theorem sheds_entrust (k : CallbackKey) (c : ConnKey) (s : System) :
    Sheds but s (s.entrust k c) := by
  by_cases hboth : s.isLive k = true ∧ s.isHeld c = true
  · have hsame : ∀ d, (s.entrust k c).conn? d = s.conn? d ∧
        (s.entrust k c).isOwned d = s.isOwned d := by
      rw [entrust, if_pos hboth]
      exact fun _ => ⟨rfl, rfl⟩
    refine sheds_gain (fun d => (hsame d).1) fun d => ?_
    rw [isHeld_iff_keeps, isHeld_iff_keeps]
    simp only [(hsame d).2, keeps_entrust hboth]
    constructor
    · rintro (howned | ⟨j, hj⟩)
      · exact Or.inl howned
      · split at hj
        · rcases List.mem_append.mp hj with hj | hj
          · exact Or.inr ⟨k, hj⟩
          · -- Whose handle it is now had been held before.
            rw [List.mem_singleton.mp hj]
            exact (isHeld_iff_keeps s c).mp hboth.2
        · exact Or.inr ⟨j, hj⟩
    · rintro (howned | ⟨j, hj⟩)
      · exact Or.inl howned
      · refine Or.inr ⟨j, ?_⟩
        split
        · next hjk => exact List.mem_append_left _ (hjk ▸ hj)
        · exact hj
  · rw [entrust, if_neg hboth]
    exact sheds_refl but s

/-- A registration sheds what the replaced callback kept. -/
theorem sheds_attach (c : ConnKey) (r : RegistryKey) (k : CallbackKey) (s : System) :
    Sheds but s (s.attach c r k).1 := by
  have hinstall : Sheds but s (s.install c r k).1 := by
    rcases install_frame c r k s with ⟨registries, -, heq⟩
    rw [heq]
    exact sheds_trans (sheds_updateSlot c (fun x => ⟨some k, some r, x.generation + 1⟩) s)
      (sheds_congr (fun _ => rfl) rfl)
  -- What was in the slot before ends last.
  exact sheds_trans hinstall (sheds_destroyAny _ _)

/-- A registration with a notifier either ends the new callback or puts it into the
    slot. -/
theorem sheds_setCallback (n : NotifierKey) (c : ConnKey) (k : CallbackKey) (s : System) :
    Sheds but s (s.setCallback n c k).1 := by
  rcases setCallback_cases n c k s with
    ⟨-, u, hquiet, heq⟩ | ⟨-, -, running, u, v, hquiet, hready, hnoted⟩
  · rw [heq]
    exact sheds_trans (sheds_quiet hquiet) (sheds_destroy _ u)
  · have hstart : Sheds but u v := sheds_congr hready.conn? hready.callbacks
    exact sheds_trans (sheds_quiet hquiet) (sheds_trans hstart
      (sheds_trans (sheds_attach c running.registry _ v) (sheds_quiet hnoted.quiet)))

theorem sheds_setFresh {hold : Option ConnKey} (hhold : ∀ d, hold = some d → s.isHeld d = true)
    (n : NotifierKey) (c : ConnKey) : Sheds but s (s.setFresh n c hold).1 :=
  sheds_trans (sheds_addCallback hhold) (sheds_setCallback n c _ _)

theorem sheds_settleTaken (k : CallbackKey) (s : System) : Sheds but s (s.settleTaken k) :=
  sheds_congr (fun _ => rfl) rfl

/-- Putting back fills the slot again, or ends what is not wanted there any more. -/
theorem sheds_putBack (x : Taken) (s : System) : Sheds but s (s.putBack x).1 := by
  rcases putBack_cases x s with ⟨-, -, heq⟩ | ⟨-, -, heq⟩
  · rw [heq]
    exact sheds_trans (sheds_updateSlot x.conn _ s) (sheds_settleTaken x.callback _)
  · rw [heq]
    exact sheds_trans (sheds_destroy x.callback s) (sheds_settleTaken x.callback _)

/-- The end of a dispatch, in either way. -/
theorem sheds_finish (x : Taken) (exit : Exit) (s : System) : Sheds but s (s.finish x exit) := by
  cases exit with
  | returned => exact sheds_putBack x s
  | panicked =>
      rcases giveUp_eq x s with ⟨v, hnoted, heq⟩
      rw [finish, heq]
      exact sheds_trans (sheds_quiet hnoted.quiet)
        (sheds_trans (sheds_detachGeneration x.conn x.generation v)
          (sheds_trans (sheds_destroy x.callback _) (sheds_settleTaken x.callback _)))

/-- Giving up the program's handle is the one step outside of chains that yields. -/
theorem yields_disown (c : ConnKey) (s : System) : Yields but s (s.disown c) := by
  refine ⟨fun d hd => ?_, fun d _ hopen _ => (frame_disown c s d).2.2.1.trans hopen⟩
  rcases (isHeld_iff_keeps _ d).mp hd with howned | hkept
  · refine (isHeld_iff_keeps s d).mpr (Or.inl ?_)
    by_cases hdc : d = c
    · -- The program has given its handle up.
      rw [hdc, isOwned, disown, conn?_updateConn, if_pos rfl] at howned
      rcases hc : s.conn? c with _ | conn
      · rw [hc] at howned
        exact absurd howned Bool.false_ne_true
      · rw [hc] at howned
        exact absurd howned Bool.false_ne_true
    · rw [← (frame_disown c s d).2.2.2.2 hdc]
      exact howned
  · -- Callbacks keep what they kept.
    exact (isHeld_iff_keeps s d).mpr (Or.inr hkept)

theorem isHeld_disown_of_ne {c d : ConnKey} (hdc : d ≠ c) : (s.disown c).isHeld d = s.isHeld d :=
  isHeld_congr ((frame_disown c s d).2.2.2.2 hdc) rfl

/-- Dropping the last handle closes the connection before anything else happens. -/
theorem sheds_drop (c : ConnKey) (s : System) : Sheds but s (s.dropHandle c).1 := by
  have hconn : ∀ d, ((s.disown c).conn? d).isSome = (s.conn? d).isSome := fun d =>
    isSome_of_ident (frame_disown c s d).2.1
  have hshut : ∀ d, (s.disown c).isConnected d = true → s.isConnected d = true := fun d hd =>
    (frame_disown c s d).2.2.1 ▸ hd
  -- Without the program's handle nothing else has lost one.
  have hheld : (s.disown c).HeldBut fun d => s.isHeld d = false ∨ d = c := by
    intro d hopen
    by_cases hdc : d = c
    · exact Or.inr (Or.inr hdc)
    · rw [isHeld_disown_of_ne hdc]
      exact (heldBut_unheld s d (hshut d hopen)).imp_right Or.inl
  rcases dropHandle_cases c s with heq | ⟨hkept, heq⟩ | ⟨hlast, heq⟩
  · rw [heq]
    exact sheds_refl but s
  · rw [heq]
    refine sheds_of_yields hconn hshut (yields_disown c s) fun d hopen => ?_
    rcases hheld d hopen with h | h | rfl
    · exact Or.inl h
    · exact Or.inr h
    · exact Or.inl hkept
  · rw [heq]
    -- The last handle goes, and the chain of the close follows.
    have hunwound := (unwinds_close c (s.disown c)).unwound
    exact sheds_of_yields (fun d => (isSome_of_ident (hunwound.ident d)).trans (hconn d))
      (fun d hd => hshut d (hunwound.shut d hd))
      (yields_trans (yields_disown c s) (yields_close (Or.inl hlast)))
      (heldBut_close c _ _ hheld)

theorem sheds_unset (n : NotifierKey) (c : ConnKey) (s : System) :
    Sheds but s (s.unsetCallback n c).1 := by
  rcases unsetCallback_cases n c s with ⟨-, -, hnoted⟩ | ⟨running, -, -, hnoted⟩
  · exact sheds_quiet hnoted.quiet
  · exact sheds_trans (sheds_quiet (quiet_acquire _ s))
      (sheds_trans (sheds_detachFrom c running.registry _) (sheds_quiet hnoted.quiet))

/-- A shutdown sheds what the callbacks kept that it takes out of their slots. -/
theorem sheds_shutdown (n : NotifierKey) (s : System) : Sheds but s (s.shutdown n) := by
  rcases shutdown_cases n s with ⟨-, hquiet⟩ | ⟨running, u, v, -, hquiet, hquiet', hnoted⟩
  · exact sheds_quiet hquiet
  · -- The notifier is marked as stopped before anything is cleared.
    have hstop : Sheds but u (u.updateNotifier n fun x => { x with running := none }) :=
      sheds_congr (fun _ => rfl) rfl
    have hdrain : Sheds but v (v.drain running.registry).1 := sheds_congr (fun _ => rfl) rfl
    exact sheds_trans (sheds_quiet hquiet) (sheds_trans hstop (sheds_trans (sheds_quiet hquiet')
      (sheds_trans hdrain (sheds_trans (sheds_detachAll _ _ _) (sheds_quiet hnoted.quiet)))))

theorem sheds_takenOut (x : Taken) (s : System) : Sheds but s (s.takenOut x) :=
  sheds_trans (sheds_updateSlot x.conn (fun y => { y with callback := none }) s)
    (sheds_congr (fun _ => rfl) rfl)

theorem sheds_take (c : ConnKey) (pinned : Bool) (s : System) :
    Sheds but s (s.take c pinned).1 := by
  rcases take_cases c pinned s with ⟨-, heq⟩ | ⟨x, -, -, -, heq⟩
  · rw [heq]
    exact sheds_refl but s
  · rw [heq]
    exact sheds_takenOut x s

theorem sheds_begin (c : ConnKey) (size : Nat) (s : System) : Sheds but s (s.begin c size).1 := by
  rcases begin_cases c size s with ⟨-, heq⟩ | ⟨x, -, -, -, -, record, heq⟩
  · rw [heq]
    exact sheds_refl but s
  · rw [heq]
    exact sheds_trans (sheds_takenOut x s)
      (sheds_quiet (quiet_trans (quiet_receive c size _) (quiet_note record _)))

/-- Every move that can be made sheds, but for the connection that it closes by name. -/
theorem sheds_perform {m : Move} (hm : m.Fits s)
    (hbut : ∀ c, (Handling.move m).closes c s = true → but c) : Sheds but s (m.perform s) := by
  cases m with
  | close c =>
      rcases hc : s.conn? c with _ | conn
      · -- What does not exist is not closed.
        have hsame : s.close c = s := by
          simp only [close, detach, clearSlot, hc, disconnect, markClosed, isConnected,
            Bool.false_eq_true, if_false]
        rw [Move.perform, hsame]
        exact sheds_refl but s
      · exact sheds_close (hbut c (by
          simp only [Handling.closes, beq_self_eq_true, hc, Option.isSome_some, Bool.and_self])) s
  | drop c => exact sheds_drop c s
  | set n c hold => exact sheds_setFresh hm n c
  | entrust k c => exact sheds_entrust k c s
  | unset n c => exact sheds_unset n c s
  | shutdown n => exact sheds_shutdown n s
  | begin c size => exact sheds_begin c size s
  | finish x exit =>
      rw [Move.perform]
      split
      · exact sheds_finish x exit s
      · exact sheds_refl but s
  | attach c r hold => exact sheds_trans (sheds_addCallback hm.2) (sheds_attach c r _ _)
  | detach c => exact sheds_detach c s
  | detachFrom c r => exact sheds_detachFrom c r s
  | detachGeneration c g => exact sheds_detachGeneration c g s
  | take c pinned => exact sheds_take c pinned s
  | forget x =>
      rw [Move.perform]
      split
      · exact sheds_trans (sheds_destroy x.callback s) (sheds_settleTaken x.callback _)
      · exact sheds_refl but s
  | onRegistry r f => exact sheds_congr (fun _ => rfl) rfl
  | fillWindow l => exact sheds_congr (fun _ => rfl) rfl
  | _ => exact sheds_quiet (Move.quiet_perform rfl s)

/-- What can be done gives up handles, and closes exactly what loses the last one,
    besides what is closed by name. -/
theorem sheds_handling {e : Handling} (he : e.Fits s)
    (hbut : ∀ c, e.closes c s = true → but c) : Sheds but s (e.perform s) := by
  cases e with
  | move m => exact sheds_perform he hbut
  | restore x generation =>
      rw [Handling.perform]
      split
      · exact sheds_putBack _ s
      · exact sheds_refl but s

end System

end ReadNotify
