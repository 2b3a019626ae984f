import ReadNotify.Proofs.Registry.Refinement
import ReadNotify.Proofs.System.Effects

/-!
# Slots and Registries Agree

A registration is kept twice: the slot of the connection names a registry, and
the registry lists the connection. The two are changed one after the other, by
about ten operations, and while a callback runs its own slot is empty. This
module shows that they never disagree: what a registry lists is exactly what
names it, every registry that is named belongs to one running notifier, and a
closed connection is neither listed nor names anything.

A shutdown is the one operation that has to be looked at from inside. It takes
the registry away from its notifier and empties it first, and clears the slots
that name it afterwards, one by one, each with all the closing that may follow.
Until it is done that one registry is *away*: slots may name it although it
lists nothing and nobody serves it. Everything else agrees all the time, so
agreement is stated for the case that some registry is away.

## Main definitions

* `System.Coherent`: Slots and registries agree, but for one registry.

## Theorems

* `coherent_quiet`, `coherent_unwinds`: Quiet operations keep the agreement, and
  so do destroying, clearing and closing.
* `coherent_install`, `coherent_readied`: So does registering.
-/

namespace ReadNotify

namespace System

variable {s t : System} {away : Option RegistryKey}

/-- What a registry lists is what names it, and it belongs to one running
    notifier; unless it is away, and then it lists nothing. -/
structure Coherent (away : Option RegistryKey) (s : System) : Prop where
  serial : ∀ c id, s.ident c = some id → id.serial = c + 1
  sound : ∀ r, (s.registry r).Sound
  entry : ∀ r id c, (id, c) ∈ (s.registry r).refs →
    s.ident c = some id ∧ (s.slot c).registry = some r
  listed : ∀ c r, (s.slot c).registry = some r → some r ≠ away →
    ∃ id, (id, c) ∈ (s.registry r).refs
  filled : ∀ c k, (s.slot c).callback = some k → (s.slot c).registry.isSome = true
  closed : ∀ c, s.isConnected c = false → (s.slot c).registry = none
  served : ∀ c r, (s.slot c).registry = some r → some r ≠ away →
    ∃ n running, s.running? n = some running ∧ running.registry = r
  apart : ∀ n m a b, s.running? n = some a → s.running? m = some b →
    a.registry = b.registry → n = m
  known : ∀ n running, s.running? n = some running → running.registry < s.registries.size

/-- Connections of one identity are the same. -/
theorem Coherent.ident_inj (h : s.Coherent away) {c d : ConnKey} {id : ConnId}
    (hc : s.ident c = some id) (hd : s.ident d = some id) : c = d :=
  Nat.succ.inj ((h.serial c id hc).symm.trans (h.serial d id hd))

theorem coherent_init (n : Nat) : (init n).Coherent none := by
  have hslot : ∀ c, (init n).slot c = .empty := fun c => slot_of_none (Table.get?_empty c)
  -- All registries are empty, those that were made and the others.
  have hregistry : ∀ r, (init n).registry r = .empty := by
    intro r
    simp only [registry, init, Table.get?, List.getElem?_toArray, List.getElem?_replicate]
    split
    · rfl
    · rfl
  have hrunning : ∀ m, (init n).running? m = none := fun m => by
    simp only [running?, init, Table.get?_empty, Option.bind_none]
  have hident : ∀ c, (init n).ident c = none := fun c => by
    simp only [ident, conn?, init, Table.get?_empty, Option.map_none]
  refine ⟨?_, ?_, ?_, ?_, ?_, ?_, ?_, ?_, ?_⟩
  · intro c id h
    rw [hident] at h
    exact absurd h (by simp only [reduceCtorEq, not_false_eq_true])
  · intro r
    rw [hregistry]
    exact Registry.sound_empty
  · intro r id c h
    rw [hregistry] at h
    exact absurd h List.not_mem_nil
  · intro c r h
    rw [hslot] at h
    exact absurd h (by simp only [Slot.empty, reduceCtorEq, not_false_eq_true])
  · intro c k h
    rw [hslot] at h
    exact absurd h (by simp only [Slot.empty, reduceCtorEq, not_false_eq_true])
  · intro c _
    rw [hslot]
    rfl
  · intro c r h
    rw [hslot] at h
    exact absurd h (by simp only [Slot.empty, reduceCtorEq, not_false_eq_true])
  · intro m m' a b h
    rw [hrunning] at h
    exact absurd h (by simp only [reduceCtorEq, not_false_eq_true])
  · intro m running h
    rw [hrunning] at h
    exact absurd h (by simp only [reduceCtorEq, not_false_eq_true])

/-- The agreement depends on identities, registrations, the entries of
    registries and running workers, and on what is closed having no
    registration. -/
theorem Coherent.of_refs (h : s.Coherent away) (hident : ∀ c, t.ident c = s.ident c)
    (hslot : ∀ c, (t.slot c).registry = (s.slot c).registry)
    (hfilled : ∀ c k, (t.slot c).callback = some k → (t.slot c).registry.isSome = true)
    (hclosed : ∀ c, t.isConnected c = false → (s.slot c).registry = none)
    (hrefs : ∀ r, (t.registry r).Sound ∧ (t.registry r).refs = (s.registry r).refs)
    (hsize : t.registries.size = s.registries.size)
    (hrunning : ∀ n, t.running? n = s.running? n) : t.Coherent away := by
  refine ⟨?_, fun r => (hrefs r).1, ?_, ?_, hfilled, ?_, ?_, ?_, ?_⟩
  · intro c id hid
    exact h.serial c id (hident c ▸ hid)
  · intro r id c he
    rw [hident, hslot]
    exact h.entry r id c ((hrefs r).2 ▸ he)
  · intro c r hr haway
    rw [(hrefs r).2]
    exact h.listed c r (hslot c ▸ hr) haway
  · intro c hc
    rw [hslot]
    exact hclosed c hc
  · intro c r hr haway
    rcases h.served c r (hslot c ▸ hr) haway with ⟨n, running, hn, hreg⟩
    exact ⟨n, running, (hrunning n).trans hn, hreg⟩
  · intro n m a b ha hb hab
    exact h.apart n m a b (hrunning n ▸ ha) (hrunning m ▸ hb) hab
  · intro n running hn
    rw [hsize]
    exact h.known n running (hrunning n ▸ hn)

theorem Coherent.congr (h : s.Coherent away) (hident : ∀ c, t.ident c = s.ident c)
    (hslot : ∀ c, (t.slot c).registry = (s.slot c).registry)
    (hfilled : ∀ c k, (t.slot c).callback = some k → (t.slot c).registry.isSome = true)
    (hclosed : ∀ c, t.isConnected c = false → (s.slot c).registry = none)
    (hregistries : t.registries = s.registries)
    (hrunning : ∀ n, t.running? n = s.running? n) : t.Coherent away := by
  have hregistry : ∀ r, t.registry r = s.registry r := fun r => by
    simp only [registry, hregistries]
  refine h.of_refs hident hslot hfilled hclosed (fun r => ?_) (congrArg Table.size hregistries)
    hrunning
  rw [hregistry]
  exact ⟨h.sound r, rfl⟩

theorem coherent_quiet (h : s.Coherent away) (hquiet : Quiet s t) : t.Coherent away := by
  have hregistry := hquiet.registry
  refine ⟨?_, ?_, ?_, ?_, ?_, ?_, ?_, ?_, ?_⟩
  · intro c id hid
    rcases Option.map_eq_some_iff.mp hid with ⟨conn, hc', rfl⟩
    rcases hc : s.conn? c with _ | conn₀
    · exact (hquiet.fresh c conn hc hc').1
    · -- An identity that was there is still that of the same connection.
      rcases hquiet.kept c conn₀ hc with ⟨conn₁, hc₁, hid₁, -⟩
      rw [← Option.some.inj (hc₁.symm.trans hc'), hid₁]
      exact h.serial c conn₀.id (by rw [ident, hc, Option.map_some])
  · intro r
    rw [hregistry]
    exact h.sound r
  · intro r id c he
    rcases h.entry r id c (hregistry r ▸ he) with ⟨hid, hr⟩
    exact ⟨hquiet.ident hid, by rw [hquiet.slot]; exact hr⟩
  · intro c r hr haway
    rw [hregistry]
    exact h.listed c r (hquiet.slot c ▸ hr) haway
  · intro c k hk
    rw [hquiet.slot] at hk ⊢
    exact h.filled c k hk
  · intro c hc
    rw [hquiet.slot]
    rcases hquiet.isConnected c with hsame | ⟨-, hopen⟩
    · exact h.closed c (hsame ▸ hc)
    · -- What is new is open.
      exact absurd (hc.symm.trans hopen) Bool.false_ne_true
  · intro c r hr haway
    rcases h.served c r (hquiet.slot c ▸ hr) haway with ⟨n, running, hn, hreg⟩
    exact ⟨n, running, (hquiet.running n).trans hn, hreg⟩
  · intro n m a b ha hb hab
    exact h.apart n m a b (hquiet.running n ▸ ha) (hquiet.running m ▸ hb) hab
  · intro n running hn
    rw [hquiet.registries]
    exact h.known n running (hquiet.running n ▸ hn)

/-! ### Links -/

/-- The entries of a registry after one identity was removed from one of them. -/
theorem mem_refs_strike (hsound : ∀ r, (s.registry r).Sound) (r : RegistryKey) (id : ConnId)
    (q : RegistryKey) (e : Entry) :
    e ∈ ((s.onRegistry r (Registry.remove id)).1.registry q).refs ↔
      e ∈ (s.registry q).refs ∧ (q = r → e.1 ≠ id) := by
  rw [registry_onRegistry]
  by_cases hq : q = r ∧ r < s.registries.size
  · rw [if_pos hq, hq.1, (hsound r).mem_refs_remove]
    exact and_congr_right fun _ => ⟨fun hne _ => hne, fun hne => hne rfl⟩
  · rw [if_neg hq]
    refine ⟨fun he => ⟨he, ?_⟩, And.left⟩
    -- A registry that was never made lists nothing.
    rintro rfl
    have hnone : s.registries.get? q = none :=
      Array.getElem?_eq_none (Nat.le_of_not_lt fun hlt => hq ⟨rfl, hlt⟩)
    rw [registry, hnone] at he
    exact absurd he List.not_mem_nil

theorem sound_strike (hsound : ∀ r, (s.registry r).Sound) (r : RegistryKey) (id : ConnId)
    (q : RegistryKey) : ((s.onRegistry r (Registry.remove id)).1.registry q).Sound := by
  rw [registry_onRegistry]
  split
  · exact (hsound r).remove id
  · exact hsound q

theorem coherent_clearSlot (c : ConnKey) (h : s.Coherent away) :
    (s.clearSlot c).1.Coherent away := by
  rcases clearSlot_cases c s with ⟨-, hclear⟩ | ⟨conn, r, hc, hconn, hr, hclear⟩
  · rw [hclear]
    exact h
  · -- The slot and the one entry go together, and all else stays.
    have hidc : s.ident c = some conn.id := by rw [ident, hc, Option.map_some]
    have hrefs : ∀ q e, e ∈ ((s.clearSlot c).1.registry q).refs ↔
        e ∈ (s.registry q).refs ∧ (q = r → e.1 ≠ conn.id) := by
      intro q e
      rw [hclear]
      exact mem_refs_strike (s := s.updateSlot c Slot.cleared) h.sound r conn.id q e
    have hslot : ∀ d, (s.clearSlot c).1.slot d =
        if d = c then (s.slot c).cleared else s.slot d := by
      intro d
      rw [slot_clearSlot, hr, Option.isSome_some]
      simp only [and_true]
    have hother : ∀ d q, ((s.clearSlot c).1.slot d).registry = some q →
        d ≠ c ∧ (s.slot d).registry = some q := by
      intro d q hq
      rw [hslot] at hq
      by_cases hd : d = c
      · rw [if_pos hd] at hq
        exact absurd hq (by simp only [Slot.cleared, reduceCtorEq, not_false_eq_true])
      · rw [if_neg hd] at hq
        exact ⟨hd, hq⟩
    rcases tables_clearSlot c s with ⟨-, -, -, hnotifiers, -, -, hsize⟩
    have hrunning : ∀ n, (s.clearSlot c).1.running? n = s.running? n := fun n => by
      simp only [running?, hnotifiers]
    refine ⟨?_, ?_, ?_, ?_, ?_, ?_, ?_, ?_, ?_⟩
    · intro d id hid
      rw [(frame_clearSlot c s d).1] at hid
      exact h.serial d id hid
    · intro q
      rw [hclear]
      exact sound_strike (s := s.updateSlot c Slot.cleared) h.sound r conn.id q
    · -- What is still listed is of another identity, so its slot was not cleared.
      intro q id d he
      rcases (hrefs q (id, d)).mp he with ⟨hold, hne⟩
      rcases h.entry q id d hold with ⟨hid, hq⟩
      rw [(frame_clearSlot c s d).1, hslot, if_neg]
      · exact ⟨hid, hq⟩
      · rintro rfl
        have hqr : q = r := Option.some.inj (hq.symm.trans hr)
        exact hne hqr (Option.some.inj (hid.symm.trans hidc))
    · intro d q hq haway
      rcases hother d q hq with ⟨hd, hold⟩
      rcases h.listed d q hold haway with ⟨id, he⟩
      -- An entry that went had the identity of the cleared connection.
      refine ⟨id, (hrefs q (id, d)).mpr ⟨he, fun _ hid => hd ?_⟩⟩
      exact h.ident_inj (h.entry q id d he).1 ((show id = conn.id from hid) ▸ hidc)
    · intro d k hk
      rw [hslot] at hk ⊢
      by_cases hd : d = c
      · rw [if_pos hd] at hk
        exact absurd hk (by simp only [Slot.cleared, reduceCtorEq, not_false_eq_true])
      · rw [if_neg hd] at hk ⊢
        exact h.filled d k hk
    · intro d hd
      rw [(frame_clearSlot c s d).2.1] at hd
      rw [hslot]
      by_cases hdc : d = c
      · rw [if_pos hdc]
        rfl
      · rw [if_neg hdc]
        exact h.closed d hd
    · intro d q hq haway
      rcases h.served d q (hother d q hq).2 haway with ⟨n, running, hn, hreg⟩
      exact ⟨n, running, (hrunning n).trans hn, hreg⟩
    · intro n m a b ha hb hab
      exact h.apart n m a b (hrunning n ▸ ha) (hrunning m ▸ hb) hab
    · intro n running hn
      rw [hsize]
      exact h.known n running (hrunning n ▸ hn)

theorem coherent_disconnect (c : ConnKey) (hnone : (s.slot c).registry = none)
    (h : s.Coherent away) : (s.disconnect c).Coherent away := by
  rcases tables_disconnect c s with ⟨-, hregs, -, hnotifiers, -, -⟩
  refine h.congr (fun d => (frame_disconnect c s d).2.1)
    (fun d => congrArg Slot.registry (frame_disconnect c s d).1) ?_ ?_ hregs
    (fun n => by simp only [running?, hnotifiers])
  · intro d k hk
    rw [(frame_disconnect c s d).1] at hk ⊢
    exact h.filled d k hk
  · intro d hd
    rw [(frame_disconnect c s d).2.2.2, Bool.and_eq_false_iff, decide_eq_false_iff_not,
      not_not] at hd
    -- What is closed now was closed before or had no registration.
    rcases hd with hd | rfl
    · exact h.closed d hd
    · exact hnone

theorem coherent_link (hlink : Link s t) (h : s.Coherent away) : t.Coherent away := by
  cases hlink with
  | ended k =>
      exact h.congr (fun _ => rfl) (fun _ => rfl) h.filled h.closed rfl (fun _ => rfl)
  | released k c =>
      exact h.congr (fun _ => rfl) (fun _ => rfl) h.filled h.closed rfl (fun _ => rfl)
  | cleared c => exact coherent_clearSlot c h
  | disconnected c hnone => exact coherent_disconnect c hnone h
  | noted held log =>
      exact h.congr (fun _ => rfl) (fun _ => rfl) h.filled h.closed rfl (fun _ => rfl)

/-- Destroying, clearing and closing keep the agreement. -/
theorem coherent_unwinds (hunwinds : Unwinds s t) (h : s.Coherent away) : t.Coherent away :=
  hunwinds.preserves (fun _ _ hlink hs => coherent_link hlink hs) h

/-! ### Registering -/

/-- The entries of a registry after a connection was entered in one of them
    that was not listed there. -/
theorem mem_refs_enlist (hsound : ∀ r, (s.registry r).Sound) {c : ConnKey} {conn : Connection}
    (hc : s.conn? c = some conn) {r : RegistryKey} (hr : r < s.registries.size)
    (hnew : conn.id ∉ (s.registry r).order) (q : RegistryKey) (e : Entry) :
    e ∈ ((s.enlist c r).1.registry q).refs ↔
      e ∈ (s.registry q).refs ∨ (q = r ∧ e = (conn.id, c)) := by
  have henlist : (s.enlist c r).1 = (s.onRegistry r (Registry.append conn.id c)).1 := by
    simp only [enlist, hc]
  rw [henlist, registry_onRegistry]
  -- Only one registry is appended to, and the identity is new there.
  by_cases hq : q = r
  · rw [if_pos ⟨hq, hr⟩, hq, (hsound r).mem_refs_append]
    exact or_congr_right ⟨fun h => ⟨rfl, h.2⟩, fun h => ⟨hnew, h.2⟩⟩
  · rw [if_neg fun h => hq h.1]
    exact ⟨Or.inl, fun h => h.resolve_right fun hqr => hq hqr.1⟩

theorem conn?_strike (c : ConnKey) (r : RegistryKey) (s : System) (d : ConnKey) :
    (s.strike c r).1.conn? d = s.conn? d := by
  unfold strike
  rcases s.conn? c with _ | conn
  · rfl
  · rfl

theorem sound_enlist (hsound : ∀ r, (s.registry r).Sound) (c : ConnKey) (r q : RegistryKey) :
    ((s.enlist c r).1.registry q).Sound := by
  unfold enlist
  rcases s.conn? c with _ | conn
  · exact hsound q
  · dsimp only
    rw [registry_onRegistry]
    split
    · exact (hsound r).append conn.id c
    · exact hsound q

/-- A connection that is listed nowhere but in the registry its slot names is
    listed in one registry only. -/
theorem Coherent.notMem_order (h : s.Coherent none) {c : ConnKey} {conn : Connection}
    (hc : s.conn? c = some conn) {r : RegistryKey} (hr : (s.slot c).registry ≠ some r) :
    conn.id ∉ (s.registry r).order := by
  intro hmem
  rcases ((h.sound r).mem_order_iff conn.id).mp hmem with ⟨d, he⟩
  rcases h.entry r conn.id d he with ⟨hid, hd⟩
  have hidc : s.ident c = some conn.id := by rw [ident, hc, Option.map_some]
  rw [h.ident_inj hid hidc] at hd
  exact hr hd

/-- The entries of all registries after the entry of a connection was moved to
    one of them. -/
theorem mem_refs_relist (h : s.Coherent none) {c : ConnKey} {conn : Connection}
    (hc : s.conn? c = some conn) {r : RegistryKey} (hr : r < s.registries.size)
    (q : RegistryKey) :
    ((s.relist c r).1.registry q).Sound ∧ ∀ e, e ∈ ((s.relist c r).1.registry q).refs ↔
      (e ∈ (s.registry q).refs ∧ e.2 ≠ c) ∨ (q = r ∧ e = (conn.id, c)) := by
  have hidc : s.ident c = some conn.id := by rw [ident, hc, Option.map_some]
  unfold relist
  rcases hold : (s.slot c).registry with _ | current
  · -- A slot that names nothing is listed nowhere, so nothing has to be removed.
    have hnew : ∀ q e, e ∈ (s.registry q).refs → e.2 ≠ c := by
      intro q e he hec
      have hslot := (h.entry q e.1 e.2 he).2
      rw [hec, hold] at hslot
      exact absurd hslot (by simp only [reduceCtorEq, not_false_eq_true])
    refine ⟨sound_enlist h.sound c r q, fun e => ?_⟩
    rw [mem_refs_enlist h.sound hc hr (h.notMem_order hc (by rw [hold]; simp))]
    exact or_congr_left ⟨fun he => ⟨he, hnew q e he⟩, And.left⟩
  · -- Otherwise its one entry is in the registry that the slot names.
    have hentry : ∀ q e, e ∈ (s.registry q).refs → (e.2 = c ↔ q = current ∧ e.1 = conn.id) := by
      intro q e he
      rcases h.entry q e.1 e.2 he with ⟨hid, hslot⟩
      constructor
      · intro hec
        rw [hec] at hid hslot
        exact ⟨Option.some.inj (hslot.symm.trans hold), Option.some.inj (hid.symm.trans hidc)⟩
      · rintro ⟨-, heid⟩
        exact h.ident_inj hid (heid ▸ hidc)
    dsimp only
    by_cases hsame : current = r
    · -- The entry is there already and stays.
      rw [if_pos hsame]
      rw [hsame] at hold hentry
      rcases h.listed c r hold (Option.some_ne_none _) with
        ⟨id, he⟩
      have hid : id = conn.id := ((hentry r (id, c) he).mp rfl).2
      refine ⟨h.sound q, fun e => ⟨fun hmem => ?_, ?_⟩⟩
      · by_cases hec : e.2 = c
        · rcases (hentry q e hmem).mp hec with ⟨hq, heid⟩
          exact Or.inr ⟨hq, Prod.ext heid hec⟩
        · exact Or.inl ⟨hmem, hec⟩
      · rintro (⟨hmem, -⟩ | ⟨rfl, rfl⟩)
        · exact hmem
        · rw [← hid]
          exact he
    · rw [if_neg hsame]
      -- The entry is removed there and appended here.
      have hstrike : (s.strike c current).1 =
          (s.onRegistry current (Registry.remove conn.id)).1 := by
        simp only [strike, hc]
      have hsound : ∀ p, ((s.strike c current).1.registry p).Sound := by
        rw [hstrike]
        exact sound_strike h.sound current conn.id
      have hrefs : ∀ p e, e ∈ ((s.strike c current).1.registry p).refs ↔
          e ∈ (s.registry p).refs ∧ (p = current → e.1 ≠ conn.id) := by
        rw [hstrike]
        exact mem_refs_strike h.sound current conn.id
      have hsize : r < (s.strike c current).1.registries.size := by
        rw [hstrike]
        exact (Table.size_update _ _ _).symm ▸ hr
      have hnew : conn.id ∉ ((s.strike c current).1.registry r).order := by
        intro hmem
        rcases ((hsound r).mem_order_iff conn.id).mp hmem with ⟨d, he⟩
        refine h.notMem_order hc (r := r) ?_ (((h.sound r).mem_order_iff conn.id).mpr
          ⟨d, ((hrefs r (conn.id, d)).mp he).1⟩)
        rw [hold]
        exact fun heq => hsame (Option.some.inj heq)
      refine ⟨sound_enlist hsound c r q, fun e => ?_⟩
      rw [mem_refs_enlist hsound ((conn?_strike c current s c).trans hc) hsize hnew, hrefs]
      refine or_congr_left ⟨fun he => ⟨he.1, fun hec => ?_⟩, fun he => ⟨he.1, fun hq hid => ?_⟩⟩
      · rcases (hentry q e he.1).mp hec with ⟨hq, hid⟩
        exact he.2 hq hid
      · exact he.2 ((hentry q e he.1).mpr ⟨hq, hid⟩)

/-- Putting a callback into the slot of an open connection, with the registry
    of a running notifier, keeps the agreement. -/
theorem coherent_install (h : s.Coherent none) {c : ConnKey} (hopen : s.isConnected c = true)
    {n : NotifierKey} {running : Running} (hn : s.running? n = some running)
    (k : CallbackKey) : (s.install c running.registry k).1.Coherent none := by
  rcases hc : s.conn? c with _ | conn
  · rw [isConnected_of_none hc] at hopen
    exact absurd hopen Bool.false_ne_true
  · have hidc : s.ident c = some conn.id := by rw [ident, hc, Option.map_some]
    have hrelist := fun q => mem_refs_relist h hc (h.known n running hn) q
    have hregistry : ∀ q, (s.install c running.registry k).1.registry q =
        (s.relist c running.registry).1.registry q := fun q => by
      rw [install_eq]
      rfl
    have hslot : ∀ d, (s.install c running.registry k).1.slot d =
        if d = c then ⟨some k, some running.registry, (s.slot c).generation + 1⟩
        else s.slot d := by
      intro d
      rw [slot_install, hc, Option.isSome_some]
      simp only [and_true]
    rcases install_frame c running.registry k s with ⟨registries, hsize, heq⟩
    have hframe : ∀ d, (s.install c running.registry k).1.ident d = s.ident d ∧
        (s.install c running.registry k).1.isConnected d = s.isConnected d := by
      intro d
      rw [heq]
      rcases frame_updateSlot s c
        (fun x => ⟨some k, some running.registry, x.generation + 1⟩) d with ⟨hid, hopen', -⟩
      exact ⟨hid, hopen'⟩
    have hrunning : ∀ m, (s.install c running.registry k).1.running? m = s.running? m := by
      intro m
      rw [heq]
      rfl
    have hsizes : (s.install c running.registry k).1.registries.size = s.registries.size := by
      rw [heq]
      exact hsize
    refine ⟨?_, ?_, ?_, ?_, ?_, ?_, ?_, ?_, ?_⟩
    · intro d id hid
      exact h.serial d id ((hframe d).1 ▸ hid)
    · intro q
      rw [hregistry]
      exact (hrelist q).1
    · intro q id d he
      rw [hregistry] at he
      rw [(hframe d).1, hslot]
      -- Old entries are of other connections, the new one is of this.
      rcases ((hrelist q).2 (id, d)).mp he with ⟨hold, hne⟩ | ⟨rfl, heq⟩
      · rw [if_neg hne]
        exact h.entry q id d hold
      · rcases Prod.mk.injEq .. ▸ heq with ⟨rfl, rfl⟩
        rw [if_pos rfl]
        exact ⟨hidc, rfl⟩
    · intro d q hq haway
      rw [hregistry]
      rw [hslot] at hq
      by_cases hd : d = c
      · rw [if_pos hd, Option.some.injEq] at hq
        exact ⟨conn.id, ((hrelist q).2 _).mpr (Or.inr ⟨hq.symm, by rw [hd]⟩)⟩
      · rw [if_neg hd] at hq
        rcases h.listed d q hq haway with ⟨id, he⟩
        exact ⟨id, ((hrelist q).2 _).mpr (Or.inl ⟨he, hd⟩)⟩
    · intro d k' hk
      rw [hslot] at hk ⊢
      by_cases hd : d = c
      · rw [if_pos hd]
        rfl
      · rw [if_neg hd] at hk ⊢
        exact h.filled d k' hk
    · intro d hd
      rw [(hframe d).2] at hd
      rw [hslot, if_neg]
      · exact h.closed d hd
      · -- The connection is open, so it is not among the closed ones.
        rintro rfl
        exact absurd (hd.symm.trans hopen) Bool.false_ne_true
    · intro d q hq haway
      rw [hslot] at hq
      by_cases hd : d = c
      · rw [if_pos hd, Option.some.injEq] at hq
        exact ⟨n, running, (hrunning n).trans hn, hq⟩
      · rw [if_neg hd] at hq
        rcases h.served d q hq haway with ⟨m, running', hm, hreg⟩
        exact ⟨m, running', (hrunning m).trans hm, hreg⟩
    · intro m m' a b ha hb hab
      exact h.apart m m' a b (hrunning m ▸ ha) (hrunning m' ▸ hb) hab
    · intro m running' hm
      rw [hsizes]
      exact h.known m running' (hrunning m ▸ hm)

/-- A new registry lists nothing, like one that was never made. -/
theorem registry_add_empty (s : System) (q : RegistryKey) :
    ((s.registries.add .empty).get? q).getD .empty = s.registry q := by
  rw [Table.get?_add]
  by_cases hq : q = s.registries.size
  · have hnone : s.registries.get? q = none := Array.getElem?_eq_none (Nat.le_of_eq hq.symm)
    rw [if_pos hq, registry, hnone]
    rfl
  · rw [if_neg hq]
    rfl

theorem coherent_readied (h : s.Coherent none) {n : NotifierKey} {running : Running}
    (hready : Readied n running s t) : t.Coherent none := by
  have hconn := hready.conn?
  have hident : ∀ c, t.ident c = s.ident c := fun c => ident_congr (hconn c)
  have hslot : ∀ c, t.slot c = s.slot c := fun c => slot_congr (hconn c)
  have hclosed : ∀ c, t.isConnected c = false → (s.slot c).registry = none := fun c hc =>
    h.closed c (isConnected_congr (hconn c) ▸ hc)
  have hfilled : ∀ c k, (t.slot c).callback = some k → (t.slot c).registry.isSome = true := by
    intro c k hk
    rw [hslot] at hk ⊢
    exact h.filled c k hk
  rcases hready.started with ⟨-, hregs, hrunning⟩ | ⟨hnone, hregs, hnew, hrunning⟩
  · exact h.congr hident (fun c => by rw [hslot]) hfilled hclosed hregs hrunning
  · -- The new worker serves a registry that nobody else can serve yet.
    have hregistry : ∀ q, t.registry q = s.registry q := fun q => by
      rw [registry, hregs, registry_add_empty]
    have hcases : ∀ m a, t.running? m = some a →
        (m = n ∧ a.registry = s.registries.size) ∨ s.running? m = some a := by
      intro m a hm
      by_cases hmn : m = n
      · rw [hmn, hready.serves] at hm
        exact Or.inl ⟨hmn, by rw [← Option.some.inj hm, hnew]⟩
      · exact Or.inr (hrunning m hmn ▸ hm)
    refine ⟨?_, ?_, ?_, ?_, hfilled, ?_, ?_, ?_, ?_⟩
    · intro c id hid
      exact h.serial c id (hident c ▸ hid)
    · intro q
      rw [hregistry]
      exact h.sound q
    · intro q id c he
      rw [hident, hslot]
      exact h.entry q id c (hregistry q ▸ he)
    · intro c q hq haway
      rw [hregistry]
      exact h.listed c q (hslot c ▸ hq) haway
    · intro c hc
      rw [hslot]
      exact hclosed c hc
    · intro c q hq haway
      rcases h.served c q (hslot c ▸ hq) haway with ⟨m, running', hm, hreg⟩
      refine ⟨m, running', (hrunning m ?_).trans hm, hreg⟩
      -- Whoever served a registry was running, and the new one was not.
      rintro rfl
      exact absurd (hnone.symm.trans hm) (by simp only [reduceCtorEq, not_false_eq_true])
    · intro m m' a b ha hb hab
      -- A registry that was known has a smaller number than the new one.
      rcases hcases m a ha with ⟨hm, hsize⟩ | hold
      · rcases hcases m' b hb with ⟨hm', -⟩ | hold'
        · exact hm.trans hm'.symm
        · have hlt := h.known m' b hold'
          rw [← hab, hsize] at hlt
          exact absurd hlt (Nat.lt_irrefl _)
      · rcases hcases m' b hb with ⟨-, hsize'⟩ | hold'
        · have hlt := h.known m a hold
          rw [hab, hsize'] at hlt
          exact absurd hlt (Nat.lt_irrefl _)
        · exact h.apart m m' a b hold hold' hab
    · intro m a ha
      rw [hregs, Table.size_add]
      rcases hcases m a ha with ⟨-, hsize⟩ | hold
      · rw [hsize]
        exact Nat.lt_succ_self _
      · exact Nat.lt_succ_of_lt (h.known m a hold)

end System

end ReadNotify
