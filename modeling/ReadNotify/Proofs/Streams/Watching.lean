import ReadNotify.Kernel.Other
import ReadNotify.Readiness.Poller

/-!
# Watching Leaves Sockets Alone

The files of a process that are no sockets are interest sets and whatever else
the program has open. Whatever is done to those, and whatever a readiness
backend is asked, no socket changes. This is
why any number of cycles may look at a connection without a byte of it being
moved.

## Theorems

* `Kernel.sockets_control`, `Kernel.sockets_wait`: Interest sets.
* `Kernel.sockets_openOther`, `Kernel.sockets_setReadable`: Other files.
* `Poller.sockets_create`, `Poller.sockets_release`, `Poller.sockets_check`:
  Backends.
-/

namespace ReadNotify

namespace Kernel

theorem sockets_notice (k : Kernel) (e : InterestKey) (f : OpenFile) :
    (k.notice e f).sockets = k.sockets := by
  have hexamine := sockets_examine k f
  unfold notice
  dsimp only
  split
  · rw [sockets_wake]
    exact hexamine
  · exact hexamine

/-- Controlling an interest set leaves sockets as they are. -/
theorem sockets_control (k : Kernel) (e : InterestKey) (op : InterestControl) (fd : Nat) :
    (k.control e op fd).1.sockets = k.sockets := by
  unfold control
  rcases k.at? fd with _ | f
  · rfl
  · dsimp only
    split
    · rfl
    · split
      · rfl
      · -- Adding and changing take notice of the file, deleting does not.
        rcases op with _ | _ | _
        · dsimp only
          split
          · rfl
          · split
            · rfl
            · exact sockets_notice _ e f
        · dsimp only
          split
          · exact sockets_notice k e f
          · rfl
        · dsimp only
          split
          · rfl
          · rfl

theorem sockets_examineAll (fs : List OpenFile) (k : Kernel) :
    (fs.foldl examine k).sockets = k.sockets := by
  induction fs generalizing k with
  | nil => rfl
  | cons f rest ih => rw [List.foldl_cons, ih, sockets_examine]

/-- So does waiting for one. -/
theorem sockets_wait (k : Kernel) (e : InterestKey) (room : Nat) :
    (k.wait e room).1.sockets = k.sockets := by
  -- Every entry that was looked at is examined, which changes no socket.
  have hfold : ∀ (is : List Interest) (k : Kernel),
      (is.foldl (fun k i => k.examine i.file) k).sockets = k.sockets := by
    intro is k
    have hmap := sockets_examineAll (is.map Interest.file) k
    rw [List.foldl_map] at hmap
    exact hmap
  exact hfold _ k

theorem sockets_openOther (pollable : Bool) (k : Kernel) :
    (k.openOther pollable).1.sockets = k.sockets := by
  unfold openOther
  split
  · rfl
  · rfl

theorem sockets_setReadable (o : OtherKey) (readable : Bool) (k : Kernel) :
    (k.setReadable o readable).sockets = k.sockets := by
  unfold setReadable
  dsimp only
  split
  · exact sockets_wake _ (.other o)
  · rfl

end Kernel

namespace Epoll

theorem sockets_arm (e : Epoll) (k : Kernel) (fd : Nat) (known : Bool) :
    (e.arm k fd known).1.sockets = k.sockets := by
  unfold arm
  -- Which of the two controls comes first does not matter.
  generalize (if known = true then
    (InterestControl.modify, InterestControl.add, IoError.noEntry)
    else (InterestControl.add, InterestControl.modify, IoError.entryExists)) = choice
  rcases choice with ⟨op, op', retryOn⟩
  have hfirst := Kernel.sockets_control k e.set op fd
  dsimp only
  rcases hcontrol : k.control e.set op fd with ⟨k', code | _⟩ <;> rw [hcontrol] at hfirst
  · dsimp only
    by_cases hretry : code = retryOn
    · rw [if_pos hretry, Kernel.sockets_control]
      exact hfirst
    · rw [if_neg hretry]
      exact hfirst
  · exact hfirst

theorem sockets_armMember (e : Epoll) (k : Kernel) (id : ConnId) :
    (e.armMember k id).2.1.sockets = k.sockets := by
  have harm := sockets_arm e k id.raw (e.watches? id.raw).isSome
  unfold armMember
  split
  · rfl
  · -- Taken or not, only the set has changed.
    rcases hresult : e.arm k id.raw (e.watches? id.raw).isSome with ⟨k', code | _⟩
    · rw [hresult] at harm
      exact harm
    · rw [hresult] at harm
      exact harm

theorem sockets_armAll (window : List ConnId) (e : Epoll) (k : Kernel) :
    (armAll window e k).2.1.sockets = k.sockets := by
  induction window generalizing e k with
  | nil => rfl
  | cons id rest ih => exact (ih _ _).trans (sockets_armMember e k id)

theorem sockets_dropAll (fds : List Nat) (e : Epoll) (k : Kernel) :
    (dropAll fds e k).2.1.sockets = k.sockets := by
  induction fds generalizing e k with
  | nil => rfl
  | cons fd rest ih => exact (ih _ _).trans (Kernel.sockets_control k e.set .delete fd)

/-- Bringing a set in line with a window leaves sockets alone. -/
theorem sockets_sync (window : List ConnId) (e : Epoll) (k : Kernel) :
    (e.sync window k).2.1.sockets = k.sockets :=
  (sockets_armAll window _ _).trans (sockets_dropAll (e.stale window) e k)

end Epoll

namespace Poller

/-- Opening a backend leaves sockets alone. -/
theorem sockets_create (kind : BackendKind) (capacity : Nat) (k : Kernel) :
    (create kind capacity k).1.sockets = k.sockets := by
  unfold create
  rcases kind with _ | _
  · dsimp only
    split
    · rfl
    · rfl
  · dsimp only
    unfold Kernel.openInterest
    by_cases hstarved : k.starved = true
    · rw [if_pos hstarved]
    · rw [if_neg hstarved]
      dsimp only
      split
      · rfl
      · rfl

/-- So does giving it back. -/
theorem sockets_release (p : Poller) (k : Kernel) : (p.release k).sockets = k.sockets := by
  rcases p with _ | e
  · rfl
  · rfl

/-- So does asking it. -/
theorem sockets_check (window : List ConnId) (p : Poller) (k : Kernel) :
    (p.check window k).2.1.sockets = k.sockets := by
  rcases p with q | e
  · exact Kernel.sockets_examineAll _ k
  · unfold check
    dsimp only
    split
    · exact Epoll.sockets_sync window e k
    · exact (Kernel.sockets_wait _ _ _).trans (Epoll.sockets_sync window e k)

end Poller

end ReadNotify
