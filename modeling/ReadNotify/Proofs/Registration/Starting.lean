import ReadNotify.Proofs.Shutdown.Leftovers

/-!
# What Starting a Worker Needs

The first registration with a notifier starts its worker, and whether that works is
decided by the configuration and by what the system has left. Nothing else counts: not
the connection, the callback or what is registered with anybody.

Four things can be in the way, and they are met in a fixed order. An interest set needs
a descriptor. Then come the buffers, all of which grow with the window or are as large
as deliveries may be, and one that is larger than a buffer can be ends the calling code.
So does a thread name with a zero byte in it. At last the system may have no thread.

A configuration is looked at when it is built, but neither its sizes nor its thread name
are measured against what a buffer or a thread can have. So there are configurations
that are accepted and can never be started.

## Main definitions

* `Config.Oversized`, `Config.Misnamed`: What building lets pass and starting does not.
* `Kernel.launchFault`: Why a worker of some configuration cannot be started.
* `System.obstacle`: What is in the way of a registration with a notifier.

## Theorems

* `setCallback_answer`: How a registration ends.
* `setCallback_eq_registered`: When it works.
* `set_panics_iff`: What an accepted configuration makes of a registration.
-/

namespace ReadNotify

namespace Config

/-- Some buffer of a worker would be larger than a buffer can be. -/
def Oversized (config : Config) : Prop :=
  maxBuffer < PollLoop.memberSize * config.window ∨ maxBuffer < config.bufferSize

/-- The thread name has a zero byte in it. -/
def Misnamed (config : Config) : Prop := 0 ∈ config.threadName.toUTF8.toList

instance (config : Config) : Decidable config.Oversized := inferInstanceAs (Decidable (_ ∨ _))

instance (config : Config) : Decidable config.Misnamed := inferInstanceAs (Decidable (_ ∈ _))

end Config

/-- Why a worker of some configuration cannot be started, if it cannot. -/
def Kernel.launchFault (k : Kernel) (config : Config) : Option LaunchFault :=
  if config.backend = .epoll ∧ k.starved = true then
    some (.setup (.io (.os IoError.descriptorLimit)))
  else if config.Oversized then some (.setup (.panic overflowText))
  else System.threadFault k config.threadName

/-! ### Backends touch interest sets only -/

namespace Poller

/-- Everything opening a backend can do. It touches nothing but interest sets, and finds
    no buffer too large that the loop would not find too large as well. -/
theorem create_answer (kind : BackendKind) (capacity : Nat) (k : Kernel) :
    (kind = .epoll ∧ k.starved = true ∧
      create kind capacity k = (k, .error (.io (.os IoError.descriptorLimit)))) ∨
    ¬ (kind = .epoll ∧ k.starved = true) ∧
      ((maxBuffer < PollLoop.memberSize * capacity ∧ ∃ interests,
        create kind capacity k = ({ k with interests }, .error (.panic overflowText))) ∨
      ∃ interests p, p.capacity = capacity ∧
        create kind capacity k = ({ k with interests }, .ok p)) := by
  unfold create Kernel.openInterest
  cases kind with
  | poll =>
      refine Or.inr ⟨by simp only [reduceCtorEq, false_and, not_false_eq_true], ?_⟩
      by_cases hbuffer : maxBuffer < pollEntrySize * capacity
      · refine Or.inl ⟨?_, k.interests, if_pos hbuffer⟩
        simp only [maxBuffer, pollEntrySize, PollLoop.memberSize] at hbuffer ⊢
        omega
      · exact Or.inr ⟨k.interests, .pollSet ⟨capacity⟩, rfl, if_neg hbuffer⟩
  | epoll =>
      by_cases hstarved : k.starved = true
      · rw [if_pos hstarved]
        exact Or.inl ⟨rfl, hstarved, rfl⟩
      · rw [if_neg hstarved]
        refine Or.inr ⟨fun h => hstarved h.2, ?_⟩
        dsimp only
        by_cases hbuffer : maxBuffer < epollEntrySize * max capacity 1
        · refine Or.inl ⟨?_, _, if_pos hbuffer⟩
          simp only [maxBuffer, epollEntrySize, PollLoop.memberSize] at hbuffer ⊢
          omega
        · exact Or.inr ⟨_, .epoll (.ofSet k.interests.size capacity), rfl, if_neg hbuffer⟩

end Poller

namespace System

/-- What is in the way of a registration with a notifier, if anything is. -/
def obstacle (n : NotifierKey) (s : System) : Option LaunchFault :=
  match s.notifiers.get? n with
  | none => some (.setup (.panic ""))
  | some notifier =>
    match notifier.running with
    | some _ => none
    | none => s.kernel.launchFault notifier.config

variable {s : System} {n : NotifierKey} {c : ConnKey} {k : CallbackKey} {config : Config}

/-- Waiting for the worker that was set aside touches interest sets, notes that it has
    ended, and forgets it. -/
theorem reapDetached_effect (n : NotifierKey) (s : System) :
    ∃ interests workers, s.reapDetached n =
        { s with
          kernel := { s.kernel with interests }
          notifiers := (s.reapDetached n).notifiers
          workers } ∧
      ∀ m, ((s.reapDetached n).notifiers.get? m = s.notifiers.get? m ∨
        m = n ∧ (s.reapDetached n).notifiers.get? m =
          (s.notifiers.get? m).map fun x => { x with detached := none }) := by
  unfold reapDetached
  rcases (s.notifiers.get? n).bind Notifier.detached with _ | j
  · exact ⟨s.kernel.interests, s.workers, rfl, fun _ => Or.inl rfl⟩
  · dsimp only
    split
    · exact ⟨s.kernel.interests, s.workers, rfl, fun _ => Or.inl rfl⟩
    · rcases joinWorker_frame j s with ⟨interests, workers, heq⟩
      rw [heq]
      refine ⟨interests, workers, rfl, fun m => ?_⟩
      simp only [updateNotifier, Table.get?_update]
      by_cases hm : m = n
      · rw [if_pos hm, hm]
        exact Or.inr ⟨rfl, rfl⟩
      · rw [if_neg hm]
        exact Or.inl rfl

/-! ### Starting -/

/-- A loop has its buffers unless the configuration is oversized. -/
theorem ofConfig_answer (r : RegistryKey) (counters : CountersKey) (config : Config) :
    (config.Oversized ∧ PollLoop.ofConfig r counters config.window config =
      .error (.panic overflowText)) ∨
    ¬ config.Oversized ∧ ∃ loop, PollLoop.ofConfig r counters config.window config = .ok loop := by
  have hover : config.Oversized ↔
      maxBuffer < PollLoop.memberSize * max (min config.window config.window) 1 ∨
        maxBuffer < config.bufferSize := by
    simp only [Config.Oversized, maxBuffer, PollLoop.memberSize]
    omega
  by_cases h : config.Oversized
  · exact Or.inl ⟨h, if_pos (hover.mp h)⟩
  · exact Or.inr ⟨h, _, if_neg fun h' => h (hover.mpr h')⟩

/-- How starting a worker ends. -/
theorem startWorker_answer (n : NotifierKey) (config : Config) (counters : CountersKey)
    (s : System) :
    match s.kernel.launchFault config with
    | some fault => (s.startWorker n config counters).2 = .error fault
    | none => ∃ running, (s.startWorker n config counters).2 = .ok running := by
  unfold Kernel.launchFault startWorker
  rcases Poller.create_answer config.backend config.window s.kernel with
    ⟨hkind, hstarved, heq⟩ | ⟨hopened, ⟨hbuffer, interests, heq⟩ | ⟨interests, p, hcapacity, heq⟩⟩
  · rw [if_pos ⟨hkind, hstarved⟩, heq]
  · rw [if_neg hopened, if_pos (show config.Oversized from Or.inl hbuffer), heq]
  · rw [if_neg hopened, heq]
    dsimp only
    rw [hcapacity]
    rcases ofConfig_answer s.registries.size counters config with ⟨hover, hloop⟩ |
      ⟨hover, loop, hloop⟩
    · rw [if_pos hover, hloop]
    · rw [if_neg hover, hloop]
      -- What a thread needs does not depend on interest sets.
      have hthread : threadFault { s.kernel with interests } config.threadName =
          threadFault s.kernel config.threadName := rfl
      rw [hthread]
      rcases threadFault s.kernel config.threadName with _ | fault
      · exact ⟨_, rfl⟩
      · rfl

/-- How finding or starting the worker of a notifier ends. -/
theorem ensureRunning_answer (n : NotifierKey) (s : System) :
    match s.obstacle n with
    | some fault => (s.ensureRunning n).2 = .error fault
    | none => ∃ running, (s.ensureRunning n).2 = .ok running := by
  unfold obstacle ensureRunning
  rcases s.notifiers.get? n with _ | notifier
  · rfl
  · dsimp only
    rcases notifier.running with _ | running
    · exact startWorker_answer n notifier.config notifier.counters s
    · exact ⟨running, rfl⟩

/-- Waiting for a worker that was set aside removes no obstacle and makes none. -/
theorem obstacle_reapDetached (n : NotifierKey) (s : System) (m : NotifierKey) :
    (s.reapDetached n).obstacle m = s.obstacle m := by
  rcases reapDetached_effect n s with ⟨interests, workers, heq, hrows⟩
  have hkernel : (s.reapDetached n).kernel = { s.kernel with interests } := by rw [heq]
  unfold obstacle
  rw [hkernel]
  rcases hrows m with hrow | ⟨-, hrow⟩
  · rw [hrow]
    rfl
  · rw [hrow]
    rcases s.notifiers.get? m with _ | notifier
    · rfl
    · rfl

/-- How a registration ends. -/
theorem setCallback_answer (n : NotifierKey) (c : ConnKey) (k : CallbackKey) (s : System) :
    (s.setCallback n c k).2 =
      if s.isConnected c then
        match s.obstacle n with
        | none => .registered
        | some fault => faultResult fault
      else .refused .notConnected := by
  unfold setCallback register registerOn
  split
  · have hobstacle : ((s.reapDetached n).acquire (.state n)).obstacle n = s.obstacle n :=
      obstacle_reapDetached n s n
    have hanswer := ensureRunning_answer n ((s.reapDetached n).acquire (.state n))
    rw [hobstacle] at hanswer
    dsimp only
    rcases hensure : ((s.reapDetached n).acquire (.state n)).ensureRunning n with ⟨u, r⟩
    rw [hensure] at hanswer
    rcases hs : s.obstacle n with _ | fault
    · rw [hs] at hanswer
      rcases hanswer with ⟨running, rfl⟩
      rfl
    · rw [hs] at hanswer
      rcases hanswer with rfl
      rfl
  · rfl

/-- A registration works exactly if the connection is open and nothing is in the way of
    the worker. -/
theorem setCallback_eq_registered (n : NotifierKey) (c : ConnKey) (k : CallbackKey) (s : System) :
    (s.setCallback n c k).2 = .registered ↔ s.isConnected c = true ∧ s.obstacle n = none := by
  rw [setCallback_answer]
  by_cases hopen : s.isConnected c = true
  · rw [if_pos hopen]
    rcases s.obstacle n with _ | fault
    · exact iff_of_true rfl ⟨hopen, rfl⟩
    · refine iff_of_false (faultResult_ne_registered fault) fun h => absurd h.2 ?_
      simp only [reduceCtorEq, not_false_eq_true]
  · rw [if_neg hopen]
    simp only [reduceCtorEq, hopen, false_and]

/-! ### What building lets pass -/

/-- What is looked at when a configuration is built. -/
theorem of_build {settings : List Setting} (h : Config.build settings = .ok config) :
    config = Config.ofSettings settings ∧ 0 < config.window ∧ 0 < config.bufferSize ∧
      ¬ Duration.second ≤ config.pollTimeout := by
  unfold Config.build at h
  dsimp only at h
  rcases hvalid : (Config.ofSettings settings).validate with e | ⟨⟩
  · rw [hvalid] at h
    exact absurd h (by simp only [reduceCtorEq, not_false_eq_true])
  · rw [hvalid] at h
    rcases Except.ok.inj h
    exact ⟨rfl, (Config.validate_eq_ok_iff _).mp hvalid⟩

/-- What the thread of a worker is refused with. -/
theorem threadFault_cases (kernel : Kernel) (config : Config) :
    (config.Misnamed ∧ ∃ text,
      threadFault kernel config.threadName = some (.setup (.panic text))) ∨
    ¬ config.Misnamed ∧ threadFault kernel config.threadName =
      kernel.threadError.map fun code => .spawn (.os code) := by
  unfold threadFault threadNameFault Config.Misnamed
  dsimp only
  rw [← List.contains_iff_mem]
  by_cases h : config.threadName.toUTF8.toList.contains 0 = true
  · rw [if_pos h]
    exact Or.inl ⟨h, _, rfl⟩
  · rw [if_neg h]
    exact Or.inr ⟨h, rfl⟩

/-- Building measures neither sizes nor thread names. So registering an open connection
    with a notifier of a configuration that was accepted panics exactly if the notifier
    has no worker, a descriptor can be had, and the sizes or the name do not do. Where it
    does not panic it works or is refused: for want of a descriptor, or of a thread. -/
theorem set_panics_iff {settings : List Setting} {notifier : Notifier}
    (hbuild : Config.build settings = .ok config) (hrow : s.notifiers.get? n = some notifier)
    (hconfig : notifier.config = config) (hopen : s.isConnected c = true) (k : CallbackKey) :
    let answer := (s.setCallback n c k).2
    let needy := config.backend = .epoll ∧ s.kernel.starved = true
    (config = Config.ofSettings settings ∧ 0 < config.window ∧ 0 < config.bufferSize ∧
      ¬ Duration.second ≤ config.pollTimeout) ∧
    ((∃ text, answer = .panicked text) ↔
      s.isRunning n = false ∧ ¬ needy ∧ (config.Oversized ∨ config.Misnamed)) ∧
    (answer = .registered ↔ s.isRunning n = true ∨
      ¬ needy ∧ ¬ config.Oversized ∧ ¬ config.Misnamed ∧ s.kernel.threadError = none) ∧
    ∀ e, answer = .refused e ↔ s.isRunning n = false ∧
      (needy ∧ e = .backend (.os IoError.descriptorLimit) ∨
      ¬ needy ∧ ¬ config.Oversized ∧ ¬ config.Misnamed ∧
        ∃ code, s.kernel.threadError = some code ∧ e = .spawn (.os code)) := by
  intro answer needy
  refine ⟨of_build hbuild, ?_⟩
  have hanswer : answer = _ := setCallback_answer n c k s
  rw [if_pos hopen] at hanswer
  unfold obstacle at hanswer
  rw [hrow] at hanswer
  have hrunning : s.isRunning n = notifier.running.isSome := by
    rw [isRunning, running?, hrow, Option.bind_some]
  rw [hrunning, hanswer]
  dsimp only
  -- A worker that is there is not started again. Without one what is in the way is looked
  -- for in the order in which starting meets it.
  rcases notifier.running with _ | running
  · rw [hconfig, Kernel.launchFault]
    by_cases hneedy : needy
    · rw [if_pos hneedy]
      simp [faultResult, hneedy, eq_comm]
    · rw [if_neg hneedy]
      by_cases hover : config.Oversized
      · rw [if_pos hover]
        simp [faultResult, hneedy, hover]
      · rw [if_neg hover]
        rcases threadFault_cases s.kernel config with ⟨hname, text, heq⟩ | ⟨hname, heq⟩
        · rw [heq]
          simp [faultResult, hneedy, hname]
        · rw [heq]
          rcases s.kernel.threadError with _ | code
          · simp [hneedy, hover, hname]
          · simp [faultResult, hneedy, hover, hname, eq_comm]
  · simp

/-- Three configurations that are accepted and cannot be started: a window too large for
    the buffers, deliveries too large for theirs, and a name with a zero byte in it. -/
theorem set_panics_accepted :
    let huge := maxBuffer + 1
    let wide := { Config.default with window := huge }
    let long := { Config.default with bufferSize := huge }
    let odd := { Config.default with threadName := "a\x00b" }
    let s := run [.pair 10 11, .addNotifier wide, .addNotifier long, .addNotifier odd] (init 0)
    Config.build [.window huge] = .ok wide ∧ Config.build [.bufferSize huge] = .ok long ∧
      Config.build [.threadName "a\x00b"] = .ok odd ∧ s.isConnected 0 = true ∧
      (∃ text, (s.setCallback 0 0 0).2 = .panicked text) ∧
      (∃ text, (s.setCallback 1 0 0).2 = .panicked text) ∧
      ∃ text, (s.setCallback 2 0 0).2 = .panicked text := by
  intro huge wide long odd s
  have hopen : s.isConnected 0 = true := by decide +kernel
  have hwide : Config.build [.window huge] = .ok wide := by decide +kernel
  have hlong : Config.build [.bufferSize huge] = .ok long := by decide +kernel
  have hodd : Config.build [.threadName "a\x00b"] = .ok odd := by decide +kernel
  -- None of the three notifiers is running, and there is no want of descriptors.
  have hidle : ∀ n < 3, s.isRunning n = false := by decide +kernel
  have hfree : ∀ config : Config, ¬ (config.backend = .epoll ∧ s.kernel.starved = true) :=
    fun config h => absurd h.2 (by decide +kernel)
  -- Each of them is a row of the table.
  have hrow₀ : s.notifiers.get? 0 = some ⟨wide, none, none, 0⟩ := rfl
  have hrow₁ : s.notifiers.get? 1 = some ⟨long, none, none, 1⟩ := rfl
  have hrow₂ : s.notifiers.get? 2 = some ⟨odd, none, none, 2⟩ := rfl
  refine ⟨hwide, hlong, hodd, hopen, ?_, ?_, ?_⟩
  · exact (set_panics_iff hwide hrow₀ rfl hopen 0).2.1.mpr
      ⟨hidle 0 (by decide), hfree wide, Or.inl (by decide +kernel)⟩
  · exact (set_panics_iff hlong hrow₁ rfl hopen 0).2.1.mpr
      ⟨hidle 1 (by decide), hfree long, Or.inl (by decide +kernel)⟩
  · exact (set_panics_iff hodd hrow₂ rfl hopen 0).2.1.mpr
      ⟨hidle 2 (by decide), hfree odd, Or.inr (by decide +kernel)⟩

end System

end ReadNotify
