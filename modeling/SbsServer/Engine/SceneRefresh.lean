import SbsServer.Engine.SceneTransition

/-!
# Refreshes during a transition

In the runs in which no refresh carries another start than the one that the
compositor thread recorded, a transition runs once and ends in time.  The
invariant follows the commands that are still on their way, with the one that a
refresh would push next as the last of them.
-/

namespace SbsServer
namespace Engine

open CLib SceneGraph

namespace TransitionRun

variable {Item Background : Type} {drawing : SceneDrawing Item Background}
  {run : TransitionRun Item Background} {timing : Nat → Int64 × UInt32}

/-- The command that a refresh would push. -/
def current
    (drawing : SceneDrawing Item Background)
    (run : TransitionRun Item Background) : SetSceneCommand Item Background :=
  ⟨run.number, buildCompositorState drawing run.graph⟩

/-- The commands on their way and the one that a refresh would push. -/
def pending
    (drawing : SceneDrawing Item Background)
    (run : TransitionRun Item Background) : List (SetSceneCommand Item Background) :=
  run.commands ++ [run.current drawing]

/-- A command carries the start and the duration of its transition. -/
structure CommandSound
    (timing : Nat → Int64 × UInt32)
    (command : SetSceneCommand Item Background) : Prop where
  start : command.state.transitionStartTimeUs = (timing command.number).1
  duration : command.state.transitionDurationMs = (timing command.number).2
  active : command.state.transitionActive = true →
    0 < command.number ∧ 0 < command.state.transitionDurationMs.toNat
  idle : command.state.transitionActive = false → 0 < command.number →
    command.state.transitionProgress = .finite 1

/-- Within a transition an active command never follows an inactive one. -/
def Before (first second : SetSceneCommand Item Background) : Prop :=
  first.number ≤ second.number ∧
    (first.number = second.number → second.state.transitionActive = true →
      first.state.transitionActive = true)

/-- The thread is in the transition with the start that it recorded. -/
structure Running
    (run : TransitionRun Item Background)
    (since : Int64)
    (durationMs : UInt32) : Prop where
  start : run.scene.transitionStartTimeUs.toInt ≤ since.toInt
  duration : run.scene.transitionDurationMs = durationMs
  reached : ∀ report ∈ run.seen.reports,
    report.progress.atMost
      (progressAt run.scene.transitionStartTimeUs durationMs run.clock) = true
  ended : run.scene.transitionActive = false →
    run.scene.transitionProgress = .finite 1 ∧
      progressAt run.scene.transitionStartTimeUs durationMs run.clock = .finite 1

/-- The graph has ended the transition. -/
structure Done
    (drawing : SceneDrawing Item Background)
    (run : TransitionRun Item Background) : Prop where
  inactive : run.scene.transitionActive = false
  progress : run.scene.transitionProgress = .finite 1
  final : ∀ command ∈ run.pending drawing, command.number = run.seen.number →
    command.state.transitionActive = false

/-- A transition that the thread has seen since a time. -/
structure Watched
    (drawing : SceneDrawing Item Background)
    (timing : Nat → Int64 × UInt32)
    (run : TransitionRun Item Background)
    (since : Int64)
    (durationMs : UInt32) : Prop where
  number : 0 < run.seen.number
  positive : 0 < durationMs.toNat
  duration : durationMs = (timing run.seen.number).2
  past : since.toInt ≤ run.clock.toInt
  undisturbed : Undisturbed run.seen
  bounded : ∀ report ∈ run.seen.reports, report.progress.atMost (.finite 1) = true
  phase : run.Running since durationMs ∨ run.Done drawing

/-- What holds in every run that meets the condition. -/
structure Sound
    (drawing : SceneDrawing Item Background)
    (timing : Nat → Int64 × UInt32)
    (run : TransitionRun Item Background) : Prop where
  past : ∀ number, (timing number).1.toInt ≤ run.clock.toInt
  commands : ∀ command ∈ run.pending drawing, CommandSound timing command
  ordered : (run.pending drawing).Pairwise Before
  later : ∀ command ∈ run.pending drawing, run.seen.number ≤ command.number
  unseen : run.seen.firstSeen = none → run.seen = .unseen run.seen.number
  watched : ∀ since durationMs, run.seen.firstSeen = some (since, durationMs) →
    run.Watched drawing timing since durationMs

variable {now since : Int64} {durationMs : UInt32}

/-- Progress that counts as whole is one. -/
theorem progressAt_eq_one
    {startTimeUs now : Int64}
    (whole : (progressAt startTimeUs durationMs now).atLeast 1 = true) :
    progressAt startTimeUs durationMs now = .finite 1 := by
  unfold progressAt at whole ⊢
  dsimp only at whole ⊢
  split
  next => rfl
  next running =>
    rw [if_neg running] at whole
    split
    next => rfl
    next short =>
      rw [if_neg short] at whole
      split at whole
      next => cases whole
      next => exact absurd whole short

/-- A transition whose progress is one stays so. -/
theorem progressAt_stays_one
    {startTimeUs now later : Int64}
    (positive : 0 < durationMs.toNat)
    (ordered : startTimeUs.toInt ≤ now.toInt)
    (forward : now.toInt ≤ later.toInt)
    (whole : progressAt startTimeUs durationMs now = .finite 1) :
    progressAt startTimeUs durationMs later = .finite 1 := by
  have further := progressAt_atMost positive ordered forward
  rw [whole] at further
  exact progressAt_eq_one (Double.atLeast_of_atMost further (decide_eq_true (le_refl (1 : ℚ))))

/-- Time goes on. -/
theorem Running.tick
    (running : run.Running since durationMs)
    (positive : 0 < durationMs.toNat)
    (past : since.toInt ≤ run.clock.toInt)
    (forward : run.clock.toInt ≤ now.toInt) :
    Running { run with clock := now } since durationMs := by
  have started := running.start.trans past
  constructor
  · exact running.start
  · exact running.duration
  · intro report member
    exact Double.atMost_trans (running.reached report member)
      (progressAt_atMost positive started forward)
  · intro inactive
    obtain ⟨progress, whole⟩ := running.ended inactive
    exact ⟨progress, progressAt_stays_one positive started forward whole⟩

theorem Sound.tick
    (sound : run.Sound drawing timing)
    (forward : run.clock ≤ now) :
    Sound drawing timing { run with clock := now } := by
  have ordered := Int64.le_iff_toInt_le.mp forward
  constructor
  · intro number
    exact (sound.past number).trans ordered
  · exact sound.commands
  · exact sound.ordered
  · exact sound.later
  · exact sound.unseen
  · intro since durationMs seen
    have watched := sound.watched since durationMs seen
    refine { watched with
      past := watched.past.trans ordered
      phase := ?_ }
    rcases watched.phase with running | done
    · exact .inl (running.tick watched.positive watched.past ordered)
    · exact .inr ⟨done.inactive, done.progress, done.final⟩

theorem mem_pending
    {command : SetSceneCommand Item Background} :
    command ∈ run.pending drawing ↔
      command ∈ run.commands ∨ command = run.current drawing := by
  rw [pending, List.mem_append, List.mem_singleton]

variable {graph : SceneGraph}

/-- A change of the graph that leaves the timing of its transition, or ends it. -/
theorem Sound.withGraph
    (sound : run.Sound drawing timing)
    (command : CommandSound timing (current drawing { run with graph := graph }))
    (ends : (current drawing { run with graph := graph }).state.transitionActive = true →
      (run.current drawing).state.transitionActive = true) :
    Sound drawing timing { run with graph := graph } := by
  have ordered := List.pairwise_append.mp sound.ordered
  constructor
  · exact sound.past
  · intro other member
    rcases mem_pending.mp member with queued | rfl
    · exact sound.commands other (mem_pending.mpr (.inl queued))
    · exact command
  · apply pairwise_concat ordered.1
    intro first queued
    have before := ordered.2.2 first queued _ (List.mem_singleton.mpr rfl)
    exact ⟨before.1, fun same active => before.2 same (ends active)⟩
  · intro other member
    rcases mem_pending.mp member with queued | rfl
    · exact sound.later other (mem_pending.mpr (.inl queued))
    · exact sound.later (run.current drawing) (mem_pending.mpr (.inr rfl))
  · exact sound.unseen
  · intro since durationMs seen
    have watched := sound.watched since durationMs seen
    refine { watched with
      phase := ?_ }
    rcases watched.phase with running | done
    · exact .inl ⟨running.start, running.duration, running.reached, running.ended⟩
    · refine .inr ⟨done.inactive, done.progress, ?_⟩
      intro other member same
      rcases mem_pending.mp member with queued | rfl
      · exact done.final other (mem_pending.mpr (.inl queued)) same
      · have inactive := done.final (run.current drawing) (mem_pending.mpr (.inr rfl)) same
        rw [← Bool.not_eq_true] at inactive ⊢
        exact fun active => inactive (ends active)

/-- A refresh pushes the command. -/
theorem Sound.push
    (sound : run.Sound drawing timing) :
    Sound drawing timing { run with
      commands := run.commands ++ [run.current drawing] } := by
  have same : ∀ command,
      command ∈ pending drawing { run with
        commands := run.commands ++ [run.current drawing] } ↔
      command ∈ run.pending drawing := by
    intro command
    rw [mem_pending, mem_pending, List.mem_append, List.mem_singleton]
    exact or_assoc.trans (or_congr_right (or_self_iff))
  constructor
  · exact sound.past
  · intro command member
    exact sound.commands command ((same command).mp member)
  · apply pairwise_concat sound.ordered
    intro first queued
    rcases mem_pending.mp queued with older | rfl
    · exact (List.pairwise_append.mp sound.ordered).2.2 first older _
        (List.mem_singleton.mpr rfl)
    · exact ⟨le_refl _, fun _ active => active⟩
  · intro command member
    exact sound.later command ((same command).mp member)
  · exact sound.unseen
  · intro since durationMs seen
    have watched := sound.watched since durationMs seen
    refine { watched with
      phase := ?_ }
    rcases watched.phase with running | done
    · exact .inl ⟨running.start, running.duration, running.reached, running.ended⟩
    · refine .inr ⟨done.inactive, done.progress, ?_⟩
      intro command member
      exact done.final command ((same command).mp member)

/-- An update of the runtime leaves its timing or ends the transition. -/
theorem Sound.updateRuntime
    (sound : run.Sound drawing timing)
    (now : Int64) :
    Sound drawing timing { run with graph := run.graph.updateTransitionRuntime now } := by
  have before := sound.commands (run.current drawing) (mem_pending.mpr (.inr rfl))
  have one : (Double.finite 1).toFloat = .finite 1 := by decide +kernel
  have kept : ∀ graph, graph = run.graph ∨ graph.transitionRuntime =
        { run.graph.transitionRuntime with progress := .finite 1, active := false } ∨
      (run.graph.transitionRuntime.active = true ∧ ∃ progress, graph.transitionRuntime =
        { run.graph.transitionRuntime with progress := progress }) →
      Sound drawing timing { run with graph := graph } := by
    rintro graph (rfl | ended | ⟨active, progress, runs⟩)
    · exact sound
    · have built : (buildCompositorState drawing graph).transitionActive = false ∧
          (buildCompositorState drawing graph).transitionProgress = .finite 1 ∧
          (buildCompositorState drawing graph).transitionStartTimeUs =
            (buildCompositorState drawing run.graph).transitionStartTimeUs ∧
          (buildCompositorState drawing graph).transitionDurationMs =
            (buildCompositorState drawing run.graph).transitionDurationMs := by
        unfold buildCompositorState
        rw [ended]
        exact ⟨rfl, one, rfl, rfl⟩
      obtain ⟨inactive, whole, start, duration⟩ := built
      refine sound.withGraph ⟨start.trans before.start, duration.trans before.duration, ?_, ?_⟩ ?_
      · exact fun isActive => nomatch inactive.symm.trans isActive
      · exact fun _ _ => whole
      · exact fun isActive => nomatch inactive.symm.trans isActive
    · have built : (buildCompositorState drawing graph).transitionActive = true ∧
          (buildCompositorState drawing graph).transitionStartTimeUs =
            (buildCompositorState drawing run.graph).transitionStartTimeUs ∧
          (buildCompositorState drawing graph).transitionDurationMs =
            (buildCompositorState drawing run.graph).transitionDurationMs := by
        unfold buildCompositorState
        rw [runs]
        exact ⟨active, rfl, rfl⟩
      obtain ⟨stillActive, start, duration⟩ := built
      refine sound.withGraph ⟨start.trans before.start, duration.trans before.duration, ?_, ?_⟩ ?_
      · intro _
        obtain ⟨numbered, positive⟩ := before.active active
        exact ⟨numbered, lt_of_lt_of_eq positive (congrArg UInt32.toNat duration.symm)⟩
      · exact fun inactive => nomatch inactive.symm.trans stillActive
      · exact fun _ => active
  apply kept
  unfold updateTransitionRuntime
  dsimp only
  split
  next => exact .inl rfl
  next active =>
    have isActive : run.graph.transitionRuntime.active = true := by simpa using active
    split
    next => exact .inr (.inl rfl)
    next =>
      split
      next => exact .inr (.inl rfl)
      next => exact .inr (.inr ⟨isActive, _, rfl⟩)

/-- Another change of the graph. -/
theorem Sound.edit
    (sound : run.Sound drawing timing)
    (same : SameTiming graph.transitionRuntime run.graph.transitionRuntime) :
    Sound drawing timing { run with graph := graph } := by
  obtain ⟨active, duration, progress, start⟩ := same
  have before := sound.commands (run.current drawing) (mem_pending.mpr (.inr rfl))
  refine sound.withGraph
    ⟨start.trans before.start, duration.trans before.duration, ?_, ?_⟩ ?_
  · intro isActive
    obtain ⟨numbered, positive⟩ := before.active (active.symm.trans isActive)
    exact ⟨numbered, lt_of_lt_of_eq positive (congrArg UInt32.toNat duration.symm)⟩
  · intro inactive numbered
    exact (congrArg Double.toFloat progress).trans
      (before.idle (active.symm.trans inactive) numbered)
  · exact fun isActive => active.symm.trans isActive

theorem runtime_setActiveScene
    {graph after : SceneGraph}
    {sceneId transitionId : Option CStr}
    (activated : graph.setActiveScene sceneId transitionId now = (.ok, after)) :
    after.transitionRuntime.startTimeUs = now ∧
      (after.transitionRuntime.active = true →
        0 < after.transitionRuntime.durationMs.toNat) ∧
      (after.transitionRuntime.active = false →
        after.transitionRuntime.progress = .finite 1) := by
  unfold setActiveScene at activated
  split at activated
  next => cases activated
  next =>
    split at activated
    next => cases activated
    next =>
      dsimp only at activated
      split at activated
      next => cases activated
      next =>
        cases activated
        dsimp only [bumpVersion, activate, startTransition]
        refine ⟨rfl, ?_, ?_⟩
        · intro active
          unfold takesTime at active
          split at active
          next transition found =>
            rw [Bool.and_eq_true, decide_eq_true_eq, decide_eq_true_eq] at active
            rw [found]
            exact active.2
          next => cases active
        · intro inactive
          rw [inactive]
          rfl

/-- A new transition starts. -/
theorem Sound.activate
    (sound : run.Sound drawing timing)
    (start : graph.transitionRuntime.startTimeUs = run.clock)
    (positive : graph.transitionRuntime.active = true →
      0 < graph.transitionRuntime.durationMs.toNat)
    (idle : graph.transitionRuntime.active = false →
      graph.transitionRuntime.progress = .finite 1) :
    Sound drawing
      (Function.update timing (run.number + 1)
        (run.clock, graph.transitionRuntime.durationMs))
      { run with
        graph := graph
        number := run.number + 1 } := by
  have ordered := List.pairwise_append.mp sound.ordered
  have older : ∀ command ∈ run.commands, command.number ≤ run.number :=
    fun command queued => (ordered.2.2 command queued _ (List.mem_singleton.mpr rfl)).1
  have known : ∀ number, number ≤ run.number →
      Function.update timing (run.number + 1)
        (run.clock, graph.transitionRuntime.durationMs) number = timing number := by
    intro number isOld
    exact Function.update_of_ne (by omega) _ _
  have fresh : Function.update timing (run.number + 1)
      (run.clock, graph.transitionRuntime.durationMs) (run.number + 1) =
        (run.clock, graph.transitionRuntime.durationMs) := Function.update_self _ _ _
  have seenOld : run.seen.number ≤ run.number :=
    sound.later (run.current drawing) (mem_pending.mpr (.inr rfl))
  have one : (Double.finite 1).toFloat = .finite 1 := by decide +kernel
  constructor
  · intro number
    by_cases isNew : number = run.number + 1
    · rw [isNew, Function.update_self]
    · rw [Function.update_of_ne isNew]
      exact sound.past number
  · intro command member
    rcases mem_pending.mp member with queued | rfl
    · have commandSound := sound.commands command (mem_pending.mpr (.inl queued))
      have timed := known command.number (older command queued)
      exact ⟨commandSound.start.trans (congrArg Prod.fst timed.symm),
        commandSound.duration.trans (congrArg Prod.snd timed.symm), commandSound.active,
        commandSound.idle⟩
    · constructor
      · exact start.trans (congrArg Prod.fst fresh).symm
      · exact (congrArg Prod.snd fresh).symm
      · exact fun active => ⟨Nat.succ_pos _, positive active⟩
      · intro inactive _
        exact (congrArg Double.toFloat (idle inactive)).trans one
  · apply pairwise_concat ordered.1
    intro first queued
    have isOld := older first queued
    refine ⟨Nat.le_succ_of_le isOld, fun same => ?_⟩
    have numbers : first.number = run.number + 1 := same
    omega
  · intro command member
    rcases mem_pending.mp member with queued | rfl
    · exact sound.later command (mem_pending.mpr (.inl queued))
    · exact Nat.le_succ_of_le seenOld
  · exact sound.unseen
  · intro since durationMs seen
    have watched := sound.watched since durationMs seen
    refine { watched with
      duration := watched.duration.trans (congrArg Prod.snd (known _ seenOld).symm)
      phase := ?_ }
    rcases watched.phase with running | done
    · exact .inl ⟨running.start, running.duration, running.reached, running.ended⟩
    · refine .inr ⟨done.inactive, done.progress, ?_⟩
      intro command member same
      rcases mem_pending.mp member with queued | rfl
      · exact done.final command (mem_pending.mpr (.inl queued)) same
      · have numbers : run.number + 1 = run.seen.number := same
        omega

/-! ## The thread applies a command -/

/-- A transition that nothing was seen of is undisturbed. -/
theorem undisturbed_of_noReports
    {seen : SeenTransition}
    (once : seen.starts ≤ 1)
    (noReports : seen.reports = []) :
    Undisturbed seen where
  once := once
  forward := by
    rw [noReports]
    exact List.Pairwise.nil
  ended := by
    intro _ _ _ report member
    rw [noReports] at member
    cases member

/-- A command with the start that the thread recorded. -/
theorem not_newTransition
    {scene command : CompSceneState Item Background}
    (keepsStart : command.transitionActive = true →
      command.transitionStartTimeUs = scene.transitionStartTimeUs) :
    scene.newTransition command = false := by
  unfold CompSceneState.newTransition
  cases active : command.transitionActive with
  | false => rfl
  | true => exact decide_eq_false (not_not.mpr (keepsStart active))

section Apply

variable {command : SetSceneCommand Item Background}
  {rest : List (SetSceneCommand Item Background)} {cachedEntry : Option Nat}

/-- The run after a command. -/
def applied
    (run : TransitionRun Item Background)
    (command : SetSceneCommand Item Background)
    (rest : List (SetSceneCommand Item Background))
    (cachedEntry : Option Nat) : TransitionRun Item Background :=
  { run with
    commands := rest
    scene := run.scene.setScene command.state run.clock
    cachedEntry := cachedEntry
    seen := run.seen.afterCommand command.number command.state.transitionActive
      (run.scene.newTransition command.state) command.state.transitionDurationMs run.clock }

/-- The first active command of a transition. -/
theorem Sound.watched_first
    (sound : run.Sound drawing timing)
    (queued : run.commands = command :: rest)
    (active : command.state.transitionActive = true)
    (seen : (run.applied command rest cachedEntry).seen = {
      number := command.number
      firstSeen := some (run.clock, command.state.transitionDurationMs)
      starts := if run.scene.newTransition command.state then 1 else 0
      reports := [] }) :
    Watched drawing timing (run.applied command rest cachedEntry) run.clock
      command.state.transitionDurationMs := by
  have isPending : command ∈ run.pending drawing :=
    mem_pending.mpr (.inl (queued ▸ List.mem_cons_self))
  have commandSound := sound.commands command isPending
  obtain ⟨numbered, positive⟩ := commandSound.active active
  constructor
  · rw [seen]
    exact numbered
  · exact positive
  · rw [seen]
    exact commandSound.duration
  · exact le_refl _
  · apply undisturbed_of_noReports
    · rw [seen]
      dsimp only
      split
      next => exact le_refl 1
      next => exact Nat.zero_le 1
    · rw [seen]
  · intro report member
    rw [seen] at member
    cases member
  · left
    constructor
    · dsimp only [applied, CompSceneState.setScene]
      split
      next => exact le_refl _
      next =>
        rw [commandSound.start]
        exact sound.past command.number
    · dsimp only [applied, CompSceneState.setScene]
      split <;> rfl
    · intro report member
      rw [seen] at member
      cases member
    · intro inactive
      dsimp only [applied, CompSceneState.setScene] at inactive
      split at inactive
      next => exact nomatch active.symm.trans inactive
      next => exact nomatch active.symm.trans inactive

/-- A later command of a transition that was seen. -/
theorem Watched.apply
    {since : Int64}
    {durationMs : UInt32}
    (watched : run.Watched drawing timing since durationMs)
    (sound : run.Sound drawing timing)
    (queued : run.commands = command :: rest)
    (same : command.number = run.seen.number)
    (keepsStart : command.state.transitionActive = true →
      command.state.transitionStartTimeUs = run.scene.transitionStartTimeUs)
    (seen : (run.applied command rest cachedEntry).seen = run.seen) :
    Watched drawing timing (run.applied command rest cachedEntry) since durationMs := by
  have isPending : command ∈ run.pending drawing :=
    mem_pending.mpr (.inl (queued ▸ List.mem_cons_self))
  have commandSound := sound.commands command isPending
  have notNew := not_newTransition keepsStart
  have scene : (run.applied command rest cachedEntry).scene = command.state := by
    dsimp only [applied, CompSceneState.setScene]
    rw [notNew]
    rfl
  refine ⟨seen ▸ watched.number, watched.positive, seen ▸ watched.duration, watched.past,
    seen ▸ watched.undisturbed, seen ▸ watched.bounded, ?_⟩
  cases active : command.state.transitionActive with
  | true =>
      rcases watched.phase with running | done
      · left
        constructor
        · rw [scene, keepsStart active]
          exact running.start
        · rw [scene, commandSound.duration, same, ← watched.duration]
        · rw [seen, scene, keepsStart active]
          exact running.reached
        · intro inactive
          rw [scene] at inactive
          exact nomatch active.symm.trans inactive
      · exact nomatch active.symm.trans (done.final command isPending same)
  | false =>
      right
      constructor
      · rw [scene]
        exact active
      · rw [scene]
        exact commandSound.idle active (same ▸ watched.number)
      · intro other member sameNumber
        rw [seen] at sameNumber
        have before : Before command other := by
          have ordered := sound.ordered
          rw [pending, queued] at ordered
          exact (List.pairwise_cons.mp ordered).1 other member
        rw [← Bool.not_eq_true]
        intro otherActive
        exact nomatch active.symm.trans
          (before.2 (same.trans sameNumber.symm) otherActive)

/-- A command. -/
theorem Sound.apply
    (sound : run.Sound drawing timing)
    (queued : run.commands = command :: rest)
    (keepsStart : command.state.transitionActive = true →
      command.number = run.seen.number → run.seen.firstSeen.isSome = true →
        command.state.transitionStartTimeUs = run.scene.transitionStartTimeUs) :
    Sound drawing timing (run.applied command rest cachedEntry) := by
  have ordered := sound.ordered
  rw [pending, queued] at ordered
  have inRest : ∀ other, other ∈ (run.applied command rest cachedEntry).pending drawing →
      other ∈ run.pending drawing := by
    intro other member
    rw [pending, queued]
    exact List.mem_cons_of_mem _ member
  have number : (run.applied command rest cachedEntry).seen.number = command.number := by
    dsimp only [applied, SeenTransition.afterCommand]
    split
    next same => exact same.symm
    next => rfl
  have isFresh : command.number ≠ run.seen.number ∨ run.seen.firstSeen = none →
      (run.applied command rest cachedEntry).seen = {
        number := command.number
        firstSeen :=
          if command.state.transitionActive then
            some (run.clock, command.state.transitionDurationMs)
          else none
        starts := if run.scene.newTransition command.state then 1 else 0
        reports := [] } := by
    intro fresh
    have start : (if command.number = run.seen.number then run.seen
        else .unseen command.number) = SeenTransition.unseen command.number := by
      rcases fresh with other | unseen
      · rw [if_neg other]
      · split
        next same => rw [sound.unseen unseen, same]
        next => rfl
    dsimp only [applied, SeenTransition.afterCommand]
    rw [start]
    rfl
  have isKept : command.number = run.seen.number → run.seen.firstSeen.isSome = true →
      (run.applied command rest cachedEntry).seen = run.seen := by
    intro same isSeen
    have notNew := not_newTransition fun active => keepsStart active same isSeen
    obtain ⟨first, known⟩ := Option.isSome_iff_exists.mp isSeen
    dsimp only [applied, SeenTransition.afterCommand]
    rw [notNew, if_pos same, known, if_neg Bool.false_ne_true, Option.some_or, ite_self, ← known]
  constructor
  · exact sound.past
  · exact fun other member => sound.commands other (inRest other member)
  · exact (List.pairwise_cons.mp ordered).2
  · intro other member
    rw [number]
    exact ((List.pairwise_cons.mp ordered).1 other member).1
  · intro unseen
    by_cases fresh : command.number ≠ run.seen.number ∨ run.seen.firstSeen = none
    · have seen := isFresh fresh
      rw [seen] at unseen ⊢
      dsimp only at unseen
      split at unseen
      next => cases unseen
      next inactive =>
        have notNew : run.scene.newTransition command.state = false :=
          not_newTransition fun active => absurd active inactive
        rw [if_neg inactive, notNew]
        rfl
    · rw [not_or, not_not, ← ne_eq, ← Option.isSome_iff_ne_none] at fresh
      have seen := isKept fresh.1 fresh.2
      rw [seen] at unseen
      rw [unseen] at fresh
      exact nomatch fresh.2
  · intro since durationMs known
    by_cases fresh : command.number ≠ run.seen.number ∨ run.seen.firstSeen = none
    · have seen := isFresh fresh
      rw [seen] at known
      dsimp only at known
      split at known
      next active =>
        cases known
        rw [if_pos active] at seen
        exact sound.watched_first queued active seen
      next => cases known
    · rw [not_or, not_not, ← ne_eq, ← Option.isSome_iff_ne_none] at fresh
      have seen := isKept fresh.1 fresh.2
      rw [seen] at known
      exact (sound.watched since durationMs known).apply sound queued fresh.1
        (fun active => keepsStart active fresh.1 fresh.2) seen

end Apply

/-! ## An iteration of the render loop -/

/-- The run after an iteration. -/
def iterated (run : TransitionRun Item Background) : TransitionRun Item Background :=
  let scene := updateSceneTransition run.scene run.clock
  { run with
    scene := scene
    cachedEntry := if scene.transitionActive then run.cachedEntry else none
    seen := run.seen.afterIteration scene.transitionProgress scene.transitionActive run.clock }

/-- One more report. -/
theorem undisturbed_report
    {seen : SeenTransition}
    (undisturbed : Undisturbed seen)
    (known : seen.firstSeen = some (since, durationMs))
    {report : TransitionReport}
    (forward : ∀ earlier ∈ seen.reports,
      earlier.progress.atMost report.progress = true)
    (ended : since.toInt + 1000 * durationMs.toNat ≤ report.time.toInt →
      report.active = false) :
    Undisturbed { seen with reports := report :: seen.reports } where
  once := undisturbed.once
  forward := List.pairwise_cons.mpr ⟨forward, undisturbed.forward⟩
  ended := by
    intro sinceOther durationOther knownOther other member past
    cases known.symm.trans knownOther
    rcases List.mem_cons.mp member with rfl | older
    · exact ended past
    · exact undisturbed.ended since durationMs known other older past

/-- An iteration after the transition has ended. -/
theorem Watched.iterate_ended
    (watched : run.Watched drawing timing since durationMs)
    (known : run.seen.firstSeen = some (since, durationMs))
    (inactive : run.scene.transitionActive = false)
    (whole : run.scene.transitionProgress = .finite 1) :
    Watched drawing timing run.iterated since durationMs := by
  have scene : run.iterated.scene = run.scene := updateSceneTransition_inactive inactive
  have seen : run.iterated.seen = { run.seen with
      reports := ⟨run.clock, .finite 1, false⟩ :: run.seen.reports } := by
    dsimp only [iterated, SeenTransition.afterIteration]
    rw [updateSceneTransition_inactive inactive, known, inactive, whole]
    rfl
  have oneIsOne : (Double.finite 1).atMost (.finite 1) = true :=
    decide_eq_true (le_refl (1 : ℚ))
  refine ⟨?_, watched.positive, ?_, watched.past, ?_, ?_, ?_⟩
  · rw [seen]
    exact watched.number
  · rw [seen]
    exact watched.duration
  · rw [seen]
    exact undisturbed_report watched.undisturbed known watched.bounded fun _ => rfl
  · intro report member
    rw [seen] at member
    rcases List.mem_cons.mp member with rfl | older
    · exact oneIsOne
    · exact watched.bounded report older
  · rcases watched.phase with running | done
    · obtain ⟨progress, ended⟩ := running.ended inactive
      left
      constructor
      · rw [scene]
        exact running.start
      · rw [scene]
        exact running.duration
      · intro report member
        rw [seen] at member
        rw [scene]
        rcases List.mem_cons.mp member with rfl | older
        · exact ended ▸ oneIsOne
        · exact running.reached report older
      · intro _
        rw [scene]
        exact ⟨progress, ended⟩
    · right
      constructor
      · rw [scene]
        exact done.inactive
      · rw [scene]
        exact done.progress
      · intro command member same
        rw [seen] at same
        exact done.final command member same

/-- An iteration while the transition runs. -/
theorem Watched.iterate_active
    (watched : run.Watched drawing timing since durationMs)
    (known : run.seen.firstSeen = some (since, durationMs))
    (running : run.Running since durationMs)
    (active : run.scene.transitionActive = true) :
    Watched drawing timing run.iterated since durationMs := by
  have positive : 0 < run.scene.transitionDurationMs.toNat :=
    running.duration ▸ watched.positive
  obtain ⟨progress, isActive, start, duration⟩ :=
    @updateSceneTransition_active _ _ run.scene run.clock active positive
  rw [running.duration] at progress isActive duration
  have started := running.start.trans watched.past
  have seen : run.iterated.seen = { run.seen with
      reports := ⟨run.clock, progressAt run.scene.transitionStartTimeUs durationMs run.clock,
        !(progressAt run.scene.transitionStartTimeUs durationMs run.clock).atLeast 1⟩ ::
          run.seen.reports } := by
    dsimp only [iterated, SeenTransition.afterIteration]
    rw [progress, isActive, known]
    rfl
  refine ⟨?_, watched.positive, ?_, watched.past, ?_, ?_, .inl ?_⟩
  · rw [seen]
    exact watched.number
  · rw [seen]
    exact watched.duration
  · rw [seen]
    refine undisturbed_report watched.undisturbed known running.reached ?_
    intro past
    have begun : run.scene.transitionStartTimeUs.toInt + 1000 * durationMs.toNat ≤
        run.clock.toInt := by
      have start := running.start
      exact (add_le_add_left start _).trans past
    dsimp only
    rw [progressAt_over watched.positive begun]
    rfl
  · intro report member
    rw [seen] at member
    rcases List.mem_cons.mp member with rfl | older
    · exact progressAt_atMost_one watched.positive started
    · exact watched.bounded report older
  · constructor
    · exact (congrArg Int64.toInt start).trans_le running.start
    · exact duration
    · intro report member
      rw [seen] at member
      have same : run.iterated.scene.transitionStartTimeUs =
          run.scene.transitionStartTimeUs := start
      rw [same]
      rcases List.mem_cons.mp member with rfl | older
      · exact progressAt_atMost watched.positive started (le_refl _)
      · exact running.reached report older
    · intro inactive
      have whole : (progressAt run.scene.transitionStartTimeUs durationMs
          run.clock).atLeast 1 = true := by
        have ended := isActive.symm.trans inactive
        simpa using ended
      have one := progressAt_eq_one whole
      have same : run.iterated.scene.transitionStartTimeUs =
          run.scene.transitionStartTimeUs := start
      rw [same]
      exact ⟨progress.trans one, one⟩

/-- An iteration. -/
theorem Sound.iterate
    (sound : run.Sound drawing timing) :
    Sound drawing timing run.iterated := by
  have number : run.iterated.seen.number = run.seen.number := by
    dsimp only [iterated, SeenTransition.afterIteration]
    split <;> rfl
  have firstSeen : run.iterated.seen.firstSeen = run.seen.firstSeen := by
    dsimp only [iterated, SeenTransition.afterIteration]
    split <;> rfl
  constructor
  · exact sound.past
  · exact sound.commands
  · exact sound.ordered
  · rw [number]
    exact sound.later
  · intro unseen
    rw [firstSeen] at unseen
    have kept : run.iterated.seen = run.seen := by
      dsimp only [iterated, SeenTransition.afterIteration]
      rw [unseen]
      rfl
    rw [kept]
    exact sound.unseen unseen
  · intro since durationMs known
    rw [firstSeen] at known
    have watched := sound.watched since durationMs known
    cases active : run.scene.transitionActive with
    | false =>
        rcases watched.phase with running | done
        · exact watched.iterate_ended known active (running.ended active).1
        · exact watched.iterate_ended known active done.progress
    | true =>
        rcases watched.phase with running | done
        · exact watched.iterate_active known running active
        · exact nomatch active.symm.trans done.inactive

/-- One event. -/
theorem Sound.next
    (sound : run.Sound drawing timing)
    {event : TransitionEvent}
    {after : TransitionRun Item Background}
    (keeps : run.KeepsStart event)
    (stepped : run.next drawing event = some after) :
    ∃ timing, after.Sound drawing timing := by
  cases event with
  | setActiveScene sceneId transitionId now =>
      simp only [TransitionRun.next] at stepped
      split at stepped
      next forward =>
        have ticked := sound.tick forward
        split at stepped
        next graph activated =>
          cases stepped
          obtain ⟨start, positive, idle⟩ := runtime_setActiveScene activated
          exact ⟨_, ticked.activate start positive idle⟩
        next =>
          cases stepped
          exact ⟨timing, ticked⟩
      next => cases stepped
  | edit graph =>
      simp only [TransitionRun.next] at stepped
      split at stepped
      next same =>
        cases stepped
        exact ⟨timing, sound.edit same⟩
      next => cases stepped
  | updateRuntime now =>
      simp only [TransitionRun.next] at stepped
      split at stepped
      next forward =>
        cases stepped
        exact ⟨timing, (sound.tick forward).updateRuntime now⟩
      next => cases stepped
  | refresh now pushed =>
      simp only [TransitionRun.next] at stepped
      split at stepped
      next forward =>
        cases stepped
        have updated := (sound.tick forward).updateRuntime now
        cases pushed with
        | true => exact ⟨timing, updated.push⟩
        | false => exact ⟨timing, updated⟩
      next => cases stepped
  | apply now canvas =>
      simp only [TransitionRun.next] at stepped
      split at stepped
      next command rest queued =>
        split at stepped
        next forward =>
          cases stepped
          refine ⟨timing, (sound.tick forward).apply queued ?_⟩
          have head : command ∈ run.commands.head? := by
            rw [queued]
            rfl
          exact keeps command head
        next => cases stepped
      next => cases stepped
  | iterate now =>
      simp only [TransitionRun.next] at stepped
      split at stepped
      next forward =>
        cases stepped
        exact ⟨timing, (sound.tick forward).iterate⟩
      next => cases stepped

/-- A server that was just started. -/
theorem sound_initial
    (initial : Initial drawing run) :
    run.Sound drawing fun _ => (0, 0) := by
  obtain ⟨graph, clock, zero, started, rfl⟩ := initial
  have built : CommandSound (fun _ => (0, 0))
      (⟨0, buildCompositorState drawing graph⟩ : SetSceneCommand Item Background) := by
    have timing : (buildCompositorState drawing graph).transitionActive = false ∧
        (buildCompositorState drawing graph).transitionStartTimeUs = 0 ∧
        (buildCompositorState drawing graph).transitionDurationMs = 0 := by
      unfold buildCompositorState
      rw [zero]
      exact ⟨rfl, rfl, rfl⟩
    obtain ⟨inactive, start, duration⟩ := timing
    exact ⟨start, duration, fun active => (nomatch inactive.symm.trans active),
      fun _ numbered => absurd numbered (lt_irrefl 0)⟩
  constructor
  · intro _
    exact Int64.le_iff_toInt_le.mp started
  · intro command member
    rcases mem_pending.mp member with queued | rfl
    · cases queued
    · exact built
  · exact List.pairwise_singleton _ _
  · intro command _
    exact Nat.zero_le _
  · exact fun _ => rfl
  · exact nofun

/-- In every run in which the active commands of a transition that the thread has seen carry the
start that it recorded, the transition starts once, its progress never decreases and it is over in
time. -/
theorem undisturbed_of_reachable
    (drawing : SceneDrawing Item Background)
    {run : TransitionRun Item Background}
    (reachable : (system drawing).ReachableWhen KeepsStart run) :
    Undisturbed run.seen := by
  have sound : ∃ timing, run.Sound drawing timing := by
    refine @System.ReachableWhen.invariant _ _ (system drawing) KeepsStart
      (fun run => ∃ timing, run.Sound drawing timing) ?_ ?_ _ reachable
    · intro state initial
      exact ⟨_, sound_initial initial⟩
    · rintro before event after ⟨timing, sound⟩ keeps stepped
      exact sound.next keeps stepped
  obtain ⟨timing, sound⟩ := sound
  cases known : run.seen.firstSeen with
  | none =>
      rw [sound.unseen known]
      exact undisturbed_of_noReports (Nat.zero_le 1) rfl
  | some first => exact (sound.watched first.1 first.2 known).undisturbed

/-- A refresh that carries another start than the one recorded starts the transition again. -/
theorem not_undisturbed_restarted
    {command : SetSceneCommand Item Background}
    {rest : List (SetSceneCommand Item Background)}
    (queued : run.commands = command :: rest)
    (active : command.state.transitionActive = true)
    (same : command.number = run.seen.number)
    (started : 1 ≤ run.seen.starts)
    (differs : command.state.transitionStartTimeUs ≠ run.scene.transitionStartTimeUs)
    {canvas : CapturableCanvas}
    {after : TransitionRun Item Background}
    (stepped : run.next drawing (.apply now canvas) = some after) :
    ¬Undisturbed after.seen := by
  have isNew : run.scene.newTransition command.state = true := by
    unfold CompSceneState.newTransition
    rw [active]
    exact decide_eq_true differs
  simp only [TransitionRun.next, queued] at stepped
  split at stepped
  next =>
    cases stepped
    intro undisturbed
    have once := undisturbed.once
    dsimp only [SeenTransition.afterCommand] at once
    rw [isNew, if_pos same, if_pos rfl] at once
    omega
  next => cases stepped

/-- A drawing that shows nothing. -/
def plainDrawing : SceneDrawing Unit Unit where
  fillCompItem := fun _ _ _ => ()
  background := fun _ => ()
  firstBackground := ()

/-- The new graph with one scene. -/
def graphWithScene : SceneGraph :=
  (newDefault.createScene (some { id := some "main", name := some "Main" })).2

/-- A server with one scene, one second after the clock began. -/
def withScene : TransitionRun Unit Unit where
  graph := graphWithScene
  number := 0
  commands := []
  scene := .init plainDrawing
  cachedEntry := none
  clock := 1000000
  seen := .unseen 0

theorem initial_withScene : Initial plainDrawing withScene :=
  ⟨graphWithScene, 1000000, rfl, by decide, rfl⟩

/-- A canvas whose third entry was rendered last. -/
def thirdEntry : CapturableCanvas where
  initialized := true
  lastRenderedEntry := some 3
  refs := true

/-- A fade of two seconds that is applied at a time, and a refresh when it has run for half a
second. -/
def fadeWithRefresh (applied : Int64) : List TransitionEvent :=
  [.setActiveScene (some "main") (some "trans-fade") 1000000, .refresh 1000000 true,
    .apply applied thirdEntry, .iterate applied, .iterate 1500000, .refresh 1500000 true,
    .apply 1600000 thirdEntry, .iterate 1600000]

/-- A refresh half a second into a fade that the thread applied half a millisecond late starts it
again. -/
theorem refresh_restarts :
    ∃ run : TransitionRun Unit Unit,
      (system plainDrawing).Reachable run ∧ run.seen.starts = 2 ∧ ¬Undisturbed run.seen := by
  have runs : (System.run (next plainDrawing) withScene (fadeWithRefresh 1000500)).map
      (fun run => run.seen.starts) = some 2 := by
    decide +kernel
  obtain ⟨run, final, starts⟩ := Option.map_eq_some_iff.mp runs
  have reachable : (system plainDrawing).Reachable run :=
    System.reachable_of_run (.initial initial_withScene) final
  refine ⟨run, reachable, starts, ?_⟩
  intro undisturbed
  have once := undisturbed.once
  omega

/-- A fade that is applied in the microsecond in which it started outlasts the refresh. -/
theorem undisturbed_appliedAtOnce :
    ∃ run : TransitionRun Unit Unit,
      (system plainDrawing).ReachableWhen KeepsStart run ∧ Undisturbed run.seen ∧
        run.seen.starts = 1 ∧ run.seen.reports.map TransitionReport.active =
          [false, true, true, true] := by
  have runs : (System.run (System.guarded KeepsStart (next plainDrawing)) withScene
      (fadeWithRefresh 1000000 ++ [.iterate 3000000])).map
      (fun run => (run.seen.starts, run.seen.reports.map TransitionReport.active)) =
      some (1, [false, true, true, true]) := by
    decide +kernel
  obtain ⟨run, final, facts⟩ := Option.map_eq_some_iff.mp runs
  simp only [Prod.mk.injEq] at facts
  have reachable : (system plainDrawing).ReachableWhen KeepsStart run :=
    System.reachableWhen_of_run (.initial initial_withScene) final
  exact ⟨run, reachable, undisturbed_of_reachable plainDrawing reachable, facts⟩

end TransitionRun
end Engine
end SbsServer
