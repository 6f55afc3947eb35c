import SbsServer.Engine.MuxFeed

/-!
# The feed merges audio and video

Nothing is lost or reordered within a stream, and video never overtakes audio of its
time.  Video that no pushed audio covers waits for audio, however long it takes.
-/

namespace SbsServer
namespace Engine

open CLib

variable {Data : Type}

/-- The items of one stream. -/
def itemsOf
    (isVideo : Bool)
    (items : List (MuxItem Data)) : List (MuxItem Data) :=
  items.filter fun item => item.isVideo = isVideo

@[simp] theorem itemsOf_append
    (isVideo : Bool)
    (items more : List (MuxItem Data)) :
    itemsOf isVideo (items ++ more) = itemsOf isVideo items ++ itemsOf isVideo more :=
  List.filter_append ..

theorem itemsOf_singleton
    {isVideo : Bool}
    {item : MuxItem Data}
    (same : item.isVideo = isVideo) :
    itemsOf isVideo [item] = [item] := by
  simp [itemsOf, same]

theorem itemsOf_singleton_of_ne
    {isVideo : Bool}
    {item : MuxItem Data}
    (other : item.isVideo ≠ isVideo) :
    itemsOf isVideo [item] = [] := by
  simp [itemsOf, other]

@[simp] theorem itemsOf_item
    (kind isVideo : Bool)
    (buffer : MediaBuffer Data) :
    itemsOf kind [buffer.item isVideo] =
      if isVideo = kind then [buffer.item isVideo] else [] := by
  by_cases same : isVideo = kind
  · rw [if_pos same, itemsOf_singleton same]
  · rw [if_neg same, itemsOf_singleton_of_ne same]

/-- The items up to a time. -/
def upTo
    (time : UInt64)
    (items : List (MuxItem Data)) : List (MuxItem Data) :=
  items.filter fun item => item.sortTime ≤ time

/-- In a stream that is in order the items up to a time come first. -/
theorem upTo_prefix
    {items : List (MuxItem Data)}
    (inOrder : items.Pairwise (·.sortTime ≤ ·.sortTime))
    (time : UInt64) :
    upTo time items <+: items := by
  induction items with
  | nil => exact List.prefix_rfl
  | cons item rest ih =>
      rw [List.pairwise_cons] at inOrder
      unfold upTo
      by_cases early : item.sortTime ≤ time
      · rw [List.filter_cons_of_pos (by simpa using early), List.prefix_cons_inj]
        exact ih inOrder.2
      · have none : rest.filter (fun item => item.sortTime ≤ time) = [] := by
          rw [List.filter_eq_nil_iff]
          intro other member
          have later := inOrder.1 other member
          simp only [decide_eq_true_eq]
          exact fun before => early (UInt64.le_trans later before)
        rw [List.filter_cons_of_neg (by simpa using early), none]
        exact List.nil_prefix

/-- Items that all come later do not count. -/
theorem upTo_append_of_later
    {time : UInt64}
    {items later : List (MuxItem Data)}
    (isLater : ∀ item ∈ later, ¬item.sortTime ≤ time) :
    upTo time (items ++ later) = upTo time items := by
  unfold upTo
  have none : later.filter (fun item => item.sortTime ≤ time) = [] := by
    rw [List.filter_eq_nil_iff]
    simpa using isLater
  rw [List.filter_append, none, List.append_nil]

namespace MuxBranch

variable {branch : MuxBranch Data}

/-- Everything that the thread can do with the lock of a running feed. -/
theorem choose_cases (running : branch.muxFeedRunning = true) :
    (branch.choose = .wait ∧ branch.muxAudioQueue = [] ∧ branch.muxVideoQueue = []) ∨
    (∃ video more, branch.choose = .timedWait ∧ branch.muxAudioQueue = [] ∧
      branch.muxVideoQueue = video :: more ∧ ¬branch.AudioCoversVideo video) ∨
    (∃ audio rest, branch.choose = .take audio { branch with muxAudioQueue := rest } ∧
      branch.muxAudioQueue = audio :: rest) ∨
    (∃ video more, branch.choose = .take video { branch with muxVideoQueue := more } ∧
      branch.muxVideoQueue = video :: more ∧
      (branch.muxAudioQueue = [] → branch.AudioCoversVideo video) ∧
      ∀ audio rest, branch.muxAudioQueue = audio :: rest →
        ¬audio.sortTime ≤ video.ptsTime) := by
  unfold choose
  rw [if_neg (by simp [running])]
  cases audioQueue : branch.muxAudioQueue with
  | nil =>
      cases videoQueue : branch.muxVideoQueue with
      | nil => exact .inl ⟨rfl, rfl, rfl⟩
      | cons video more =>
          by_cases covered : branch.AudioCoversVideo video
          · refine .inr (.inr (.inr ⟨video, more, ?_, rfl, fun _ => covered, nofun⟩))
            dsimp only
            rw [if_pos covered]
          · refine .inr (.inl ⟨video, more, ?_, rfl, rfl, covered⟩)
            dsimp only
            rw [if_neg covered]
  | cons audio rest =>
      cases videoQueue : branch.muxVideoQueue with
      | nil => exact .inr (.inr (.inl ⟨audio, rest, rfl, rfl⟩))
      | cons video more =>
          by_cases first : audio.sortTime ≤ video.ptsTime
          · refine .inr (.inr (.inl ⟨audio, rest, ?_, rfl⟩))
            dsimp only
            rw [if_pos first]
          · refine .inr (.inr (.inr ⟨video, more, ?_, rfl, nofun, ?_⟩))
            · dsimp only
              rw [if_neg first]
            · rintro _ _ ⟨⟩
              exact first

/-- The coverage is all that changes. -/
theorem audioPushed_queues
    (branch : MuxBranch Data)
    (endTime : UInt64) :
    (branch.audioPushed endTime).muxFeedRunning = branch.muxFeedRunning ∧
      (branch.audioPushed endTime).muxAudioQueue = branch.muxAudioQueue ∧
      (branch.audioPushed endTime).muxVideoQueue = branch.muxVideoQueue := by
  unfold audioPushed
  split
  · exact ⟨rfl, rfl, rfl⟩
  · exact ⟨rfl, rfl, rfl⟩

end MuxBranch

namespace FeedRun

/-- The item that the thread holds. -/
def inHand (run : FeedRun Data) : List (MuxItem Data) :=
  match run.thread with
  | .pushing handed => [handed.item]
  | _ => []

/-- The items of one stream that the sources were handed. -/
def handedOf
    (run : FeedRun Data)
    (isVideo : Bool) : List (MuxItem Data) :=
  itemsOf isVideo (run.handed.map (·.item))

/-- The items of one stream that were handed over or are about to be. -/
def passedOf
    (run : FeedRun Data)
    (isVideo : Bool) : List (MuxItem Data) :=
  run.handedOf isVideo ++ itemsOf isVideo run.inHand

/-- A video buffer comes after all the audio up to its time that was enqueued before it was
taken. -/
def FollowsAudio
    (handed : HandedItem Data)
    (before : List (HandedItem Data)) : Prop :=
  handed.item.isVideo = true →
    upTo handed.item.ptsTime (itemsOf false handed.known) <+:
      itemsOf false (before.map (·.item))

theorem passedOf_of_looking
    {run : FeedRun Data}
    (looking : run.thread = .looking)
    (isVideo : Bool) :
    run.passedOf isVideo = run.handedOf isVideo := by
  unfold passedOf inHand
  rw [looking]
  exact List.append_nil _

/-- What was passed stays passed when the thread hands its item over. -/
theorem passedOf_push
    {run : FeedRun Data}
    {handed : HandedItem Data}
    (pushing : run.thread = .pushing handed)
    {thread : FeedThread Data}
    (free : ∀ handed, thread ≠ .pushing handed)
    (isVideo : Bool) :
    passedOf { run with handed := run.handed ++ [handed], thread := thread } isVideo =
      run.passedOf isVideo := by
  have inHand : run.inHand = [handed.item] := by
    unfold FeedRun.inHand
    rw [pushing]
  have empty : FeedRun.inHand { run with handed := run.handed ++ [handed], thread } = [] := by
    unfold FeedRun.inHand
    dsimp only
    cases thread with
    | pushing other => exact absurd rfl (free other)
    | _ => rfl
  unfold passedOf
  rw [empty, inHand]
  unfold handedOf
  dsimp only
  rw [List.map_append, itemsOf_append, List.append_assoc]
  exact congrArg _ (List.append_nil _)

/-- Both streams are handed over without loss and in order, and video follows the audio of its
time. -/
structure Merged (run : FeedRun Data) : Prop where
  audio : run.passedOf false ++ run.branch.muxAudioQueue = itemsOf false run.enqueued
  video : run.passedOf true ++ run.branch.muxVideoQueue = itemsOf true run.enqueued
  ordered : ∀ before handed after, run.handed = before ++ handed :: after →
    FollowsAudio handed before

/-- Audio is enqueued in the order of its times. -/
def AudioInOrder
    (run : FeedRun Data) : FeedEvent Data → Prop
  | .enqueue buffer false =>
      ∀ item ∈ itemsOf false run.enqueued, item.sortTime ≤ (buffer.item false).sortTime
  | _ => True

/-- The invariant. -/
structure Sound (run : FeedRun Data) : Prop where
  running : run.branch.muxFeedRunning = true
  merged : run.Merged
  inOrder : (itemsOf false run.enqueued).Pairwise (·.sortTime ≤ ·.sortTime)
  taken : ∀ handed, run.thread = .pushing handed → FollowsAudio handed run.handed
  alive : run.thread ≠ .finished

namespace Sound

variable {run : FeedRun Data}

theorem start (branch : MuxBranch Data) : (start branch).Sound where
  running := rfl
  merged :=
    { audio := rfl
      video := rfl
      ordered := by
        intro before handed after split
        cases before <;> cases split }
  inOrder := .nil
  taken := nofun
  alive := nofun

/-- A buffer is enqueued. -/
theorem enqueue
    (sound : run.Sound)
    {buffer : MediaBuffer Data}
    {isVideo : Bool}
    (inOrder : run.AudioInOrder (.enqueue buffer isVideo)) :
    (run.next (.enqueue buffer isVideo)).Sound := by
  have branch : run.branch.enqueueBuffer buffer isVideo = { run.branch with
      muxVideoQueue := run.branch.muxVideoQueue ++ itemsOf true [buffer.item isVideo]
      muxAudioQueue := run.branch.muxAudioQueue ++ itemsOf false [buffer.item isVideo] } := by
    unfold MuxBranch.enqueueBuffer
    rw [if_neg (by simp [sound.running])]
    cases isVideo with
    | true => simp
    | false => simp
  unfold next
  dsimp only
  rw [branch]
  refine ⟨sound.running, ⟨?_, ?_, sound.merged.ordered⟩, ?_, sound.taken, sound.alive⟩
  · dsimp only
    rw [itemsOf_append, ← sound.merged.audio, List.append_assoc]
    rfl
  · dsimp only
    rw [itemsOf_append, ← sound.merged.video, List.append_assoc]
    rfl
  · dsimp only
    rw [itemsOf_append]
    cases isVideo with
    | true =>
        rw [itemsOf_item, if_neg (by decide), List.append_nil]
        exact sound.inOrder
    | false =>
        rw [itemsOf_item, if_pos rfl]
        apply pairwise_concat sound.inOrder
        intro item member
        exact inOrder item member

variable {item : MuxItem Data}

section

variable (sound : run.Sound)
include sound

/-- The items of a queue are of its stream. -/
theorem isVideo_of_audio
    (member : item ∈ run.branch.muxAudioQueue) :
    item.isVideo = false := by
  have enqueued : item ∈ itemsOf false run.enqueued := by
    rw [← sound.merged.audio]
    exact List.mem_append_right _ member
  simpa [itemsOf] using (List.mem_filter.mp enqueued).2

theorem isVideo_of_video
    (member : item ∈ run.branch.muxVideoQueue) :
    item.isVideo = true := by
  have enqueued : item ∈ itemsOf true run.enqueued := by
    rw [← sound.merged.video]
    exact List.mem_append_right _ member
  simpa [itemsOf] using (List.mem_filter.mp enqueued).2

/-- The thread takes an item out of a queue. -/
theorem take
    (looking : run.thread = .looking)
    {left : MuxBranch Data}
    (running : left.muxFeedRunning = true)
    (audio : itemsOf false [item] ++ left.muxAudioQueue = run.branch.muxAudioQueue)
    (video : itemsOf true [item] ++ left.muxVideoQueue = run.branch.muxVideoQueue)
    (follows : FollowsAudio ⟨item, run.enqueued⟩ run.handed) :
    Sound { run with branch := left, thread := .pushing ⟨item, run.enqueued⟩ } where
  running := running
  merged :=
    { audio := by
        have merged := sound.merged.audio
        rw [passedOf_of_looking looking, ← audio, ← List.append_assoc] at merged
        exact merged
      video := by
        have merged := sound.merged.video
        rw [passedOf_of_looking looking, ← video, ← List.append_assoc] at merged
        exact merged
      ordered := sound.merged.ordered }
  inOrder := sound.inOrder
  taken := by
    rintro _ ⟨⟩
    exact follows
  alive := nofun

/-- Video is taken when all the audio up to its time was handed over. -/
theorem followsAudio_of_taken
    (looking : run.thread = .looking)
    {video : MuxItem Data}
    (later : ∀ audio rest, run.branch.muxAudioQueue = audio :: rest →
      ¬audio.sortTime ≤ video.ptsTime) :
    FollowsAudio ⟨video, run.enqueued⟩ run.handed := by
  intro _
  dsimp only
  have merged := sound.merged.audio
  rw [passedOf_of_looking looking] at merged
  have inOrder := sound.inOrder
  rw [← merged, List.pairwise_append] at inOrder
  rw [← merged, upTo_append_of_later]
  · exact upTo_prefix inOrder.1 _
  · intro item member
    cases queue : run.branch.muxAudioQueue with
    | nil =>
        rw [queue] at member
        cases member
    | cons audio rest =>
        have ordered := inOrder.2.1
        rw [queue] at member ordered
        have first := later audio rest queue
        rcases List.mem_cons.mp member with rfl | behind
        · exact first
        · exact fun early => first
            (UInt64.le_trans ((List.pairwise_cons.mp ordered).1 item behind) early)

/-- The thread hands its item over. -/
theorem push
    {handed : HandedItem Data}
    (pushing : run.thread = .pushing handed)
    {thread : FeedThread Data}
    (free : ∀ handed, thread ≠ .pushing handed)
    (alive : thread ≠ .finished) :
    Sound { run with handed := run.handed ++ [handed], thread := thread } := by
  have passed := passedOf_push pushing free
  refine ⟨sound.running, ⟨?_, ?_, ?_⟩, sound.inOrder,
    fun other same => absurd same (free other), alive⟩
  · rw [passed]
    exact sound.merged.audio
  · rw [passed]
    exact sound.merged.video
  · intro before entry after split
    rcases List.eq_nil_or_concat after with rfl | ⟨rest, last, rfl⟩
    · obtain ⟨rfl, same⟩ := List.append_inj' split rfl
      cases same
      exact sound.taken handed pushing
    · apply sound.merged.ordered before entry rest
      rw [List.concat_eq_append, ← List.cons_append, ← List.append_assoc] at split
      exact (List.append_inj' split rfl).1

/-- Every step of the thread keeps the invariant. -/
theorem feed
    (flowOk : Bool) :
    (run.feed flowOk).Sound := by
  unfold FeedRun.feed
  cases thread : run.thread with
  | looking =>
      dsimp only
      rcases MuxBranch.choose_cases sound.running with
        ⟨same, -⟩ | ⟨_, _, same, -⟩ | ⟨audio, rest, same, queue⟩ |
        ⟨video, more, same, queue, -, later⟩
      · rw [same]
        exact sound
      · rw [same]
        exact sound
      · rw [same]
        have isAudio := sound.isVideo_of_audio (queue ▸ List.mem_cons_self)
        refine sound.take thread sound.running ?_ ?_ ?_
        · rw [itemsOf_singleton isAudio, queue]
          rfl
        · rw [itemsOf_singleton_of_ne (by simp [isAudio])]
          rfl
        · exact fun isVideo => absurd (isAudio.symm.trans isVideo) nofun
      · rw [same]
        have isVideo := sound.isVideo_of_video (queue ▸ List.mem_cons_self)
        refine sound.take thread sound.running ?_ ?_ (sound.followsAudio_of_taken thread later)
        · rw [itemsOf_singleton_of_ne (by simp [isVideo])]
          rfl
        · rw [itemsOf_singleton isVideo, queue]
          rfl
  | pushing handed =>
      dsimp only
      apply sound.push thread
      · intro other same
        split at same
        · cases same
        · cases same
      · intro same
        split at same
        · cases same
        · cases same
  | noting endTime =>
      obtain ⟨running, audio, video⟩ := run.branch.audioPushed_queues endTime
      have passed : ∀ isVideo, passedOf { run with
          branch := run.branch.audioPushed endTime, thread := .looking } isVideo =
            run.passedOf isVideo := by
        intro isVideo
        unfold passedOf inHand
        rw [thread]
        rfl
      refine ⟨running.trans sound.running, ⟨?_, ?_, sound.merged.ordered⟩, sound.inOrder, nofun,
        nofun⟩
      · rw [passed]
        dsimp only
        rw [audio]
        exact sound.merged.audio
      · rw [passed]
        dsimp only
        rw [video]
        exact sound.merged.video
  | finished =>
      exact sound

/-- Every event keeps the invariant. -/
theorem next
    {event : FeedEvent Data}
    (inOrder : run.AudioInOrder event) :
    (run.next event).Sound := by
  cases event with
  | enqueue buffer isVideo => exact sound.enqueue inOrder
  | feed flowOk => exact sound.feed flowOk

end

end Sound

/-! ## When audio stops -/

/-- No buffer of audio is enqueued. -/
def NoAudio (events : List (FeedEvent Data)) : Prop :=
  ∀ buffer, .enqueue buffer false ∉ events

/-- The steps of the thread among the events. -/
def threadSteps (events : List (FeedEvent Data)) : ℕ :=
  events.countP fun
    | .feed _ => true
    | .enqueue _ _ => false

/-- The thread waits with a video buffer at the head: there is no audio, and what was pushed of it
does not cover the buffer. -/
structure Starved
    (run : FeedRun Data)
    (video : MuxItem Data) : Prop where
  looking : run.thread = .looking
  noAudio : run.branch.muxAudioQueue = []
  first : run.branch.muxVideoQueue.head? = some video
  uncovered : ¬run.branch.AudioCoversVideo video

/-- A video buffer is at the head of its queue, after all those passed. -/
def Waiting
    (run : FeedRun Data)
    (passed : List (MuxItem Data))
    (video : MuxItem Data) : Prop :=
  run.branch.muxVideoQueue.head? = some video ∧ run.passedOf true = passed

/-- The thread holds the video buffer. -/
def Ready
    (run : FeedRun Data)
    (passed : List (MuxItem Data))
    (video : MuxItem Data) : Prop :=
  ∃ known, run.thread = .pushing ⟨video, known⟩ ∧ run.handedOf true = passed

/-- The video buffer was handed over, after all those passed. -/
def Pushed
    (run : FeedRun Data)
    (passed : List (MuxItem Data))
    (video : MuxItem Data) : Prop :=
  passed ++ [video] <+: run.handedOf true

/-- How many steps the thread can make before it takes video. -/
def rank (run : FeedRun Data) : ℕ :=
  3 * run.branch.muxAudioQueue.length +
    match run.thread with
    | .pushing _ => 2
    | .noting _ => 1
    | _ => 0

section

variable {run : FeedRun Data} {video : MuxItem Data} {passed : List (MuxItem Data)}

theorem rank_le (run : FeedRun Data) : run.rank ≤ 3 * run.branch.muxAudioQueue.length + 2 := by
  unfold rank
  apply Nat.add_le_add_left
  split
  · exact Nat.le_refl 2
  · exact Nat.le_succ 1
  · exact Nat.zero_le 2

/-- What was handed over stays handed over. -/
theorem handedOf_grows
    (event : FeedEvent Data)
    (isVideo : Bool) :
    run.handedOf isVideo <+: (run.next event).handedOf isVideo := by
  cases event with
  | enqueue buffer other => exact List.prefix_rfl
  | feed flowOk =>
      unfold next feed
      dsimp only
      split
      · split
        · exact List.prefix_rfl
        · exact List.prefix_rfl
        · exact List.prefix_rfl
        · exact List.prefix_rfl
      · unfold handedOf
        dsimp only
        rw [List.map_append, itemsOf_append]
        exact List.prefix_append _ _
      · exact List.prefix_rfl
      · exact List.prefix_rfl

theorem enqueueBuffer_video
    (running : run.branch.muxFeedRunning = true)
    (buffer : MediaBuffer Data) :
    run.branch.enqueueBuffer buffer true = { run.branch with
      muxVideoQueue := run.branch.muxVideoQueue ++ [buffer.item true] } := by
  unfold MuxBranch.enqueueBuffer
  rw [if_neg (by simp [running]), if_pos rfl]

/-- More video changes nothing for the buffer at the head. -/
theorem head?_enqueue
    (sound : run.Sound)
    (first : run.branch.muxVideoQueue.head? = some video)
    (buffer : MediaBuffer Data) :
    (run.next (.enqueue buffer true)).branch.muxVideoQueue.head? = some video ∧
      (run.next (.enqueue buffer true)).branch.muxAudioQueue = run.branch.muxAudioQueue ∧
      (run.next (.enqueue buffer true)).branch.muxAudioPushedUntil =
        run.branch.muxAudioPushedUntil := by
  unfold next
  dsimp only
  rw [enqueueBuffer_video sound.running, List.head?_append, first]
  exact ⟨rfl, rfl, rfl⟩

/-- A thread that is starved waits and looks again. -/
theorem Starved.feed
    (sound : run.Sound)
    (starved : run.Starved video)
    (flowOk : Bool) :
    run.feed flowOk = run := by
  unfold FeedRun.feed
  rw [starved.looking]
  dsimp only
  rcases MuxBranch.choose_cases sound.running with
    ⟨same, -⟩ | ⟨_, _, same, -⟩ | ⟨audio, rest, -, queue⟩ | ⟨other, more, -, queue, covered, -⟩
  · rw [same]
  · rw [same]
  · rw [starved.noAudio] at queue
    cases queue
  · have first := starved.first
    rw [queue] at first
    cases first
    exact absurd (covered starved.noAudio) starved.uncovered

theorem Starved.next
    (sound : run.Sound)
    (starved : run.Starved video)
    {event : FeedEvent Data}
    (noAudio : ∀ buffer, event ≠ .enqueue buffer false) :
    (run.next event).Starved video ∧ (run.next event).handed = run.handed := by
  cases event with
  | enqueue buffer isVideo =>
      cases isVideo with
      | false => exact absurd rfl (noAudio buffer)
      | true =>
          obtain ⟨first, audio, coverage⟩ := head?_enqueue sound starved.first buffer
          refine ⟨⟨starved.looking, audio.trans starved.noAudio, first, ?_⟩, rfl⟩
          unfold MuxBranch.AudioCoversVideo
          rw [coverage]
          exact starved.uncovered
  | feed flowOk =>
      have same : run.next (.feed flowOk) = run := starved.feed sound flowOk
      rw [same]
      exact ⟨starved, rfl⟩

/-- One step of the thread towards the video buffer at the head. -/
theorem Waiting.feed
    (sound : run.Sound)
    (waiting : run.Waiting passed video)
    (flowOk : Bool) :
    run.Starved video ∨ (run.feed flowOk).Ready passed video ∨
      (run.feed flowOk).Waiting passed video ∧ (run.feed flowOk).rank < run.rank := by
  obtain ⟨first, isPassed⟩ := waiting
  unfold FeedRun.feed rank
  cases thread : run.thread with
  | looking =>
      rw [passedOf_of_looking thread] at isPassed
      dsimp only
      rcases MuxBranch.choose_cases sound.running with
        ⟨same, -, none⟩ | ⟨other, more, same, noAudio, queue, uncovered⟩ |
        ⟨audio, rest, same, queue⟩ | ⟨other, more, same, queue, -⟩
      · rw [none] at first
        cases first
      · rw [queue] at first
        cases first
        exact .inl ⟨thread, noAudio, by rw [queue]; rfl, uncovered⟩
      · have isAudio := sound.isVideo_of_audio (queue ▸ List.mem_cons_self)
        rw [same]
        dsimp only
        refine .inr (.inr ⟨⟨first, ?_⟩, ?_⟩)
        · unfold passedOf inHand
          dsimp only
          rw [itemsOf_singleton_of_ne (by simp [isAudio]), List.append_nil]
          exact isPassed
        · rw [queue, List.length_cons]
          omega
      · rw [queue] at first
        cases first
        rw [same]
        exact .inr (.inl ⟨run.enqueued, rfl, isPassed⟩)
  | pushing handed =>
      dsimp only
      refine .inr (.inr ⟨⟨first, ?_⟩, ?_⟩)
      · rw [passedOf_push thread]
        · exact isPassed
        · intro other same
          split at same
          · cases same
          · cases same
      · cases !handed.item.isVideo && flowOk <;> simp
  | noting endTime =>
      dsimp only
      obtain ⟨-, audio, video⟩ := run.branch.audioPushed_queues endTime
      refine .inr (.inr ⟨⟨?_, ?_⟩, ?_⟩)
      · dsimp only
        rw [video]
        exact first
      · unfold passedOf inHand at isPassed ⊢
        rw [thread] at isPassed
        exact isPassed
      · rw [audio]
        omega
  | finished => exact absurd thread sound.alive

theorem NoAudio.cons
    {event : FeedEvent Data}
    {rest : List (FeedEvent Data)}
    (noAudio : NoAudio (event :: rest)) :
    (∀ buffer, event ≠ .enqueue buffer false) ∧ NoAudio rest := by
  constructor
  · rintro buffer rfl
    exact noAudio buffer List.mem_cons_self
  · exact fun buffer member => noAudio buffer (List.mem_cons_of_mem _ member)

/-- Without audio the invariant is kept. -/
theorem Sound.next_of_noAudio
    (sound : run.Sound)
    {event : FeedEvent Data}
    (noAudio : ∀ buffer, event ≠ .enqueue buffer false) :
    (run.next event).Sound := by
  apply sound.next
  cases event with
  | feed flowOk => trivial
  | enqueue buffer isVideo =>
      cases isVideo with
      | true => trivial
      | false => exact absurd rfl (noAudio buffer)

theorem Ready.feed
    (ready : run.Ready passed video)
    (isVideo : video.isVideo = true)
    (flowOk : Bool) :
    (run.feed flowOk).Pushed passed video := by
  obtain ⟨known, thread, isPassed⟩ := ready
  unfold FeedRun.feed
  rw [thread]
  unfold Pushed handedOf
  dsimp only
  rw [List.map_append, itemsOf_append, ← isPassed, List.map_singleton,
    itemsOf_singleton isVideo]
  exact List.prefix_rfl

theorem Pushed.next
    (pushed : run.Pushed passed video)
    (event : FeedEvent Data) :
    (run.next event).Pushed passed video :=
  List.IsPrefix.trans pushed (handedOf_grows event true)

theorem Pushed.play
    (pushed : run.Pushed passed video)
    (events : List (FeedEvent Data)) :
    (run.play events).Pushed passed video := by
  unfold FeedRun.play
  induction events generalizing run with
  | nil => exact pushed
  | cons event rest ih => exact ih (pushed.next event)

theorem Starved.play
    (sound : run.Sound)
    (starved : run.Starved video)
    {events : List (FeedEvent Data)}
    (noAudio : NoAudio events) :
    (run.play events).Starved video ∧ (run.play events).handed = run.handed := by
  unfold FeedRun.play
  induction events generalizing run with
  | nil => exact ⟨starved, rfl⟩
  | cons event rest ih =>
      obtain ⟨first, later⟩ := noAudio.cons
      obtain ⟨still, same⟩ := starved.next sound first
      obtain ⟨final, all⟩ := ih (sound.next_of_noAudio first) still later
      exact ⟨final, all.trans same⟩

/-- Either the buffer is pushed, or its thread is starved, after as many steps as there are. -/
theorem progress
    (sound : run.Sound)
    (isVideo : video.isVideo = true)
    {events : List (FeedEvent Data)}
    (noAudio : NoAudio events) :
    (run.Waiting passed video → run.rank + 2 ≤ threadSteps events →
      (run.play events).Pushed passed video ∨ (run.play events).Starved video) ∧
    (run.Ready passed video → 1 ≤ threadSteps events →
      (run.play events).Pushed passed video) := by
  induction events generalizing run with
  | nil => exact ⟨fun _ enough => absurd enough (by simp [threadSteps]), fun _ => nofun⟩
  | cons event rest ih =>
      obtain ⟨first, later⟩ := noAudio.cons
      obtain ⟨waits, readies⟩ := ih (sound.next_of_noAudio first) later
      cases event with
      | enqueue buffer kind =>
          cases kind with
          | false => exact absurd rfl (first buffer)
          | true =>
              constructor
              · intro waiting enough
                obtain ⟨head, audio, -⟩ := head?_enqueue sound waiting.1 buffer
                have same : (run.next (.enqueue buffer true)).rank = run.rank := by
                  unfold rank
                  rw [audio]
                  rfl
                exact waits ⟨head, waiting.2⟩ (same ▸ enough)
              · exact fun ready enough => readies ready enough
      | feed flowOk =>
          have steps : threadSteps (FeedEvent.feed flowOk :: rest) = threadSteps rest + 1 :=
            List.countP_cons_of_pos rfl
          rw [steps]
          constructor
          · intro waiting enough
            rcases waiting.feed sound flowOk with starved | ready | ⟨closer, less⟩
            · have same : run.next (.feed flowOk) = run := starved.feed sound flowOk
              right
              change (play (run.next (.feed flowOk)) rest).Starved video
              rw [same]
              exact (starved.play sound later).1
            · exact .inl (readies ready (by omega))
            · apply waits closer
              change (run.feed flowOk).rank + 2 ≤ _
              omega
          · intro ready _
            exact (ready.feed isVideo flowOk).play rest

end

/-- The feed merges both streams without loss and in order.  When audio stops, the video buffer at
the head is pushed after finitely many steps of the thread, or it is not covered by the audio
that was pushed; then it stays at the head, however long the thread waits. -/
theorem mux_feed_merges
    {run : FeedRun Data}
    (reachable : (system Data).ReachableWhen AudioInOrder run) :
    run.Merged ∧
      (∀ video events, run.branch.muxVideoQueue.head? = some video → NoAudio events →
        3 * run.branch.muxAudioQueue.length + 4 ≤ threadSteps events →
        (run.play events).Pushed (run.passedOf true) video ∨ (run.play events).Starved video) ∧
      ∀ video events, run.Starved video → NoAudio events →
        (run.play events).Starved video ∧ (run.play events).handed = run.handed := by
  have sound : run.Sound := by
    refine System.ReachableWhen.invariant ?_ ?_ reachable
    · rintro _ ⟨branch, rfl⟩
      exact .start branch
    · intro run event after sound inOrder stepped
      cases stepped
      exact sound.next inOrder
  refine ⟨sound.merged, ?_, fun video events starved noAudio => starved.play sound noAudio⟩
  intro video events first noAudio enough
  have isVideo := sound.isVideo_of_video (List.mem_of_mem_head? first)
  have bound := run.rank_le
  exact (progress sound isVideo noAudio).1 ⟨first, rfl⟩ (by omega)

instance (run : FeedRun Data) : (event : FeedEvent Data) → Decidable (run.AudioInOrder event)
  | .enqueue _ false => inferInstanceAs (Decidable (∀ _ ∈ _, _))
  | .enqueue _ true => inferInstanceAs (Decidable True)
  | .feed _ => inferInstanceAs (Decidable True)

/-- A branch before its session is started. -/
def idleBranch : MuxBranch ℕ where
  muxFeedRunning := false
  muxVideoQueue := []
  muxAudioQueue := []
  muxAudioPushedUntil := none

/-- A buffer of 20 ms. -/
def bufferAt (data : ℕ) (pts : UInt64) : MediaBuffer ℕ where
  data := data
  pts := pts
  dts := timeNone
  duration := 20000000

/-- Two buffers of video and two of audio; the second one of video waits for the second one of
audio. -/
def mergedEvents : List (FeedEvent ℕ) :=
  [.enqueue (bufferAt 1 0) true, .enqueue (bufferAt 2 60000000) true,
    .enqueue (bufferAt 3 0) false, .feed true, .feed true, .feed true, .feed true, .feed true,
    .feed true, .feed true, .enqueue (bufferAt 4 20000000) false, .feed true, .feed true,
    .feed true, .feed true, .feed true]

theorem mux_feed_merges_played :
    ∃ run, System.run (System.guarded AudioInOrder fun run event => some (next run event))
        (start idleBranch) mergedEvents = some run ∧
      run.handed.map (·.item.buffer.data) = [3, 1, 4, 2] ∧ run.Merged := by
  have runs : (System.run (System.guarded AudioInOrder fun run event => some (next run event))
      (start idleBranch) mergedEvents).map (fun run => run.handed.map (·.item.buffer.data)) =
        some [3, 1, 4, 2] := by
    decide +kernel
  obtain ⟨run, runs, handed⟩ := Option.map_eq_some_iff.mp runs
  exact ⟨run, runs, handed, (mux_feed_merges
    (System.reachableWhen_of_run (.initial ⟨idleBranch, rfl⟩) runs)).1⟩

/-- Without any audio the first video buffer waits for ever. -/
theorem video_waits_forever :
    ¬∀ (run : FeedRun ℕ), (system ℕ).ReachableWhen AudioInOrder run →
      ∀ video, run.branch.muxVideoQueue.head? = some video →
        ∃ steps, (run.play (List.replicate steps (.feed true))).Pushed (run.passedOf true)
          video := by
  intro pushes
  let run := (start idleBranch).next (.enqueue (bufferAt 1 1000000000) true)
  let video : MuxItem ℕ := (bufferAt 1 1000000000).item true
  have inOrder : (start idleBranch).AudioInOrder (.enqueue (bufferAt 1 1000000000) true) :=
    trivial
  have reachable : (system ℕ).ReachableWhen AudioInOrder run :=
    .step (.initial ⟨idleBranch, rfl⟩) inOrder rfl
  have sound : run.Sound := (Sound.start idleBranch).next trivial
  have starved : run.Starved video :=
    { looking := rfl
      noAudio := rfl
      first := rfl
      uncovered := by
        rintro ⟨time, pushed, -⟩
        cases pushed }
  obtain ⟨steps, pushed⟩ := pushes run reachable video rfl
  have noAudio : NoAudio (List.replicate steps (.feed true : FeedEvent ℕ)) := by
    intro buffer member
    cases List.eq_of_mem_replicate member
  have handed := (starved.play sound noAudio).2
  unfold Pushed handedOf at pushed
  rw [handed] at pushed
  cases List.prefix_nil.mp pushed

end FeedRun
end Engine
end SbsServer
