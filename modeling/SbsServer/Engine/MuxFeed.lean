import SbsServer.CLib.System
import SbsServer.Engine.DirectVenc

/-!
# The audio and video feed of an SRT session

Two queues of a branch, a thread that hands their buffers to the two sources of the
muxer in the order of their times, and everything that other threads do in between.
-/

namespace SbsServer
namespace Engine

open CLib

variable {Data : Type}

/-- A `GstBuffer`; a time that is not known is `GST_CLOCK_TIME_NONE`, the value of `timeNone`. -/
structure MediaBuffer (Data : Type) where
  data : Data
  pts : UInt64
  dts : UInt64
  duration : UInt64

/-- `mux_feed_sort_time` -/
def muxFeedSortTime
    (buffer : MediaBuffer Data)
    (isVideo : Bool) : UInt64 :=
  if isVideo ∧ buffer.dts ≠ timeNone then buffer.dts
  else if buffer.pts ≠ timeNone then buffer.pts
  else 0

/-- `mux_feed_pts_time` -/
def muxFeedPtsTime (buffer : MediaBuffer Data) : UInt64 :=
  if buffer.pts ≠ timeNone then buffer.pts else 0

/-- `mux_feed_buffer_t` -/
structure MuxItem (Data : Type) where
  buffer : MediaBuffer Data
  isVideo : Bool
  sortTime : UInt64
  ptsTime : UInt64

/-- The item that a buffer is queued as. -/
def MediaBuffer.item
    (buffer : MediaBuffer Data)
    (isVideo : Bool) : MuxItem Data where
  buffer := buffer
  isVideo := isVideo
  sortTime := muxFeedSortTime buffer isVideo
  ptsTime := muxFeedPtsTime buffer

/-- Until when a buffer of audio reaches. -/
def MuxItem.endTime (item : MuxItem Data) : UInt64 :=
  let start := if item.buffer.pts ≠ timeNone then item.buffer.pts else item.sortTime
  if item.buffer.duration ≠ timeNone then start + item.buffer.duration else start

/-- What a `sink_branch_t` holds for its feed. -/
structure MuxBranch (Data : Type) where
  muxFeedRunning : Bool
  muxVideoQueue : List (MuxItem Data)
  muxAudioQueue : List (MuxItem Data)
  /-- `mux_audio_pushed_until_ns`, once the coverage is valid. -/
  muxAudioPushedUntil : Option UInt64

/-- `SBS_SRT_MUX_AUDIO_TOLERANCE_NS` -/
def srtMuxAudioToleranceNs : UInt64 := 32000000

/-- What the thread does when it has the lock. -/
inductive MuxChoice (Data : Type)
  /-- The feed is stopped. -/
  | leave
  /-- It waits for a signal. -/
  | wait
  /-- It waits for a signal, but no longer than `SBS_SRT_MUX_AUDIO_WAIT_NS`, and looks again. -/
  | timedWait
  /-- It takes an item out. -/
  | take (item : MuxItem Data) (left : MuxBranch Data)

namespace MuxBranch

/-- `mux_feed_reset_locked` -/
def resetLocked (branch : MuxBranch Data) : MuxBranch Data :=
  { branch with
    muxVideoQueue := []
    muxAudioQueue := []
    muxAudioPushedUntil := none }

/-- The feed at the end of `start_srt_session`. -/
def started (branch : MuxBranch Data) : MuxBranch Data :=
  { branch.resetLocked with muxFeedRunning := true }

/-- `mux_feed_enqueue_buffer` -/
def enqueueBuffer
    (branch : MuxBranch Data)
    (buffer : MediaBuffer Data)
    (isVideo : Bool) : MuxBranch Data :=
  if !branch.muxFeedRunning then branch
  else if isVideo then
    { branch with muxVideoQueue := branch.muxVideoQueue ++ [buffer.item isVideo] }
  else { branch with muxAudioQueue := branch.muxAudioQueue ++ [buffer.item isVideo] }

/-- `audio_covers_video` -/
def AudioCoversVideo
    (branch : MuxBranch Data)
    (video : MuxItem Data) : Prop :=
  ∃ time ∈ branch.muxAudioPushedUntil, video.ptsTime ≤ time + srtMuxAudioToleranceNs

instance
    (branch : MuxBranch Data)
    (video : MuxItem Data) : Decidable (branch.AudioCoversVideo video) :=
  inferInstanceAs (Decidable (∃ _ ∈ _, _))

/-- What `mux_feed_thread_main` does with the lock: audio goes first unless it is later than the
video; video goes when the audio is later or has been pushed far enough. -/
def choose (branch : MuxBranch Data) : MuxChoice Data :=
  if !branch.muxFeedRunning then .leave
  else
    match branch.muxAudioQueue, branch.muxVideoQueue with
    | [], [] => .wait
    | audio :: rest, [] => .take audio { branch with muxAudioQueue := rest }
    | audio :: rest, video :: more =>
        if audio.sortTime ≤ video.ptsTime then
          .take audio { branch with muxAudioQueue := rest }
        else .take video { branch with muxVideoQueue := more }
    | [], video :: more =>
        if branch.AudioCoversVideo video then .take video { branch with muxVideoQueue := more }
        else .timedWait

/-- The coverage after a buffer of audio was pushed. -/
def audioPushed
    (branch : MuxBranch Data)
    (endTime : UInt64) : MuxBranch Data :=
  if ∃ time ∈ branch.muxAudioPushedUntil, endTime ≤ time then branch
  else { branch with muxAudioPushedUntil := some endTime }

end MuxBranch

/-- A buffer that the thread hands over, with everything that was enqueued when it was taken. -/
structure HandedItem (Data : Type) where
  item : MuxItem Data
  known : List (MuxItem Data)

/-- Where `mux_feed_thread_main` is. -/
inductive FeedThread (Data : Type)
  /-- Before it takes the lock, or waiting. -/
  | looking
  /-- With an item, before it is handed to its source. -/
  | pushing (handed : HandedItem Data)
  /-- After a buffer of audio, before the coverage is noted. -/
  | noting (endTime : UInt64)
  | finished

/-- What happens: a buffer is enqueued, or the thread makes its next step; a source answers
whether it takes the buffer that it is handed. -/
inductive FeedEvent (Data : Type)
  | enqueue (buffer : MediaBuffer Data) (isVideo : Bool)
  | feed (flowOk : Bool)

/-- A branch and its thread, with the history of both. -/
structure FeedRun (Data : Type) where
  branch : MuxBranch Data
  thread : FeedThread Data
  enqueued : List (MuxItem Data)
  /-- What the two sources were handed, in order. -/
  handed : List (HandedItem Data)

namespace FeedRun

/-- The next step of the thread. -/
def feed
    (run : FeedRun Data)
    (flowOk : Bool) : FeedRun Data :=
  match run.thread with
  | .looking =>
      match run.branch.choose with
      | .leave => { run with thread := .finished }
      | .wait | .timedWait => run
      | .take item left =>
          { run with branch := left, thread := .pushing ⟨item, run.enqueued⟩ }
  | .pushing handed =>
      { run with
        handed := run.handed ++ [handed]
        thread :=
          if !handed.item.isVideo && flowOk then .noting handed.item.endTime else .looking }
  | .noting endTime => { run with branch := run.branch.audioPushed endTime, thread := .looking }
  | .finished => run

/-- An event. -/
def next (run : FeedRun Data) : FeedEvent Data → FeedRun Data
  | .enqueue buffer isVideo =>
      { run with
        branch := run.branch.enqueueBuffer buffer isVideo
        enqueued := run.enqueued ++ [buffer.item isVideo] }
  | .feed flowOk => run.feed flowOk

/-- Events one after the other. -/
def play (run : FeedRun Data) (events : List (FeedEvent Data)) : FeedRun Data :=
  events.foldl next run

/-- A session has just been started. -/
def start (branch : MuxBranch Data) : FeedRun Data where
  branch := branch.started
  thread := .looking
  enqueued := []
  handed := []

/-- Runs of a started branch. -/
def system (Data : Type) : System (FeedRun Data) (FeedEvent Data) :=
  System.ofNext (fun run => ∃ branch, run = start branch) fun run event => some (run.next event)

end FeedRun
end Engine
end SbsServer
