import Mathlib.Data.Nat.Notation

/-!
# Media clocks

A stream is played by a clock that starts at some wall time with some media time and runs
on with the media time.  As long as media time does not advance faster than wall time, such
a clock can be set anew without going back.
-/

namespace CLib

/-- A clock that shows a wall time at a media time. -/
structure MediaClock where
  wall : ℕ
  media : ℕ

namespace MediaClock

variable {clock : MediaClock} {media later : ℕ}

/-- What the clock shows at a media time; before its own media time it stands. -/
def shows (clock : MediaClock) (media : ℕ) : ℕ :=
  clock.wall + (media - clock.media)

theorem wall_le_shows (clock : MediaClock) (media : ℕ) : clock.wall ≤ clock.shows media :=
  Nat.le_add_right _ _

/-- The clock does not go back. -/
theorem shows_mono (inOrder : media ≤ later) : clock.shows media ≤ clock.shows later := by
  unfold shows
  omega

/-- The clock is not faster than the media. -/
theorem shows_le_add (clock : MediaClock) (media later : ℕ) :
    clock.shows later ≤ clock.shows media + (later - media) := by
  unfold shows
  omega

/-- At its own media time a clock shows its wall time. -/
@[simp] theorem shows_media (clock : MediaClock) : clock.shows clock.media = clock.wall := by
  unfold shows
  omega

/-- A clock that was not ahead of the wall stays so while the media advances no faster. -/
theorem shows_le_of_advance
    {wall wallLater : ℕ}
    (behind : clock.shows media ≤ wall)
    (advance : later - media ≤ wallLater - wall)
    (inOrder : wall ≤ wallLater) :
    clock.shows later ≤ wallLater := by
  have bound := clock.shows_le_add media later
  omega

end MediaClock
end CLib
