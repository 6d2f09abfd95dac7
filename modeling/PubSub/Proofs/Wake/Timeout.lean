import PubSub.Wake.Poll

/-!
# How long a wait for the event lasts

A wait polls until the event is raised or the time given to a poll is over.  Each poll is given what
is left until the deadline in whole milliseconds.  Rounding up does not end a wait too early, and
interruptions do not either, since what is left is worked out anew for the next poll.  But a poll
takes at most `maxPollMillis`, and one that was given less than what is left ends the wait as well.
A wait that times out has therefore lasted for its timeout, or for as long as one poll can take
(`Driver.wait_lasts`).
-/

namespace PubSub.Wake

/-- The longest time that one poll takes, in nanoseconds. -/
def longestPoll : Nat := maxPollMillis * 1000000

/-- The polls of a wait that has got to this time: they are made one after the other, and each of
them is honest. -/
inductive Polled (deadline : Option Nat) : Nat → List Poll → Prop
  | nil (now : Nat) : Polled deadline now []
  | cons {now : Nat} {poll : Poll} {polls : List Poll} (hstart : now ≤ poll.start)
      (hhonest : poll.Honest deadline) (hrest : Polled deadline poll.finish polls) :
      Polled deadline now (poll :: polls)

/-- A poll that is over has lasted until the deadline, or it was given the longest time there is
though the deadline was further off. -/
theorem Poll.Honest.finish_of_elapsed {deadline : Nat} {poll : Poll}
    (h : poll.Honest (some deadline)) (helapsed : poll.result = .elapsed) :
    deadline ≤ poll.finish ∨
      poll.start + longestPoll ≤ poll.finish ∧ poll.start + longestPoll < deadline := by
  obtain ⟨-, hlasted⟩ := h.2 helapsed
  unfold pollMillis at hlasted
  dsimp only at hlasted
  rw [Int.ofNat_eq_natCast] at hlasted
  unfold longestPoll
  rcases Nat.le_total ((deadline - poll.start + 999999) / 1000000) maxPollMillis with hle | hle
  · rw [Nat.min_eq_left hle] at hlasted
    left
    omega
  · rw [Nat.min_eq_right hle] at hlasted
    omega

/-- A wait times out with a poll that is over, however many were interrupted before. -/
theorem Polled.exists_elapsed {deadline : Option Nat} {start at_ : Nat} {polls : List Poll}
    (h : Polled deadline start polls) (hawait : awaitEvent polls = some (.timeout at_)) :
    ∃ poll ∈ polls, start ≤ poll.start ∧ poll.Honest deadline ∧ poll.result = .elapsed ∧
      poll.finish = at_ := by
  induction h with
  | nil => cases hawait
  | @cons now poll polls hstart hhonest hrest ih =>
    unfold awaitEvent at hawait
    cases hresult : poll.result with
    | elapsed =>
      rw [hresult] at hawait
      cases hawait
      exact ⟨poll, List.mem_cons_self, hstart, hhonest, hresult, rfl⟩
    | raised =>
      rw [hresult] at hawait
      cases hawait
    | interrupted =>
      rw [hresult] at hawait
      obtain ⟨last, hmem, hlater, hlast⟩ := ih hawait
      have hfinish : poll.start ≤ poll.finish := hhonest.1
      exact ⟨last, List.mem_cons_of_mem _ hmem, by omega, hlast⟩

theorem deadline?_eq_some {start timeout : Nat} (hclock : start + timeout ≤ lastInstant) :
    deadline? start (some timeout) = some (start + timeout) := by
  unfold deadline?
  rw [Option.map_some, Option.filter_some, if_pos (decide_eq_true hclock)]

theorem pollMillis_of_far {deadline now : Nat} (h : now + longestPoll < deadline) :
    pollMillis (some deadline) now = maxPollMillis := by
  unfold longestPoll at h
  unfold pollMillis
  dsimp only
  rw [Nat.min_eq_right (by omega)]
  rfl

/-- Where the timeout is longer than a poll can be, one poll may be all. -/
theorem polled_longest {start timeout : Nat} (hclock : start + timeout ≤ lastInstant)
    (hlong : longestPoll < timeout) :
    Polled (deadline? start (some timeout)) start [⟨start, .elapsed, start + longestPoll⟩] := by
  rw [deadline?_eq_some hclock]
  refine .cons (Nat.le_refl start) ⟨Nat.le_add_right .., fun _ => ?_⟩ (.nil _)
  dsimp only
  rw [pollMillis_of_far (by omega)]
  unfold longestPoll
  omega

namespace Driver

variable {driver driver' : Driver} {polls : List Poll}

theorem wait_eq_none (hwait : driver.wait polls = some (none, driver')) :
    ∃ at_, awaitEvent polls = some (.timeout at_) := by
  unfold Driver.wait at hwait
  split at hwait
  · cases hwait
  · next at_ hawait => exact ⟨at_, hawait⟩
  · cases hwait

/-- A wait that times out has lasted for its timeout or for as long as one poll can take, whichever is
less.  If it was less than the timeout, then the last poll could not be given all that was left. -/
theorem wait_lasts {start timeout : Nat} (hclock : start + timeout ≤ lastInstant)
    (hpolls : Polled (deadline? start (some timeout)) start polls)
    (hwait : driver.wait polls = some (none, driver')) :
    ∃ at_, awaitEvent polls = some (.timeout at_) ∧ start + min timeout longestPoll ≤ at_ ∧
      (at_ < start + timeout → ∃ poll ∈ polls, poll.result = .elapsed ∧ poll.finish = at_ ∧
        poll.start + longestPoll < start + timeout) := by
  rw [deadline?_eq_some hclock] at hpolls
  obtain ⟨at_, hawait⟩ := wait_eq_none hwait
  obtain ⟨poll, hmem, hstart, hhonest, helapsed, rfl⟩ := hpolls.exists_elapsed hawait
  refine ⟨poll.finish, hawait, ?_, fun hearly => ⟨poll, hmem, helapsed, rfl, ?_⟩⟩
  · rcases hhonest.finish_of_elapsed helapsed with hlate | ⟨hlongest, -⟩ <;> omega
  · rcases hhonest.finish_of_elapsed helapsed with hlate | ⟨-, hlimit⟩ <;> omega

/-- A wait for half a millisecond is interrupted once, and lasts for all of it. -/
theorem exists_wait_lasts : ∃ (driver driver' : Driver) (polls : List Poll) (at_ : Nat),
    Polled (deadline? 7 (some 500000)) 7 polls ∧ driver.wait polls = some (none, driver') ∧
    awaitEvent polls = some (.timeout at_) ∧ 7 + 500000 ≤ at_ := by
  have hpolls : Polled (deadline? 7 (some 500000)) 7
      [⟨7, .interrupted, 400007⟩, ⟨400009, .elapsed, 1400009⟩] :=
    .cons (by decide) ⟨by decide, nofun⟩ (.cons (by decide) ⟨by decide, by decide⟩ (.nil _))
  have hwait : (idle 1).wait [⟨7, .interrupted, 400007⟩, ⟨400009, .elapsed, 1400009⟩] =
      some (none, idle 1) := rfl
  obtain ⟨at_, hawait, hlasts, -⟩ := wait_lasts (by decide) hpolls hwait
  exact ⟨_, _, _, at_, hpolls, hwait, hawait, hlasts⟩

/-- A wait for one millisecond more than a poll can take is over before its time. -/
theorem exists_wait_cut_short : ∃ (driver driver' : Driver) (polls : List Poll) (at_ : Nat),
    2147483648000000 ≤ lastInstant ∧
    Polled (deadline? 0 (some 2147483648000000)) 0 polls ∧
    driver.wait polls = some (none, driver') ∧ awaitEvent polls = some (.timeout at_) ∧
    at_ < 2147483648000000 := by
  refine ⟨idle 1, idle 1, _, _, by decide, polled_longest (by decide) (by decide), rfl, rfl, ?_⟩
  decide

end Driver

end PubSub.Wake
