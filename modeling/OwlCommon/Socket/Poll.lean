import Mathlib.Init

/-!
# Polling a socket

The sockets of `simple_sockets.cpp` poll one descriptor at a time through a `pollfd` they declare
on the stack and do not initialise beyond `fd` and `events`. `poll` writes `revents` when it
succeeds and leaves it alone when it fails, so after a failed `poll` the field holds whatever the
stack held. A poll answer (`PollAnswer`) is what `poll` returns together with what `revents` holds
after it; for a failed call those are the bits of the uninitialised field, which the environment
gives like any other answer. For a negative descriptor, which `poll` ignores, the kernel answers a
timeout, or fails.

`ClientSocket::inputReady` is the one caller that reads `revents` whatever `poll` returned: it
returns `true` when `poll` found input without an error bit, throws after cleaning the socket up
whenever `revents` has an error bit, the stale bits of a failed `poll` included, and returns
`false` otherwise (`inputReady_eq_ok_true`, `inputReady_eq_error`).
-/

namespace OwlCommon.Socket

/-- What one `poll` on one descriptor returns, with the error bits `revents` holds after it. -/
inductive PollAnswer
  /-- `-1` with the text of `errno`; `revents` is not written, and holds the bits given. -/
  | failed (err : String) (pollerr pollhup pollnval : Bool)
  /-- `0`: it timed out, and `revents` is zero. -/
  | timeout
  /-- `1`, with the error bits of `revents`. -/
  | ready (pollerr pollhup pollnval : Bool)
deriving DecidableEq, Repr

/-- The error bits `POLLERR`, `POLLHUP`, `POLLNVAL` of `revents` after the call. -/
def PollAnswer.revents : PollAnswer → Bool × Bool × Bool
  | .failed _ pollerr pollhup pollnval | .ready pollerr pollhup pollnval => (pollerr, pollhup, pollnval)
  | .timeout => (false, false, false)

/-- Whether `revents` has an error bit. -/
def PollAnswer.hasError (poll : PollAnswer) : Bool :=
  poll.revents.1 || poll.revents.2.1 || poll.revents.2.2

/-- The test `result == 1 and (revents & (POLLERR | POLLHUP | POLLNVAL)) == 0`. -/
def PollAnswer.clear : PollAnswer → Bool
  | .ready pollerr pollhup pollnval => !(pollerr || pollhup || pollnval)
  | _ => false

/-- The text for the error bits of `revents`: the first of `POLLERR`, `POLLHUP`, `POLLNVAL`. -/
def pollErrorText (pollerr pollhup pollnval : Bool) : String :=
  if pollerr then "socket error"
  else if pollhup then "remote side disconnected"
  else if pollnval then "bad file descriptor"
  else ""

/-- `ClientSocket::inputReady(msec_timeout)` on `poll`'s answer: `true` when the test holds;
otherwise, when `revents` has an error bit, the text it throws after `socketCleanup(sock_fd)`;
otherwise `false`. -/
def inputReady (poll : PollAnswer) : Except String Bool :=
  if poll.clear then .ok true
  else if poll.hasError then
    .error ("Error connecting: " ++ pollErrorText poll.revents.1 poll.revents.2.1 poll.revents.2.2)
  else .ok false

/-- An answer that passes the test has no error bit. -/
theorem PollAnswer.hasError_of_clear {poll : PollAnswer} (h : poll.clear = true) :
    poll.hasError = false := by
  cases poll with
  | ready pollerr pollhup pollnval => simpa [PollAnswer.clear, PollAnswer.hasError,
      PollAnswer.revents] using h
  | _ => cases h

/-- `inputReady` returns `true` exactly on an answer that passes the test. -/
theorem inputReady_eq_ok_true (poll : PollAnswer) : inputReady poll = .ok true ↔ poll.clear := by
  unfold inputReady
  split
  · exact iff_of_true rfl ‹_›
  · split <;> simp_all

/-- `inputReady` throws exactly when `revents` has an error bit, whether `poll` wrote it or not,
with `"Error connecting: "` and the first bit's name. -/
theorem inputReady_eq_error (poll : PollAnswer) (what : String) :
    inputReady poll = .error what ↔ poll.hasError ∧
      what = "Error connecting: " ++ pollErrorText poll.revents.1 poll.revents.2.1 poll.revents.2.2 := by
  unfold inputReady
  split
  · next h => exact iff_of_false nofun fun e => absurd e.1 (by simp [PollAnswer.hasError_of_clear h])
  · split
    · next h => exact ⟨fun e => ⟨h, by cases e; rfl⟩, fun ⟨_, e⟩ => e ▸ rfl⟩
    · next h => exact iff_of_false nofun fun e => h e.1

end OwlCommon.Socket
