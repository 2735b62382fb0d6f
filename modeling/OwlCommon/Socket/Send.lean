import OwlCommon.NetBuffer.Wire

/-!
# Sending over a socket

`ClientSocket::send(buff)` (`simple_sockets.cpp`) copies the buffer into a string `arr` and loops
while `written < arr.length()`: it polls the socket for `POLLOUT` and throws
`temporarily_unavailable` when the socket is not writable, then hands the unsent rest of `arr` to
`::send`. A result of `-1` cleans the socket up, which closes it and sets `sock_fd` to `-1`, and
throws a `std::runtime_error`; any other result is added to `written`.

What the kernel does is the environment: a call is given what its successive passes meet
(`Attempt`). `poll` ignores a negative descriptor and reports no event on it, so on a closed
socket a pass throws `temporarily_unavailable` without consulting the environment.

Over every call, whatever the kernel takes each time, the bytes it has taken are the first
`written` bytes of the buffer (`sendLoop_taken`): a call that returns has handed over the whole
buffer, once and in order, and one that throws has handed over a prefix of it
(`send_taken`). A call on an open socket whose passes each find it writable and hand over a byte
returns within as many passes as the buffer has bytes (`send_returns`). A failed `::send` leaves
the socket closed, and from then on every send of a nonempty buffer throws
`temporarily_unavailable`, the error a caller is invited to retry (`sendAll_after_failure`); while
every call returns, the kernel has taken the buffers one after another (`sendAll_taken`).
-/

namespace OwlCommon.Socket

/-- What one pass of the send loop meets. `::send` takes at most `2 ^ 31 - 4096` bytes a call on
Linux, so what it returns fits in the `int` the loop stores it in. -/
inductive Attempt
  /-- `poll` returns without `POLLOUT` in `revents`. -/
  | notWritable
  /-- The socket is writable, and `::send` takes the first `n` bytes offered and returns `n`. -/
  | sent (n : Fin (2 ^ 31))
  /-- The socket is writable, and `::send` returns `-1` with `strerror(errno)` equal to `err`. -/
  | failed (err : String)
deriving DecidableEq, Repr

/-- How a call of `send` ends. -/
inductive Outcome
  /-- It returns. -/
  | returns
  /-- It throws `temporarily_unavailable`. -/
  | unavailable
  /-- It throws a `std::runtime_error` with this text, the socket cleaned up. -/
  | throws (what : String)
  /-- It has not returned when the environment given to it runs out. -/
  | waits
deriving DecidableEq, Repr

/-- What a call of `send` leaves: how it ended, the bytes the kernel took during it in order, and
`sock_fd` after it. -/
structure SendResult where
  /-- How the call ended. -/
  outcome : Outcome
  /-- The bytes the kernel took, in order. -/
  taken : Buffer
  /-- The descriptor after the call. -/
  sock_fd : Int
deriving DecidableEq, Repr

/-- The text `send` throws when `::send` fails with `strerror(errno)` equal to `err`. -/
def sendError (err : String) : String :=
  "Error sending data over socket: " ++
    if err = "Broken pipe" then "Connection closed by receiver (broken pipe)" else err

/-- The loop of `send`, from `written`, the kernel having taken `taken`: while
`written < arr.length()`, poll, then hand `arr` from `written` on to `::send`. -/
def sendLoop (arr : Buffer) (sock_fd : Int) :
    List Attempt → UInt64 → Buffer → SendResult
  | attempts, written, taken =>
    if written.toNat < arr.length then
      if sock_fd < 0 then ⟨.unavailable, taken, sock_fd⟩
      else
        match attempts with
        | [] => ⟨.waits, taken, sock_fd⟩
        | .notWritable :: _ => ⟨.unavailable, taken, sock_fd⟩
        | .failed err :: _ => ⟨.throws (sendError err), taken, -1⟩
        | .sent n :: attempts =>
          sendLoop arr sock_fd attempts (written + UInt64.ofNat n)
            (taken ++ (arr.drop written.toNat).take n)
    else ⟨.returns, taken, sock_fd⟩

/-- `ClientSocket::send(buff)` on a socket whose descriptor is `sock_fd`, its passes meeting
`attempts`. -/
def send (sock_fd : Int) (buff : Buffer) (attempts : List Attempt) : SendResult :=
  sendLoop buff sock_fd attempts 0 []

/-- Calls of `send` one after another on one socket, each with its buffer and what its passes
meet: what each leaves. -/
def sendAll (sock_fd : Int) : List (Buffer × List Attempt) → List SendResult
  | [] => []
  | (buff, attempts) :: calls =>
    send sock_fd buff attempts :: sendAll (send sock_fd buff attempts).sock_fd calls

/-- The descriptor after calls of `send` one after another. -/
def fdAfter (sock_fd : Int) : List (Buffer × List Attempt) → Int
  | [] => sock_fd
  | (buff, attempts) :: calls => fdAfter (send sock_fd buff attempts).sock_fd calls

/-- An ending by a `std::runtime_error`, the one that cleans the socket up. -/
def Outcome.closes : Outcome → Bool
  | .throws _ => true
  | _ => false

/-- A pass that finds the socket writable and hands over at least one byte. -/
def Attempt.Progresses : Attempt → Prop
  | .sent n => 0 < n.val
  | _ => False

/-- Whether an attempt makes progress is decided. -/
instance (a : Attempt) : Decidable a.Progresses := by
  cases a <;> unfold Attempt.Progresses <;> infer_instance

/-! ## One pass -/

/-- A pass that hands over `n` bytes adds them to `written` without wrapping, the buffer being
shorter than `2 ^ 63` bytes. -/
theorem toNat_add_sent {arr : Buffer} {written : UInt64} (n : Fin (2 ^ 31))
    (hlen : arr.length < 2 ^ 63) (hw : written.toNat < arr.length) :
    (written + UInt64.ofNat n).toNat = written.toNat + n := by
  have hn := n.isLt
  have hofNat : (UInt64.ofNat n).toNat = n := UInt64.toNat_ofNat_of_lt (Nat.lt_trans hn (by decide))
  have hadd : (written + UInt64.ofNat n).toNat = (written.toNat + (UInt64.ofNat n).toNat) % 2 ^ 64 := by
    simp only [UInt64.toNat, UInt64.add_def, BitVec.toNat_add]
  rw [hadd, hofNat]
  exact Nat.mod_eq_of_lt (by omega)

/-- The kernel taking `n` bytes at `written` extends the buffer's first `written` bytes to its
first `written + n`. -/
theorem take_append_sent (arr : Buffer) (w n : Nat) :
    arr.take w ++ (arr.drop w).take n = arr.take (w + n) :=
  (List.take_add arr w n).symm

/-! ## The loop -/

/-- The loop closes the socket when it throws a `std::runtime_error` and otherwise leaves it as it
was. -/
theorem sendLoop_sock_fd (arr : Buffer) (sock_fd : Int) :
    ∀ (attempts : List Attempt) (written : UInt64) (taken : Buffer),
      (sendLoop arr sock_fd attempts written taken).sock_fd =
        if (sendLoop arr sock_fd attempts written taken).outcome.closes then -1 else sock_fd
  | attempts, written, taken => by
    unfold sendLoop
    split
    · split
      · rfl
      · match attempts with
        | [] | .notWritable :: _ | .failed _ :: _ => rfl
        | .sent n :: attempts => exact sendLoop_sock_fd arr sock_fd attempts _ _
    · rfl

/-- On a closed socket the loop never throws a `std::runtime_error`, so the socket stays closed. -/
theorem sendLoop_closed {arr : Buffer} {sock_fd : Int} (hclosed : sock_fd < 0)
    (attempts : List Attempt) (written : UInt64) (taken : Buffer) :
    (sendLoop arr sock_fd attempts written taken).sock_fd = sock_fd := by
  have hkeep : (sendLoop arr sock_fd attempts written taken).outcome.closes = false := by
    unfold sendLoop
    split <;> rfl
  rw [sendLoop_sock_fd, hkeep]
  rfl

section Loop

variable {arr : Buffer} {sock_fd : Int} (hlen : arr.length < 2 ^ 63)
include hlen

/-- Over every run of the loop, whatever the kernel takes each pass, what it has taken is the
first `written` bytes of the buffer, all of it when the loop returns. -/
theorem sendLoop_taken :
    ∀ (attempts : List Attempt) (written : UInt64),
      ∃ w, (sendLoop arr sock_fd attempts written (arr.take written.toNat)).taken = arr.take w ∧
        ((sendLoop arr sock_fd attempts written (arr.take written.toNat)).outcome = .returns →
          arr.length ≤ w)
  | attempts, written => by
    unfold sendLoop
    split
    · rename_i hw
      split
      · exact ⟨written.toNat, rfl, fun h => nomatch h⟩
      · match attempts with
        | [] | .notWritable :: _ | .failed _ :: _ => exact ⟨written.toNat, rfl, fun h => nomatch h⟩
        | .sent n :: attempts =>
          dsimp only
          rw [take_append_sent, ← toNat_add_sent n hlen hw]
          exact sendLoop_taken attempts _
    · rename_i hw
      exact ⟨written.toNat, rfl, fun _ => by omega⟩

/-- On an open socket, passes that each hand over a byte, at least as many as the bytes left,
bring the loop to return. -/
theorem sendLoop_returns (hopen : 0 ≤ sock_fd) :
    ∀ (attempts : List Attempt) (written : UInt64) (taken : Buffer),
      (∀ a ∈ attempts, a.Progresses) → arr.length ≤ written.toNat + attempts.length →
        (sendLoop arr sock_fd attempts written taken).outcome = .returns
  | attempts, written, taken, hprog, henough => by
    unfold sendLoop
    split
    · rename_i hw
      rw [if_neg (by omega)]
      match attempts, hprog, henough with
      | [], _, henough => exact absurd henough (by simp only [List.length_nil]; omega)
      | .notWritable :: _, hprog, _ | .failed _ :: _, hprog, _ =>
        exact (hprog _ (List.mem_cons_self _ _)).elim
      | .sent n :: attempts, hprog, henough =>
        have hn : 0 < n.val := hprog _ (List.mem_cons_self _ _)
        refine sendLoop_returns hopen attempts _ _ (fun a ha => hprog a (List.mem_cons_of_mem _ ha)) ?_
        rw [toNat_add_sent n hlen hw]
        simp only [List.length_cons] at henough
        omega
    · rfl

end Loop

/-! ## A call, and calls one after another -/

/-- A call of `send` that returns has handed over the whole buffer. -/
theorem send_whole {sock_fd : Int} {buff : Buffer} {attempts : List Attempt}
    (hlen : buff.length < 2 ^ 63) (h : (send sock_fd buff attempts).outcome = .returns) :
    (send sock_fd buff attempts).taken = buff := by
  obtain ⟨w, htaken, hret⟩ := @sendLoop_taken buff sock_fd hlen attempts 0
  rw [UInt64.toNat_zero, List.take_zero] at htaken hret
  rw [send, htaken, List.take_of_length_le (hret h)]

/-- On an open socket, a call of `send` whose passes each find the socket writable and hand over a
byte, at least as many as the buffer has bytes, returns. -/
theorem send_returns {sock_fd : Int} {buff : Buffer} {attempts : List Attempt}
    (hopen : 0 ≤ sock_fd) (hlen : buff.length < 2 ^ 63) (hprog : ∀ a ∈ attempts, a.Progresses)
    (henough : buff.length ≤ attempts.length) : (send sock_fd buff attempts).outcome = .returns :=
  sendLoop_returns hlen hopen attempts 0 [] hprog (by rw [UInt64.toNat_zero]; omega)

/-- Two bytes, one sent at each attempt: the call returns. -/
theorem send_returns_two :
    (0 : Int) ≤ 3 ∧ ([1, 2] : Buffer).length < 2 ^ 63 ∧
      (∀ a ∈ [Attempt.sent 1, .sent 1], a.Progresses) ∧
      ([1, 2] : Buffer).length ≤ [Attempt.sent 1, .sent 1].length ∧
      (send 3 [1, 2] [.sent 1, .sent 1]).outcome = .returns :=
  ⟨by decide, by decide, by decide, by decide,
    send_returns (by decide) (by decide) (by decide) (by decide)⟩

/-- On a closed socket, a send of a nonempty buffer throws `temporarily_unavailable` at its first
poll, having handed over nothing, whatever the environment. -/
theorem send_closed {sock_fd : Int} (hclosed : sock_fd < 0) {buff : Buffer} (hne : buff ≠ [])
    (attempts : List Attempt) : send sock_fd buff attempts = ⟨.unavailable, [], sock_fd⟩ := by
  have hpos : 0 < buff.length := List.length_pos.mpr hne
  rw [send]
  unfold sendLoop
  rw [if_pos (by rw [UInt64.toNat_zero]; exact hpos), if_pos hclosed]

/-- Sends one after another, split anywhere: the second part starts from the descriptor the first
leaves. -/
theorem sendAll_append (sock_fd : Int) :
    ∀ pre post : List (Buffer × List Attempt),
      sendAll sock_fd (pre ++ post) = sendAll sock_fd pre ++ sendAll (fdAfter sock_fd pre) post
  | [], _ => rfl
  | (buff, attempts) :: pre, post => by
    rw [List.cons_append]
    simp only [sendAll, fdAfter]
    rw [sendAll_append _ pre post, List.cons_append]

/-- Calls on a closed socket leave it closed. -/
theorem fdAfter_closed {sock_fd : Int} (hclosed : sock_fd < 0) :
    ∀ calls : List (Buffer × List Attempt), fdAfter sock_fd calls = sock_fd
  | [] => rfl
  | (buff, attempts) :: calls => by
    rw [fdAfter, send, sendLoop_closed hclosed]
    exact fdAfter_closed hclosed calls

/-- After a call that throws a `std::runtime_error`, the socket is closed for good. -/
theorem fdAfter_of_failure (sock_fd : Int) :
    ∀ calls : List (Buffer × List Attempt), (∀ c ∈ calls, c.1.length < 2 ^ 63) →
      (∃ res ∈ sendAll sock_fd calls, res.outcome.closes) → fdAfter sock_fd calls = -1
  | [], _, ⟨_, hres, _⟩ => nomatch hres
  | (buff, attempts) :: calls, hlen, ⟨res, hres, hcl⟩ => by
    rw [fdAfter]
    rcases List.mem_cons.mp hres with rfl | hres
    · have hfd : (send sock_fd buff attempts).sock_fd =
          if (send sock_fd buff attempts).outcome.closes then -1 else sock_fd :=
        sendLoop_sock_fd _ _ _ _ _
      rw [hcl, if_pos rfl] at hfd
      rw [hfd]
      exact @fdAfter_closed (-1) (by decide) calls
    · exact fdAfter_of_failure _ calls (fun c hc => hlen c (List.mem_cons_of_mem _ hc)) ⟨res, hres, hcl⟩

/-- While every call returns, the kernel has taken the buffers one after another: nothing lost,
repeated or reordered. -/
theorem sendAll_taken :
    ∀ (sock_fd : Int) (calls : List (Buffer × List Attempt)), (∀ c ∈ calls, c.1.length < 2 ^ 63) →
      (∀ res ∈ sendAll sock_fd calls, res.outcome = .returns) →
      ((sendAll sock_fd calls).map SendResult.taken).flatten = (calls.map Prod.fst).flatten
  | _, [], _, _ => rfl
  | sock_fd, (buff, attempts) :: calls, hlen, hret => by
    have hbuff := send_whole (hlen _ (List.mem_cons_self _ _)) (hret _ (List.mem_cons_self _ _))
    simp only [sendAll, List.map_cons, List.flatten_cons, hbuff]
    rw [sendAll_taken _ calls (fun c hc => hlen c (List.mem_cons_of_mem _ hc))
      (fun res hres => hret res (List.mem_cons_of_mem _ hres))]

/-- After a call that throws a `std::runtime_error`, every later call of `send` with a nonempty
buffer throws `temporarily_unavailable` and hands over nothing, whatever the environment. -/
theorem sendAll_after_failure (sock_fd : Int) (pre post : List (Buffer × List Attempt))
    (hlen : ∀ c ∈ pre, c.1.length < 2 ^ 63) (hfail : ∃ res ∈ sendAll sock_fd pre, res.outcome.closes)
    (hne : ∀ c ∈ post, c.1 ≠ []) :
    sendAll sock_fd (pre ++ post) = sendAll sock_fd pre ++ post.map fun _ => ⟨.unavailable, [], -1⟩ := by
  rw [sendAll_append, fdAfter_of_failure sock_fd pre hlen hfail]
  congr 1
  induction post with
  | nil => rfl
  | cons c post ih =>
    obtain ⟨buff, attempts⟩ := c
    have hc := @send_closed (-1) (by decide) _ (hne _ (List.mem_cons_self _ _)) attempts
    rw [sendAll, hc, List.map_cons, ih fun c' hc' => hne c' (List.mem_cons_of_mem _ hc')]

/-- A send that fails on a broken pipe after one byte, then a send of one byte on the same socket. -/
theorem sendAll_after_failure_broken_pipe :
    (∀ c ∈ [(([1, 2] : Buffer), [Attempt.sent 1, .failed "Broken pipe"])], c.1.length < 2 ^ 63) ∧
      (∃ res ∈ sendAll 3 [([1, 2], [.sent 1, .failed "Broken pipe"])], res.outcome.closes) ∧
      (∀ c ∈ [(([5] : Buffer), [Attempt.sent 1])], c.1 ≠ []) ∧
      sendAll 3 ([([1, 2], [.sent 1, .failed "Broken pipe"])] ++ [([5], [.sent 1])]) =
        sendAll 3 [([1, 2], [.sent 1, .failed "Broken pipe"])] ++
          [(([5] : Buffer), [Attempt.sent 1])].map fun _ => ⟨.unavailable, [], -1⟩ :=
  have hlen : ∀ c ∈ [(([1, 2] : Buffer), [Attempt.sent 1, .failed "Broken pipe"])],
      c.1.length < 2 ^ 63 := by decide
  have hfail : ∃ res ∈ sendAll 3 [([1, 2], [.sent 1, .failed "Broken pipe"])], res.outcome.closes := by
    decide
  have hne : ∀ c ∈ [(([5] : Buffer), [Attempt.sent 1])], c.1 ≠ [] := by decide
  ⟨hlen, hfail, hne, sendAll_after_failure 3 _ _ hlen hfail hne⟩

end OwlCommon.Socket
