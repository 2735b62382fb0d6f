import OwlCommon.Receiver.Framing

/-!
# The receiver delivers every frame

`runCalls_frames` says what calls can return: the first frames of the stream, in order. This
module says that the frames are returned. On a socket that delivers a list of frames in chunks,
with would-blocks between them, `getNextMessage` with its flag clear returns the next frame once
its reads of the flag outnumber the socket's coming receives by two (`getNextMessage_frame`): each
pass of its loop reads the flag once and receives once, and the loop stops as soon as the buffer
holds the frame. So one such call per frame returns every frame and leaves nothing behind
(`runCalls_deliver_frames`).

Together: from an empty buffer, over every sequence of calls that returns, the frames come out in
order, one at least for each call whose flag stayed clear; an empty buffer comes only from a call
that read the flag set; the bytes not returned are the frames left; the next call with its flag
clear returns the next frame; and no next call whose environment is settled throws or does
anything undefined (`framer_returns_frames`). A call that reads the flag set in its loop and clear
in the test after it takes a piece the buffer need not hold (`getNextMessage_flag_cleared`):
`message_receiver.hpp` says such a call returns an empty buffer.
-/

namespace OwlCommon.Receiver

/-- A would-block inside `getNextMessage` is a would-block before it: the loop goes on with the
same buffer. -/
theorem getNextMessage_wouldBlock (flags : List Bool) {r : MessageReceiver} {socket : List Received}
    (hs : r.socket = .wouldBlock :: socket)
    (hn : needsData r.previous_unfinished (initialPiece r.previous_unfinished) = true) :
    getNextMessage (false :: flags) r = getNextMessage flags ⟨r.previous_unfinished, socket⟩ := by
  unfold getNextMessage
  rw [receiveLoop, if_pos (by simp [hn]), hs]

/-- A buffer the test finds a whole piece in holds at least four bytes and the piece. -/
theorem whole_of_needsData {prev : Buffer} (h : needsData prev (initialPiece prev) = false) :
    4 ≤ prev.length ∧ (pieceLength prev).toNat ≤ prev.length := by
  simp only [needsData, Bool.or_eq_false_iff, decide_eq_false_iff_not, Nat.not_lt] at h
  rw [initialPiece, if_pos h.1] at h
  exact h

/-- A buffer that holds the whole frame at the head of the stream passes the test. -/
theorem needsData_of_frame {prev more f rest : Buffer} (hf : IsFrame f)
    (he : prev ++ more = f ++ rest) (hle : f.length ≤ prev.length) :
    needsData prev (initialPiece prev) = false := by
  have h4 : 4 ≤ prev.length := Nat.le_trans hf.1 hle
  rw [needsData, initialPiece, if_pos h4, pieceLength_frame hf he h4]
  simp only [Bool.or_eq_false_iff, decide_eq_false_iff_not, Nat.not_lt]
  exact ⟨h4, hle⟩

/-- On a socket that delivers, from a receiver whose stream starts with a frame, `getNextMessage`
whose flag reads clear at least two more times than the socket has receives returns the frame, and
leaves the rest of the stream and a suffix of the socket. -/
theorem getNextMessage_frame {f rest : Buffer} (hf : IsFrame f) :
    ∀ (socket : List Received) (prev : Buffer) (n : Nat), socket.length ≤ n → Script socket →
      prev ++ pending socket = f ++ rest →
      ∃ r', getNextMessage (List.replicate (n + 2) false) ⟨prev, socket⟩ = .returns f r' ∧
        stream r' = rest ∧ r'.socket <:+ socket
  | socket, prev, n, hn, hs, he => by
    cases hneed : needsData prev (initialPiece prev) with
    | false =>
      obtain ⟨h4, hle⟩ := whole_of_needsData hneed
      rw [pieceLength_frame hf he h4] at hle
      obtain ⟨htake, hdrop⟩ := split_frame he hle
      refine ⟨⟨prev.drop f.length, socket⟩, ?_, hdrop, List.suffix_refl _⟩
      have hwhole := getNextMessage_of_whole (List.replicate n false)
        (r := ⟨prev, socket⟩) (by rw [pieceLength_frame hf he h4]; exact hle)
      rw [pieceLength_frame hf he h4, htake] at hwhole
      exact hwhole
    | true =>
      match socket, hn, hs, he with
      | [], _, _, he =>
        rw [pending, List.map_nil, List.flatten_nil] at he
        have hle : f.length ≤ prev.length := by
          rw [← List.append_nil prev, he, List.length_append]
          exact Nat.le_add_right _ _
        rw [needsData_of_frame hf he hle] at hneed
        cases hneed
      | .wouldBlock :: socket, hn, hs, he =>
        obtain ⟨m, rfl⟩ : ∃ m, n = m + 1 := ⟨n - 1, by simp only [List.length_cons] at hn; omega⟩
        obtain ⟨r', h1, h2, h3⟩ := getNextMessage_frame hf socket prev m
          (Nat.le_of_succ_le_succ hn) (hs.of_suffix (List.suffix_cons _ _)) he
        exact ⟨r', (getNextMessage_wouldBlock _ rfl hneed).trans h1, h2, h3.trans (List.suffix_cons _ _)⟩
      | .failed err :: socket, _, hs, _ => exact (hs.ne_failed rfl).elim
      | .data bytes :: socket, hn, hs, he =>
        obtain ⟨m, rfl⟩ : ∃ m, n = m + 1 := ⟨n - 1, by simp only [List.length_cons] at hn; omega⟩
        obtain ⟨r', h1, h2, h3⟩ := getNextMessage_frame hf socket (prev ++ bytes) m
          (Nat.le_of_succ_le_succ hn) (hs.of_suffix (List.suffix_cons _ _))
          ((List.append_assoc _ _ _).trans he)
        exact ⟨r', (getNextMessage_data _ rfl hneed (hs.data_pos rfl)).trans h1, h2,
          h3.trans (List.suffix_cons _ _)⟩

/-- Nonempty buffers returned are the messages of the run. -/
theorem messages_map_message : ∀ fs : List Buffer, (∀ f ∈ fs, f ≠ []) →
    messages (fs.map Reply.message) = fs
  | [], _ => rfl
  | f :: fs, hne => by
    rw [List.map_cons, messages, List.filterMap_cons, Reply.frame,
      if_neg (hne f (List.mem_cons_self _ _)), ← messages,
      messages_map_message fs fun g hg => hne g (List.mem_cons_of_mem _ hg)]

/-- On a socket that delivers a list of frames, one `getNextMessage` per frame, each with its
flag read clear two more times than the socket has receives, returns the frames in order and
leaves nothing received and not returned. -/
theorem runCalls_deliver_frames (n : Nat) :
    ∀ (fs : List Buffer) (r : MessageReceiver), (∀ f ∈ fs, IsFrame f) → Script r.socket →
      r.socket.length ≤ n → stream r = fs.flatten →
      ∃ r', runCalls (List.replicate fs.length (.getNextMessage (List.replicate (n + 2) false))) r =
        .returns (fs.map Reply.message) r' ∧ stream r' = []
  | [], r, _, _, _, hs => ⟨r, rfl, hs⟩
  | f :: fs, ⟨prev, socket⟩, hfs, hsock, hn, hs => by
    obtain ⟨r₁, h1, h2, h3⟩ := @getNextMessage_frame f fs.flatten
      (hfs f (List.mem_cons_self _ _)) socket prev n hn hsock hs
    obtain ⟨r', hrun, hend⟩ := runCalls_deliver_frames n fs r₁
      (fun g hg => hfs g (List.mem_cons_of_mem _ hg)) (hsock.of_suffix h3)
      (Nat.le_trans h3.length_le hn) h2
    refine ⟨r', ?_, hend⟩
    rw [List.length_cons, List.replicate_succ, runCalls, Call.run, h1]
    simp only [Ends.map, hrun, List.map_cons]

/-! ## The framer over a sequence of calls -/

/-- From an empty buffer on a socket that delivers a list of frames in chunks, with would-blocks
between them, over every sequence of calls that returns: the nonempty buffers returned are the
first `k` frames, at least one for each call whose reads all saw the flag clear; an empty buffer
comes from a call of `getNextMessage` that read the flag set; the bytes received and not returned
are the frames after the `k`th; the next `getNextMessage`, its flag read clear two more times than
the socket has receives left, returns the next frame; and no next call whose environment is
settled throws or does anything undefined. -/
theorem framer_returns_frames {fs : List Buffer} {socket : List Received} {calls : List Call}
    {replies : List Reply} {r : MessageReceiver} (hfs : ∀ f ∈ fs, IsFrame f) (hsock : Script socket)
    (hdata : pending socket = fs.flatten)
    (hrun : runCalls calls (MessageReceiver.init socket) = .returns replies r) :
    ∃ k ≤ fs.length, calls.countP Call.clear ≤ k ∧ messages replies = fs.take k ∧
      r.previous_unfinished ++ pending r.socket = (fs.drop k).flatten ∧
      (∀ p ∈ calls.zip replies, p.2 = .message [] →
        ∃ interrupted, p.1 = .getNextMessage interrupted ∧ true ∈ interrupted) ∧
      (∀ f rest, fs.drop k = f :: rest → ∃ r',
        getNextMessage (List.replicate (r.socket.length + 2) false) r = .returns f r' ∧
          stream r' = rest.flatten) ∧
      ∀ c : Call, c.Settled → ∀ what, c.run r ≠ .undefined ∧ c.run r ≠ .throws what := by
  obtain ⟨k, hk, hn, h1, h2, h3, h4⟩ := runCalls_frames hrun hfs hdata
  have hs : Script r.socket := hsock.of_suffix h3
  refine ⟨k, hk, hn, h1, h2, h4, fun f rest hk' => ?_, fun c hc => Call.run_ne hc hs⟩
  rw [stream, hk', List.flatten_cons] at h2
  exact (getNextMessage_frame (hfs f (List.mem_of_mem_drop (hk' ▸ List.mem_cons_self f rest)))
    r.socket r.previous_unfinished _ (Nat.le_refl _) hs h2).imp fun _ h => ⟨h.1, h.2.1⟩

/-- Two frames, the first delivered with the second's length field and the rest after a
would-block: a call whose flag reads set returns an empty buffer, a call whose flag reads clear
returns the first frame, and the next such call would return the second. -/
theorem framer_returns_frames_two :
    runCalls [.getNextMessage [true, true], .getNextMessage [false, false, false]]
        (MessageReceiver.init [.data [0, 0, 0, 1, 7, 0, 0], .wouldBlock, .data [0, 0]]) =
      .returns [.message [], .message [0, 0, 0, 1, 7]] ⟨[0, 0], [.wouldBlock, .data [0, 0]]⟩ ∧
    ∃ k ≤ [[0, 0, 0, 1, 7], [0, 0, 0, 0]].length,
      [Call.getNextMessage [true, true], .getNextMessage [false, false, false]].countP Call.clear ≤ k ∧
      messages [.message [], .message [0, 0, 0, 1, 7]] = [[0, 0, 0, 1, 7], [0, 0, 0, 0]].take k ∧
      [0, 0] ++ pending [.wouldBlock, .data [0, 0]] = ([[0, 0, 0, 1, 7], [0, 0, 0, 0]].drop k).flatten ∧
      (∀ p ∈ [Call.getNextMessage [true, true], .getNextMessage [false, false, false]].zip
          [Reply.message [], .message [0, 0, 0, 1, 7]], p.2 = .message [] →
        ∃ interrupted, p.1 = .getNextMessage interrupted ∧ true ∈ interrupted) ∧
      (∀ f rest, ([[0, 0, 0, 1, 7], [0, 0, 0, 0]] : List Buffer).drop k = f :: rest → ∃ r',
        getNextMessage (List.replicate ([Received.wouldBlock, .data [0, 0]].length + 2) false)
            ⟨[0, 0], [.wouldBlock, .data [0, 0]]⟩ = .returns f r' ∧ stream r' = rest.flatten) ∧
      ∀ c : Call, c.Settled → ∀ what, c.run ⟨[0, 0], [.wouldBlock, .data [0, 0]]⟩ ≠ .undefined ∧
        c.run ⟨[0, 0], [.wouldBlock, .data [0, 0]]⟩ ≠ .throws what :=
  have hrun : runCalls [.getNextMessage [true, true], .getNextMessage [false, false, false]]
      (MessageReceiver.init [.data [0, 0, 0, 1, 7, 0, 0], .wouldBlock, .data [0, 0]]) =
      .returns [.message [], .message [0, 0, 0, 1, 7]] ⟨[0, 0], [.wouldBlock, .data [0, 0]]⟩ := by
    decide
  ⟨hrun, @framer_returns_frames [[0, 0, 0, 1, 7], [0, 0, 0, 0]] _ _ _ _ (by decide) (by decide)
    (by decide) hrun⟩

/-- A flag read set by the loop and clear by the test after it: the frame `[0, 0, 0, 1, 7]`, its
first four bytes received, makes `getNextMessage` take five bytes from a buffer of four. -/
theorem getNextMessage_flag_cleared :
    IsFrame [0, 0, 0, 1, 7] ∧ Script [.data [0, 0, 0, 1], .data [7]] ∧
      pending [.data [0, 0, 0, 1], .data [7]] = [0, 0, 0, 1, 7] ∧
      getNextMessage [false, true, false] (MessageReceiver.init [.data [0, 0, 0, 1], .data [7]]) =
        .undefined := by
  decide

end OwlCommon.Receiver
