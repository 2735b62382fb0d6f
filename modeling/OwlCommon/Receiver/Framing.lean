import OwlCommon.Receiver.MessageReceiver

/-!
# The receiver returns the frames of its stream

The bytes a receiver has not returned are its buffer followed by what its socket still has to
deliver (`stream`). A receive moves bytes from the second part to the first, so neither function
changes the stream except by returning a piece of it (`receiveLoop_returns`,
`messageAvailable_returns`): over every run, whatever the bytes, the buffers returned followed by
the stream left are the stream the run started from (`runs_stream`).

When the stream is a list of frames, each shorter than `2 ^ 32` bytes, the piece `getNextMessage`
splits off is the first frame: its length field plus four does not wrap (`pieceLength_frame`). A
call returns nothing only after a read of the flag saw it set, so a call whose reads all see it
clear returns the next frame (`Call.run_frames`). Over every sequence of calls on a socket that
delivers a list of frames in chunks, with would-blocks between them, the nonempty buffers returned
are the first frames of the list, in order, at least one for each call whose flag stayed clear, and
the stream is the rest (`runCalls_frames`).

The one call that can go wrong is `getNextMessage` whose flag is read set by the loop and clear by
the test after it: the test then takes a piece the buffer may not hold. A call whose flag, once
read set, stays set, and a `messageAvailable` whose `poll` reports no error bit, throw nothing and
do nothing undefined on such a socket (`Call.run_ne`).

The piece length is computed in `uint32_t`: a length field of `2 ^ 32 - 4` or more makes a piece
of fewer than four bytes, and `[255, 255, 255, 252]` a piece of none, which is returned, empty,
without consuming anything (`getNextMessage_wrapped_length`).

`messageAvailable(false)` makes the same test before it receives as `getNextMessage(false)`, and
when it answers true the next `getNextMessage(false)` receives nothing and splits off the piece it
judged complete (`messageAvailable_agrees`).
-/

namespace OwlCommon.Receiver

open Wire

/-! ## The stream -/

/-- The bytes the coming receives deliver. -/
def pending (socket : List Received) : Buffer := (socket.map Received.bytes).flatten

/-- The bytes a receiver has not returned: its buffer, then those its socket has to deliver. -/
def stream (r : MessageReceiver) : Buffer := r.previous_unfinished ++ pending r.socket

/-- A receive that gives some bytes, no more than `raw_messages` holds, or would block: not end of
file and not an error. -/
def Received.delivers : Received → Bool
  | .data bytes => 0 < bytes.length && bytes.length ≤ 10000
  | .wouldBlock => true
  | .failed _ => false

/-- A socket whose receives all deliver. -/
def Script (socket : List Received) : Prop := ∀ x ∈ socket, x.delivers = true

/-- A frame: a length field `N`, then `N` bytes, shorter than `2 ^ 32` bytes in all. -/
def IsFrame (f : Buffer) : Prop :=
  4 ≤ f.length ∧ beNat (f.take 4) + 4 = f.length ∧ f.length < 2 ^ 32

/-- Whether bytes are a frame is decided. -/
instance : DecidablePred IsFrame := fun f => by unfold IsFrame; infer_instance

/-- Whether a socket follows a script is decided. -/
instance (socket : List Received) : Decidable (Script socket) := by unfold Script; infer_instance

/-- A call whose environment does nothing the code does not handle: the `poll` of
`messageAvailable` reports no error bit, and the flag of `getNextMessage`, once read set, reads set
until it returns. -/
def Call.Settled : Call → Prop
  | .messageAvailable _ poll => poll.hasError = false
  | .getNextMessage interrupted => interrupted.Pairwise (· ≤ ·)

/-- The bytes waiting are the first event's, then the rest's. -/
@[simp] theorem pending_cons (x : Received) (socket : List Received) :
    pending (x :: socket) = x.bytes ++ pending socket := rfl

/-- What is left of a socket that delivers delivers. -/
theorem Script.of_suffix {s t : List Received} (ht : Script t) (h : s <:+ t) : Script s :=
  fun x hx => ht x (h.subset hx)

/-- A socket that delivers has no failed receive next. -/
theorem Script.ne_failed {socket rest : List Received} {err : String} (hs : Script socket)
    (heq : socket = .failed err :: rest) : False := by
  have := hs _ (heq ▸ List.mem_cons_self _ _)
  simp [Received.delivers] at this

/-- A socket that delivers gives some bytes when it gives data. -/
theorem Script.data_pos {socket rest : List Received} {bytes : Buffer} (hs : Script socket)
    (heq : socket = .data bytes :: rest) : 0 < bytes.length := by
  have := hs _ (heq ▸ List.mem_cons_self _ _)
  simp only [Received.delivers, Bool.and_eq_true, decide_eq_true_eq] at this
  exact this.1

/-- Moving received bytes from the socket to the buffer keeps the stream. -/
theorem stream_append (prev bytes : Buffer) (socket : List Received) :
    stream ⟨prev ++ bytes, socket⟩ = stream ⟨prev, .data bytes :: socket⟩ := by
  simp [stream, Received.bytes]

/-! ## The piece length -/

/-- Fewer than four bytes read as a length of zero, so a piece of four. -/
theorem pieceLength_of_lt {buff : Buffer} (h : buff.length < 4) : pieceLength buff = 4 := by
  rw [pieceLength, NetBuffer.readPrimitive, if_neg (by rw [width_uint32]; omega)]
  rfl

/-- The piece length is the length field plus four, modulo `2 ^ 32`. -/
theorem pieceLength_toNat {buff : Buffer} (h : 4 ≤ buff.length) :
    (pieceLength buff).toNat = (beNat (buff.take 4) + 4) % 2 ^ 32 := by
  have hw : (buff.take 4).length = width UInt32 := by rw [List.length_take, width_uint32]; omega
  have hv : (ofBytes (buff.take 4) : UInt32).toNat = beNat (buff.take 4) := toNat_ofBytes hw
  rw [pieceLength, NetBuffer.readPrimitive, if_pos (by rw [width_uint32]; omega), List.drop_zero,
    Push.toNat_add_uint32]
  simp only [width_uint32, hv]
  rfl

/-- A buffer that starts the stream of a frame, with the length field in it, has the frame's
length for its piece length. -/
theorem pieceLength_frame {prev rest f tail : Buffer} (hf : IsFrame f)
    (he : prev ++ rest = f ++ tail) (h4 : 4 ≤ prev.length) : (pieceLength prev).toNat = f.length := by
  have htake : prev.take 4 = f.take 4 := by
    have := congrArg (List.take 4) he
    rwa [List.take_append_of_le_length h4, List.take_append_of_le_length hf.1] at this
  rw [pieceLength_toNat h4, htake, hf.2.1, Nat.mod_eq_of_lt hf.2.2]

/-- A buffer that holds a whole frame at the head of the stream starts with it. -/
theorem split_frame {prev rest f tail : Buffer} (he : prev ++ rest = f ++ tail)
    (hle : f.length ≤ prev.length) : prev.take f.length = f ∧ prev.drop f.length ++ rest = tail := by
  constructor
  · have := congrArg (List.take f.length) he
    rwa [List.take_append_of_le_length hle, List.take_left] at this
  · have := congrArg (List.drop f.length) he
    rwa [List.drop_append_of_le_length hle, List.drop_left] at this

/-! ## One call -/

/-- A receive that did not return `-1` appends its bytes exactly when there are some. -/
theorem appendReceived_eq_ok {r r' : MessageReceiver} {bytes : Buffer} {socket : List Received} :
    appendReceived r bytes socket = .ok r' ↔
      0 < bytes.length ∧ r' = ⟨r.previous_unfinished ++ bytes, socket⟩ := by
  unfold appendReceived
  split
  · simp_all [reduceCtorEq]
  · rename_i h
    simp only [Except.ok.injEq]
    exact ⟨fun e => ⟨by omega, e.symm⟩, fun ⟨_, e⟩ => e.symm⟩

/-- A receive of some bytes appends them. -/
theorem appendReceived_of_pos {r : MessageReceiver} {bytes : Buffer} {socket : List Received}
    (h : 0 < bytes.length) : appendReceived r bytes socket = .ok ⟨r.previous_unfinished ++ bytes, socket⟩ :=
  appendReceived_eq_ok.mpr ⟨h, rfl⟩

/-- After a receive the loop's `piece_length` is the one both functions would start from. -/
theorem initialPiece_append (prev bytes : Buffer) :
    (if 4 ≤ (prev ++ bytes).length then pieceLength (prev ++ bytes) else initialPiece prev) =
      initialPiece (prev ++ bytes) := by
  unfold initialPiece
  split
  · rfl
  · rw [if_neg (by simp only [List.length_append] at *; omega)]

/-- The receive loop keeps the stream and the piece length's link to the buffer; it consumes a
suffix of the flag reads and of the socket, and stops at a read of a set flag or when the buffer
holds a whole piece. -/
theorem receiveLoop_returns :
    ∀ {flags : List Bool} {piece_length : UInt32} {r : MessageReceiver} {rest : List Bool}
      {piece_length' : UInt32} {r' : MessageReceiver},
      receiveLoop flags piece_length r = .returns (rest, piece_length') r' →
      piece_length = initialPiece r.previous_unfinished →
      stream r' = stream r ∧ r'.socket <:+ r.socket ∧ rest <:+ flags ∧
        piece_length' = initialPiece r'.previous_unfinished ∧
        ∃ interrupted flags', rest = interrupted :: flags' ∧
          (interrupted = true ∨ needsData r'.previous_unfinished piece_length' = false)
  | [], _, _, _, _, _, h, _ => by simp [receiveLoop] at h
  | interrupted :: flags, piece_length, r, rest, piece_length', r', h, hp => by
    rw [receiveLoop] at h
    split at h
    · split at h
      · cases h
      · next socket hs =>
        obtain ⟨h1, h2, h3, h4, h5⟩ := receiveLoop_returns h hp
        refine ⟨by rw [h1]; simp [stream, hs, Received.bytes], h2.trans ?_,
          h3.trans (List.suffix_cons _ _), h4, h5⟩
        rw [hs]
        exact List.suffix_cons _ _
      · cases h
      · next bytes socket hs =>
        split at h
        · next r₁ happ =>
          obtain ⟨-, rfl⟩ := appendReceived_eq_ok.mp happ
          obtain ⟨h1, h2, h3, h4, h5⟩ := receiveLoop_returns h (hp ▸ initialPiece_append _ _)
          refine ⟨by rw [h1, stream_append, ← hs], h2.trans ?_,
            h3.trans (List.suffix_cons _ _), h4, h5⟩
          rw [hs]
          exact List.suffix_cons _ _
        · cases h
    · cases h
      refine ⟨rfl, List.suffix_refl _, List.suffix_refl _, hp, _, _, rfl, ?_⟩
      rename_i hc
      cases interrupted <;> simp_all

/-- On a socket with neither end of file nor error the loop does not throw. -/
theorem receiveLoop_ne_throws :
    ∀ {flags : List Bool} {piece_length : UInt32} {r : MessageReceiver} (what : String),
      Script r.socket → receiveLoop flags piece_length r ≠ .throws what
  | [], _, _, _, _ => by simp [receiveLoop]
  | interrupted :: flags, piece_length, r, what, hs => by
    rw [receiveLoop]
    split
    · split
      · simp
      · next socket heq =>
        exact receiveLoop_ne_throws what (hs.of_suffix (heq ▸ List.suffix_cons _ _))
      · next heq => exact (hs.ne_failed heq).elim
      · next bytes socket heq =>
        rw [appendReceived_of_pos (hs.data_pos heq)]
        exact receiveLoop_ne_throws what (hs.of_suffix (heq ▸ List.suffix_cons _ _))
    · simp

/-- The loop does nothing undefined. -/
theorem receiveLoop_ne_undefined :
    ∀ {flags : List Bool} {piece_length : UInt32} {r : MessageReceiver},
      receiveLoop flags piece_length r ≠ .undefined
  | [], _, _ => by simp [receiveLoop]
  | interrupted :: flags, piece_length, r => by
    rw [receiveLoop]
    split
    · split
      · simp
      · exact receiveLoop_ne_undefined
      · simp
      · split
        · exact receiveLoop_ne_undefined
        · simp
    · simp

/-- Keeping the bytes after a piece keeps those after it, or none. -/
theorem ite_drop (l : Buffer) (n : Nat) : (if n < l.length then l.drop n else []) = l.drop n := by
  split
  · rfl
  · exact (List.drop_eq_nil_of_le (by omega)).symm

/-- What `getNextMessage` returns: at the loop's end, with the stream kept, either nothing, after
a read of the flag saw it set, or the first `piece_length` bytes of a buffer that holds them, the
rest kept. -/
theorem getNextMessage_returns {interrupted : List Bool} {r r' : MessageReceiver} {m : Buffer}
    (h : getNextMessage interrupted r = .returns m r') :
    ∃ r₀ : MessageReceiver, stream r₀ = stream r ∧ r₀.socket <:+ r.socket ∧
      ((m = [] ∧ true ∈ interrupted ∧ r' = r₀) ∨
        (4 ≤ r₀.previous_unfinished.length ∧
          (pieceLength r₀.previous_unfinished).toNat ≤ r₀.previous_unfinished.length ∧
          m = r₀.previous_unfinished.take (pieceLength r₀.previous_unfinished).toNat ∧
          r' = ⟨r₀.previous_unfinished.drop (pieceLength r₀.previous_unfinished).toNat, r₀.socket⟩)) := by
  unfold getNextMessage at h
  split at h
  · next r₀ hl =>
    obtain ⟨h1, h2, hsuf, -⟩ := receiveLoop_returns hl rfl
    refine ⟨r₀, h1, h2, ?_⟩
    split at h
    · cases h
    · cases h
      exact .inl ⟨rfl, hsuf.subset (List.mem_cons_of_mem _ (List.mem_cons_self _ _)), rfl⟩
    · dsimp only at h
      split at h
      · cases h
      · next hlt =>
        cases h
        have h4 : 4 ≤ r₀.previous_unfinished.length := by
          refine Nat.le_of_not_lt fun h4 => hlt ?_
          rw [pieceLength_of_lt h4]
          exact h4
        exact .inr ⟨h4, by omega, rfl, by rw [ite_drop]⟩
  all_goals cases h

/-- What `messageAvailable` returns: the stream kept, the buffer only added to, and a whole piece
in the buffer when it says so. -/
theorem messageAvailable_returns {interrupted b : Bool} {poll : Socket.PollAnswer}
    {r r' : MessageReceiver} (h : messageAvailable interrupted poll r = .returns b r') :
    stream r' = stream r ∧ r'.socket <:+ r.socket ∧
      r.previous_unfinished <+: r'.previous_unfinished ∧
      (b = true → (pieceLength r'.previous_unfinished).toNat ≤ r'.previous_unfinished.length) := by
  unfold messageAvailable at h
  split at h
  · split at h
    · cases h
    · cases h
      exact ⟨rfl, List.suffix_refl _, List.prefix_refl _, by simp⟩
    · split at h
      · cases h
      · next socket hs =>
        cases h
        refine ⟨by simp [stream, hs, Received.bytes], ?_, List.prefix_refl _, by simp⟩
        rw [hs]
        exact List.suffix_cons _ _
      · cases h
      · next bytes socket hs =>
        split at h
        · next r₁ happ =>
          obtain ⟨-, rfl⟩ := appendReceived_eq_ok.mp happ
          obtain ⟨rfl, rfl⟩ := Ends.returns.inj h
          refine ⟨by rw [stream_append, ← hs], ?_, List.prefix_append _ _, by simp⟩
          rw [hs]
          exact List.suffix_cons _ _
        · cases h
  · obtain ⟨rfl, rfl⟩ := Ends.returns.inj h
    exact ⟨rfl, List.suffix_refl _, List.prefix_refl _, by simp⟩

/-- A mapped call returns exactly when the call returns. -/
theorem Ends.map_eq_returns {α β : Type} {f : α → β} {e : Ends α} {b : β} {r : MessageReceiver} :
    e.map f = .returns b r ↔ ∃ a, e = .returns a r ∧ f a = b := by
  constructor
  · cases e with
    | returns a r₀ => intro h; cases h; exact ⟨a, rfl, rfl⟩
    | _ => intro h; cases h
  · rintro ⟨a, rfl, rfl⟩
    rfl

/-- A mapped run throws what the run throws. -/
@[simp] theorem Ends.map_eq_throws {α β : Type} {f : α → β} {e : Ends α} {what : String} :
    e.map f = .throws what ↔ e = .throws what := by
  cases e <;> simp [Ends.map]

/-- A mapped run is undefined when the run is. -/
@[simp] theorem Ends.map_eq_undefined {α β : Type} {f : α → β} {e : Ends α} :
    e.map f = .undefined ↔ e = .undefined := by
  cases e <;> simp [Ends.map]

/-- A call on a receiver whose stream is a list of frames returns nothing from it and keeps the
stream, the call being `messageAvailable` or `getNextMessage` after a read of the flag saw it set;
or it returns its first frame and leaves the rest. -/
theorem Call.run_frames {c : Call} {r r' : MessageReceiver} {reply : Reply} {fs : List Buffer}
    (h : c.run r = .returns reply r') (hfs : ∀ f ∈ fs, IsFrame f) (hstream : stream r = fs.flatten) :
    r'.socket <:+ r.socket ∧
      ((reply.frame = none ∧ stream r' = fs.flatten ∧ c.clear = false ∧
          (reply = .message [] → ∃ interrupted, c = .getNextMessage interrupted ∧ true ∈ interrupted)) ∨
        ∃ f fs', fs = f :: fs' ∧ reply.frame = some f ∧ stream r' = fs'.flatten) := by
  cases c with
  | messageAvailable interrupted poll =>
    obtain ⟨b, hm, rfl⟩ := Ends.map_eq_returns.mp h
    obtain ⟨h1, h2, -⟩ := messageAvailable_returns hm
    exact ⟨h2, .inl ⟨rfl, h1.trans hstream, rfl, nofun⟩⟩
  | getNextMessage interrupted =>
    obtain ⟨m, hm, rfl⟩ := Ends.map_eq_returns.mp h
    obtain ⟨r₀, h1, h2, ⟨rfl, hset, rfl⟩ | ⟨h4, hle, rfl, rfl⟩⟩ := getNextMessage_returns hm
    · refine ⟨h2, .inl ⟨rfl, h1.trans hstream, Bool.eq_false_iff.mpr fun hc => ?_,
        fun _ => ⟨interrupted, rfl, hset⟩⟩⟩
      simpa using List.all_eq_true.mp hc true hset
    · have he : r₀.previous_unfinished ++ pending r₀.socket = fs.flatten := h1.trans hstream
      match fs, hfs, he with
      | [], _, he =>
        rw [List.flatten_nil, List.append_eq_nil] at he
        rw [he.1] at h4
        simp at h4
      | f :: fs', hfs, he =>
        have hf := hfs f (List.mem_cons_self _ _)
        rw [List.flatten_cons] at he
        rw [pieceLength_frame hf he h4] at hle ⊢
        obtain ⟨htake, hdrop⟩ := split_frame he hle
        refine ⟨h2, .inr ⟨f, fs', rfl, ?_, hdrop⟩⟩
        rw [htake, Reply.frame, if_neg (List.ne_nil_of_length_pos (by have := hf.1; omega))]

/-- Calls that return are a first call that returns and calls after it that return. -/
theorem runCalls_cons_returns {c : Call} {calls : List Call} {r r' : MessageReceiver}
    {replies : List Reply} (h : runCalls (c :: calls) r = .returns replies r') :
    ∃ reply r₁ replies', c.run r = .returns reply r₁ ∧ runCalls calls r₁ = .returns replies' r' ∧
      replies = reply :: replies' := by
  rw [runCalls] at h
  split at h
  · next reply r₁ hc =>
    obtain ⟨replies', h', rfl⟩ := Ends.map_eq_returns.mp h
    exact ⟨reply, r₁, replies', hc, h', rfl⟩
  all_goals cases h

/-- Over calls on a receiver whose stream is a list of frames, the nonempty buffers returned are
the first frames of the list, at least one for each call whose reads all saw the flag clear, and
the stream is the rest; an empty buffer comes from a call of `getNextMessage` that read the flag
set. -/
theorem runCalls_frames : ∀ {calls : List Call} {r r' : MessageReceiver} {replies : List Reply}
    {fs : List Buffer}, runCalls calls r = .returns replies r' → (∀ f ∈ fs, IsFrame f) →
      stream r = fs.flatten →
      ∃ k ≤ fs.length, calls.countP Call.clear ≤ k ∧ messages replies = fs.take k ∧
        stream r' = (fs.drop k).flatten ∧ r'.socket <:+ r.socket ∧
        ∀ p ∈ calls.zip replies, p.2 = .message [] →
          ∃ interrupted, p.1 = .getNextMessage interrupted ∧ true ∈ interrupted
  | [], _, _, _, _, h, _, hs => by
    cases h
    exact ⟨0, Nat.zero_le _, Nat.le_refl 0, rfl, hs, List.suffix_refl _, fun _ hp => absurd hp (List.not_mem_nil _)⟩
  | c :: calls, _, _, _, _, h, hfs, hs => by
    obtain ⟨reply, r₁, replies, hc, hrest, rfl⟩ := runCalls_cons_returns h
    obtain ⟨hsuf, ⟨hnone, hs', hclear, hset⟩ | ⟨f, fs', rfl, hsome, hs'⟩⟩ :=
      Call.run_frames hc hfs hs
    · obtain ⟨k, hk, hn, h1, h2, h3, h4⟩ := runCalls_frames hrest hfs hs'
      refine ⟨k, hk, by rw [List.countP_cons, hclear]; simpa using hn,
        by rw [messages, List.filterMap_cons, hnone]; exact h1, h2, h3.trans hsuf, fun p hp => ?_⟩
      rcases List.mem_cons.mp (List.zip_cons_cons ▸ hp) with rfl | hp
      · exact hset
      · exact h4 p hp
    · obtain ⟨k, hk, hn, h1, h2, h3, h4⟩ :=
        runCalls_frames hrest (fun g hg => hfs g (List.mem_cons_of_mem _ hg)) hs'
      refine ⟨k + 1, Nat.succ_le_succ hk, by rw [List.countP_cons]; split <;> omega,
        by rw [messages, List.filterMap_cons, hsome, ← messages, h1]; rfl, h2, h3.trans hsuf,
        fun p hp => ?_⟩
      rcases List.mem_cons.mp (List.zip_cons_cons ▸ hp) with rfl | hp
      · intro he
        rw [show reply = _ from he] at hsome
        cases hsome
      · exact h4 p hp

/-! ## Calls that do nothing undefined and throw nothing -/

/-- `messageAvailable` does nothing undefined, and on a socket that delivers, its `poll` reporting
no error bit, throws nothing. -/
theorem messageAvailable_ne (interrupted : Bool) {poll : Socket.PollAnswer}
    (hpoll : poll.hasError = false) {r : MessageReceiver} (hs : Script r.socket) (what : String) :
    messageAvailable interrupted poll r ≠ .undefined ∧
      messageAvailable interrupted poll r ≠ .throws what := by
  unfold messageAvailable
  split
  · split
    · next e he => exact absurd ((Socket.inputReady_eq_error poll e).mp he).1 (by simp [hpoll])
    · simp
    · split
      · simp
      · simp
      · next heq => exact (hs.ne_failed heq).elim
      · next heq =>
        rw [appendReceived_of_pos (hs.data_pos heq)]
        simp
  · simp

/-- `getNextMessage` on a socket that delivers throws nothing. -/
theorem getNextMessage_ne_throws (interrupted : List Bool) {r : MessageReceiver}
    (hs : Script r.socket) (what : String) : getNextMessage interrupted r ≠ .throws what := by
  unfold getNextMessage
  split
  · split
    · simp
    · simp
    · dsimp only
      split <;> simp
  · simp
  · next w hl => exact fun e => receiveLoop_ne_throws w hs (by cases e; exact hl)
  · simp
  · simp

/-- `getNextMessage` whose flag, once read set, stays set, does nothing undefined: when the loop
stops on a clear flag the buffer holds a whole piece. -/
theorem getNextMessage_ne_undefined {interrupted : List Bool} (hmono : interrupted.Pairwise (· ≤ ·))
    (r : MessageReceiver) : getNextMessage interrupted r ≠ .undefined := by
  unfold getNextMessage
  split
  · next flag rest pl r₀ hl =>
    obtain ⟨-, -, hsuf, hpl, _, _, he, hstop⟩ := receiveLoop_returns hl rfl
    cases he
    split
    · simp
    · simp
    · next tail =>
      have hflag : flag = false := by
        have := List.rel_of_pairwise_cons (hmono.sublist hsuf.sublist) (List.mem_cons_self false tail)
        revert this
        cases flag <;> decide
      rcases hstop with h | h
      · simp [hflag] at h
      · simp only [needsData, Bool.or_eq_false_iff, decide_eq_false_iff_not, Nat.not_lt] at h
        rw [hpl, initialPiece, if_pos h.1] at h
        dsimp only
        rw [if_neg (by omega)]
        simp
  · simp
  · simp
  · next hl => exact fun _ => receiveLoop_ne_undefined hl
  · simp

/-- On a socket that delivers, a call whose environment is settled throws nothing and does nothing
undefined. -/
theorem Call.run_ne {c : Call} (hc : c.Settled) {r : MessageReceiver} (hs : Script r.socket)
    (what : String) : c.run r ≠ .undefined ∧ c.run r ≠ .throws what := by
  cases c with
  | messageAvailable interrupted poll =>
    simpa [Call.run] using messageAvailable_ne interrupted hc hs what
  | getNextMessage interrupted =>
    simpa [Call.run] using ⟨getNextMessage_ne_undefined hc r, getNextMessage_ne_throws interrupted hs what⟩

/-! ## No byte lost or repeated -/

/-- A call hands back bytes from the front of the stream and keeps the rest. -/
theorem Call.run_stream {c : Call} {r r' : MessageReceiver} {reply : Reply}
    (h : c.run r = .returns reply r') : reply.bytes ++ stream r' = stream r := by
  cases c with
  | messageAvailable interrupted ready =>
    obtain ⟨b, hm, rfl⟩ := Ends.map_eq_returns.mp h
    exact (messageAvailable_returns hm).1
  | getNextMessage interrupted =>
    obtain ⟨m, hm, rfl⟩ := Ends.map_eq_returns.mp h
    obtain ⟨r₀, h1, -, ⟨rfl, -, rfl⟩ | ⟨-, -, rfl, rfl⟩⟩ := getNextMessage_returns hm
    · exact h1
    · rw [← h1]
      simp only [stream, Reply.bytes, ← List.append_assoc, List.take_append_drop]

/-- Over every run of calls, whatever bytes the socket delivers, the buffers returned followed by
the bytes not returned are the stream the run started from. -/
theorem runs_stream {r r' : MessageReceiver} {replies : List Reply} (h : Runs r replies r') :
    (replies.map Reply.bytes).flatten ++ stream r' = stream r := by
  induction h with
  | nil r => rfl
  | cons c hstep _ ih =>
    rw [List.map_cons, List.flatten_cons, List.append_assoc, ih, Call.run_stream hstep]

/-- A buffer holding a zero length field and one byte more: one call returns the four bytes and
keeps the fifth. -/
theorem runs_stream_zero_length :
    Runs (MessageReceiver.init [.data [0, 0, 0, 0, 9]]) [.message [0, 0, 0, 0]] ⟨[9], []⟩ ∧
      ([Reply.message [0, 0, 0, 0]].map Reply.bytes).flatten ++ stream ⟨[9], []⟩ =
        stream (MessageReceiver.init [.data [0, 0, 0, 0, 9]]) :=
  have hrun : Runs (MessageReceiver.init [.data [0, 0, 0, 0, 9]]) [.message [0, 0, 0, 0]] ⟨[9], []⟩ :=
    .cons (.getNextMessage [false, false, false]) (by decide) (.nil _)
  ⟨hrun, runs_stream hrun⟩

/-! ## `messageAvailable` and `getNextMessage` -/

/-- A buffer that holds a whole piece: `getNextMessage` with its flag clear receives nothing and
splits the piece off. -/
theorem getNextMessage_of_whole (flags : List Bool) {r : MessageReceiver}
    (h : (pieceLength r.previous_unfinished).toNat ≤ r.previous_unfinished.length) :
    getNextMessage (false :: false :: flags) r =
      .returns (r.previous_unfinished.take (pieceLength r.previous_unfinished).toNat)
        ⟨r.previous_unfinished.drop (pieceLength r.previous_unfinished).toNat, r.socket⟩ := by
  have h4 : 4 ≤ r.previous_unfinished.length := by
    refine Nat.le_of_not_lt fun h4 => ?_
    rw [pieceLength_of_lt h4] at h
    exact absurd h (by simpa using h4)
  have hn : needsData r.previous_unfinished (initialPiece r.previous_unfinished) = false := by
    simp only [needsData, initialPiece, if_pos h4]
    simp only [Bool.or_eq_false_iff, decide_eq_false_iff_not, Nat.not_lt]
    exact ⟨h4, h⟩
  rw [getNextMessage, receiveLoop, if_neg (by simp [hn])]
  dsimp only
  rw [if_neg (by omega), ite_drop]

/-- A receive inside `getNextMessage` is a receive before it: the loop goes on from the longer
buffer with the piece length a call would start from. -/
theorem getNextMessage_data (flags : List Bool) {r : MessageReceiver} {bytes : Buffer}
    {socket : List Received} (hs : r.socket = .data bytes :: socket)
    (hn : needsData r.previous_unfinished (initialPiece r.previous_unfinished) = true)
    (hb : 0 < bytes.length) :
    getNextMessage (false :: flags) r = getNextMessage flags ⟨r.previous_unfinished ++ bytes, socket⟩ := by
  unfold getNextMessage
  rw [receiveLoop, if_pos (by simp [hn]), hs]
  simp only [appendReceived_of_pos hb, initialPiece_append]

/-- A length field of `2 ^ 32 - 4` makes a piece of no bytes: from an empty buffer and a socket
that delivers it, `getNextMessage`, its flag clear, returns an empty buffer without consuming it,
and every later call does the same. -/
theorem getNextMessage_wrapped_length (socket : List Received) (flags : List Bool) :
    getNextMessage (false :: false :: false :: flags)
        (MessageReceiver.init (.data [255, 255, 255, 252] :: socket)) =
      .returns [] ⟨[255, 255, 255, 252], socket⟩ ∧
    getNextMessage (false :: false :: flags) ⟨[255, 255, 255, 252], socket⟩ =
      .returns [] ⟨[255, 255, 255, 252], socket⟩ := by
  have h0 : (pieceLength [255, 255, 255, 252]).toNat = 0 := by
    rw [pieceLength_toNat (by decide)]
    rfl
  have hstuck : getNextMessage (false :: false :: flags) ⟨[255, 255, 255, 252], socket⟩ =
      .returns [] ⟨[255, 255, 255, 252], socket⟩ := by
    rw [getNextMessage_of_whole flags (by rw [h0]; exact Nat.zero_le _), h0]
    rfl
  have hs : (MessageReceiver.init (.data [255, 255, 255, 252] :: socket)).socket =
      .data [255, 255, 255, 252] :: socket := rfl
  have hn : needsData [] (initialPiece []) = true := rfl
  exact ⟨by rw [getNextMessage_data _ hs hn (by decide)]; exact hstuck, hstuck⟩

/-- `messageAvailable(false)` receives only when `getNextMessage(false)` would enter its loop;
it keeps the stream and only appends to the buffer; and when it says a piece is there, the next
`getNextMessage(false)` receives nothing and splits that piece off. -/
theorem messageAvailable_agrees (r : MessageReceiver) (poll : Socket.PollAnswer) :
    (needsData r.previous_unfinished (initialPiece r.previous_unfinished) = false →
      messageAvailable false poll r =
        .returns (decide ((pieceLength r.previous_unfinished).toNat ≤ r.previous_unfinished.length)) r) ∧
    (∀ b r', messageAvailable false poll r = .returns b r' →
      stream r' = stream r ∧ r.previous_unfinished <+: r'.previous_unfinished) ∧
    (∀ r', messageAvailable false poll r = .returns true r' → ∀ flags,
      getNextMessage (false :: false :: flags) r' =
        .returns (r'.previous_unfinished.take (pieceLength r'.previous_unfinished).toNat)
          ⟨r'.previous_unfinished.drop (pieceLength r'.previous_unfinished).toNat, r'.socket⟩) := by
  refine ⟨fun hn => ?_, fun b r' h => ?_, fun r' h flags => ?_⟩
  · rw [messageAvailable, if_neg (by simp [hn])]
  · obtain ⟨h1, -, h2, -⟩ := messageAvailable_returns h
    exact ⟨h1, h2⟩
  · exact getNextMessage_of_whole flags ((messageAvailable_returns h).2.2.2 rfl)

end OwlCommon.Receiver
