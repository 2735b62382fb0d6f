import OwlCommon.NetBuffer.Free
import OwlCommon.Socket.Poll

/-!
# The message receiver

`MessageReceiver` (`message_receiver.{hpp,cpp}`) cuts the byte stream of a socket into frames: a
frame is a `uint32_t` length `N` and `N` more bytes. It keeps the bytes it has received but not
returned in `previous_unfinished`. `getNextMessage` receives until that buffer holds a whole frame
and splits it off; `messageAvailable` receives at most once and says whether a whole frame is
there.

The socket and the caller's flag are the environment. A receiver holds the results its coming
`sock.receive(raw_messages)` calls give, in order (`Received`); a call of `getNextMessage` is
given the values its successive reads of `interrupted` see, since another thread may set the
flag while it runs. A call either returns, with the receiver after it, or throws, or does
something C++ leaves undefined, or is still running when the environment given to it runs out
(`Ends`).

Both functions compute `piece_length = readPrimitive<uint32_t>(previous_unfinished, 0) + 4` in
`uint32_t`, so a length field of `2 ^ 32 - 4` or more gives a piece of fewer than four bytes.
-/

namespace OwlCommon.Receiver

/-- What one `sock.receive(raw_messages)` gives. -/
inductive Received
  /-- A length of at least zero, with the bytes copied into `raw_messages`; zero is end of file. -/
  | data (bytes : Buffer)
  /-- `-1` with `errno` `EAGAIN` or `EWOULDBLOCK`. -/
  | wouldBlock
  /-- `-1` with another `errno`, whose `strerror` is `err`. -/
  | failed (err : String)
deriving DecidableEq, Repr

/-- The bytes a receive delivers. -/
def Received.bytes : Received → Buffer
  | .data bytes => bytes
  | _ => []

/-- The receiver's state: its buffer, and what its socket's coming receives give. -/
structure MessageReceiver where
  /-- Bytes received and not yet returned. -/
  previous_unfinished : Buffer
  /-- The results of the coming calls of `sock.receive`. -/
  socket : List Received
deriving DecidableEq, Repr

/-- A receiver with an empty buffer, as the constructor makes it. -/
def MessageReceiver.init (socket : List Received) : MessageReceiver := ⟨[], socket⟩

/-- How a call ends. -/
inductive Ends (α : Type)
  /-- It returns `a`, leaving the receiver `r`. -/
  | returns (a : α) (r : MessageReceiver)
  /-- It throws a `std::runtime_error` with this text. -/
  | throws (what : String)
  /-- It does something whose behaviour C++ leaves undefined. -/
  | undefined
  /-- It has not returned when the environment given to it runs out. -/
  | waits
deriving DecidableEq, Repr

/-- `readPrimitive<uint32_t>(previous_unfinished, 0) + 4`, in `uint32_t`. -/
def pieceLength (previous_unfinished : Buffer) : UInt32 :=
  NetBuffer.readPrimitive UInt32 previous_unfinished 0 + 4

/-- The test both functions make before they receive: the buffer cannot hold a whole piece. -/
def needsData (previous_unfinished : Buffer) (piece_length : UInt32) : Bool :=
  previous_unfinished.length < 4 || previous_unfinished.length < piece_length.toNat

/-- `piece_length` as both functions first set it: zero, and the piece's length once four bytes
are there. -/
def initialPiece (previous_unfinished : Buffer) : UInt32 :=
  if 4 ≤ previous_unfinished.length then pieceLength previous_unfinished else 0

/-- What both functions do with a receive that did not return `-1`: throw at end of file, and
otherwise append the bytes. -/
def appendReceived (r : MessageReceiver) (bytes : Buffer) (socket : List Received) :
    Except String MessageReceiver :=
  if bytes.length = 0 then .error "Connection was closed."
  else .ok ⟨r.previous_unfinished ++ bytes, socket⟩

/-- The text `getNextMessage` and `messageAvailable` throw when a receive fails. -/
def receiveError (err : String) : String :=
  "Error receiving message or the connection was closed: " ++ err

/-- The receive loop of `getNextMessage`, from a read of `interrupted` on: while the flag is clear
and the buffer cannot hold a whole piece, receive; after bytes arrive, set `piece_length` again
once four are there. It ends at the first read that stops it, with the flag reads left and
`piece_length`. -/
def receiveLoop : List Bool → UInt32 → MessageReceiver → Ends (List Bool × UInt32)
  | [], _, _ => .waits
  | interrupted :: flags, piece_length, r =>
    if !interrupted && needsData r.previous_unfinished piece_length then
      match r.socket with
      | [] => .waits
      | .wouldBlock :: socket => receiveLoop flags piece_length { r with socket }
      | .failed err :: _ => .throws (receiveError err)
      | .data bytes :: socket =>
        match appendReceived r bytes socket with
        | .ok r =>
          receiveLoop flags (if 4 ≤ r.previous_unfinished.length then
            pieceLength r.previous_unfinished else piece_length) r
        | .error what => .throws what
    else .returns (interrupted :: flags, piece_length) r

/-- `getNextMessage(interrupted)`, its reads of the flag seeing `interrupted` in turn: the loop,
then an empty buffer if the flag is set, and otherwise the first `piece_length` bytes, the rest
kept. `new_packet(begin, begin + piece_length)` past the end of the buffer is undefined. -/
def getNextMessage (interrupted : List Bool) (r : MessageReceiver) : Ends Buffer :=
  match receiveLoop interrupted (initialPiece r.previous_unfinished) r with
  | .returns (_ :: flags, _) r =>
    match flags with
    | [] => .waits
    | true :: _ => .returns [] r
    | false :: _ =>
      let piece_length := pieceLength r.previous_unfinished
      if r.previous_unfinished.length < piece_length.toNat then .undefined
      else
        .returns (r.previous_unfinished.take piece_length.toNat)
          { r with previous_unfinished :=
              if piece_length.toNat < r.previous_unfinished.length then
                r.previous_unfinished.drop piece_length.toNat
              else [] }
  | .returns ([], _) _ => .waits
  | .throws what => .throws what
  | .undefined => .undefined
  | .waits => .waits

/-- `messageAvailable(interrupted)`, the flag reading `interrupted` and the `poll` of
`sock.inputReady(10)` answering `poll`: at most one receive, then whether the buffer holds a whole
piece. `inputReady` throws, after cleaning the socket up, when `revents` has an error bit. -/
def messageAvailable (interrupted : Bool) (poll : Socket.PollAnswer) (r : MessageReceiver) :
    Ends Bool :=
  let complete (r : MessageReceiver) : Ends Bool :=
    .returns (decide ((pieceLength r.previous_unfinished).toNat ≤ r.previous_unfinished.length)) r
  if !interrupted && needsData r.previous_unfinished (initialPiece r.previous_unfinished) then
    match Socket.inputReady poll with
    | .error what => .throws what
    | .ok false => .returns false r
    | .ok true =>
      match r.socket with
      | [] => .waits
      | .wouldBlock :: socket => .returns false { r with socket }
      | .failed err :: _ => .throws (receiveError err)
      | .data bytes :: socket =>
        match appendReceived r bytes socket with
        | .ok r => complete r
        | .error what => .throws what
  else complete r

/-! ## Runs -/

/-- A call a client makes, with what its environment does during it. -/
inductive Call
  /-- `messageAvailable`, with the flag's value and the answer of `inputReady`'s `poll`. -/
  | messageAvailable (interrupted : Bool) (poll : Socket.PollAnswer)
  /-- `getNextMessage`, with the values its reads of the flag see. -/
  | getNextMessage (interrupted : List Bool)
deriving DecidableEq, Repr

/-- What a call returned. -/
inductive Reply
  /-- What `messageAvailable` returned. -/
  | available (b : Bool)
  /-- What `getNextMessage` returned. -/
  | message (m : Buffer)
deriving DecidableEq, Repr

/-- The same ending, with what is returned passed through `f`. -/
def Ends.map {α β : Type} (f : α → β) : Ends α → Ends β
  | .returns a r => .returns (f a) r
  | .throws what => .throws what
  | .undefined => .undefined
  | .waits => .waits

/-- One call on a receiver. -/
def Call.run : Call → MessageReceiver → Ends Reply
  | .messageAvailable interrupted poll, r =>
    (Receiver.messageAvailable interrupted poll r).map .available
  | .getNextMessage interrupted, r => (Receiver.getNextMessage interrupted r).map .message

/-- `Runs r replies r'`: calls from `r` return `replies` in turn and leave `r'`. -/
inductive Runs : MessageReceiver → List Reply → MessageReceiver → Prop
  /-- No call leaves the receiver as it is. -/
  | nil (r : MessageReceiver) : Runs r [] r
  /-- A call that returns, then the rest. -/
  | cons {r r' r'' : MessageReceiver} {reply : Reply} {replies : List Reply} (c : Call)
      (h : c.run r = .returns reply r') (rest : Runs r' replies r'') : Runs r (reply :: replies) r''

/-- Calls one after another from `r`: the replies and the receiver after the last, or how the
first call that did not return ended. -/
def runCalls : List Call → MessageReceiver → Ends (List Reply)
  | [], r => .returns [] r
  | c :: calls, r =>
    match c.run r with
    | .returns reply r => (runCalls calls r).map (reply :: ·)
    | .throws what => .throws what
    | .undefined => .undefined
    | .waits => .waits

/-- A call of `getNextMessage` whose reads of the flag all see it clear. -/
def Call.clear : Call → Bool
  | .messageAvailable _ _ => false
  | .getNextMessage interrupted => interrupted.all (!·)

/-- What `getNextMessage` returned, when not empty. -/
def Reply.frame : Reply → Option Buffer
  | .message m => if m = [] then none else some m
  | .available _ => none

/-- The bytes a reply hands back: the buffer `getNextMessage` returned, none for
`messageAvailable`. -/
def Reply.bytes : Reply → Buffer
  | .message m => m
  | .available _ => []

/-- The nonempty buffers among replies. -/
def messages (replies : List Reply) : List Buffer := replies.filterMap Reply.frame

end OwlCommon.Receiver
