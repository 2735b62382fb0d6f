import OwlCommon.Socket.Ownership
import OwlCommon.Socket.Send
import OwlCommon.Socket.Poll

/-!
# Making sockets

The constructors of `ClientSocket` and `ServerSocket`, and `ServerSocket::next`
(`simple_sockets.cpp`), run against the kernel's answers to their system calls, one value per
call. A call that opens a descriptor gets the lowest one not open, and a `close` removes it from
the kernel's table; what the constructors write to `std::cerr` is kept as a list of lines.

`ClientSocket`'s constructor opens a descriptor, asks `getaddrinfo` for an address and connects;
when `connect` is in progress it polls for input, then for output, and closes the descriptor on
every failure (`clientSocket_cases`). `ServerSocket::next` returns a socket holding the descriptor
`accept4` opened, or `-1` (`next_fresh`). Either leaves what the `construct` event of the ownership
model makes (`Constructed.Fresh`, `step_construct_of_fresh`), so every call a program makes on its
`ClientSocket` objects, `send` and `inputReady` included, is a run of events of that model
(`callStep_refines`), and the invariant of `Ownership` holds over every such program, whatever the
kernel answers (`program_owned`).

`ServerSocket`'s constructor tries the addresses `getaddrinfo` gives in turn, closing each
descriptor it cannot bind, and then listens; over every answer it makes its object as the
`construct` event does (`serverSocket_construct`). When `getaddrinfo` fails it calls
`close(sock_fd)` before anything has been stored in `sock_fd`, whose value is then indeterminate;
the model gives no result there.
-/

namespace OwlCommon.Socket

/-- A socket's `sock_fd`, the kernel's open descriptors, and the lines written to `std::cerr`, as
a constructor leaves them. -/
structure Constructed where
  /-- The socket's descriptor, or `-1`. -/
  sock_fd : Int
  /-- The descriptors open in the kernel. -/
  kernel : List Nat
  /-- The lines written to `std::cerr`. -/
  log : List String
deriving DecidableEq, Repr

/-- `close(fd); sock_fd = -1;` after writing `line`, on a descriptor the constructor opened. -/
def closeWith (fd : Nat) (kernel : List Nat) (log : List String) (line : String) : Constructed :=
  ⟨-1, kernel.erase fd, log ++ [line]⟩

/-! ## `ClientSocket`'s constructor -/

/-- What `connect` answers, with what the polls after it answer. -/
inductive ConnectAnswer
  /-- `0`. -/
  | connected
  /-- `-1` with an `errno` other than `EINPROGRESS`, whose text is `err`. -/
  | failed (err : String)
  /-- `-1` with `EINPROGRESS`, then the answers of the poll for input and of the poll for output
  that follows it when the first is clear. -/
  | inProgress (pollIn pollOut : PollAnswer)
deriving DecidableEq, Repr

/-- The kernel's answers to `ClientSocket`'s constructor: `socket`, `getaddrinfo` (which gives at
least one address when it succeeds) and `connect`, each failure with its text. -/
structure ClientAnswers where
  /-- What `socket` answers. -/
  socket : Except String Unit
  /-- What `getaddrinfo` answers. -/
  getaddrinfo : Except String Unit
  /-- What `connect` and the polls after it answer. -/
  connect : ConnectAnswer

/-- The connection of descriptor `fd`, open in `kernel`: kept when `connect` succeeds or both
polls are clear, and otherwise closed with the line `"Error connecting: ..."`. -/
def connectFd (fd : Nat) (kernel : List Nat) : ConnectAnswer → Constructed
  | .connected => ⟨fd, kernel, []⟩
  | .failed err => closeWith fd kernel [] ("Error connecting: " ++ err)
  | .inProgress pollIn pollOut =>
    match if pollIn.clear then pollOut else pollIn with
    | .timeout => closeWith fd kernel [] "Error connecting: timed out"
    | .ready pollerr pollhup pollnval =>
      if pollerr || pollhup || pollnval then
        closeWith fd kernel [] ("Error connecting: " ++ pollErrorText pollerr pollhup pollnval)
      else ⟨fd, kernel, []⟩
    | .failed err _ _ _ => closeWith fd kernel [] ("Error connecting: " ++ err)

/-- `ClientSocket(domain, type, protocol, port, ip_address, sock_flags)`. -/
def clientSocket (kernel : List Nat) (ip_address : String) (port : UInt32) (answers : ClientAnswers) :
    Constructed :=
  match answers.socket with
  | .error err => ⟨-1, kernel, ["Error making socket: " ++ err]⟩
  | .ok () =>
    let fd := lowestFree kernel
    match answers.getaddrinfo with
    | .error err =>
      ⟨-1, (fd :: kernel).erase fd, ["Error with internet address " ++ ip_address ++ ": " ++ err,
        "No possible connection found for " ++ ip_address ++ ":" ++ Nat.repr port.toNat]⟩
    | .ok () => connectFd fd (fd :: kernel) answers.connect

/-! ## `ServerSocket`'s constructor -/

/-- What the kernel answers for one address `getaddrinfo` gave: `socket` fails, or `bind` fails
with a text, or the address is bound. -/
inductive AddressAnswer
  /-- `socket` fails. -/
  | noSocket
  /-- `bind` fails with the text `err`. -/
  | bindFailed (err : String)
  /-- `bind` succeeds. -/
  | bound
deriving DecidableEq, Repr

/-- The loop over the addresses, from `sock_fd` (`none` while nothing has been stored in it): a
descriptor that cannot be bound is closed, and the loop stops at the first address bound. It
returns `sock_fd`, the kernel's descriptors, the lines written and whether an address was bound. -/
def bindLoop : List AddressAnswer → Option Int → List Nat → List String →
    Option Int × List Nat × List String × Bool
  | [], sock_fd, kernel, log => (sock_fd, kernel, log, false)
  | .noSocket :: addrs, _, kernel, log => bindLoop addrs (some (-1)) kernel log
  | .bindFailed err :: addrs, _, kernel, log =>
    let fd := lowestFree kernel
    bindLoop addrs (some (-1)) ((fd :: kernel).erase fd) (log ++ ["Error making socket: " ++ err])
  | .bound :: _, _, kernel, log => (some (lowestFree kernel), lowestFree kernel :: kernel, log, true)

/-- `ServerSocket(domain, type, sock_flags, port)`, given what `getaddrinfo` answers and what
`listen` answers; `none` when it reads `sock_fd` before anything has been stored in it. -/
def serverSocket (kernel : List Nat) (getaddrinfo : Except String (List AddressAnswer))
    (listen : Except String Unit) : Option Constructed :=
  match getaddrinfo with
  | .error _ => none
  | .ok addrs =>
    let (sock_fd, kernel, log, found) := bindLoop addrs none kernel []
    let log := if found then log else log ++ ["No possible connection for receiving."]
    match sock_fd with
    | none => none
    | some sock_fd =>
      if 0 ≤ sock_fd then
        match listen with
        | .ok () => some ⟨sock_fd, kernel, log⟩
        | .error err => some (closeWith sock_fd.toNat kernel log ("Error listening: " ++ err))
      else some ⟨sock_fd, kernel, log⟩

/-! ## `ServerSocket::next` -/

/-- What `accept4` answers: a new descriptor, with the address `getnameinfo` wrote and the text of
its error, if any; or `-1` with `EAGAIN` or `EWOULDBLOCK`; or `-1` with another `errno`. -/
inductive AcceptAnswer
  /-- A new descriptor, the address written, and `getnameinfo`'s error, if any. -/
  | accepted (ip : String) (nameError : Option String)
  /-- `-1` with `EAGAIN` or `EWOULDBLOCK`. -/
  | wouldBlock
  /-- `-1` with another `errno`, whose text is `err`. -/
  | failed (err : String)
deriving DecidableEq, Repr

/-- `ServerSocket::next(flags)` on a server holding `sock_fd`: the `ClientSocket` it returns (its
address and descriptor), the kernel's descriptors and the lines written. `poll` ignores a negative
descriptor and times out. -/
def next (sock_fd : Int) (kernel : List Nat) (poll : PollAnswer) (accept : AcceptAnswer) :
    String × Constructed :=
  if sock_fd < 0 then ("", ⟨-1, kernel, []⟩)
  else if poll.clear then
    match accept with
    | .accepted ip nameError =>
      (ip, ⟨lowestFree kernel, lowestFree kernel :: kernel,
        (nameError.map ("Error getting client address: " ++ ·)).toList ++ ["Found ip address " ++ ip]⟩)
    | .wouldBlock => ("", ⟨-1, kernel, []⟩)
    | .failed err => ("", ⟨-1, kernel, ["Socket failure: " ++ err]⟩)
  else ("", ⟨-1, kernel, []⟩)

/-! ## What the constructors leave -/

/-- What a constructor may leave: its object holding the lowest descriptor not open, now open; or
`-1`, with the kernel's descriptors as they were. -/
def Constructed.Fresh (kernel : List Nat) (c : Constructed) : Prop :=
  (c.sock_fd = lowestFree kernel ∧ c.kernel = lowestFree kernel :: kernel) ∨
    (c.sock_fd = -1 ∧ c.kernel = kernel)

/-- Closing the descriptor just opened leaves the kernel as it was. -/
theorem closeWith_fresh (kernel : List Nat) (log : List String) (line : String) :
    (closeWith (lowestFree kernel) (lowestFree kernel :: kernel) log line).Fresh kernel :=
  .inr ⟨rfl, List.erase_cons_head _ _⟩

/-- A constructor that leaves what it may makes the object the `construct` event makes. -/
theorem step_construct_of_fresh {w : World} {c : Constructed} (h : c.Fresh w.kernel) (kind : Kind) :
    step w (.construct kind (decide (0 ≤ c.sock_fd))) =
      some ⟨w.objects ++ [⟨kind, c.sock_fd⟩], c.kernel⟩ := by
  rcases h with ⟨hfd, hk⟩ | ⟨hfd, hk⟩ <;> simp [step, hfd, hk, Int.ofNat_nonneg]

/-- A connection either keeps its descriptor and writes nothing, or closes it after one line. -/
theorem connectFd_cases (fd : Nat) (kernel : List Nat) (a : ConnectAnswer) :
    connectFd fd kernel a = ⟨fd, kernel, []⟩ ∨ ∃ line, connectFd fd kernel a = closeWith fd kernel [] line := by
  cases a with
  | connected => exact .inl rfl
  | failed err => exact .inr ⟨_, rfl⟩
  | inProgress pollIn pollOut =>
    rw [connectFd]
    split
    · exact .inr ⟨_, rfl⟩
    · split
      · exact .inr ⟨_, rfl⟩
      · exact .inl rfl
    · exact .inr ⟨_, rfl⟩

/-- `ClientSocket`'s constructor keeps the lowest descriptor not open and writes nothing, or ends
with `-1`, the kernel's descriptors as they were, and a line written. -/
theorem clientSocket_cases (kernel : List Nat) (ip_address : String) (port : UInt32)
    (answers : ClientAnswers) :
    clientSocket kernel ip_address port answers = ⟨lowestFree kernel, lowestFree kernel :: kernel, []⟩ ∨
      ∃ log, log ≠ [] ∧ clientSocket kernel ip_address port answers = ⟨-1, kernel, log⟩ := by
  unfold clientSocket
  cases answers.socket with
  | error err => exact .inr ⟨_, List.cons_ne_nil _ _, rfl⟩
  | ok u =>
    dsimp only
    cases answers.getaddrinfo with
    | error err => exact .inr ⟨_, List.cons_ne_nil _ _, by rw [List.erase_cons_head]⟩
    | ok u =>
      rcases connectFd_cases (lowestFree kernel) (lowestFree kernel :: kernel) answers.connect
        with h | ⟨line, h⟩
      · exact .inl h
      · exact .inr ⟨[line], List.cons_ne_nil _ _, by rw [h, closeWith, List.erase_cons_head]; rfl⟩

/-- The `ClientSocket` that `ServerSocket::next` returns holds the lowest descriptor not open, now
open, or `-1`. -/
theorem next_fresh (sock_fd : Int) (kernel : List Nat) (poll : PollAnswer) (accept : AcceptAnswer) :
    (next sock_fd kernel poll accept).2.Fresh kernel := by
  unfold next
  split
  · exact .inr ⟨rfl, rfl⟩
  · split
    · cases accept with
      | accepted ip nameError => exact .inl ⟨rfl, rfl⟩
      | wouldBlock => exact .inr ⟨rfl, rfl⟩
      | failed err => exact .inr ⟨rfl, rfl⟩
    · exact .inr ⟨rfl, rfl⟩

/-! ## Programs on `ClientSocket` objects -/

/-- A call a program makes on its `ClientSocket` objects, with the kernel's answers to it. -/
inductive ClientCall
  /-- `ClientSocket(domain, type, protocol, port, ip_address, sock_flags)`. -/
  | construct (ip_address : String) (port : UInt32) (answers : ClientAnswers)
  /-- `ServerSocket::next` on a server holding `server_fd`, which returns a new object. -/
  | accept (server_fd : Int) (poll : PollAnswer) (answer : AcceptAnswer)
  /-- `ClientSocket(std::move(object j))`. -/
  | moveFrom (j : Nat)
  /-- `object i = std::move(object j)`. -/
  | moveAssign (i j : Nat)
  /-- `send` on object `i`. -/
  | send (i : Nat) (buff : Buffer) (attempts : List Attempt)
  /-- `inputReady` on object `i`. -/
  | inputReady (i : Nat) (poll : PollAnswer)
  /-- The destructor of object `i`. -/
  | destroy (i : Nat)

/-- One call: the constructors add the object they make, `send` and `inputReady` clean the object
up when they do, and the rest are the ownership model's events. -/
def callStep (w : World) : ClientCall → Option World
  | .construct ip_address port answers =>
    let c := clientSocket w.kernel ip_address port answers
    some ⟨w.objects ++ [⟨.client, c.sock_fd⟩], c.kernel⟩
  | .accept server_fd poll answer =>
    let c := (next server_fd w.kernel poll answer).2
    some ⟨w.objects ++ [⟨.client, c.sock_fd⟩], c.kernel⟩
  | .moveFrom j => step w (.moveFrom j)
  | .moveAssign i j => step w (.moveAssign i j)
  | .send i buff attempts =>
    if (Socket.send (fdOf w.objects i) buff attempts).outcome.closes then socketCleanup w i
    else some w
  | .inputReady i poll =>
    match Socket.inputReady poll with
    | .error _ => socketCleanup w i
    | .ok _ => some w
  | .destroy i => socketCleanup w i

/-- Calls one after another; `none` once a close is wrong. -/
def runCalls (w : World) : List ClientCall → Option World
  | [] => some w
  | c :: calls => (callStep w c).bind fun w => runCalls w calls

/-- Every call is a run of at most one event on `ClientSocket` objects. -/
theorem callStep_refines (w : World) (c : ClientCall) :
    ∃ events : List Event, (∀ e ∈ events, e.OnClients) ∧ callStep w c = run w events := by
  have single : ∀ e : Event, run w [e] = step w e := fun e => by
    show (step w e).bind (fun w => run w []) = step w e
    cases step w e <;> rfl
  have one : ∀ e : Event, e.OnClients → ∃ events : List Event, (∀ e ∈ events, e.OnClients) ∧
      step w e = run w events := fun e he =>
    ⟨[e], fun e' h => (List.mem_singleton.mp h) ▸ he, (single e).symm⟩
  cases c with
  | construct ip_address port answers =>
    have hf : (clientSocket w.kernel ip_address port answers).Fresh w.kernel := by
      rcases clientSocket_cases w.kernel ip_address port answers with h | ⟨log, -, h⟩
      · exact .inl (by rw [h]; exact ⟨rfl, rfl⟩)
      · exact .inr (by rw [h]; exact ⟨rfl, rfl⟩)
    refine ⟨_, fun e h => ?_, by rw [single, step_construct_of_fresh hf]; rfl⟩
    obtain rfl := List.mem_singleton.mp h
    exact rfl
  | accept server_fd poll answer =>
    refine ⟨_, fun e h => ?_,
      by rw [single, step_construct_of_fresh (next_fresh server_fd w.kernel poll answer)]; rfl⟩
    obtain rfl := List.mem_singleton.mp h
    exact rfl
  | moveFrom j => exact one (.moveFrom j) trivial
  | moveAssign i j => exact one (.moveAssign i j) trivial
  | send i buff attempts =>
    rw [callStep]
    split
    · exact one (.cleanup i) trivial
    · exact ⟨[], fun _ h => (List.not_mem_nil _ h).elim, rfl⟩
  | inputReady i poll =>
    rw [callStep]
    split
    · exact one (.cleanup i) trivial
    · exact ⟨[], fun _ h => (List.not_mem_nil _ h).elim, rfl⟩
  | destroy i => exact one (.cleanup i) trivial

/-- Every run of calls on `ClientSocket` objects from an owned world of them closes nothing wrongly
and keeps the world owned. -/
theorem runCalls_owned : ∀ (calls : List ClientCall) {w : World}, AllClient w → Owned w →
    ∃ w', runCalls w calls = some w' ∧ AllClient w' ∧ Owned w'
  | [], w, hc, ho => ⟨w, rfl, hc, ho⟩
  | c :: calls, w, hc, ho => by
    obtain ⟨events, he, hstep⟩ := callStep_refines w c
    obtain ⟨w₁, h₁, hc₁, ho₁⟩ := run_owned events hc ho he
    obtain ⟨w', h', hc', ho'⟩ := runCalls_owned calls hc₁ ho₁
    exact ⟨w', by rw [runCalls, hstep, h₁, Option.some_bind, h'], hc', ho'⟩

/-- From a program's start, with no socket object and any distinct descriptors open, every
program of `ClientSocket` constructions, `ServerSocket::next`, moves, move assignments, `send` and
`inputReady` calls and destructions, whatever the kernel answers, closes no descriptor that is not
open or that another object still holds, and leaves every descriptor an object holds open and held
by it alone. -/
theorem program_owned (kernel : List Nat) (hnd : kernel.Nodup) (calls : List ClientCall) :
    ∃ w', runCalls ⟨[], kernel⟩ calls = some w' ∧ Owned w' :=
  have ho : Owned ⟨[], kernel⟩ := ⟨fun _ h => (List.not_mem_nil _ h).elim, hnd,
    fun _ h => (Nat.lt_irrefl 0 h).elim⟩
  (runCalls_owned calls (fun _ h => (List.not_mem_nil _ h).elim) ho).imp fun _ ⟨h, _, ho'⟩ => ⟨h, ho'⟩

/-- A program that connects, accepts a connection on a server holding descriptor `0`, moves it
over the first, fails a send on it and destroys both. -/
theorem program_owned_connect_accept :
    ([0, 1, 2] : List Nat).Nodup ∧
      ∃ w', runCalls ⟨[], [0, 1, 2]⟩
          [.construct "127.0.0.1" 7009 ⟨.ok (), .ok (), .connected⟩,
            .accept 0 (.ready false false false) (.accepted "10.0.0.2" none), .moveAssign 0 1,
            .send 0 [1, 2] [.sent 1, .failed "Broken pipe"], .destroy 0, .destroy 1] = some w' ∧
        Owned w' :=
  have hnd : ([0, 1, 2] : List Nat).Nodup := by decide
  ⟨hnd, program_owned _ hnd _⟩

/-! ## `ServerSocket`'s constructor against the model -/

/-- After a first address, the loop ends bound, with the lowest descriptor not open, or with `-1`
and the kernel's descriptors as they were. -/
theorem bindLoop_cases : ∀ (addrs : List AddressAnswer) (kernel : List Nat) (log : List String),
    ∃ log', bindLoop addrs (some (-1)) kernel log =
        (some (lowestFree kernel : Int), lowestFree kernel :: kernel, log', true) ∨
      bindLoop addrs (some (-1)) kernel log = (some (-1), kernel, log', false)
  | [], _, log => ⟨log, .inr rfl⟩
  | .noSocket :: addrs, kernel, log => bindLoop_cases addrs kernel log
  | .bindFailed err :: addrs, kernel, log => by
    rw [bindLoop, List.erase_cons_head]
    exact bindLoop_cases addrs kernel _
  | .bound :: _, kernel, log => ⟨log, .inl rfl⟩

/-- The loop from an unset `sock_fd` over at least one address is the loop after it. -/
theorem bindLoop_none {addrs : List AddressAnswer} (hne : addrs ≠ []) (kernel : List Nat) :
    ∃ log', bindLoop addrs none kernel [] =
        (some (lowestFree kernel : Int), lowestFree kernel :: kernel, log', true) ∨
      bindLoop addrs none kernel [] = (some (-1), kernel, log', false) := by
  match addrs, hne with
  | .noSocket :: addrs, _ => exact bindLoop_cases addrs kernel []
  | .bindFailed err :: addrs, _ =>
    rw [bindLoop, List.erase_cons_head]
    exact bindLoop_cases addrs kernel _
  | .bound :: _, _ => exact ⟨[], .inl rfl⟩

/-- `ServerSocket`'s constructor, when `getaddrinfo` gives addresses, changes the kernel's
descriptors and makes its object as the `construct` event does, with a line written whenever it
ends without a descriptor. -/
theorem serverSocket_construct (w : World) {addrs : List AddressAnswer} (hne : addrs ≠ [])
    (listen : Except String Unit) :
    ∃ c, serverSocket w.kernel (.ok addrs) listen = some c ∧
      step w (.construct .server (decide (0 ≤ c.sock_fd))) =
        some ⟨w.objects ++ [⟨.server, c.sock_fd⟩], c.kernel⟩ ∧
      (c.sock_fd < 0 → c.log ≠ []) := by
  obtain ⟨log, h | h⟩ := bindLoop_none hne w.kernel
  · have hfd : (0 : Int) ≤ lowestFree w.kernel := Int.ofNat_nonneg _
    cases listen with
    | ok u =>
      exact ⟨⟨lowestFree w.kernel, lowestFree w.kernel :: w.kernel, log⟩,
        by rw [serverSocket, h]; simp only [if_pos hfd, if_true],
        step_construct_of_fresh (.inl ⟨rfl, rfl⟩) _, fun hlt => absurd hfd (Int.not_le.mpr hlt)⟩
    | error err =>
      exact ⟨closeWith (lowestFree w.kernel) (lowestFree w.kernel :: w.kernel) log
          ("Error listening: " ++ err), by rw [serverSocket, h]; simp only [if_pos hfd, if_true]; rfl,
        step_construct_of_fresh (closeWith_fresh _ _ _) _,
        fun _ => List.append_ne_nil_of_right_ne_nil _ (List.cons_ne_nil _ _)⟩
  · exact ⟨⟨-1, w.kernel, log ++ ["No possible connection for receiving."]⟩,
      by rw [serverSocket, h]; rfl, step_construct_of_fresh (.inr ⟨rfl, rfl⟩) _,
      fun _ => List.append_ne_nil_of_right_ne_nil _ (List.cons_ne_nil _ _)⟩

/-- A server whose first address is in use and whose second binds. -/
theorem serverSocket_construct_retry :
    [AddressAnswer.bindFailed "Address already in use", .bound] ≠ [] ∧
      ∃ c, serverSocket [0, 1, 2] (.ok [.bindFailed "Address already in use", .bound]) (.ok ()) =
          some c ∧
        step ⟨[], [0, 1, 2]⟩ (.construct .server (decide (0 ≤ c.sock_fd))) =
          some ⟨[] ++ [⟨.server, c.sock_fd⟩], c.kernel⟩ ∧
        (c.sock_fd < 0 → c.log ≠ []) :=
  ⟨List.cons_ne_nil _ _, serverSocket_construct ⟨[], [0, 1, 2]⟩ (List.cons_ne_nil _ _) (.ok ())⟩

end OwlCommon.Socket
