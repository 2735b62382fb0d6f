import OwlCommon.Receiver.Framing

/-!
# Two threads on one receiver

`MessageReceiver` takes `sock_mutex` in both calls, but `getNextMessage` reads
`previous_unfinished` to set `piece_length` before it takes the lock, and its loop then decides
with that value whether the buffer holds a whole piece. The model is an interleaving semantics, in
which step order is real-time order: a thread's call of `getNextMessage` is two steps, the read of
`piece_length` without the lock (`Step.read`) and the rest of the call under the lock
(`Step.lock`, `getNextMessageLocked`), which the mutex keeps whole. (In C++ the unlocked read also
races with another thread's writes under the lock; the interleaving semantics gives it the value
the buffer had.)

When each thread's two steps are adjacent the calls are `getNextMessage` one after another, and
nothing undefined happens (`exec_adjacent_ne_undefined`). When another thread's whole call comes
between them, the loop tests the new buffer against the old piece's length: on every buffer that
holds a whole frame and then part of the next frame, at least four bytes and at least the first
frame's length, the first thread skips the loop and copies the next piece past the end of the
buffer (`exec_stale_undefined`).
-/

namespace OwlCommon.Receiver

/-- `getNextMessage(interrupted)` from where it has taken `sock_mutex`, with the `piece_length` it
read before: the loop, then an empty buffer if the flag is set, and otherwise the first
`piece_length` bytes, set again from the buffer. -/
def getNextMessageLocked (piece_length : UInt32) (interrupted : List Bool) (r : MessageReceiver) :
    Ends Buffer :=
  match receiveLoop interrupted piece_length r with
  | .returns (_ :: flags, _) r =>
    match flags with
    | [] => .waits
    | true :: _ => .returns [] r
    | false :: _ =>
      let piece_length := pieceLength r.previous_unfinished
      if r.previous_unfinished.length < piece_length.toNat then .undefined
      else
        .returns (r.previous_unfinished.take piece_length.toNat)
          { r with previous_unfinished :=
              if piece_length.toNat < r.previous_unfinished.length then
                r.previous_unfinished.drop piece_length.toNat
              else [] }
  | .returns ([], _) _ => .waits
  | .throws what => .throws what
  | .undefined => .undefined
  | .waits => .waits

/-- A call is its unlocked read followed by the rest. -/
theorem getNextMessage_eq_locked (interrupted : List Bool) (r : MessageReceiver) :
    getNextMessage interrupted r =
      getNextMessageLocked (initialPiece r.previous_unfinished) interrupted r := rfl

/-- A step of one thread in its call of `getNextMessage`. -/
inductive Step
  /-- Thread `t` enters the call and reads `piece_length` without the lock. -/
  | read (t : Nat)
  /-- Thread `t` takes `sock_mutex` and runs the rest of its call, its reads of the flag seeing
  `interrupted`. -/
  | lock (t : Nat) (interrupted : List Bool)
deriving DecidableEq, Repr

/-- Steps one after another from the shared receiver `r`, `pending t` being the `piece_length`
thread `t` has read in the call it is in: the buffers the calls returned, each with its thread, and
the receiver after; or how a call stopped. A `lock` by a thread in no call is no step of it. -/
def exec : List Step → MessageReceiver → (Nat → Option UInt32) → Ends (List (Nat × Buffer))
  | [], r, _ => .returns [] r
  | .read t :: steps, r, pending =>
    exec steps r fun u => if u = t then some (initialPiece r.previous_unfinished) else pending u
  | .lock t interrupted :: steps, r, pending =>
    match pending t with
    | none => exec steps r pending
    | some piece_length =>
      match getNextMessageLocked piece_length interrupted r with
      | .returns m r => (exec steps r fun u => if u = t then none else pending u).map ((t, m) :: ·)
      | .throws what => .throws what
      | .undefined => .undefined
      | .waits => .waits

/-- Threads whose reads and locks are adjacent, each call's flag staying set once set, never do
anything undefined: their calls are `getNextMessage` one after another. -/
theorem exec_adjacent_ne_undefined :
    ∀ (calls : List (Nat × List Bool)) (r : MessageReceiver) (pending : Nat → Option UInt32),
      (∀ c ∈ calls, c.2.Pairwise (· ≤ ·)) →
      exec (calls.flatMap fun c => [.read c.1, .lock c.1 c.2]) r pending ≠ .undefined
  | [], _, _, _ => nofun
  | (t, interrupted) :: calls, r, pending, hmono => by
    have hcall := getNextMessage_ne_undefined (hmono _ (List.mem_cons_self _ _)) r
    rw [getNextMessage_eq_locked] at hcall
    rw [List.flatMap_cons, List.cons_append, List.cons_append, List.nil_append, exec, exec,
      if_pos rfl]
    dsimp only
    split
    · next m r' _ =>
      exact fun h => exec_adjacent_ne_undefined calls r' _
        (fun c hc => hmono c (List.mem_cons_of_mem _ hc)) (Ends.map_eq_undefined.mp h)
    · nofun
    · next h => exact absurd h hcall
    · nofun

/-- On every receiver whose buffer holds a whole frame `f` and then a proper prefix of a frame `g`,
of at least four bytes and at least `f`'s length: when thread `0` reads `piece_length`, then thread
`1` makes its whole call, and then thread `0` takes the lock, thread `1` returns `f` and thread `0`
skips the loop and copies `g`'s length of bytes out of a buffer shorter than that. -/
theorem exec_stale_undefined {f g rest : Buffer} (hf : IsFrame f) (hg : IsFrame g)
    (hpre : rest <+: g) (hlt : rest.length < g.length) (h4 : 4 ≤ rest.length)
    (hle : f.length ≤ rest.length) (socket : List Received) (flags₀ flags₁ : List Bool)
    (pending : Nat → Option UInt32) :
    exec [.read 0, .read 1, .lock 1 (false :: false :: flags₁), .lock 0 (false :: false :: flags₀)]
      ⟨f ++ rest, socket⟩ pending = .undefined := by
  have hf4 : 4 ≤ (f ++ rest).length := by rw [List.length_append]; omega
  have hpf : (pieceLength (f ++ rest)).toNat = f.length :=
    @pieceLength_frame (f ++ rest) [] f rest hf (List.append_nil _) hf4
  obtain ⟨tail, htail⟩ := hpre
  have hpg : (pieceLength rest).toNat = g.length :=
    pieceLength_frame hg (htail.trans (List.append_nil g).symm) h4
  have hfirst : getNextMessageLocked (initialPiece (f ++ rest)) (false :: false :: flags₁)
      ⟨f ++ rest, socket⟩ = .returns f ⟨rest, socket⟩ := by
    have hwhole := getNextMessage_of_whole flags₁ (r := ⟨f ++ rest, socket⟩) (by
      rw [hpf]
      exact List.length_append f rest ▸ Nat.le_add_right _ _)
    rw [getNextMessage_eq_locked] at hwhole
    rw [hwhole, hpf, List.take_left, List.drop_left]
  have hsecond : getNextMessageLocked (initialPiece (f ++ rest)) (false :: false :: flags₀)
      ⟨rest, socket⟩ = .undefined := by
    have hstop : needsData rest (initialPiece (f ++ rest)) = false := by
      rw [initialPiece, if_pos hf4, needsData]
      simp only [Bool.or_eq_false_iff, decide_eq_false_iff_not, Nat.not_lt]
      exact ⟨h4, hpf ▸ hle⟩
    rw [getNextMessageLocked, receiveLoop, if_neg (by simp [hstop])]
    dsimp only
    rw [if_pos (by rw [hpg]; exact hlt)]
  simp only [exec, if_pos, if_neg (by decide : (0 : Nat) ≠ 1), if_neg (by decide : (1 : Nat) ≠ 0)]
  rw [hfirst]
  simp only [Ends.map, exec, if_neg (by decide : (0 : Nat) ≠ 1)]
  rw [hsecond]

/-- An empty frame, then five of the six bytes of a frame with two bytes of payload. -/
theorem exec_stale_undefined_five :
    IsFrame [0, 0, 0, 0] ∧ IsFrame [0, 0, 0, 2, 7, 7] ∧
      ([0, 0, 0, 2, 7] : Buffer) <+: [0, 0, 0, 2, 7, 7] ∧
      ([0, 0, 0, 2, 7] : Buffer).length < ([0, 0, 0, 2, 7, 7] : Buffer).length ∧
      4 ≤ ([0, 0, 0, 2, 7] : Buffer).length ∧
      ([0, 0, 0, 0] : Buffer).length ≤ ([0, 0, 0, 2, 7] : Buffer).length ∧
      exec [.read 0, .read 1, .lock 1 [false, false], .lock 0 [false, false]]
        ⟨[0, 0, 0, 0] ++ [0, 0, 0, 2, 7], []⟩ (fun _ => none) = .undefined :=
  have hf : IsFrame [0, 0, 0, 0] := by decide
  have hg : IsFrame [0, 0, 0, 2, 7, 7] := by decide
  have hpre : ([0, 0, 0, 2, 7] : Buffer) <+: [0, 0, 0, 2, 7, 7] := ⟨[7], rfl⟩
  ⟨hf, hg, hpre, by decide, by decide, by decide,
    exec_stale_undefined hf hg hpre (by decide) (by decide) (by decide) [] [] [] fun _ => none⟩

end OwlCommon.Receiver
