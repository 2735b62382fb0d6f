import OwlCommon.NetBuffer.Wire
import Mathlib.Data.List.Perm.Subperm

/-!
# Who closes a descriptor

A `ClientSocket` and a `ServerSocket` (`simple_sockets.{hpp,cpp}`) each hold a descriptor in
`sock_fd`, `-1` when they hold none, and `socketCleanup` closes it: in the destructor, and in
`ClientSocket` after a failed `send` or `inputReady`. `ClientSocket` deletes its copy constructor
and copy assignment, "so that the socket is used in one place and deleted only once", and moves
the descriptor instead: the moved-from object is left holding `-1`, and the move assignment closes
the descriptor it held before.

`ServerSocket` deletes a constructor and an assignment from `const ClientSocket&`, not from
`const ServerSocket&`. Its copy constructor and copy assignment are the implicit ones, which copy
`sock_fd`, and since it declares a destructor it has no move constructor or move assignment: a
`ServerSocket` made or assigned from `std::move` of another is a copy.

The model keeps the objects a program has made, in order, and the descriptors open in the kernel,
which hands out the lowest descriptor not open (`lowestFree`). A close is wrong when the descriptor
is not open, or when another object still holds it, since that object will close it, or a socket
the kernel has given its number since, again; the step then has no result.

Each event keeps the invariant (`step_owned`): every descriptor an object holds is open and held
by it alone. So over every run of constructions, moves, move assignments and clean-ups of
`ClientSocket` objects from an owned world of them, no close is wrong (`run_owned`). The invariant
is stated of `ClientSocket` objects only: a `ServerSocket` copy shares its descriptor with the
object it was made from, and `step` models it so.
-/

namespace OwlCommon.Socket

/-- The two classes that hold a descriptor. -/
inductive Kind
  /-- `ClientSocket`. -/
  | client
  /-- `ServerSocket`. -/
  | server
deriving DecidableEq, Repr

/-- A `ClientSocket` or `ServerSocket` object, by its class and its `sock_fd`. -/
structure SocketObject where
  /-- The object's class. -/
  kind : Kind
  /-- The object's descriptor, or `-1`. -/
  sock_fd : Int
deriving DecidableEq, Repr

/-- The socket objects a program has made, in order, and the descriptors open in the kernel. -/
structure World where
  /-- The objects, in the order they were made. -/
  objects : List SocketObject
  /-- The descriptors open in the kernel. -/
  kernel : List Nat
deriving DecidableEq, Repr

/-- What a program does with its socket objects. -/
inductive Event
  /-- A constructor, or `ServerSocket::next`, that ends with a new descriptor (`true`) or with
  `-1`. -/
  | construct (kind : Kind) (opened : Bool)
  /-- An object of the class of object `j` made from `std::move` of it. -/
  | moveFrom (j : Nat)
  /-- Object `i` assigned `std::move` of object `j`, of the same class. -/
  | moveAssign (i j : Nat)
  /-- `socketCleanup` on object `i`: its destructor, a failed `send` or a failed `inputReady`. -/
  | cleanup (i : Nat)
deriving DecidableEq, Repr

/-- The lowest descriptor not open, which `socket()` and `accept4()` return. -/
def lowestFree (kernel : List Nat) : Nat :=
  ((List.range (kernel.length + 1)).find? (· ∉ kernel)).getD kernel.length

/-- The number of objects holding the descriptor `fd`. -/
def holders (objects : List SocketObject) (fd : Nat) : Nat :=
  objects.countP fun o => o.sock_fd = (fd : Int)

/-- The objects after object `i` sets `sock_fd` to `fd`. -/
def setFd (objects : List SocketObject) (i : Nat) (fd : Int) : List SocketObject :=
  match objects[i]? with
  | some o => objects.set i { o with sock_fd := fd }
  | none => objects

/-- `close(sock_fd); sock_fd = -1;` on object `i`, which holds `fd`: wrong (`none`) when `fd` is
not open or another object holds it too. -/
def closeHeld (w : World) (i fd : Nat) : Option World :=
  if fd ∈ w.kernel ∧ holders w.objects fd = 1 then some ⟨setFd w.objects i (-1), w.kernel.erase fd⟩
  else none

/-- `socketCleanup(sock_fd)` on object `i`: close the descriptor it holds, if any. -/
def socketCleanup (w : World) (i : Nat) : Option World :=
  match w.objects[i]? with
  | some o => if 0 ≤ o.sock_fd then closeHeld w i o.sock_fd.toNat else some w
  | none => some w

/-- The descriptor object `j` holds, `-1` for no object. -/
def fdOf (objects : List SocketObject) (j : Nat) : Int :=
  (objects[j]?.map SocketObject.sock_fd).getD (-1)

/-- One event. A `ClientSocket` moves: `ClientSocket(ClientSocket&&)` takes the descriptor and
leaves `-1`, and `operator=(ClientSocket&&)` closes its own descriptor first. A `ServerSocket`
copies. -/
def step (w : World) : Event → Option World
  | .construct kind opened =>
    if opened then
      some ⟨w.objects ++ [⟨kind, lowestFree w.kernel⟩], lowestFree w.kernel :: w.kernel⟩
    else some ⟨w.objects ++ [⟨kind, -1⟩], w.kernel⟩
  | .moveFrom j =>
    match w.objects[j]? with
    | some o =>
      match o.kind with
      | .client => some ⟨setFd w.objects j (-1) ++ [o], w.kernel⟩
      | .server => some ⟨w.objects ++ [o], w.kernel⟩
    | none => some w
  | .moveAssign i j =>
    match w.objects[i]? with
    | some o =>
      match o.kind with
      | .client =>
        (socketCleanup w i).map fun w =>
          ⟨setFd (setFd w.objects i (fdOf w.objects j)) j (-1), w.kernel⟩
      | .server => some ⟨setFd w.objects i (fdOf w.objects j), w.kernel⟩
    | none => some w
  | .cleanup i => socketCleanup w i

/-- Events one after another; `none` once a close is wrong. -/
def run (w : World) : List Event → Option World
  | [] => some w
  | e :: events => (step w e).bind fun w => run w events

/-- The ownership invariant: every `sock_fd` is a descriptor or `-1`, the kernel's open descriptors
are distinct, and every descriptor an object holds is open and held by no other object. -/
structure Owned (w : World) : Prop where
  /-- Every `sock_fd` is a descriptor or `-1`. -/
  valid : ∀ o ∈ w.objects, -1 ≤ o.sock_fd
  /-- The kernel's open descriptors are distinct. -/
  nodup : w.kernel.Nodup
  /-- A descriptor some object holds is open and held by that object only. -/
  held : ∀ fd : Nat, 0 < holders w.objects fd → fd ∈ w.kernel ∧ holders w.objects fd = 1

/-- Every object is a `ClientSocket`. -/
def AllClient (w : World) : Prop := ∀ o ∈ w.objects, o.kind = .client

/-- An event that makes no `ServerSocket`. -/
def Event.OnClients : Event → Prop
  | .construct kind _ => kind = .client
  | _ => True

/-! ## The kernel's choice -/

/-- The lowest free descriptor is not open. -/
theorem lowestFree_not_mem (kernel : List Nat) : lowestFree kernel ∉ kernel := by
  unfold lowestFree
  cases h : (List.range (kernel.length + 1)).find? (· ∉ kernel) with
  | some fd => simpa using List.find?_some h
  | none =>
    have hsub : List.range (kernel.length + 1) ⊆ kernel := fun n hn => by
      simpa using List.find?_eq_none.mp h n hn
    have := (List.subperm_of_subset (List.nodup_range _) hsub).length_le
    rw [List.length_range] at this
    omega

/-! ## Counting holders -/

/-- An object added at the end holds the descriptor it has. -/
theorem holders_append (objects : List SocketObject) (o : SocketObject) (fd : Nat) :
    holders (objects ++ [o]) fd = holders objects fd + if o.sock_fd = fd then 1 else 0 := by
  simp only [holders, List.countP_append, List.countP_singleton, decide_eq_true_eq]

/-- Setting object `i`'s descriptor moves one count from the old descriptor to the new. -/
theorem holders_setFd {objects : List SocketObject} {i : Nat} {o : SocketObject}
    (hi : objects[i]? = some o) (x : Int) (fd : Nat) :
    holders (setFd objects i x) fd + (if o.sock_fd = fd then 1 else 0) =
      holders objects fd + if x = fd then 1 else 0 := by
  obtain ⟨hlt, hget⟩ := List.getElem?_eq_some_iff.mp hi
  have hle := List.boole_getElem_le_countP (fun o : SocketObject => decide (o.sock_fd = fd)) objects i hlt
  rw [setFd, hi]
  simp only [holders, List.countP_set _ _ _ _ hlt, hget, decide_eq_true_eq] at hle ⊢
  omega

/-- Setting the descriptor of an object that does not exist changes nothing. -/
theorem setFd_of_none {objects : List SocketObject} {i : Nat} (hi : objects[i]? = none) (x : Int) :
    setFd objects i x = objects := by
  rw [setFd, hi]

/-- Setting a descriptor an object already holds changes nothing. -/
theorem setFd_of_eq {objects : List SocketObject} {i : Nat} {o : SocketObject}
    (hi : objects[i]? = some o) : setFd objects i o.sock_fd = objects := by
  obtain ⟨hlt, hget⟩ := List.getElem?_eq_some_iff.mp hi
  rw [setFd, hi]
  refine List.ext_getElem (List.length_set _ _ _) fun n h1 _ => ?_
  rw [List.getElem_set]
  split
  · next heq => subst heq; exact hget.symm
  · rfl

/-- The object whose descriptor was set has it. -/
theorem getElem?_setFd_self {objects : List SocketObject} {i : Nat} {o : SocketObject}
    (hi : objects[i]? = some o) (x : Int) : (setFd objects i x)[i]? = some { o with sock_fd := x } := by
  obtain ⟨hlt, -⟩ := List.getElem?_eq_some_iff.mp hi
  rw [setFd, hi, List.getElem?_set_self hlt]

/-- Setting one object's descriptor leaves the others. -/
theorem getElem?_setFd_ne {objects : List SocketObject} {i j : Nat} (hij : i ≠ j) (x : Int) :
    (setFd objects i x)[j]? = objects[j]? := by
  unfold setFd
  split
  · exact List.getElem?_set_ne hij
  · rfl

/-- After a descriptor is set, every object was there before or is one of them with it. -/
theorem mem_setFd {objects : List SocketObject} {i : Nat} {x : Int} {o' : SocketObject}
    (h : o' ∈ setFd objects i x) : o' ∈ objects ∨ ∃ o ∈ objects, o' = { o with sock_fd := x } := by
  unfold setFd at h
  split at h
  · next o hi =>
    rcases List.mem_or_eq_of_mem_set h with h | h
    · exact .inl h
    · exact .inr ⟨o, List.getElem?_mem hi, h⟩
  · exact .inl h

/-- The descriptor an object holds is a descriptor or `-1` when every object's is. -/
theorem fdOf_valid {objects : List SocketObject} (hv : ∀ o ∈ objects, -1 ≤ o.sock_fd) (j : Nat) :
    -1 ≤ fdOf objects j := by
  unfold fdOf
  cases h : objects[j]? with
  | none => exact Int.le_refl (-1)
  | some o => exact hv o (List.getElem?_mem h)

/-- Setting descriptors that are descriptors or `-1` keeps every `sock_fd` one. -/
theorem setFd_valid {objects : List SocketObject} (hv : ∀ o ∈ objects, -1 ≤ o.sock_fd) {i : Nat}
    {x : Int} (hx : -1 ≤ x) : ∀ o ∈ setFd objects i x, -1 ≤ o.sock_fd := fun o' h => by
  rcases mem_setFd h with h | ⟨o, -, rfl⟩
  · exact hv o' h
  · exact hx

/-- Setting descriptors keeps every object's class. -/
theorem setFd_allClient {objects : List SocketObject} (hc : ∀ o ∈ objects, o.kind = .client)
    {i : Nat} {x : Int} : ∀ o ∈ setFd objects i x, o.kind = .client := fun o' h => by
  rcases mem_setFd h with h | ⟨o, ho, rfl⟩
  · exact hc o' h
  · exact hc o ho

/-- After object `i` lets its descriptor go, moving object `j`'s descriptor to it, and `-1` to
`j`, holds the same descriptors. -/
theorem holders_move {objects : List SocketObject} {i : Nat} {oi : SocketObject}
    (hi : objects[i]? = some oi) (hfree : oi.sock_fd = -1) (j fd : Nat) :
    holders (setFd (setFd objects i (fdOf objects j)) j (-1)) fd = holders objects fd := by
  have hneg : ∀ x : Int, x = -1 → (if x = (fd : Int) then 1 else 0) = 0 := fun x hx => by
    rw [if_neg (by omega)]
  by_cases hij : i = j
  · subst hij
    have hb : fdOf objects i = -1 := by rw [fdOf, hi, Option.map_some', Option.getD_some, hfree]
    have h1 := holders_setFd hi (-1) fd
    have h2 := holders_setFd (getElem?_setFd_self hi (-1)) (-1) fd
    rw [hneg _ hfree, hneg _ rfl] at h1
    rw [hneg _ rfl] at h2
    rw [hb]
    omega
  · cases hj : objects[j]? with
    | none =>
      have hb : fdOf objects j = -1 := by rw [fdOf, hj]; rfl
      have hj' : (setFd objects i (-1))[j]? = none := by rw [getElem?_setFd_ne hij, hj]
      have h1 := holders_setFd hi (-1) fd
      rw [hneg _ hfree, hneg _ rfl] at h1
      rw [hb, setFd_of_none hj']
      omega
    | some oj =>
      have hb : fdOf objects j = oj.sock_fd := by rw [fdOf, hj]; rfl
      have hj' : (setFd objects i oj.sock_fd)[j]? = some oj := by rw [getElem?_setFd_ne hij, hj]
      have h1 := holders_setFd hi oj.sock_fd fd
      have h2 := holders_setFd hj' (-1) fd
      rw [hneg _ hfree] at h1
      rw [hneg _ rfl] at h2
      rw [hb]
      omega

/-! ## One step keeps a world of `ClientSocket` objects owned -/

/-- The classes of the objects after one is appended. -/
theorem allClient_append {objects : List SocketObject} (hc : ∀ o ∈ objects, o.kind = .client)
    {o : SocketObject} (ho : o.kind = .client) : ∀ o' ∈ objects ++ [o], o'.kind = .client :=
  fun o' h => (List.mem_append.mp h).elim (hc o') fun h => List.mem_singleton.mp h ▸ ho

section Owned

variable {w : World} (ho : Owned w)
include ho

/-- An object of an owned world that holds a descriptor holds one that is open and its alone. -/
theorem Owned.held_of {i : Nat} {o : SocketObject} (hi : w.objects[i]? = some o) (hfd : 0 ≤ o.sock_fd) :
    o.sock_fd.toNat ∈ w.kernel ∧ holders w.objects o.sock_fd.toNat = 1 := by
  refine ho.held _ (List.countP_pos_iff.mpr ⟨o, List.getElem?_mem hi, ?_⟩)
  simp only [decide_eq_true_eq]
  omega

/-- A new object holding a descriptor the kernel had not open keeps the world owned. -/
theorem Owned.append_fresh (kind : Kind) {fd : Nat} (hfree : fd ∉ w.kernel) :
    Owned ⟨w.objects ++ [⟨kind, fd⟩], fd :: w.kernel⟩ := by
  refine ⟨fun o h => ?_, List.nodup_cons.mpr ⟨hfree, ho.nodup⟩, fun x hpos => ?_⟩
  · rcases List.mem_append.mp h with h | h
    · exact ho.valid o h
    · obtain rfl := List.mem_singleton.mp h
      exact Int.le_trans (by decide) (Int.ofNat_nonneg fd)
  · dsimp only at hpos ⊢
    rw [holders_append] at hpos ⊢
    by_cases hx : x = fd
    · subst hx
      have h0 : holders w.objects x = 0 := Nat.eq_zero_of_not_pos fun h => hfree (ho.held _ h).1
      rw [h0, if_pos rfl]
      exact ⟨List.mem_cons_self _ _, rfl⟩
    · have hne : ((fd : Int) = x) = False := propext ⟨fun h => hx (Int.ofNat.inj h).symm, False.elim⟩
      simp only [hne, if_false, Nat.add_zero] at hpos ⊢
      exact ⟨List.mem_cons_of_mem _ (ho.held x hpos).1, (ho.held x hpos).2⟩

/-- A new object holding `-1` keeps the world owned. -/
theorem Owned.append_none (kind : Kind) : Owned ⟨w.objects ++ [⟨kind, -1⟩], w.kernel⟩ := by
  refine ⟨fun o h => ?_, ho.nodup, fun x hpos => ?_⟩
  · rcases List.mem_append.mp h with h | h
    · exact ho.valid o h
    · obtain rfl := List.mem_singleton.mp h
      exact Int.le_refl _
  · dsimp only at hpos ⊢
    rw [holders_append] at hpos ⊢
    dsimp only at hpos ⊢
    rw [if_neg (by omega)] at hpos ⊢
    exact ho.held x hpos

/-- Objects that hold the same descriptors, each a descriptor or `-1`, keep the world owned. -/
theorem Owned.of_holders {objects : List SocketObject} (hv : ∀ o ∈ objects, -1 ≤ o.sock_fd)
    (hkeep : ∀ fd, holders objects fd = holders w.objects fd) : Owned ⟨objects, w.kernel⟩ :=
  ⟨hv, ho.nodup, fun fd hpos => by
    dsimp only at hpos ⊢
    rw [hkeep] at hpos ⊢
    exact ho.held fd hpos⟩

/-- `socketCleanup` in an owned world closes nothing wrongly, leaves object `i` holding `-1`, and
keeps the world owned. -/
theorem socketCleanup_owned (i : Nat) :
    ∃ w', socketCleanup w i = some w' ∧ Owned w' ∧ w'.objects = setFd w.objects i (-1) := by
  unfold socketCleanup
  cases hi : w.objects[i]? with
  | none => exact ⟨w, rfl, ho, (setFd_of_none hi _).symm⟩
  | some o =>
    dsimp only
    by_cases hfd : 0 ≤ o.sock_fd
    · obtain ⟨hmem, hone⟩ := ho.held_of hi hfd
      rw [if_pos hfd, closeHeld, if_pos ⟨hmem, hone⟩]
      refine ⟨_, rfl, ⟨setFd_valid ho.valid (by decide), ho.nodup.erase _, fun fd hpos => ?_⟩, rfl⟩
      dsimp only at hpos ⊢
      have h := holders_setFd hi (-1) fd
      rw [if_neg (by omega : (-1 : Int) ≠ fd)] at h
      by_cases hfd' : fd = o.sock_fd.toNat
      · subst hfd'
        rw [if_pos (by omega), hone] at h
        omega
      · rw [if_neg (by omega)] at h
        have := ho.held fd (by omega)
        exact ⟨(List.mem_erase_of_ne hfd').mpr this.1, by omega⟩
    · have hneg : o.sock_fd = -1 := by have := ho.valid o (List.getElem?_mem hi); omega
      rw [if_neg hfd]
      exact ⟨w, rfl, ho, by rw [← hneg, setFd_of_eq hi]⟩

variable (hc : AllClient w)
include hc

/-- Every event on `ClientSocket` objects in an owned world closes nothing wrongly and keeps the
world owned and made of `ClientSocket` objects. -/
theorem step_owned (e : Event) (he : e.OnClients) :
    ∃ w', step w e = some w' ∧ AllClient w' ∧ Owned w' := by
  cases e with
  | construct kind opened =>
    cases he
    cases opened with
    | true =>
      exact ⟨_, rfl, allClient_append hc rfl, ho.append_fresh _ (lowestFree_not_mem w.kernel)⟩
    | false => exact ⟨_, rfl, allClient_append hc rfl, ho.append_none _⟩
  | moveFrom j =>
    rw [step]
    cases hj : w.objects[j]? with
    | none => exact ⟨w, rfl, hc, ho⟩
    | some o =>
      have hmem := List.getElem?_mem hj
      dsimp only
      rw [hc o hmem]
      refine ⟨_, rfl, allClient_append (setFd_allClient hc) (hc o hmem),
        ho.of_holders (fun o' h => ?_) fun fd => ?_⟩
      · rcases List.mem_append.mp h with h | h
        · exact setFd_valid ho.valid (by decide) o' h
        · exact (List.mem_singleton.mp h) ▸ ho.valid o hmem
      · have h := holders_setFd hj (-1) fd
        rw [if_neg (by omega : (-1 : Int) ≠ fd)] at h
        rw [holders_append]
        omega
  | moveAssign i j =>
    rw [step]
    cases hi : w.objects[i]? with
    | none => exact ⟨w, rfl, hc, ho⟩
    | some o =>
      dsimp only
      rw [hc o (List.getElem?_mem hi)]
      obtain ⟨w₁, h₁, ho₁, hobj⟩ := socketCleanup_owned ho i
      have hi₁ : w₁.objects[i]? = some { o with sock_fd := -1 } := by
        rw [hobj, getElem?_setFd_self hi]
      have hc₁ : ∀ o ∈ w₁.objects, o.kind = .client := hobj ▸ setFd_allClient hc
      rw [h₁]
      refine ⟨_, rfl, setFd_allClient (setFd_allClient hc₁),
        ho₁.of_holders (setFd_valid (setFd_valid ho₁.valid (fdOf_valid ho₁.valid j)) (by decide))
          (holders_move hi₁ rfl j)⟩
  | cleanup i =>
    obtain ⟨w', h, ho', hobj⟩ := socketCleanup_owned ho i
    refine ⟨w', h, fun o' h' => ?_, ho'⟩
    rw [hobj] at h'
    exact setFd_allClient hc o' h'

end Owned

/-- Over every run of events on `ClientSocket` objects from an owned world of them, no close is
wrong and the world stays owned. -/
theorem run_owned : ∀ (events : List Event) {w : World}, AllClient w → Owned w →
    (∀ e ∈ events, e.OnClients) → ∃ w', run w events = some w' ∧ AllClient w' ∧ Owned w'
  | [], w, hc, ho, _ => ⟨w, rfl, hc, ho⟩
  | e :: events, w, hc, ho, he => by
    obtain ⟨w₁, h₁, hc₁, ho₁⟩ := step_owned ho hc e (he e (List.mem_cons_self _ _))
    obtain ⟨w', h', hc', ho'⟩ := run_owned events hc₁ ho₁ fun e' h => he e' (List.mem_cons_of_mem _ h)
    exact ⟨w', by rw [run, h₁, Option.some_bind, h'], hc', ho'⟩

end OwlCommon.Socket
