import OwlCommon.NetBuffer.Reads

/-!
# What a read that keeps the flag clear has passed over

`Parses read accepts` says that `read`, from any reader standing at a position of a buffer
shorter than `2 ^ 32` bytes, either latches `_out_of_range` or moves past bytes `c` standing
there, returning a value that `accepts` allows of `c` and of the bytes after it. This is the
soundness direction: a decoder whose flag is clear at the end has taken every value it returns
from bytes of the buffer.

What the reads accept is not always what the pushes write (`Push.Accepts`):
`readSizedUTF16` halves an odd length, a flag is any byte its decoder's comparison maps to it,
and `readSizedVector` stops at the end of the buffer without the flag. `Lenient ps c rest` says
that `c` is the pushes `ps` as the reads accept them, one after another.
-/

namespace OwlCommon

open Wire BuffReader

variable {β : Type}

/-- `read`, from a reader at `pos` of a buffer shorter than `2 ^ 32` bytes, either latches the flag or
moves past bytes `c` that stand there, returning a value that `accepts` allows of `c` and of the
bytes after it. -/
def Parses (read : BuffReader → β × BuffReader) (accepts : β → Buffer → Buffer → Prop) : Prop :=
  ∀ buff pos oor, buff.length < 2 ^ 32 → pos ≤ buff.length →
    (read (atPos buff pos oor)).2.out_of_range = true ∨
      ∃ v c, read (atPos buff pos oor) = (v, atPos buff (pos + c.length) oor) ∧ c <+: buff.drop pos ∧
        accepts v c (buff.drop (pos + c.length))

/-- `c` is the values `xs` one after another, each accepted by `accepts` with what follows it. -/
def Chain (accepts : β → Buffer → Buffer → Prop) : List β → Buffer → Buffer → Prop
  | [], c, _ => c = []
  | x :: xs, c, rest => ∃ c₁ c₂, c = c₁ ++ c₂ ∧ accepts x c₁ (c₂ ++ rest) ∧ Chain accepts xs c₂ rest

namespace Push

/-- The bytes `c`, followed by `rest`, that the read matching a push accepts for its value: the
push's bytes, except that a sized string's length field may be one more than twice its length, a
flag may be any byte that its decoder's comparison maps to the flag, and a sized container's
length field may exceed its bytes where the buffer ends with them. -/
def Accepts : Push → Buffer → Buffer → Prop
  | val bs, c, _ => c = bs
  | flag b read, c, _ => ∃ byte, c = [byte] ∧ read.test byte = b
  | utf16 str, c, _ => c = utf16Bytes str
  | sizedUTF16 str, c, _ => ∃ L : UInt32, c = toBytes L ++ utf16Bytes str ∧ L.toNat / 2 = str.length
  | container data, c, _ => c = data
  | sizedContainer data, c, rest => ∃ L : UInt32, c = toBytes L ++ data ∧
      (L.toNat = data.length ∨ data.length < L.toNat ∧ rest = [])

end Push

/-- `c` is the pushes `ps` as the reads accept them, one after another, with `rest` after it. -/
def Lenient (ps : List Push) (c rest : Buffer) : Prop := Chain Push.Accepts ps c rest

/-- Two chains, the second read from where the first left off, are a chain. -/
theorem chain_append {acc : β → Buffer → Buffer → Prop} :
    ∀ {xs ys : List β} {c₁ c₂ rest : Buffer}, Chain acc xs c₁ (c₂ ++ rest) → Chain acc ys c₂ rest →
      Chain acc (xs ++ ys) (c₁ ++ c₂) rest
  | [], _, _, _, _, h₁, h₂ => by rw [show _ = [] from h₁]; exact h₂
  | x :: xs, _, _, _, _, ⟨d₁, d₂, e, hx, hxs⟩, h₂ =>
    ⟨d₁, d₂ ++ _, by rw [e, List.append_assoc], by rwa [List.append_assoc], chain_append hxs h₂⟩

/-- Bytes that stand at `pos`, followed by bytes that stand after them. -/
theorem prefix_drop_of_append {a b buff : Buffer} {pos : Nat} (ha : a <+: buff.drop pos)
    (hb : b <+: buff.drop (pos + a.length)) : a ++ b <+: buff.drop pos := by
  obtain ⟨t, ht⟩ := hb
  refine ⟨t, ?_⟩
  obtain ⟨u, hu⟩ := ha
  rw [← List.drop_drop, ← hu, List.drop_left] at ht
  rw [← hu, List.append_assoc, ht]

/-- Bytes that stand at `pos` are followed by the bytes past them. -/
theorem drop_eq_of_prefix {a buff : Buffer} {pos : Nat} (ha : a <+: buff.drop pos) :
    buff.drop pos = a ++ buff.drop (pos + a.length) := by
  obtain ⟨t, ht⟩ := ha
  rw [← List.drop_drop, ← ht, List.drop_left]

/-- `readPrimitive<T>()` either latches or reads a value from its bytes. -/
theorem readPrimitive_parses {α : Type} [Wire α] :
    Parses (readPrimitive α) (fun v c _ => c = toBytes v) := by
  intro buff pos oor hsmall hpos
  by_cases h : pos + width α ≤ buff.length
  · rw [readPrimitive_atPos_of_le (by omega) h]
    have hlen : ((buff.drop pos).take (width α)).length = width α := by
      rw [List.length_take, List.length_drop]
      omega
    exact .inr ⟨_, _, by rw [hlen], List.take_prefix _ _, (toBytes_ofBytes hlen).symm⟩
  · rw [readPrimitive_atPos_of_lt (by omega) (by omega)]
    exact .inl rfl

/-- A loop of `n` reads either latches or reads `n` values one after another. -/
theorem readN_parses {read : BuffReader → β × BuffReader} {acc : β → Buffer → Buffer → Prop}
    (hl : Latches read) (h : Parses read acc) :
    ∀ n, Parses (readN read n) (fun xs c rest => xs.length = n ∧ Chain acc xs c rest)
  | 0 => fun buff pos oor _ _ => .inr ⟨[], [], rfl, List.nil_prefix, rfl, rfl⟩
  | n + 1 => by
    intro buff pos oor hsmall hpos
    simp only [readN]
    rcases h buff pos oor hsmall hpos with hoor | ⟨v, c, e, hc, hv⟩
    · exact .inl (readN_latches hl n _ hoor)
    rw [e]
    have hle := le_of_prefix_drop hpos hc
    rcases readN_parses hl h n buff (pos + c.length) oor hsmall hle with hoor | ⟨vs, c', e', hc', hvs⟩
    · exact .inl hoor
    rw [e']
    refine .inr ⟨v :: vs, c ++ c', by simp [Nat.add_assoc], prefix_drop_of_append hc hc', by simp [hvs.1], ?_⟩
    refine ⟨c, c', rfl, ?_, ?_⟩
    · rw [List.length_append, ← Nat.add_assoc, ← drop_eq_of_prefix hc']
      exact hv
    · rw [List.length_append, ← Nat.add_assoc]; exact hvs.2

/-- What a read parses may be weakened. -/
theorem Parses.mono {read : BuffReader → β × BuffReader} {acc acc' : β → Buffer → Buffer → Prop}
    (h : Parses read acc) (himp : ∀ v c rest, acc v c rest → acc' v c rest) : Parses read acc' := by
  intro buff pos oor hsmall hpos
  rcases h buff pos oor hsmall hpos with hoor | ⟨v, c, e, hc, hv⟩
  · exact .inl hoor
  · exact .inr ⟨v, c, e, hc, himp _ _ _ hv⟩

/-- Two reads in a row, the second chosen by the first's value. -/
theorem Parses.bind {γ : Type} {f : BuffReader → β × BuffReader} {g : β → BuffReader → γ × BuffReader}
    {accF : β → Buffer → Buffer → Prop} {accG : β → γ → Buffer → Buffer → Prop}
    (hf : Parses f accF) (hg : ∀ a, Parses (g a) (accG a)) (hgl : ∀ a, Latches (g a)) :
    Parses (fun r => match f r with | (x, r') => g x r')
      (fun v c rest => ∃ a c₁ c₂, c = c₁ ++ c₂ ∧ accF a c₁ (c₂ ++ rest) ∧ accG a v c₂ rest) := by
  intro buff pos oor hsmall hpos
  rcases hf buff pos oor hsmall hpos with hoor | ⟨a, c₁, e₁, hc₁, h₁⟩
  · rcases e : f (atPos buff pos oor) with ⟨a, r⟩
    rw [e] at hoor
    simp only [e]
    exact .inl (hgl a r hoor)
  simp only [e₁]
  rcases hg a buff (pos + c₁.length) oor hsmall (le_of_prefix_drop hpos hc₁) with hoor | ⟨v, c₂, e₂, hc₂, h₂⟩
  · exact .inl hoor
  refine .inr ⟨v, c₁ ++ c₂, by rw [e₂, List.length_append, Nat.add_assoc], prefix_drop_of_append hc₁ hc₂,
    a, c₁, c₂, rfl, ?_, by rwa [List.length_append, ← Nat.add_assoc]⟩
  rwa [List.length_append, ← Nat.add_assoc, ← drop_eq_of_prefix hc₂]

/-- `Parses.bind` for two reads of a `StateM BuffReader` block. -/
theorem Parses.seq {γ : Type} {f : StateM BuffReader β} {g : β → StateM BuffReader γ}
    {accF : β → Buffer → Buffer → Prop} {accG : β → γ → Buffer → Buffer → Prop}
    (hf : Parses f accF) (hg : ∀ a, Parses (g a) (accG a)) (hgl : ∀ a, Latches (g a)) :
    Parses (f >>= g)
      (fun v c rest => ∃ a c₁ c₂, c = c₁ ++ c₂ ∧ accF a c₁ (c₂ ++ rest) ∧ accG a v c₂ rest) :=
  hf.bind hg hgl

/-- `return a` parses `a` from no bytes. -/
theorem parses_ret (a : β) : Parses (pure a : StateM BuffReader β) (fun v c _ => v = a ∧ c = []) :=
  fun _ _ _ _ _ => .inr ⟨a, [], by simp [pure, StateT.pure], List.nil_prefix, rfl, rfl⟩

/-- Values read one after another from their bytes stand in the buffer as those bytes. -/
theorem chain_toBytes {α : Type} [Wire α] :
    ∀ {xs : List α} {c rest : Buffer}, Chain (fun v c _ => c = toBytes v) xs c rest →
      c = (xs.map toBytes).flatten
  | [], _, _, h => h
  | _ :: _, _, _, ⟨_, _, e, h₁, h₂⟩ => by rw [e, h₁, chain_toBytes h₂]; rfl

/-- `readUTF16(size)` either latches or reads `size` code units from their bytes. -/
theorem readUTF16_parses (size : Nat) :
    Parses (fun r => r.readUTF16 size) (fun s c _ => s.length = size ∧ c = utf16Bytes s) :=
  (readN_parses readPrimitive_latches readPrimitive_parses size).mono
    fun _ _ _ h => ⟨h.1, chain_toBytes h.2⟩

/-- `readSizedUTF16()` either latches or reads a string whose push accepts the bytes read. -/
theorem readSizedUTF16_parses :
    Parses readSizedUTF16 (fun s c rest => (Push.sizedUTF16 s).Accepts c rest) :=
  ((readPrimitive_parses (α := UInt32)).bind (g := fun size r => r.readUTF16 (size.toNat / 2))
    (fun size => readUTF16_parses (size.toNat / 2)) (fun _ => readUTF16_latches _)).mono
    fun _ _ _ ⟨L, _, _, e, h₁, h₂⟩ => ⟨L, by rw [e, h₁, h₂.2], h₂.1.symm⟩

/-- The loop of `readSizedVector<uint8_t>` reads the bytes it returns, all `n` of them or as many as
the buffer has. -/
theorem readVectorLoop_parses : ∀ n, Parses (readVectorLoop UInt8 n)
    (fun d c rest => c = d ∧ (d.length = n ∨ d.length < n ∧ rest = []))
  | 0 => fun buff pos oor _ _ => .inr ⟨[], [], rfl, List.nil_prefix, rfl, .inl rfl⟩
  | n + 1 => by
    intro buff pos oor hsmall hpos
    have hcur : (atPos buff pos oor).cur_index.toNat = pos := by
      rw [atPos_cur_index, Nat.mod_eq_of_lt (by omega)]
    by_cases hg : pos + 1 ≤ buff.length
    · simp only [readVectorLoop, hcur, atPos_buff, width_uint8, if_pos hg]
      rcases readPrimitive_parses (α := UInt8) buff pos oor hsmall hpos with hoor | ⟨b, c₁, e₁, hc₁, h₁⟩
      · exact .inl (readVectorLoop_latches n _ hoor)
      rw [e₁]
      rcases readVectorLoop_parses n buff (pos + c₁.length) oor hsmall (le_of_prefix_drop hpos hc₁)
        with hoor | ⟨d, c₂, e₂, hc₂, h₂⟩
      · exact .inl hoor
      rw [toBytes_uint8] at h₁
      subst h₁
      refine .inr ⟨b :: d, [b] ++ c₂, by rw [e₂, List.length_append, Nat.add_assoc],
        prefix_drop_of_append hc₁ hc₂, by rw [h₂.1]; rfl, ?_⟩
      simp only [List.length_append, List.length_singleton, List.length_cons, ← Nat.add_assoc] at h₂ ⊢
      rcases h₂.2 with h | ⟨h, hr⟩
      · exact .inl (by omega)
      · exact .inr ⟨by omega, hr⟩
    · simp only [readVectorLoop, hcur, atPos_buff, width_uint8, if_neg hg]
      refine .inr ⟨[], [], by simp, List.nil_prefix, rfl, .inr ⟨Nat.zero_lt_succ n, ?_⟩⟩
      exact List.drop_eq_nil_of_le (by simp only [List.length_nil]; omega)

/-- `readSizedVector<uint8_t>()` either latches or reads a vector whose push accepts the bytes read.
-/
theorem readSizedVector_parses :
    Parses (readSizedVector UInt8) (fun d c rest => (Push.sizedContainer d).Accepts c rest) :=
  ((readPrimitive_parses (α := UInt32)).bind
    (g := fun size r => readVectorLoop UInt8 (size.toNat / width UInt8) r)
    (fun size => readVectorLoop_parses (size.toNat / width UInt8))
    (fun _ => readVectorLoop_latches _)).mono fun _ _ _ ⟨L, _, _, e, h₁, h₂⟩ =>
      ⟨L, by rw [e, h₁, h₂.1], by simpa only [width_uint8, Nat.div_one, eq_comm] using h₂.2⟩

/-- The bytes a prefix of the buffer at `pos` starts with are the buffer's first bytes there. -/
theorem take_drop_of_append {a b buff : Buffer} {pos : Nat} (h : a ++ b <+: buff.drop pos) :
    (buff.drop pos).take a.length = a :=
  (List.prefix_iff_eq_take.mp ((List.prefix_append a b).trans h)).symm

/-- The sized reads at a position of a buffer shorter than `2 ^ 32` bytes. `readSizedUTF16()`
either latches the flag or reads a length `L` and returns the `L / 2` code units after it, rounded
down, with the cursor past them; `readSizedVector<uint8_t>()` either latches the flag or reads `L`
and returns the next `L` bytes, or all the bytes left when fewer are left, with the cursor past
them. -/
theorem sized_reads_at (buff : Buffer) (pos : Nat) (oor : Bool) (hsmall : buff.length < 2 ^ 32)
    (hpos : pos ≤ buff.length) :
    ((atPos buff pos oor).readSizedUTF16.2.out_of_range = true ∨
      ∃ (L : UInt32) (s : U16String), (buff.drop pos).take 4 = toBytes L ∧
        s.length = L.toNat / 2 ∧ utf16Bytes s = (buff.drop (pos + 4)).take (2 * s.length) ∧
        (atPos buff pos oor).readSizedUTF16 = (s, atPos buff (pos + 4 + 2 * s.length) oor)) ∧
    ((readSizedVector UInt8 (atPos buff pos oor)).2.out_of_range = true ∨
      ∃ (L : UInt32) (d : Buffer), (buff.drop pos).take 4 = toBytes L ∧
        d = (buff.drop (pos + 4)).take L.toNat ∧
        readSizedVector UInt8 (atPos buff pos oor) = (d, atPos buff (pos + 4 + d.length) oor)) := by
  have h4 (L : UInt32) : (toBytes L).length = 4 := length_toBytes L
  refine ⟨?_, ?_⟩
  · rcases readSizedUTF16_parses buff pos oor hsmall hpos with h | ⟨s, c, e, hc, L, rfl, hL⟩
    · exact .inl h
    have hs := List.prefix_iff_eq_take.mp (prefix_drop_append hc)
    rw [h4, length_utf16Bytes] at hs
    refine .inr ⟨L, s, h4 L ▸ take_drop_of_append hc, hL.symm, hs, ?_⟩
    rw [e, List.length_append, h4, length_utf16Bytes, Nat.add_assoc]
  · rcases readSizedVector_parses buff pos oor hsmall hpos with h | ⟨d, c, e, hc, L, rfl, hL⟩
    · exact .inl h
    have hd := prefix_drop_append hc
    rw [h4] at hd
    refine .inr ⟨L, d, h4 L ▸ take_drop_of_append hc, ?_, ?_⟩
    · rcases hL with hL | ⟨hL, hrest⟩
      · rw [hL]
        exact List.prefix_iff_eq_take.mp hd
      · rw [List.length_append, h4, ← Nat.add_assoc] at hrest
        have hdrop := drop_eq_of_prefix hd
        rw [hdrop, hrest, List.append_nil, List.take_of_length_le (by omega)]
    · rw [e, List.length_append, h4, Nat.add_assoc]

/-- The length `2` before the bytes `0, 97`, read as a sized string and as a sized vector. -/
theorem sized_reads_at_two :
    ((atPos [0, 0, 0, 2, 0, 97] 0 false).readSizedUTF16.2.out_of_range = true ∨
      ∃ (L : UInt32) (s : U16String), (([0, 0, 0, 2, 0, 97] : Buffer).drop 0).take 4 = toBytes L ∧
        s.length = L.toNat / 2 ∧
        utf16Bytes s = (([0, 0, 0, 2, 0, 97] : Buffer).drop (0 + 4)).take (2 * s.length) ∧
        (atPos [0, 0, 0, 2, 0, 97] 0 false).readSizedUTF16 =
          (s, atPos [0, 0, 0, 2, 0, 97] (0 + 4 + 2 * s.length) false)) ∧
    ((readSizedVector UInt8 (atPos [0, 0, 0, 2, 0, 97] 0 false)).2.out_of_range = true ∨
      ∃ (L : UInt32) (d : Buffer), (([0, 0, 0, 2, 0, 97] : Buffer).drop 0).take 4 = toBytes L ∧
        d = (([0, 0, 0, 2, 0, 97] : Buffer).drop (0 + 4)).take L.toNat ∧
        readSizedVector UInt8 (atPos [0, 0, 0, 2, 0, 97] 0 false) =
          (d, atPos [0, 0, 0, 2, 0, 97] (0 + 4 + d.length) false)) :=
  sized_reads_at [0, 0, 0, 2, 0, 97] 0 false (by decide) (by decide)

/-- A sized string of odd byte length `1` and a sized vector of byte length `2` with one byte
behind it: `readSizedUTF16()` returns no unit and `readSizedVector<uint8_t>()` the one byte, both
with the flag clear and the cursor short of `4 + L`. -/
theorem sized_reads_unchecked :
    (atPos [0, 0, 0, 1, 97] 0 false).readSizedUTF16 = ([], atPos [0, 0, 0, 1, 97] 4 false) ∧
      readSizedVector UInt8 (atPos [0, 0, 0, 2, 7] 0 false) = ([7], atPos [0, 0, 0, 2, 7] 5 false) :=
  ⟨by decide, by decide⟩

end OwlCommon

namespace OwlCommon

open Wire BuffReader

variable {β γ : Type}

/-- `b` starts with the pushes `ps` as the reads accept them. -/
def LenientPrefix (ps : List Push) (b : Buffer) : Prop := ∃ c rest, b = c ++ rest ∧ Lenient ps c rest

/-- `read` keeps the flag once it is set, and otherwise either sets it or passes over the pushes
`ps v` of the value `v` it returns, as the reads accept them. -/
def ParsesAs (read : BuffReader → β × BuffReader) (ps : β → List Push) : Prop :=
  Latches read ∧ Parses read (fun v c rest => Lenient (ps v) c rest)

/-- Items read one after another, each leniently, are the pushes of all of them read leniently. -/
theorem lenient_flatten {E : β → List Push} :
    ∀ {xs : List β} {c rest : Buffer}, Chain (fun x c rest => Lenient (E x) c rest) xs c rest →
      Lenient (xs.map E).flatten c rest
  | [], _, _, h => h
  | _ :: _, _, _, ⟨_, _, e, h₁, h₂⟩ => by rw [e]; exact chain_append h₁ (lenient_flatten h₂)

/-- A read parses as pushes equal to those it was shown to parse as. -/
theorem ParsesAs.congr {read : BuffReader → β × BuffReader} {ps qs : β → List Push}
    (h : ParsesAs read ps) (e : ∀ v, ps v = qs v) : ParsesAs read qs :=
  ⟨h.1, h.2.mono fun v _ _ hv => e v ▸ hv⟩

/-- A value with nothing read. -/
theorem parsesAs_ret (a : β) : ParsesAs (pure a : StateM BuffReader β) (fun _ => []) :=
  ⟨fun _ hr => hr, (parses_ret a).mono fun _ _ _ h => h.2⟩

/-- Two reads in a row parse as the pushes of the first read's value, which `π` recovers from the
result, followed by the pushes of the result. -/
theorem ParsesAs.seq {f : StateM BuffReader β} {g : β → StateM BuffReader γ} {E : β → List Push}
    {F : γ → List Push} (π : γ → β) (hf : ParsesAs f E) (hg : ∀ a, ParsesAs (g a) F)
    (hπ : ∀ a r, π (g a r).1 = a) : ParsesAs (f >>= g) (fun v => E (π v) ++ F v) := by
  refine ⟨fun r hr => (hg _).1 _ (hf.1 r hr), ?_⟩
  have hg' : ∀ a, Parses (g a) (fun v c rest => Lenient (F v) c rest ∧ π v = a) :=
    fun a buff pos oor hs hp => ((hg a).2 buff pos oor hs hp).imp id fun ⟨v, c, e, hc, hv⟩ =>
      ⟨v, c, e, hc, hv, by rw [← hπ a (atPos buff pos oor), e]⟩
  refine (hf.2.seq hg' fun a => (hg a).1).mono ?_
  rintro v c rest ⟨a, c₁, c₂, rfl, h₁, h₂, rfl⟩
  exact chain_append h₁ h₂

/-- `readPrimitive<T>()` parses as a `pushBackVal`. -/
theorem readPrimitive_parsesAs {α : Type} [Wire α] :
    ParsesAs (readPrimitive α) (fun v => [pushBackVal v]) :=
  ⟨readPrimitive_latches, readPrimitive_parses.mono fun _ c _ h => ⟨c, [], by simp, h, rfl⟩⟩

/-- A byte read as a flag by `read`: the pushes of the flag `π` recovers from the result, which is
what `read` makes of the byte. -/
theorem ParsesAs.seqFlag {g : UInt8 → StateM BuffReader γ} {F : γ → List Push} (π : γ → Bool)
    (read : FlagRead) (hg : ∀ b, ParsesAs (g b) F) (hπ : ∀ b r, π (g b r).1 = read.test b) :
    ParsesAs (readPrimitive UInt8 >>= g) (fun v => .flag (π v) read :: F v) := by
  refine ⟨fun r hr => (hg _).1 _ (readPrimitive_latches r hr), ?_⟩
  have hg' : ∀ b, Parses (g b) (fun v c rest => Lenient (F v) c rest ∧ π v = read.test b) :=
    fun b buff pos oor hs hp => ((hg b).2 buff pos oor hs hp).imp id fun ⟨v, c, e, hc, hv⟩ =>
      ⟨v, c, e, hc, hv, by rw [← hπ b (atPos buff pos oor), e]⟩
  refine ((readPrimitive_parses (α := UInt8)).seq hg' fun b => (hg b).1).mono ?_
  rintro v c rest ⟨b, c₁, c₂, rfl, rfl, h₂, hb⟩
  exact ⟨toBytes b, c₂, rfl, ⟨b, toBytes_uint8 b, hb.symm⟩, h₂⟩

/-- `readSizedUTF16()` parses as a `pushBackSizedUTF16`. -/
theorem readSizedUTF16_parsesAs : ParsesAs readSizedUTF16 (fun s => [.sizedUTF16 s]) :=
  ⟨readSizedUTF16_latches, readSizedUTF16_parses.mono fun _ c rest h =>
    ⟨c, [], by simp, by rwa [List.nil_append], rfl⟩⟩

/-- `readSizedVector<uint8_t>()` parses as a `pushSizedContainer`. -/
theorem readSizedVector_parsesAs :
    ParsesAs (readSizedVector UInt8) (fun d => [.sizedContainer d]) :=
  ⟨readSizedVector_latches, readSizedVector_parses.mono fun _ c rest h =>
    ⟨c, [], by simp, by rwa [List.nil_append], rfl⟩⟩

/-- A loop of `n` reads parses as the pushes of the values it reads. -/
theorem readN_parsesAs {read : BuffReader → β × BuffReader} {E : β → List Push}
    (h : ParsesAs read E) (n : Nat) : ParsesAs (readN read n) (fun xs => (xs.map E).flatten) :=
  ⟨readN_latches h.1 n, (readN_parses h.1 h.2 n).mono fun _ _ _ hxs => lenient_flatten hxs.2⟩

/-- A `uint32_t` count, then that many elements, then the rest of a block: the count's push is the
number of elements, which `πL` recovers from the result. -/
theorem ParsesAs.count {read : StateM BuffReader β} {k : List β → StateM BuffReader γ}
    {E : β → List Push} {K : γ → List Push} (πL : γ → List β) (hread : ParsesAs read E)
    (hk : ∀ xs, ParsesAs (k xs) K) (hπ : ∀ xs r, πL (k xs r).1 = xs) :
    ParsesAs (readPrimitive UInt32 >>= fun total => readN read total.toNat >>= k)
      (fun v => pushBackVal (UInt32.ofNat (πL v).length) :: (((πL v).map E).flatten ++ K v)) :=
  ParsesAs.seq (fun v => UInt32.ofNat (πL v).length) readPrimitive_parsesAs
    (fun total => ParsesAs.seq πL (readN_parsesAs hread _) hk hπ) fun total r => by
      show UInt32.ofNat (πL (k (readN read total.toNat r).1 (readN read total.toNat r).2).1).length = _
      rw [hπ, length_readN]
      exact Wire.ofNat_toNat total

end OwlCommon
