import OwlCommon.WorldModel.ClientCodec

/-!
# Origin preferences: a loop that reads to the end of the frame

`decodeOriginPreference` reads (origin, weight) pairs while the cursor is short of the end of
the buffer. Left to right, a pair reads back from its pushes (`readWeight_reads`), so the loop
takes back every list of pairs and stops at the end of the frame (`weightLoop_reads`), and every
encoded list decodes to itself once the fuel covers the loop
(`decodeOriginPreference_makeOriginPreference`).

A read that does not fit sets the flag and leaves the cursor where it was. A frame whose payload
ends in one to three bytes then keeps the loop at the same place for ever (`weightLoop_stuck`):
the decoder does not return, whatever the fuel (`decodeOriginPreference_short_tail`).

The two reads of a pair are the arguments of one call, which C++ evaluates in an order it leaves
to the compiler. Right to left, the weight is read from the origin's length field and the origin
from the weight, so an encoded list need not decode to itself
(`decodeOriginPreference_rightToLeft_drops_pair`).
-/

namespace OwlCommon.WorldModel.Client

open Wire BuffReader

/-! ## Left to right, every list reads back -/

/-- A pair reads back from its pushes when the origin is read first. -/
theorem readWeight_reads (w : U16String × Int32) :
    Reads (readWeight .leftToRight) w (Push.bytesOf (weightPushes w)) :=
  Reads.of_eq ((readSizedUTF16_reads _).seq ((readPrimitive_reads _).seq (reads_ret _)))
    (by simp [weightPushes])

/-- The loop from a position whose bytes to the end of the buffer are the pushes of `ws` pushes
`ws` and stops at the end, with the flag clear, when the fuel covers one test per pair and the
last test. -/
theorem weightLoop_reads {buff : Buffer} (hsmall : buff.length < 2 ^ 32) :
    ∀ (ws : List (U16String × Int32)) {pos fuel : Nat} (weights : List (U16String × Int32)),
      pos ≤ buff.length → buff.drop pos = Push.bytesOf (ws.map weightPushes).flatten →
      ws.length < fuel →
      weightLoop .leftToRight buff fuel weights (atPos buff pos false) =
        some (weights ++ ws, atPos buff buff.length false)
  | [], pos, fuel + 1, weights, hpos, hdrop, _ => by
    have hend : pos = buff.length := Nat.le_antisymm hpos (List.drop_eq_nil_iff.mp hdrop)
    subst hend
    rw [weightLoop, if_neg (by rw [atPos_cur_index, Nat.mod_eq_of_lt hsmall]; exact Nat.lt_irrefl _),
      List.append_nil]
  | w :: ws, pos, fuel + 1, weights, hpos, hdrop, hfuel => by
    have hdrop' : buff.drop pos = Push.bytesOf (weightPushes w) ++
        Push.bytesOf (ws.map weightPushes).flatten := by
      rw [hdrop, List.map_cons, List.flatten_cons, Push.bytesOf_append]
    have hpre : Push.bytesOf (weightPushes w) <+: buff.drop pos := hdrop' ▸ List.prefix_append _ _
    have hlen : 4 ≤ (Push.bytesOf (weightPushes w)).length := by simp [weightPushes]
    have hnext := le_of_prefix_drop hpos hpre
    rw [weightLoop, if_pos (by rw [atPos_cur_index, Nat.mod_eq_of_lt (by omega)]; omega)]
    show weightLoop .leftToRight buff fuel (weights ++ [(readWeight .leftToRight (atPos buff pos false)).1])
      (readWeight .leftToRight (atPos buff pos false)).2 = _
    rw [readWeight_reads w buff pos false hsmall hpos hpre, weightLoop_reads hsmall ws _ hnext
      (by rw [← List.drop_drop, hdrop', List.drop_left])
      (by simp only [List.length_cons] at hfuel; omega)]
    simp

/-- Left to right, an origin preference message decodes to its pairs once the fuel covers the
loop's tests. -/
theorem decodeOriginPreference_makeOriginPreference (weights : List (U16String × Int32))
    {fuel : Nat} (hfuel : weights.length < fuel)
    (h : (makeOriginPreference weights).length < 2 ^ 32) :
    decodeOriginPreference .leftToRight fuel (makeOriginPreference weights) = some weights := by
  rw [makeOriginPreference] at h ⊢
  rw [decodeOriginPreference, readHeader_finishMessage _ _ h]
  dsimp only
  rw [if_pos ⟨lengthMatches_finishMessage _ h, rfl⟩, weightLoop_reads h weights []
    (by rw [length_finishMessage]; omega) (drop_finishMessage _ _) hfuel]
  simp

/-- The preference of origin `"ab"` with weight five, decoded left to right. -/
theorem decodeOriginPreference_makeOriginPreference_ab :
    decodeOriginPreference .leftToRight 2 (makeOriginPreference [([97, 98], ⟨5⟩)]) =
      some [([97, 98], ⟨5⟩)] :=
  decodeOriginPreference_makeOriginPreference _ (by decide) (by decide)

/-! ## A tail too short for a read keeps the loop in place -/

/-- With fewer than four bytes after the cursor both reads of a pair fail, in either order: the
flag is set and the cursor stays. -/
theorem readWeight_atPos_of_lt (order : EvalOrder) {buff : Buffer} {pos : Nat} {oor : Bool}
    (hpos : pos < 2 ^ 32) (h : buff.length < pos + 4) :
    (readWeight order (atPos buff pos oor)).2 = atPos buff pos true := by
  have h32 : buff.length < pos + width Int32 := by simpa using h
  cases order
  · show (readPrimitive Int32 (atPos buff pos oor).readSizedUTF16.2).2 = _
    rw [readSizedUTF16_atPos_of_lt hpos h, readPrimitive_atPos_of_lt hpos h32]
  · show ((readPrimitive Int32 (atPos buff pos oor)).2.readSizedUTF16).2 = _
    rw [readPrimitive_atPos_of_lt hpos h32, readSizedUTF16_atPos_of_lt hpos h]

/-- From a cursor short of the end of the buffer by one to three bytes, the loop runs until the
fuel is spent, whatever the fuel. -/
theorem weightLoop_stuck (order : EvalOrder) {buff : Buffer} {pos : Nat} (hpos : pos < 2 ^ 32)
    (hlt : pos < buff.length) (hgt : buff.length < pos + 4) :
    ∀ (fuel : Nat) (weights : List (U16String × Int32)) (oor : Bool),
      weightLoop order buff fuel weights (atPos buff pos oor) = none
  | 0, _, _ => rfl
  | fuel + 1, weights, oor => by
    rw [weightLoop, if_pos (by rw [atPos_cur_index, Nat.mod_eq_of_lt hpos]; exact hlt)]
    show weightLoop order buff fuel (weights ++ [(readWeight order (atPos buff pos oor)).1])
      (readWeight order (atPos buff pos oor)).2 = _
    rw [readWeight_atPos_of_lt order hpos hgt]
    exact weightLoop_stuck order hpos hlt hgt fuel _ true

/-- The frame `[0, 0, 0, 2, 11, 0]` is an origin preference message of the right length whose
payload is one byte: the decoder's loop never ends. -/
theorem decodeOriginPreference_short_tail (order : EvalOrder) (fuel : Nat) :
    decodeOriginPreference order fuel [0, 0, 0, 2, 11, 0] = none := by
  have hh : readHeader MessageID (init [0, 0, 0, 2, 11, 0]) =
      ((2, MessageID.origin_preference), atPos [0, 0, 0, 2, 11, 0] 5 false) := rfl
  rw [decodeOriginPreference, hh]
  dsimp only
  rw [weightLoop_stuck order (by decide) (by decide) (by decide) fuel [] false]
  rfl

/-! ## Right to left -/

/-- Right to left, the pair `("", 5)` is read as the weight zero and an origin of two units that
the frame does not hold, so the decoder drops it; left to right it returns it. -/
theorem decodeOriginPreference_rightToLeft_drops_pair (fuel : Nat) :
    decodeOriginPreference .rightToLeft (fuel + 2) (makeOriginPreference [([], ⟨5⟩)]) = some [] ∧
      decodeOriginPreference .leftToRight (fuel + 2) (makeOriginPreference [([], ⟨5⟩)]) =
        some [([], ⟨5⟩)] :=
  ⟨rfl, rfl⟩

end OwlCommon.WorldModel.Client
