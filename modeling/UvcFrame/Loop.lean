import Mathlib.Data.PNat.Basic
import UvcFrame.Pixel

namespace UvcFrame

/-- `while (pout < pout_end) { BODY(pin, pout); pout += dout; pin += din; }` from the offsets
`pin` and `pout`, rewriting the destination bytes `mem`. -/
def pixelLoop (body : Nat → Nat → (Nat → UInt8) → Nat → UInt8) (din : Nat) (dout : ℕ+)
    (poutEnd pin pout : Nat) (mem : Nat → UInt8) : Nat → UInt8 :=
  if pout < poutEnd then pixelLoop body din dout poutEnd (pin + din) (pout + dout) (body pin pout mem)
  else mem
termination_by poutEnd - pout
decreasing_by have := dout.pos; omega

variable (body : Nat → Nat → (Nat → UInt8) → Nat → UInt8) (din : Nat) (dout : ℕ+)
  {poutEnd : Nat} {stream : Nat → UInt8}

private theorem block_of_index {d j i : Nat} (positive : 0 < d) (start : d * j ≤ i) :
    d * j ≤ d * (i / d) :=
  Nat.mul_le_mul_left d ((Nat.le_div_iff_mul_le positive).mpr (by rw [Nat.mul_comm]; exact start))

/-- If iteration `j` of the body stores bytes `[dout * j, dout * (j + 1))` of `stream` whenever
the bytes from its block on still hold `orig`, as a body that reads only its own block does, the
loop from iteration `j` on stores every byte whose block starts before `pout_end` and leaves the
rest. -/
theorem pixelLoop_apply_inPlace (orig : Nat → UInt8)
    (stores : ∀ (j : Nat) mem i, (∀ k, dout * j ≤ k → mem k = orig k) → body (din * j) (dout * j) mem i =
      if dout * j ≤ i ∧ i < dout * j + dout then stream i else mem i)
    (j : Nat) (mem : Nat → UInt8) (fresh : ∀ k, dout * j ≤ k → mem k = orig k) (i : Nat) :
    pixelLoop body din dout poutEnd (din * j) (dout * j) mem i =
      if dout * j ≤ i ∧ dout * (i / dout) < poutEnd then stream i else mem i := by
  have positive := dout.pos
  induction' remaining : poutEnd - dout * j using Nat.strong_induction_on with n ih generalizing j mem
  rw [pixelLoop]
  split
  · rename_i running
    have next : dout * (j + 1) = dout * j + dout := Nat.mul_succ _ _
    have fresh' : ∀ k, dout * (j + 1) ≤ k → body (din * j) (dout * j) mem k = orig k := fun k after => by
      rw [stores j mem k fresh, if_neg (by omega)]
      exact fresh k (by omega)
    rw [show din * j + din = din * (j + 1) from (Nat.mul_succ _ _).symm, ← next,
      ih _ (by omega) (j + 1) _ fresh' rfl, stores j mem i fresh]
    by_cases inBlock : dout * j ≤ i ∧ i < dout * j + dout
    · have index : i / dout = j := Nat.div_eq_of_lt_le (by rw [Nat.mul_comm]; exact inBlock.1)
        (by rw [Nat.succ_mul, Nat.mul_comm]; exact inBlock.2)
      rw [if_neg (by omega), if_pos inBlock, if_pos ⟨inBlock.1, by rw [index]; exact running⟩]
    · rw [if_neg inBlock]
      by_cases before : i < dout * j
      · rw [if_neg (by omega), if_neg (by omega)]
      · have after : dout * j + dout ≤ i := by omega
        simp only [next, after, show dout * j ≤ i by omega, true_and]
  · rename_i stopped
    rw [if_neg]
    rintro ⟨start, below⟩
    have := block_of_index positive start
    omega

theorem pixelLoop_apply
    (stores : ∀ j mem i, body (din * j) (dout * j) mem i =
      if dout * j ≤ i ∧ i < dout * j + dout then stream i else mem i)
    (j : Nat) (mem : Nat → UInt8) (i : Nat) :
    pixelLoop body din dout poutEnd (din * j) (dout * j) mem i =
      if dout * j ≤ i ∧ dout * (i / dout) < poutEnd then stream i else mem i :=
  pixelLoop_apply_inPlace body din dout mem (fun j mem i _ => stores j mem i) j mem (fun _ _ => rfl) i

/-- The loop of the RGB and BGR kernels: an 8-pixel macro per block, `pyuv += 2 * 8` and
`prgb += 3 * 8`. -/
def blockLoop (block : PixelMacro) (src : Nat → UInt8) (poutEnd : Nat) (dst : Nat → UInt8) :
    Nat → UInt8 :=
  pixelLoop (fun pin pout mem => block src pin mem pout) (2 * 8) (3 * 8) poutEnd 0 0 dst

def byteLoop (step : PixelMacro) (src : Nat → UInt8) (poutEnd : Nat) (dst : Nat → UInt8) :
    Nat → UInt8 :=
  pixelLoop (fun pin pout mem => step src pin mem pout) 2 1 poutEnd 0 0 dst

/-- The destination a block loop leaves when it ends at `n`: the converted byte in every 24-byte
block that starts below `n`, the old byte everywhere else. -/
def blockStores (packing : Packing) (order : ChannelOrder) (src : Nat → UInt8) (n : Nat)
    (dst : Nat → UInt8) (i : Nat) : UInt8 :=
  if 24 * (i / 24) < n then unitRun packing order src 0 i else dst i

theorem blockLoop_apply {block : PixelMacro} {packing : Packing} {order : ChannelOrder}
    (stores : StoresRun block 24 (unitRun packing order)) (src : Nat → UInt8) (poutEnd : Nat)
    (dst : Nat → UInt8) :
    blockLoop block src poutEnd dst = blockStores packing order src poutEnd dst := by
  funext i
  have blocks : ∀ j mem i, block src (2 * 8 * j) mem (((3 * 8 : ℕ+) : ℕ) * j) i =
      if ((3 * 8 : ℕ+) : ℕ) * j ≤ i ∧ i < ((3 * 8 : ℕ+) : ℕ) * j + ((3 * 8 : ℕ+) : ℕ)
      then unitRun packing order src 0 i else mem i := by
    intro j mem i
    simp only [stores src _ mem _ i, PNat.mul_coe, PNat.val_ofNat, Nat.reduceMul]
    by_cases inside : 24 * j ≤ i ∧ i < 24 * j + 24
    · have quotient : 16 * j + 4 * ((i - 24 * j) / 6) = 0 + 4 * (i / 6) := by omega
      have remainder : (i - 24 * j) % 6 = i % 6 := by omega
      simp only [inside, and_self, if_true, unitRun, quotient, remainder]
    · simp only [inside, if_false]
  simpa [blockStores] using
    pixelLoop_apply (fun pin pout mem => block src pin mem pout) (2 * 8) (3 * 8) blocks 0 dst i

def pickStores (k : Nat) (src : Nat → UInt8) (n : Nat) (dst : Nat → UInt8) (i : Nat) : UInt8 :=
  if i < n then src (2 * i + k) else dst i

theorem byteLoop_pick (k : Nat) (src : Nat → UInt8) (poutEnd : Nat) (dst : Nat → UInt8) :
    byteLoop (pick k) src poutEnd dst = pickStores k src poutEnd dst := by
  funext i
  have steps : ∀ j mem i, pick k src (2 * j) mem (((1 : ℕ+) : ℕ) * j) i =
      if ((1 : ℕ+) : ℕ) * j ≤ i ∧ i < ((1 : ℕ+) : ℕ) * j + ((1 : ℕ+) : ℕ)
      then src (2 * i + k) else mem i := by
    intro j mem i
    rw [pick_stores k]
    by_cases inside : j = i
    · subst inside; simp
    · rw [if_neg (by simp; omega), if_neg (by simp; omega)]
  simpa [pickStores] using pixelLoop_apply (fun pin pout mem => pick k src pin mem pout) 2 1 steps 0 dst i

end UvcFrame
