import Mathlib.Data.Int.ModEq
import UvcFrame.Lifecycle

namespace UvcFrame

/-- `(int) x` for a `uint32_t` `x`: the value modulo `2^32` in `[-2^31, 2^31)`, as GCC converts it. -/
def cInt (x : UInt32) : Int :=
  if x.toNat < 2 ^ 31 then x.toNat else x.toNat - 2 ^ 32

theorem cInt_modEq (x : UInt32) : cInt x ≡ x.toNat [ZMOD 2 ^ 32] := by
  unfold cInt Int.ModEq
  have : x.toNat < 2 ^ 32 := x.val.isLt
  split <;> omega

/-- `a * b` in `int`: `none` when the product leaves the `int` range, an overflow C leaves
undefined. -/
def intMul (a b : Int) : Option Int :=
  if -2 ^ 31 ≤ a * b ∧ a * b < 2 ^ 31 then some (a * b) else none

def rgbBytesInt (width height : Int) : Option Int :=
  (intMul width height).bind fun pixels => intMul pixels 3

theorem rgbBytesInt_eq_some {width height n : Int} (product : rgbBytesInt width height = some n) :
    n = width * height * 3 ∧ n < 2 ^ 31 := by
  unfold rgbBytesInt intMul at product
  split at product
  · simp only [Option.some_bind] at product
    split at product
    · cases product
      exact ⟨rfl, by omega⟩
    · cases product
  · cases product

/-- Where the `int` product of the converted width and height is defined and not negative, it is
the `uint32_t` one: both are `width · height · 3` modulo `2^32`. -/
theorem rgbBytesInt_cInt {w h : UInt32} {n : Int} (product : rgbBytesInt (cInt w) (cInt h) = some n)
    (nonneg : 0 ≤ n) : n = ((w * h * 3).toNat : Int) := by
  obtain ⟨computed, below⟩ := rgbBytesInt_eq_some product
  have congruent : n ≡ w.toNat * h.toNat * 3 [ZMOD 2 ^ 32] :=
    computed ▸ ((cInt_modEq w).mul (cInt_modEq h)).mul_right 3
  unfold Int.ModEq at congruent
  rw [Int.emod_eq_of_lt nonneg (below.trans (by decide))] at congruent
  rw [congruent, rgbBytes_toNat]
  norm_cast

theorem rgbBytesInt_of_fits {w h : UInt32} (fits : w.toNat * h.toNat * 3 < 2 ^ 31) :
    rgbBytesInt (cInt w) (cInt h) = some ((w.toNat * h.toNat * 3 : Nat) : Int) := by
  have exact : ∀ x : UInt32, x.toNat < 2 ^ 31 → cInt x = x.toNat := fun x small => if_pos small
  by_cases empty : w.toNat = 0 ∨ h.toNat = 0
  · rcases empty with empty | empty
    · simp [rgbBytesInt, intMul, exact w (by omega), empty]
    · simp [rgbBytesInt, intMul, exact h (by omega), empty]
  · have wide : w.toNat ≤ w.toNat * h.toNat := Nat.le_mul_of_pos_right _ (by omega)
    have tall : h.toNat ≤ w.toNat * h.toNat := Nat.le_mul_of_pos_left _ (by omega)
    simp only [rgbBytesInt, intMul, exact w (by omega), exact h (by omega)]
    rw [if_pos (by constructor <;> push_cast <;> omega), Option.some_bind,
      if_pos (by constructor <;> push_cast <;> omega)]
    norm_cast

def swapRedBlue (data : Nat → UInt8) (i : Nat) : Nat → UInt8 :=
  Function.update (Function.update data i (data (i + 2))) (i + 2) (data i)

/-- `bgr_to_rgb(data, width, height)` of the demos: `for (int i = 0; i < width * height * 3;
i += 3)` the swap at `i`. The pointer `data` with its new bytes; `none` when the `int` product
overflows or the loop runs through a NULL `data`. -/
def bgrToRgb (data : Option Block) (width height : Int) : Option (Option Block) :=
  (rgbBytesInt width height).bind fun n =>
    if n ≤ 0 then some data
    else data.map fun block =>
      some { block with bytes := pixelLoop (fun _ i bytes => swapRedBlue bytes i) 0 3 n.toNat 0 0 block.bytes }

/-- The bytes `bgr_to_rgb`'s loop leaves when it ends at `n`: in every pixel that starts below `n`,
byte `r` holds what byte `2 - r` held. -/
def redBlueSwapped (n : Nat) (data : Nat → UInt8) (i : Nat) : UInt8 :=
  if 3 * (i / 3) < n then data (3 * (i / 3) + (2 - i % 3)) else data i

theorem swapLoop_apply (n : Nat) (data : Nat → UInt8) :
    pixelLoop (fun _ i bytes => swapRedBlue bytes i) 0 3 n 0 0 data = redBlueSwapped n data := by
  funext i
  have swaps : ∀ (j : Nat) mem i, (∀ k, ((3 : ℕ+) : ℕ) * j ≤ k → mem k = data k) →
      swapRedBlue mem (((3 : ℕ+) : ℕ) * j) i =
        if ((3 : ℕ+) : ℕ) * j ≤ i ∧ i < ((3 : ℕ+) : ℕ) * j + ((3 : ℕ+) : ℕ)
        then data (3 * (i / 3) + (2 - i % 3)) else mem i := by
    intro j mem i fresh
    simp only [PNat.val_ofNat] at fresh ⊢
    simp only [swapRedBlue, Function.update_apply]
    by_cases inside : 3 * j ≤ i ∧ i < 3 * j + 3
    · rw [if_pos inside]
      obtain rfl | rfl | rfl : i = 3 * j ∨ i = 3 * j + 1 ∨ i = 3 * j + 2 := by omega
      · rw [if_neg (by omega), if_pos rfl, fresh _ (by omega)]
        congr 1
        omega
      · rw [if_neg (by omega), if_neg (by omega), fresh _ (by omega)]
        congr 1
        omega
      · rw [if_pos rfl, fresh _ (by omega)]
        congr 1
        omega
    · rw [if_neg inside, if_neg (by omega), if_neg (by omega)]
  simpa [redBlueSwapped] using
    pixelLoop_apply_inPlace (fun _ i bytes => swapRedBlue bytes i) 0 3 data swaps 0 data (fun _ _ => rfl) i

@[simp] theorem redBlueSwapped_zero (data : Nat → UInt8) : redBlueSwapped 0 data = data := by
  funext i
  simp [redBlueSwapped]

theorem bgrToRgb_some {block : Block} {width height : Int} {n : Nat}
    (product : rgbBytesInt width height = some (n : Int)) :
    bgrToRgb (some block) width height = some (some { block with bytes := redBlueSwapped n block.bytes }) := by
  rw [bgrToRgb, product, Option.some_bind]
  split
  · rename_i empty
    rw [show n = 0 by omega, redBlueSwapped_zero]
  · rw [Option.map_some', swapLoop_apply, Int.toNat_ofNat]

theorem bgrToRgb_eq_some {data data' : Option Block} {width height : Int}
    (swapped : bgrToRgb data width height = some data') :
    data' = data ∨ ∃ n block, rgbBytesInt width height = some n ∧ 0 < n ∧ data = some block ∧
      data' = some { block with bytes := redBlueSwapped n.toNat block.bytes } := by
  unfold bgrToRgb at swapped
  obtain ⟨n, product, swapped⟩ := Option.bind_eq_some.mp swapped
  split at swapped
  · exact .inl (Option.some.inj swapped).symm
  · obtain ⟨block, rfl, rfl⟩ := Option.map_eq_some'.mp swapped
    exact .inr ⟨n, block, product, by omega, rfl, by rw [swapLoop_apply]⟩

theorem redBlueSwapped_twice (n : Nat) (data : Nat → UInt8) :
    redBlueSwapped n (redBlueSwapped n data) = data := by
  funext i
  have mirror : 3 * ((3 * (i / 3) + (2 - i % 3)) / 3) = 3 * (i / 3) := by omega
  have back : 3 * (i / 3) + (2 - (3 * (i / 3) + (2 - i % 3)) % 3) = i := by omega
  simp only [redBlueSwapped]
  split
  · rw [mirror, if_pos ‹_›, back]
  · rfl

/-- `bgr_to_rgb` undoes itself: called again with the same width and height on the buffer a call
that returned left, it returns the buffer as it was before the first call. -/
theorem bgr_to_rgb_undoes_itself {data data' : Option Block} {width height : Int}
    (swapped : bgrToRgb data width height = some data') : bgrToRgb data' width height = some data := by
  rcases bgrToRgb_eq_some swapped with rfl | ⟨n, block, product, positive, rfl, rfl⟩
  · exact swapped
  · rw [← Int.toNat_of_nonneg positive.le] at product
    rw [bgrToRgb_some product, redBlueSwapped_twice]

theorem counting_pixels_swap_back :
    ∃ data', bgrToRgb (some ⟨2, 6, fun i => UInt8.ofNat i⟩) 2 1 = some data' ∧
      bgrToRgb data' 2 1 = some (some ⟨2, 6, fun i => UInt8.ofNat i⟩) :=
  have swapped : bgrToRgb (some ⟨2, 6, fun i => UInt8.ofNat i⟩) 2 1 = some _ := rfl
  ⟨_, swapped, bgr_to_rgb_undoes_itself swapped⟩

theorem unitRun_swapped (packing : Packing) (src : Nat → UInt8) (i : Nat) :
    unitRun packing .bgr src 0 (3 * (i / 3) + (2 - i % 3)) = unitRun packing .rgb src 0 i := by
  obtain ⟨k, r, below, rfl⟩ : ∃ k r, r < 6 ∧ i = 6 * k + r :=
    ⟨i / 6, i % 6, Nat.mod_lt _ (by decide), (Nat.div_add_mod i 6).symm⟩
  have swapped : 3 * ((6 * k + r) / 3) + (2 - (6 * k + r) % 3) =
      6 * k + (if r < 3 then 2 - r else 8 - r) := by
    split <;> omega
  rw [swapped, unitRun_at _ _ _ (by split <;> omega), unitRun_at _ _ _ below]
  obtain rfl | rfl | rfl | rfl | rfl | rfl : r = 0 ∨ r = 1 ∨ r = 2 ∨ r = 3 ∨ r = 4 ∨ r = 5 := by
    omega
  all_goals simp [unitByte, ChannelOrder.arrange]

/-- `bgr_to_rgb` turns what `uvc_uyvy2bgr` writes into what `uvc_uyvy2rgb` writes from the same
source into the same destination, byte for byte over the `3 · width · height` bytes of the
image, for every image of fewer than `2^31` bytes, where its `int` product is defined. -/
theorem uyvy_bgr_swapped_is_rgb {alloc : Alloc} {input out bgr : Frame} {src : Block}
    (present : input.data = some src)
    (converted : uvcUyvy2bgr alloc input out = some (.success, bgr))
    (fits : input.width.toNat * input.height.toNat * 3 < 2 ^ 31) :
    ∃ rgb d d', uvcUyvy2rgb alloc input out = some (.success, rgb) ∧ rgb.data = some d ∧
      bgrToRgb bgr.data (cInt bgr.width) (cInt bgr.height) = some (some d') ∧
      d'.address = d.address ∧ d'.size = d.size ∧
      ∀ i < input.width.toNat * input.height.toNat * 3, d'.bytes i = d.bytes i := by
  rcases convertFrame_eq_some converted with ⟨failed, -⟩ | ⟨failed, -⟩ |
      ⟨-, format, ensured, -, sized, -, -⟩
  · cases failed
  · cases failed
  obtain ⟨dst, buffer⟩ := Option.isSome_iff_exists.mp (uvcEnsureFrameSize_success sized).1
  have need : input.rgbBytes = input.width.toNat * input.height.toNat * 3 := by
    rw [Frame.rgbBytes, rgbBytes_toNat, Nat.mod_eq_of_lt (by omega)]
  have room : input.width.toNat * input.height.toNat * 3 ≤ ensured.dataBytes :=
    need ▸ (uvcEnsureFrameSize_success sized).2.1
  rw [uvcUyvy2bgr, blockKernel_bytes .bgr Frame.rgbBytes Frame.rgbStep iuyvy2bgr8_stores format sized present
    buffer] at converted
  cases converted
  refine ⟨_, _, _, blockKernel_bytes .rgb Frame.rgbBytes Frame.rgbStep iuyvy2rgb8_stores format sized
    present buffer, rfl, bgrToRgb_some (rgbBytesInt_of_fits fits), rfl, rfl, fun i below => ?_⟩
  have stored : ∀ j < input.width.toNat * input.height.toNat * 3, 24 * (j / 24) < ensured.dataBytes :=
    fun j below => by omega
  simp only [redBlueSwapped, blockStores, Frame.convertedFrom_width, Frame.convertedFrom_height]
  rw [if_pos (by omega), if_pos (stored _ (by omega)), if_pos (stored i below)]
  exact unitRun_swapped .uyvy src.bytes i

def uyvyStrip : Frame := { greyStrip with frameFormat := .uyvy }

theorem uyvy_strip_swaps_to_rgb :
    ∃ bgr, uvcUyvy2bgr granting uyvyStrip zeroStrip = some (.success, bgr) ∧
      ∃ rgb d d', uvcUyvy2rgb granting uyvyStrip zeroStrip = some (.success, rgb) ∧ rgb.data = some d ∧
        bgrToRgb bgr.data (cInt bgr.width) (cInt bgr.height) = some (some d') ∧
        d'.address = d.address ∧ d'.size = d.size ∧
        ∀ i < uyvyStrip.width.toNat * uyvyStrip.height.toNat * 3, d'.bytes i = d.bytes i :=
  have present : uyvyStrip.data = some greyBlock := rfl
  have converted : uvcUyvy2bgr granting uyvyStrip zeroStrip = some (.success, _) := rfl
  ⟨_, converted, uyvy_bgr_swapped_is_rgb present converted (by decide)⟩

theorem uvcAny2bgr_header {alloc : Alloc} {input out out' : Frame} (format : input.frameFormat ≠ .bgr)
    (converted : uvcAny2bgr alloc input out = some (.success, out')) :
    input.rgbBytes ≤ out'.dataBytes ∧ out'.width = input.width ∧ out'.height = input.height := by
  unfold uvcAny2bgr at converted
  split at converted
  · exact (uvcYuyv2bgr_header converted).imp_right fun header => ⟨header.1, header.2.1⟩
  · exact (convertFrame_header converted).imp_right fun header => ⟨header.1, header.2.1⟩
  · contradiction
  · cases converted

/-- After a call of `uvc_any2bgr` that returns `UVC_SUCCESS` from a source that is not already
BGR, into a destination whose `data` is NULL or exactly `data_bytes` long, as the frames
`uvc_allocate_frame` returns are, `bgr_to_rgb(bgr->data, bgr->width, bgr->height)` writes only
inside the buffer the call left, whenever its `int` arithmetic is defined. -/
theorem callback_swap_stays_in_buffer {alloc : Alloc} {frame bgr bgr' : Frame} {block : Block}
    {data : Option Block} (format : frame.frameFormat ≠ .bgr) (exact : bgr.DataExact)
    (converted : uvcAny2bgr alloc frame bgr = some (.success, bgr')) (buffer : bgr'.data = some block)
    (swapped : bgrToRgb bgr'.data (cInt bgr'.width) (cInt bgr'.height) = some data) :
    ∃ block', data = some block' ∧ block'.address = block.address ∧ block'.size = block.size ∧
      ∀ i, block.size ≤ i → block'.bytes i = block.bytes i := by
  obtain ⟨fits, width, height⟩ := uvcAny2bgr_header format converted
  have sized : block.size = bgr'.dataBytes := by
    rcases (uvcAny2bgr_outcome converted).dataExact exact with absent | sized
    · simp [buffer] at absent
    · simpa [buffer] using sized
  rw [buffer] at swapped
  rcases bgrToRgb_eq_some swapped with rfl | ⟨n, block', product, positive, found, rfl⟩
  · exact ⟨block, rfl, rfl, rfl, fun _ _ => rfl⟩
  cases found
  have bytes : n = frame.rgbBytes := by
    rw [rgbBytesInt_cInt product positive.le, width, height]
    rfl
  have three : (3 : Int) ∣ n := by
    obtain ⟨computed, -⟩ := rgbBytesInt_eq_some product
    exact computed ▸ dvd_mul_left 3 _
  refine ⟨_, rfl, rfl, rfl, fun i outside => ?_⟩
  show redBlueSwapped n.toNat block.bytes i = block.bytes i
  rw [redBlueSwapped, if_neg (by omega)]

theorem grey_strip_swap_stays_in_buffer :
    ∃ bgr' block data, uvcAny2bgr granting greyStrip zeroStrip = some (.success, bgr') ∧
      bgr'.data = some block ∧ bgrToRgb bgr'.data (cInt bgr'.width) (cInt bgr'.height) = some data ∧
      ∃ block', data = some block' ∧ block'.address = block.address ∧ block'.size = block.size ∧
        ∀ i, block.size ≤ i → block'.bytes i = block.bytes i :=
  have converted : uvcAny2bgr granting greyStrip zeroStrip = some (.success, _) := rfl
  have buffer : zeroStrip.data = some ⟨2, 24, fun _ => 0⟩ := rfl
  have swapped : bgrToRgb zeroStrip.data (cInt 8) (cInt 1) = some _ := rfl
  have exact : zeroStrip.DataExact := .inr rfl
  ⟨_, _, _, converted, buffer, swapped,
    callback_swap_stays_in_buffer (by decide) exact converted buffer swapped⟩

/-- The callback `cb` of src/unnamed/part_000 up to its `save_bgr_to_jpeg`: the frame whose data
it saves. It allocates `bgr = uvc_allocate_frame(frame->width * frame->height * 3)`, whose two
`malloc`s `granted` and `grant` answer, and returns at once when that is NULL (`some none`). For
a YUYV frame it calls `uvc_any2bgr(frame, bgr)`, frees `bgr` and returns when that fails, and
calls `bgr_to_rgb(bgr->data, bgr->width, bgr->height)` when it succeeds. -/
def cb (granted : Bool) (grant : Option Grant) (alloc : Alloc) (frame : Frame) : Option (Option Frame) :=
  match uvcAllocateFrame granted grant frame.rgbBytes with
  | none => some none
  | some bgr =>
      match frame.frameFormat with
      | .yuyv => (uvcAny2bgr alloc frame bgr).bind fun (ret, bgr) =>
          if ret ≠ .success then some none
          else (bgrToRgb bgr.data (cInt bgr.width) (cInt bgr.height)).map fun data => some { bgr with data }
      | _ => some (some bgr)

/-- The frame the callback of part_000 saves depends on the camera frame's header only: as
`uvc_yuyv2bgr` runs no pixel loop, every `data` and `data_bytes` of the camera frame give the same
saved frame. -/
theorem callback_saves_no_camera_pixels (granted : Bool) (grant : Option Grant) (alloc : Alloc)
    (frame : Frame) (data : Option Block) (dataBytes : Nat) :
    cb granted grant alloc { frame with data, dataBytes } = cb granted grant alloc frame := by
  cases frame with
  | mk _ _ _ _ format => cases format <;> rfl

end UvcFrame
