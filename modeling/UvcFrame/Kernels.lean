import UvcFrame.Convert

namespace UvcFrame

def clampByte (x : Int) : UInt8 :=
  if x < 0 then 0 else if 255 < x then 255 else UInt8.ofNat x.toNat

/-- One pixel as §4.3 states it: `(sat(Y + r), sat(Y + g), sat(Y + b))` from its own luma `y`
and its pair's chroma `u` and `v`, with `r`, `g` and `b` the products `22987 (V - 128)`,
`-5636 (U - 128) - 11698 (V - 128)` and `29049 (U - 128)` floor-divided by `16384` and `sat` the
clamp to `[0, 255]`, `clampByte`. -/
def rgbPixel (y u v : UInt8) : UInt8 × UInt8 × UInt8 :=
  let r := (22987 * ((v.toNat : Int) - 128)).fdiv 16384
  let g := (-5636 * ((u.toNat : Int) - 128) - 11698 * ((v.toNat : Int) - 128)).fdiv 16384
  let b := (29049 * ((u.toNat : Int) - 128)).fdiv 16384
  (clampByte (y.toNat + r), clampByte (y.toNat + g), clampByte (y.toNat + b))

def bgrPixel (y u v : UInt8) : UInt8 × UInt8 × UInt8 :=
  ((rgbPixel y u v).2.2, (rgbPixel y u v).2.1, (rgbPixel y u v).1)

theorem sat_eq_clampByte (i : Int) : sat i = clampByte i := by
  apply UInt8.toNat.inj
  have clamped := sat_clamps i
  unfold clampByte
  split_ifs
  · show (sat i).toNat = 0
    omega
  · show (sat i).toNat = 255
    omega
  · show (sat i).toNat = i.toNat % 256
    omega

def pixelAt (bytes : Nat → UInt8) (i : Nat) : UInt8 × UInt8 × UInt8 :=
  (bytes i, bytes (i + 1), bytes (i + 2))

def ChannelOrder.pixel : ChannelOrder → UInt8 → UInt8 → UInt8 → UInt8 × UInt8 × UInt8
  | .rgb => rgbPixel
  | .bgr => bgrPixel

def Packing.luma (packing : Packing) (j : Nat) : Nat :=
  if j = 0 then packing.y0 else packing.y1

theorem unitRun_at (packing : Packing) (order : ChannelOrder) (src : Nat → UInt8) {k r : Nat}
    (below : r < 6) : unitRun packing order src 0 (6 * k + r) = unitByte packing order src (4 * k) r := by
  have quotient : (6 * k + r) / 6 = k := by omega
  have remainder : (6 * k + r) % 6 = r := by omega
  simp only [unitRun, quotient, remainder, Nat.zero_add]

/-- The converted units hold, at pixel `j` of pair `k`, the pixel §4.3 asks for. -/
theorem unitRun_pixel (packing : Packing) (order : ChannelOrder) (src : Nat → UInt8) {k j : Nat}
    (pixel : j < 2) :
    pixelAt (unitRun packing order src 0) (6 * k + 3 * j) =
      order.pixel (src (4 * k + packing.luma j)) (src (4 * k + packing.u)) (src (4 * k + packing.v)) := by
  rw [pixelAt, Nat.add_assoc, Nat.add_assoc, unitRun_at _ _ _ (by omega), unitRun_at _ _ _ (by omega),
    unitRun_at _ _ _ (by omega)]
  obtain rfl | rfl : j = 0 ∨ j = 1 := by omega
  all_goals cases order <;>
    simp [unitByte, Packing.luma, ChannelOrder.pixel, rgbPixel, bgrPixel, ChannelOrder.arrange,
      sat_eq_clampByte, chromaR, chromaG, chromaB, shiftRight_fourteen]

section Kernel

variable {inFormat outFormat : FrameFormat} {need step : Frame → Nat} {alloc : Alloc}
  {input out ensured : Frame} {src : Block}

/-- What a block kernel leaves in the destination: byte `i` is the converted byte when the
24-byte block that holds it starts below `out->data_bytes`, and the old byte otherwise. The
loop's extent is the destination's byte count, whatever the image size. -/
theorem blockKernel_bytes (outFormat : FrameFormat) (need step : Frame → Nat) {block : PixelMacro}
    {packing : Packing} {order : ChannelOrder} {dst : Block}
    (stores : StoresRun block 24 (unitRun packing order)) (format : input.frameFormat = inFormat)
    (sized : uvcEnsureFrameSize alloc.data out (need input) = (.success, ensured))
    (present : input.data = some src) (buffer : ensured.data = some dst) :
    convertFrame inFormat outFormat need step (blockLoop block) alloc input out =
      some (.success, { ensured.convertedFrom input outFormat (step input) with
        data := some { dst with
          bytes := blockStores packing order src.bytes ensured.dataBytes dst.bytes } }) := by
  rw [convertFrame_success outFormat need step _ format sized present buffer, blockLoop_apply stores]

theorem pickKernel_bytes (outFormat : FrameFormat) (need step : Frame → Nat) (k : Nat) {dst : Block}
    (format : input.frameFormat = inFormat)
    (sized : uvcEnsureFrameSize alloc.data out (need input) = (.success, ensured))
    (present : input.data = some src) (buffer : ensured.data = some dst) :
    convertFrame inFormat outFormat need step (byteLoop (pick k)) alloc input out =
      some (.success, { ensured.convertedFrom input outFormat (step input) with
        data := some { dst with bytes := pickStores k src.bytes ensured.dataBytes dst.bytes } }) := by
  rw [convertFrame_success outFormat need step _ format sized present buffer, byteLoop_pick]

theorem pickKernel_of_success {out' : Frame} (k : Nat) (present : input.data = some src)
    (converted : convertFrame inFormat outFormat need step (byteLoop (pick k)) alloc input out =
      some (.success, out')) :
    ∃ ensured, uvcEnsureFrameSize alloc.data out (need input) = (.success, ensured) ∧
      out'.dataBytes = ensured.dataBytes ∧
      ∀ i < ensured.dataBytes, peek out'.data i = some (src.bytes (2 * i + k)) := by
  rcases convertFrame_eq_some converted with ⟨failed, -⟩ | ⟨failed, -⟩ |
      ⟨-, format, ensured, -, sized, -⟩
  · cases failed
  · cases failed
  obtain ⟨dst, buffer⟩ := Option.isSome_iff_exists.mp (uvcEnsureFrameSize_success sized).1
  rw [pickKernel_bytes outFormat need step k format sized present buffer] at converted
  cases converted
  exact ⟨ensured, sized, rfl, fun i below => by simp [peek, pickStores, below]⟩

theorem blockKernel_pixels (outFormat : FrameFormat) (need step : Frame → Nat) {block : PixelMacro}
    {packing : Packing} {order : ChannelOrder} {n : Nat} (stores : StoresRun block 24 (unitRun packing order)) (format : input.frameFormat = inFormat)
    (sized : uvcEnsureFrameSize alloc.data out (need input) = (.success, ensured))
    (present : input.data = some src) (exact : ensured.dataBytes = 3 * n) :
    ∃ out' d, convertFrame inFormat outFormat need step (blockLoop block) alloc input out =
        some (.success, out') ∧ out'.data = some d ∧
      ∀ k < n / 2, ∀ j < 2, pixelAt d.bytes (6 * k + 3 * j) =
        order.pixel (src.bytes (4 * k + packing.luma j)) (src.bytes (4 * k + packing.u))
          (src.bytes (4 * k + packing.v)) := by
  obtain ⟨dst, buffer⟩ := Option.isSome_iff_exists.mp (uvcEnsureFrameSize_success sized).1
  refine ⟨_, _, blockKernel_bytes outFormat need step stores format sized present buffer, rfl,
    fun k pair j pixel => ?_⟩
  have written : ∀ i < 3 * n, 24 * (i / 24) < ensured.dataBytes := fun i below => by omega
  rw [← unitRun_pixel packing order src.bytes pixel]
  simp only [pixelAt, blockStores, if_pos (written _ (show 6 * k + 3 * j < 3 * n by omega)),
    if_pos (written _ (show 6 * k + 3 * j + 1 < 3 * n by omega)),
    if_pos (written _ (show 6 * k + 3 * j + 2 < 3 * n by omega))]

end Kernel

theorem Packing.yuyv_luma {j : Nat} (pixel : j < 2) : Packing.yuyv.luma j = 2 * j := by
  show (if j = 0 then 0 else 2) = 2 * j
  split <;> omega

theorem Packing.uyvy_luma {j : Nat} (pixel : j < 2) : Packing.uyvy.luma j = 1 + 2 * j := by
  show (if j = 0 then 1 else 3) = 1 + 2 * j
  split <;> omega

/-- The 8-pixel block loops of `uvc_yuyv2rgb`, `uvc_uyvy2rgb` and `uvc_uyvy2bgr` compute, for a
destination that `uvc_ensure_frame_size` leaves with `3 w h` bytes, what converting one 4-byte
unit at a time computes: pixel `j` of pair `k` from luma `Yj` and the pair's `U` and `V`. -/
theorem unrolled_kernels_convert_each_unit {alloc : Alloc} {input out ensured : Frame} {src : Block}
    (present : input.data = some src)
    (sized : uvcEnsureFrameSize alloc.data out (input.width * input.height * 3).toNat = (.success, ensured))
    (exact : ensured.dataBytes = 3 * (input.width.toNat * input.height.toNat)) :
    (input.frameFormat = .yuyv → ∃ out' d, uvcYuyv2rgb alloc input out = some (.success, out') ∧
      out'.data = some d ∧ ∀ k < input.width.toNat * input.height.toNat / 2, ∀ j < 2,
        pixelAt d.bytes (6 * k + 3 * j) =
          rgbPixel (src.bytes (4 * k + 2 * j)) (src.bytes (4 * k + 1)) (src.bytes (4 * k + 3))) ∧
    (input.frameFormat = .uyvy → ∃ out' d, uvcUyvy2rgb alloc input out = some (.success, out') ∧
      out'.data = some d ∧ ∀ k < input.width.toNat * input.height.toNat / 2, ∀ j < 2,
        pixelAt d.bytes (6 * k + 3 * j) =
          rgbPixel (src.bytes (4 * k + 1 + 2 * j)) (src.bytes (4 * k)) (src.bytes (4 * k + 2))) ∧
    (input.frameFormat = .uyvy → ∃ out' d, uvcUyvy2bgr alloc input out = some (.success, out') ∧
      out'.data = some d ∧ ∀ k < input.width.toNat * input.height.toNat / 2, ∀ j < 2,
        pixelAt d.bytes (6 * k + 3 * j) =
          bgrPixel (src.bytes (4 * k + 1 + 2 * j)) (src.bytes (4 * k)) (src.bytes (4 * k + 2))) := by
  refine ⟨fun format => ?_, fun format => ?_, fun format => ?_⟩
  · obtain ⟨out', d, converted, data, pixels⟩ :=
      blockKernel_pixels .rgb Frame.rgbBytes Frame.rgbStep iyuyv2rgb8_stores format sized present exact
    refine ⟨out', d, converted, data, fun k pair j pixel => ?_⟩
    simpa only [Packing.yuyv_luma pixel, ChannelOrder.pixel] using pixels k pair j pixel
  · obtain ⟨out', d, converted, data, pixels⟩ :=
      blockKernel_pixels .rgb Frame.rgbBytes Frame.rgbStep iuyvy2rgb8_stores format sized present exact
    refine ⟨out', d, converted, data, fun k pair j pixel => ?_⟩
    simpa only [Packing.uyvy_luma pixel, ChannelOrder.pixel, Nat.add_assoc] using pixels k pair j pixel
  · obtain ⟨out', d, converted, data, pixels⟩ :=
      blockKernel_pixels .bgr Frame.rgbBytes Frame.rgbStep iuyvy2bgr8_stores format sized present exact
    refine ⟨out', d, converted, data, fun k pair j pixel => ?_⟩
    simpa only [Packing.uyvy_luma pixel, ChannelOrder.pixel, Nat.add_assoc] using pixels k pair j pixel

/-- The bytes of a YUYV strip of the mid-grey of §8's end-to-end scenario: `Y = 235`, `U = V = 128`. -/
def greyBlock : Block := ⟨1, 16, fun i => if i % 2 = 0 then 235 else 128⟩

def greyStrip : Frame :=
  { Frame.zeroed with width := 8, height := 1, frameFormat := .yuyv, dataBytes := 16, data := some greyBlock }

def zeroStrip : Frame :=
  { Frame.zeroed with libraryOwnsData := true, dataBytes := 24, data := some ⟨2, 24, fun _ => 0⟩ }

theorem grey_strip_converts_to_grey :
    greyStrip.data = some greyBlock ∧
      uvcEnsureFrameSize granting.data zeroStrip (greyStrip.width * greyStrip.height * 3).toNat =
        (.success, zeroStrip) ∧
      zeroStrip.dataBytes = 3 * (greyStrip.width.toNat * greyStrip.height.toNat) ∧
      greyStrip.frameFormat = .yuyv ∧
      ∃ out' d, uvcYuyv2rgb granting greyStrip zeroStrip = some (.success, out') ∧ out'.data = some d ∧
        ∀ k < greyStrip.width.toNat * greyStrip.height.toNat / 2, ∀ j < 2,
          pixelAt d.bytes (6 * k + 3 * j) = rgbPixel (greyBlock.bytes (4 * k + 2 * j))
            (greyBlock.bytes (4 * k + 1)) (greyBlock.bytes (4 * k + 3)) :=
  have present : greyStrip.data = some greyBlock := rfl
  have sized : uvcEnsureFrameSize granting.data zeroStrip (greyStrip.width * greyStrip.height * 3).toNat =
      (.success, zeroStrip) := rfl
  have exact : zeroStrip.dataBytes = 3 * (greyStrip.width.toNat * greyStrip.height.toNat) := rfl
  have format : greyStrip.frameFormat = .yuyv := rfl
  ⟨present, sized, exact, format, (unrolled_kernels_convert_each_unit present sized exact).1 format⟩

example : rgbPixel 235 128 128 = (235, 235, 235) := by decide

/-- The block kernels of `uvc_yuyv2rgb`, `uvc_uyvy2rgb` and `uvc_uyvy2bgr`, on a source with a
buffer and a destination `uvc_ensure_frame_size` sizes, return `UVC_SUCCESS` with converted bytes
in every 24-byte block that starts below `out->data_bytes` and the old bytes everywhere else, so
they store inside `out->data_bytes` only when it is a multiple of 24. -/
theorem block_kernels_store_whole_blocks {alloc : Alloc} {input out ensured : Frame} {src : Block}
    (present : input.data = some src)
    (sized : uvcEnsureFrameSize alloc.data out (input.width * input.height * 3).toNat =
      (.success, ensured)) :
    ∃ dst, ensured.data = some dst ∧
      (input.frameFormat = .yuyv → uvcYuyv2rgb alloc input out =
        some (.success, { ensured.convertedFrom input .rgb (input.width * 3).toNat with
          data := some { dst with
            bytes := blockStores .yuyv .rgb src.bytes ensured.dataBytes dst.bytes } })) ∧
      (input.frameFormat = .uyvy → uvcUyvy2rgb alloc input out =
        some (.success, { ensured.convertedFrom input .rgb (input.width * 3).toNat with
          data := some { dst with
            bytes := blockStores .uyvy .rgb src.bytes ensured.dataBytes dst.bytes } })) ∧
      (input.frameFormat = .uyvy → uvcUyvy2bgr alloc input out =
        some (.success, { ensured.convertedFrom input .bgr (input.width * 3).toNat with
          data := some { dst with
            bytes := blockStores .uyvy .bgr src.bytes ensured.dataBytes dst.bytes } })) := by
  obtain ⟨dst, buffer⟩ := Option.isSome_iff_exists.mp (uvcEnsureFrameSize_success sized).1
  exact ⟨dst, buffer,
    fun format => blockKernel_bytes .rgb Frame.rgbBytes Frame.rgbStep iyuyv2rgb8_stores format sized
      present buffer,
    fun format => blockKernel_bytes .rgb Frame.rgbBytes Frame.rgbStep iuyvy2rgb8_stores format sized
      present buffer,
    fun format => blockKernel_bytes .bgr Frame.rgbBytes Frame.rgbStep iuyvy2bgr8_stores format sized
      present buffer⟩

def whitePixel : Frame :=
  { Frame.zeroed with
    width := 1, height := 1, frameFormat := .yuyv, dataBytes := 2, data := some ⟨1, 2, fun _ => 255⟩ }

def threeZeroBytes : Frame :=
  { Frame.zeroed with libraryOwnsData := true, dataBytes := 3, data := some ⟨2, 3, fun _ => 0⟩ }

theorem white_pixel_stores_whole_block :
    whitePixel.data = some ⟨1, 2, fun _ => 255⟩ ∧
      uvcEnsureFrameSize granting.data threeZeroBytes (whitePixel.width * whitePixel.height * 3).toNat =
        (.success, threeZeroBytes) ∧
      ∃ dst, threeZeroBytes.data = some dst ∧
        (whitePixel.frameFormat = .yuyv → uvcYuyv2rgb granting whitePixel threeZeroBytes =
          some (.success, { threeZeroBytes.convertedFrom whitePixel .rgb (whitePixel.width * 3).toNat with
            data := some { dst with
              bytes := blockStores .yuyv .rgb (fun _ => 255) threeZeroBytes.dataBytes dst.bytes } })) ∧
        (whitePixel.frameFormat = .uyvy → uvcUyvy2rgb granting whitePixel threeZeroBytes =
          some (.success, { threeZeroBytes.convertedFrom whitePixel .rgb (whitePixel.width * 3).toNat with
            data := some { dst with
              bytes := blockStores .uyvy .rgb (fun _ => 255) threeZeroBytes.dataBytes dst.bytes } })) ∧
        (whitePixel.frameFormat = .uyvy → uvcUyvy2bgr granting whitePixel threeZeroBytes =
          some (.success, { threeZeroBytes.convertedFrom whitePixel .bgr (whitePixel.width * 3).toNat with
            data := some { dst with
              bytes := blockStores .uyvy .bgr (fun _ => 255) threeZeroBytes.dataBytes dst.bytes } })) :=
  have present : whitePixel.data = some ⟨1, 2, fun _ => 255⟩ := rfl
  have sized : uvcEnsureFrameSize granting.data threeZeroBytes
      (whitePixel.width * whitePixel.height * 3).toNat = (.success, threeZeroBytes) := rfl
  ⟨present, sized, (block_kernels_store_whole_blocks present sized :)⟩

/-- The block kernels overrun: a 1×1 frame asks for 3 bytes, and the one 8-pixel block of the
loop stores 24. -/
theorem yuyv2rgb_one_pixel_overruns :
    ∃ out' d, uvcYuyv2rgb granting whitePixel threeZeroBytes = some (.success, out') ∧
      out'.dataBytes = 3 ∧ out'.data = some d ∧ ∀ i < 24, 3 ≤ i → d.bytes i ≠ 0 := by
  have format : whitePixel.frameFormat = .yuyv := rfl
  have sized : uvcEnsureFrameSize granting.data threeZeroBytes whitePixel.rgbBytes =
      (.success, threeZeroBytes) := rfl
  have present : whitePixel.data = some ⟨1, 2, fun _ => 255⟩ := rfl
  have buffer : threeZeroBytes.data = some ⟨2, 3, fun _ => 0⟩ := rfl
  refine ⟨_, _, blockKernel_bytes .rgb Frame.rgbBytes Frame.rgbStep iyuyv2rgb8_stores format sized
    present buffer, rfl, rfl, ?_⟩
  decide

/-- On the grey strip, `uvc_yuyv2bgr` leaves a zeroed destination black, where the BGR bytes of
the strip are grey. -/
theorem yuyv2bgr_leaves_grey_strip_black :
    ∃ out' d, uvcYuyv2bgr granting greyStrip zeroStrip = some (.success, out') ∧ out'.data = some d ∧
      ∀ k < 4, ∀ j < 2, pixelAt d.bytes (6 * k + 3 * j) = (0, 0, 0) ∧
        bgrPixel (greyBlock.bytes (4 * k + 2 * j)) (greyBlock.bytes (4 * k + 1))
          (greyBlock.bytes (4 * k + 3)) = (235, 235, 235) :=
  ⟨_, _, rfl, rfl, by decide⟩

/-- `uvc_yuyv2y` and `uvc_yuyv2uv` that return `UVC_SUCCESS` hold, at every byte `i` below
`out->data_bytes`, the source's byte `2 i` and `2 i + 1`: the loop runs over the destination's
byte count, not over the image. -/
theorem extractors_copy_every_other_byte {alloc : Alloc} {input out : Frame} {src : Block}
    (present : input.data = some src) :
    (∀ out', uvcYuyv2y alloc input out = some (.success, out') →
      ∀ i < out'.dataBytes, peek out'.data i = some (src.bytes (2 * i))) ∧
    (∀ out', uvcYuyv2uv alloc input out = some (.success, out') →
      ∀ i < out'.dataBytes, peek out'.data i = some (src.bytes (2 * i + 1))) := by
  refine ⟨fun out' converted i below => ?_, fun out' converted i below => ?_⟩
  · obtain ⟨_, -, dataBytes, plane⟩ := pickKernel_of_success 0 present converted
    exact plane i (dataBytes ▸ below)
  · obtain ⟨_, -, dataBytes, plane⟩ := pickKernel_of_success 1 present converted
    exact plane i (dataBytes ▸ below)

def countingBlock : Block := ⟨1, 2, fun i => UInt8.ofNat (i + 10)⟩

def countingPixel : Frame :=
  { Frame.zeroed with
    width := 1, height := 1, frameFormat := .yuyv, dataBytes := 2, data := some countingBlock }

def borrowedTwoBytes : Frame :=
  { Frame.zeroed with dataBytes := 2, data := some ⟨2, 2, fun _ => 0⟩ }

theorem counting_pixel_planes :
    countingPixel.data = some countingBlock ∧
      (∀ out', uvcYuyv2y granting countingPixel borrowedTwoBytes = some (.success, out') →
        ∀ i < out'.dataBytes, peek out'.data i = some (countingBlock.bytes (2 * i))) ∧
      (∀ out', uvcYuyv2uv granting countingPixel borrowedTwoBytes = some (.success, out') →
        ∀ i < out'.dataBytes, peek out'.data i = some (countingBlock.bytes (2 * i + 1))) :=
  have present : countingPixel.data = some countingBlock := rfl
  ⟨present, extractors_copy_every_other_byte present⟩

/-- The luma extractor runs to the end of a borrowed buffer larger than the image: byte 1, past
the one byte a 1×1 luma plane needs, takes byte 2 of the source, past its two bytes. -/
theorem yuyv2y_borrowed_overruns :
    ∃ out' d, uvcYuyv2y granting countingPixel borrowedTwoBytes = some (.success, out') ∧
      out'.data = some d ∧ d.bytes 1 = 12 ∧ peek countingPixel.data 2 = some 12 ∧
      peek borrowedTwoBytes.data 1 = some 0 := by
  have format : countingPixel.frameFormat = .yuyv := rfl
  have sized : uvcEnsureFrameSize granting.data borrowedTwoBytes countingPixel.planeBytes =
      (.success, borrowedTwoBytes) := rfl
  have present : countingPixel.data = some countingBlock := rfl
  have buffer : borrowedTwoBytes.data = some ⟨2, 2, fun _ => 0⟩ := rfl
  refine ⟨_, _, pickKernel_bytes .gray8 Frame.planeBytes Frame.planeStep 0 format sized present
    buffer, rfl, ?_⟩
  decide

theorem toNat_mul_uint32 (a b : UInt32) : (a * b).toNat = a.toNat * b.toNat % 2 ^ 32 := rfl

theorem rgbBytes_toNat (w h : UInt32) : (w * h * 3).toNat = w.toNat * h.toNat * 3 % 2 ^ 32 := by
  rw [toNat_mul_uint32, toNat_mul_uint32, Nat.mod_mul_mod]
  rfl

/-- A frame consistent over the integers for `bytesPerPixel`: it has room for `width · height`
pixels and its rows are `width` pixels long. -/
def Frame.Consistent (bytesPerPixel : Nat) (frame : Frame) : Prop :=
  frame.width.toNat * frame.height.toNat * bytesPerPixel ≤ frame.dataBytes ∧
    frame.step = frame.width.toNat * bytesPerPixel

instance (bytesPerPixel : Nat) (frame : Frame) : Decidable (frame.Consistent bytesPerPixel) :=
  inferInstanceAs (Decidable (_ ∧ _))

/-- When `width · 3` and `width · height · 3` stay below `2^32`, every kernel that returns
`UVC_SUCCESS` leaves a destination consistent over the integers, with 3 bytes a pixel for
RGB and BGR and 1 for the planes. -/
theorem kernels_consistent_below_wrap {alloc : Alloc} {input out : Frame}
    (rowFits : input.width.toNat * 3 < 2 ^ 32)
    (imageFits : input.width.toNat * input.height.toNat * 3 < 2 ^ 32) :
    (∀ out', uvcYuyv2rgb alloc input out = some (.success, out') → out'.Consistent 3) ∧
    (∀ out', uvcYuyv2bgr alloc input out = some (.success, out') → out'.Consistent 3) ∧
    (∀ out', uvcUyvy2rgb alloc input out = some (.success, out') → out'.Consistent 3) ∧
    (∀ out', uvcUyvy2bgr alloc input out = some (.success, out') → out'.Consistent 3) ∧
    (∀ out', uvcYuyv2y alloc input out = some (.success, out') → out'.Consistent 1) ∧
    (∀ out', uvcYuyv2uv alloc input out = some (.success, out') → out'.Consistent 1) := by
  have pixels : input.planeBytes = input.width.toNat * input.height.toNat :=
    (toNat_mul_uint32 _ _).trans (Nat.mod_eq_of_lt (by omega))
  have bytes : input.rgbBytes = input.width.toNat * input.height.toNat * 3 := by
    show (input.width * input.height * 3).toNat = _
    rw [toNat_mul_uint32, show (input.width * input.height).toNat = _ from pixels]
    exact Nat.mod_eq_of_lt imageFits
  have row : input.rgbStep = input.width.toNat * 3 :=
    (toNat_mul_uint32 _ _).trans (Nat.mod_eq_of_lt rowFits)
  have rgb : ∀ {out' : Frame} {format : FrameFormat}, input.rgbBytes ≤ out'.dataBytes ∧
      out'.width = input.width ∧ out'.height = input.height ∧ out'.step = input.rgbStep ∧
      out'.frameFormat = format → out'.Consistent 3 := by
    rintro out' format ⟨fits, width, height, step, -⟩
    rw [bytes] at fits
    exact ⟨by rwa [width, height], by rw [step, row, width]⟩
  have gray : ∀ {out' : Frame} {format : FrameFormat}, input.planeBytes ≤ out'.dataBytes ∧
      out'.width = input.width ∧ out'.height = input.height ∧ out'.step = input.planeStep ∧
      out'.frameFormat = format → out'.Consistent 1 := by
    rintro out' format ⟨fits, width, height, step, -⟩
    rw [pixels] at fits
    exact ⟨by rwa [width, height, Nat.mul_one], by rw [step, width, Frame.planeStep, Nat.mul_one]⟩
  exact ⟨fun _ converted => rgb (convertFrame_header converted),
    fun _ converted => rgb (uvcYuyv2bgr_header converted),
    fun _ converted => rgb (convertFrame_header converted),
    fun _ converted => rgb (convertFrame_header converted),
    fun _ converted => gray (convertFrame_header converted),
    fun _ converted => gray (convertFrame_header converted)⟩

theorem grey_strip_consistent :
    greyStrip.width.toNat * 3 < 2 ^ 32 ∧ greyStrip.width.toNat * greyStrip.height.toNat * 3 < 2 ^ 32 ∧
      (∀ out', uvcYuyv2rgb granting greyStrip zeroStrip = some (.success, out') → out'.Consistent 3) ∧
      (∀ out', uvcYuyv2bgr granting greyStrip zeroStrip = some (.success, out') → out'.Consistent 3) ∧
      (∀ out', uvcUyvy2rgb granting greyStrip zeroStrip = some (.success, out') → out'.Consistent 3) ∧
      (∀ out', uvcUyvy2bgr granting greyStrip zeroStrip = some (.success, out') → out'.Consistent 3) ∧
      (∀ out', uvcYuyv2y granting greyStrip zeroStrip = some (.success, out') → out'.Consistent 1) ∧
      (∀ out', uvcYuyv2uv granting greyStrip zeroStrip = some (.success, out') → out'.Consistent 1) :=
  have rowFits : greyStrip.width.toNat * 3 < 2 ^ 32 := by decide
  have imageFits : greyStrip.width.toNat * greyStrip.height.toNat * 3 < 2 ^ 32 := by decide
  ⟨rowFits, imageFits, kernels_consistent_below_wrap rowFits imageFits⟩

/-- A 65535×65535 YUYV frame, the largest a 16-bit frame descriptor describes. -/
def largestFrame : Frame :=
  { Frame.zeroed with
    width := 65535, height := 65535, frameFormat := .yuyv, dataBytes := 2 * 65535 * 65535,
    data := some ⟨1, 2 * 65535 * 65535, fun _ => 0⟩ }

/-- `in->width * in->height * 3` wraps modulo `2^32`: the RGB frame of the largest YUYV frame
reports a 65535×65535 image over 4294574083 bytes, not 12884508675. -/
theorem yuyv2rgb_largest_frame_size_wraps :
    ∃ out', uvcYuyv2rgb granting largestFrame emptyOwned = some (.success, out') ∧
      out'.dataBytes = 4294574083 ∧ out'.width.toNat * out'.height.toNat * 3 = 12884508675 := by
  have format : largestFrame.frameFormat = .yuyv := rfl
  have sized : uvcEnsureFrameSize granting.data emptyOwned largestFrame.rgbBytes =
      (.success, emptyOwned.resized largestFrame.rgbBytes granting.data) := rfl
  have present : largestFrame.data = some ⟨1, 2 * 65535 * 65535, fun _ => 0⟩ := rfl
  have buffer : (emptyOwned.resized largestFrame.rgbBytes granting.data).data =
      some ⟨3, largestFrame.rgbBytes, fun _ => 0⟩ := rfl
  refine ⟨_, convertFrame_success .rgb Frame.rgbBytes Frame.rgbStep (blockLoop iyuyv2rgb8) format
    sized present buffer, rfl, ?_⟩
  show (65535 : UInt32).toNat * (65535 : UInt32).toNat * 3 = 12884508675
  decide

/-- For library-owned destinations and fewer than `2^32` pixels, `uvc_yuyv2y` and `uvc_yuyv2uv`
return planes of `w h` bytes each, `Y[i] = in[2 i]` and `C[i] = in[2 i + 1]`, and interleaving
them byte by byte gives back the source's first `2 w h` bytes. -/
theorem yuyv_planes_interleave {lumaAlloc chromaAlloc : Alloc}
    {input lumaOut chromaOut luma chroma : Frame} {src : Block} (present : input.data = some src)
    (fits : input.width.toNat * input.height.toNat < 2 ^ 32)
    (lumaOwned : lumaOut.libraryOwnsData = true) (chromaOwned : chromaOut.libraryOwnsData = true)
    (lumaDone : uvcYuyv2y lumaAlloc input lumaOut = some (.success, luma))
    (chromaDone : uvcYuyv2uv chromaAlloc input chromaOut = some (.success, chroma)) :
    luma.dataBytes = input.width.toNat * input.height.toNat ∧
      chroma.dataBytes = input.width.toNat * input.height.toNat ∧
      ∀ i < 2 * (input.width.toNat * input.height.toNat),
        peek input.data i = peek (if i % 2 = 0 then luma.data else chroma.data) (i / 2) := by
  have pixels : input.planeBytes = input.width.toNat * input.height.toNat :=
    (toNat_mul_uint32 _ _).trans (Nat.mod_eq_of_lt fits)
  obtain ⟨lumaSized, lumaEnsured, lumaBytes, lumaPlane⟩ := pickKernel_of_success 0 present lumaDone
  obtain ⟨chromaSized, chromaEnsured, chromaBytes, chromaPlane⟩ :=
    pickKernel_of_success 1 present chromaDone
  have lumaCount := (uvcEnsureFrameSize_success lumaEnsured).2.2 lumaOwned
  have chromaCount := (uvcEnsureFrameSize_success chromaEnsured).2.2 chromaOwned
  simp only [pixels] at lumaCount chromaCount
  refine ⟨lumaBytes.trans lumaCount, chromaBytes.trans chromaCount, fun i below => ?_⟩
  rw [present]
  by_cases even : i % 2 = 0
  · rw [if_pos even, lumaPlane (i / 2) (by omega)]
    show some (src.bytes i) = some (src.bytes (2 * (i / 2) + 0))
    congr 2
    omega
  · rw [if_neg even, chromaPlane (i / 2) (by omega)]
    show some (src.bytes i) = some (src.bytes (2 * (i / 2) + 1))
    congr 2
    omega

theorem grey_strip_planes_interleave :
    greyStrip.data = some greyBlock ∧ greyStrip.width.toNat * greyStrip.height.toNat < 2 ^ 32 ∧
      emptyOwned.libraryOwnsData = true ∧
      ∃ luma chroma, uvcYuyv2y granting greyStrip emptyOwned = some (.success, luma) ∧
        uvcYuyv2uv granting greyStrip emptyOwned = some (.success, chroma) ∧
        luma.dataBytes = greyStrip.width.toNat * greyStrip.height.toNat ∧
        chroma.dataBytes = greyStrip.width.toNat * greyStrip.height.toNat ∧
        ∀ i < 2 * (greyStrip.width.toNat * greyStrip.height.toNat),
          peek greyStrip.data i = peek (if i % 2 = 0 then luma.data else chroma.data) (i / 2) :=
  have present : greyStrip.data = some greyBlock := rfl
  have fits : greyStrip.width.toNat * greyStrip.height.toNat < 2 ^ 32 := by decide
  have owned : emptyOwned.libraryOwnsData = true := rfl
  have luma : uvcYuyv2y granting greyStrip emptyOwned = some (.success, _) := rfl
  have chroma : uvcYuyv2uv granting greyStrip emptyOwned = some (.success, _) := rfl
  ⟨present, fits, owned, _, _, luma, chroma, yuyv_planes_interleave present fits owned owned luma chroma⟩

def wrappingFrame : Frame :=
  { Frame.zeroed with
    width := 65536, height := 65536, frameFormat := .yuyv, dataBytes := 2 * 65536 * 65536,
    data := some ⟨1, 2 * 65536 * 65536, fun _ => 0⟩ }

/-- `in->width * in->height` wraps to 0 for `2^32` pixels: both planes come out empty. -/
theorem yuyv_planes_of_wrapping_frame_are_empty :
    ∃ luma chroma, uvcYuyv2y granting wrappingFrame emptyOwned = some (.success, luma) ∧
      uvcYuyv2uv granting wrappingFrame emptyOwned = some (.success, chroma) ∧
      luma.dataBytes = 0 ∧ chroma.dataBytes = 0 ∧
      wrappingFrame.width.toNat * wrappingFrame.height.toNat = 4294967296 := by
  have format : wrappingFrame.frameFormat = .yuyv := rfl
  have sized : uvcEnsureFrameSize granting.data emptyOwned wrappingFrame.planeBytes =
      (.success, emptyOwned.resized wrappingFrame.planeBytes granting.data) := rfl
  have present : wrappingFrame.data = some ⟨1, 2 * 65536 * 65536, fun _ => 0⟩ := rfl
  have buffer : (emptyOwned.resized wrappingFrame.planeBytes granting.data).data =
      some ⟨3, wrappingFrame.planeBytes, fun _ => 0⟩ := rfl
  exact ⟨_, _, convertFrame_success .gray8 Frame.planeBytes Frame.planeStep (byteLoop iyuyv2y)
    format sized present buffer, convertFrame_success .gray8 Frame.planeBytes Frame.planeStep
    (byteLoop iyuyv2uv) format sized present buffer, rfl, rfl, rfl⟩

end UvcFrame
