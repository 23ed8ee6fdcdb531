import UvcFrame.Lifecycle

/-! # What the kernels read and where they store

A kernel's loop runs up to `out->data_bytes` and reads the source from its start, so the bytes it
touches follow from the destination's byte count: the 8-pixel RGB and BGR loops store whole
24-byte blocks and read 16 source bytes for each, the luma and chroma extractors store one byte
and read one of every two. `ReadsBelow` and `StoresInside` state the two footprints; on a
library-owned destination, whose byte count is the size the kernel asks for, the extractors stay
inside both buffers for every image, and the block kernels do when the image is whole 8-pixel
blocks and its size does not wrap.
-/

namespace UvcFrame

/-- `call` reads its source's `data` only below `bound`: a source whose buffer holds other bytes
from `bound` on gives the same result. -/
def ReadsBelow (call : Converter) (alloc : Alloc) (input out : Frame) (bound : Nat) : Prop :=
  ∀ src bytes, input.data = some src → (∀ i < bound, bytes i = src.bytes i) →
    call alloc { input with data := some { src with bytes } } out = call alloc input out

/-- A call that returns `UVC_SUCCESS` stores into its destination only inside the block that
`uvc_ensure_frame_size(out, need)` left: it returns that block, at the same address and of the
same size, with every byte from its size on as it was. -/
def StoresInside (call : Converter) (alloc : Alloc) (input out : Frame) (need : Nat) : Prop :=
  ∀ out', call alloc input out = some (.success, out') → ∃ ensured dst d,
    uvcEnsureFrameSize alloc.data out need = (.success, ensured) ∧ ensured.data = some dst ∧
    out'.data = some d ∧ d.address = dst.address ∧ d.size = dst.size ∧
    ∀ i, dst.size ≤ i → d.bytes i = dst.bytes i

variable {call : Converter} {alloc : Alloc} {input out : Frame}

theorem ReadsBelow.mono {bound bound' : Nat} (reads : ReadsBelow call alloc input out bound)
    (le : bound ≤ bound') : ReadsBelow call alloc input out bound' :=
  fun src bytes present agree => reads src bytes present fun i below => agree i (by omega)

theorem uvcEnsureFrameSize_owned_dataBytes {grant : Option Grant} {frame : Frame} {need : Nat}
    (owned : frame.libraryOwnsData = true) : (uvcEnsureFrameSize grant frame need).2.dataBytes = need := by
  rcases uvcEnsureFrameSize_eq grant frame need with ⟨kept, -, -, exact⟩ | ⟨-, resized⟩ |
      ⟨borrowed, -⟩
  · rw [kept, exact owned]
  · rw [resized]
    split <;> rfl
  · simp [owned] at borrowed

theorem transfer_stays_inside {dst : Block} {src after : Option Block} {count : Nat}
    {write : (Nat → UInt8) → (Nat → UInt8) → Nat → UInt8}
    (inside : ∀ origin i, dst.size ≤ i → write origin dst.bytes i = dst.bytes i)
    (moved : transfer (some dst) src count write = some after) :
    ∃ d, after = some d ∧ d.address = dst.address ∧ d.size = dst.size ∧
      ∀ i, dst.size ≤ i → d.bytes i = dst.bytes i := by
  rcases transfer_some moved with ⟨-, rfl⟩ | ⟨target, origin, found, -, rfl⟩
  · exact ⟨dst, rfl, rfl, rfl, fun _ _ => rfl⟩
  · cases found
    exact ⟨_, rfl, rfl, rfl, inside origin.bytes⟩

theorem uvcDuplicateFrame_stores_inside (exact : out.DataExact) :
    StoresInside uvcDuplicateFrame alloc input out input.dataBytes := by
  intro out' duplicated
  rcases uvcDuplicateFrame_eq_some duplicated with ⟨failed, -⟩ | ⟨-, ensured, data, sized, copied, metadata⟩
  · cases failed
  obtain ⟨dst, buffer, -, fits⟩ := uvcEnsureFrameSize_block exact sized
  rw [buffer] at copied
  obtain ⟨d, rfl, kept⟩ := transfer_stays_inside (fun _ i outside => if_neg (by omega)) copied
  have data' := congrArg Frame.data (copyMetadata_eq_some metadata).1
  exact ⟨ensured, dst, d, sized, buffer, data', kept⟩

theorem uvcYuyv2bgr_stores_inside (exact : out.DataExact) :
    StoresInside uvcYuyv2bgr alloc input out input.rgbBytes := by
  intro out' converted
  rcases uvcYuyv2bgr_eq_some converted with ⟨failed, -⟩ | ⟨failed, -⟩ | ⟨-, -, ensured, sized, rfl⟩
  · cases failed
  · cases failed
  obtain ⟨dst, buffer, -⟩ := uvcEnsureFrameSize_block exact sized
  exact ⟨ensured, dst, dst, sized, buffer, buffer, rfl, rfl, fun _ _ => rfl⟩

theorem unitRun_congr {packing : Packing}
    (inUnit : packing.y0 < 4 ∧ packing.u < 4 ∧ packing.y1 < 4 ∧ packing.v < 4)
    {order : ChannelOrder} {src src' : Nat → UInt8} {p r : Nat}
    (agree : ∀ j < 4, src (p + 4 * (r / 6) + j) = src' (p + 4 * (r / 6) + j)) :
    unitRun packing order src p r = unitRun packing order src' p r := by
  have luma := agree (if r % 6 < 3 then packing.y0 else packing.y1) (by split <;> omega)
  simp only [unitRun, unitByte, luma, agree _ inUnit.2.1, agree _ inUnit.2.2.2]

theorem blockStores_congr {packing : Packing}
    (inUnit : packing.y0 < 4 ∧ packing.u < 4 ∧ packing.y1 < 4 ∧ packing.v < 4)
    {order : ChannelOrder} {src src' : Nat → UInt8} {n : Nat} (dst : Nat → UInt8)
    (agree : ∀ i < 16 * ((n + 23) / 24), src i = src' i) :
    blockStores packing order src n dst = blockStores packing order src' n dst := by
  funext i
  unfold blockStores
  split
  · exact unitRun_congr inUnit fun j below => agree _ (by omega)
  · rfl

theorem pickStores_congr {k : Nat} (small : k < 2) {src src' : Nat → UInt8} {n : Nat}
    (dst : Nat → UInt8) (agree : ∀ i < 2 * n, src i = src' i) :
    pickStores k src n dst = pickStores k src' n dst := by
  funext i
  unfold pickStores
  split
  · exact agree _ (by omega)
  · rfl

section Kernel

variable {inFormat outFormat : FrameFormat} {need step : Frame → Nat} {loop : Loop}

theorem convertFrame_reads (bound : Nat → Nat) (needs : ∀ data, need { input with data } = need input)
    (steps : ∀ data, step { input with data } = step input)
    (reads : ∀ n src src' dst, (∀ i < bound n, src i = src' i) → loop src n dst = loop src' n dst) :
    ReadsBelow (convertFrame inFormat outFormat need step loop) alloc input out
      (bound (uvcEnsureFrameSize alloc.data out (need input)).2.dataBytes) := by
  intro src bytes present agree
  rcases sizing : uvcEnsureFrameSize alloc.data out (need input) with ⟨result, ensured⟩
  rw [sizing] at agree
  simp only [convertFrame, needs, steps, sizing, present, Frame.convertedFrom_data,
    Frame.convertedFrom_dataBytes]
  split_ifs
  · rfl
  · rfl
  · cases buffer : ensured.data with
    | none => rfl
    | some dst =>
        simp only [transfer, reads _ _ _ dst.bytes agree]
        rfl

theorem convertFrame_stores_inside (exact : out.DataExact)
    (inside : ∀ src dst i, (uvcEnsureFrameSize alloc.data out (need input)).2.dataBytes ≤ i →
      loop src (uvcEnsureFrameSize alloc.data out (need input)).2.dataBytes dst i = dst i) :
    StoresInside (convertFrame inFormat outFormat need step loop) alloc input out (need input) := by
  intro out' converted
  rcases convertFrame_eq_some converted with ⟨failed, -⟩ | ⟨failed, -⟩ |
      ⟨-, -, ensured, data, sized, moved, rfl⟩
  · cases failed
  · cases failed
  obtain ⟨dst, buffer, size, -⟩ := uvcEnsureFrameSize_block exact sized
  rw [sized] at inside
  rw [buffer] at moved
  obtain ⟨d, rfl, kept⟩ := transfer_stays_inside (fun src i outside => inside src _ i (size ▸ outside)) moved
  exact ⟨ensured, dst, d, sized, buffer, rfl, kept⟩

end Kernel

section Owned

variable (owned : out.libraryOwnsData = true) (exact : out.DataExact)
include owned exact

theorem blockKernel_stays_inside {inFormat outFormat : FrameFormat} {block : PixelMacro}
    {packing : Packing} {order : ChannelOrder} (stores : StoresRun block 24 (unitRun packing order))
    (inUnit : packing.y0 < 4 ∧ packing.u < 4 ∧ packing.y1 < 4 ∧ packing.v < 4)
    (fits : input.width.toNat * input.height.toNat * 3 < 2 ^ 32)
    (whole : 8 ∣ input.width.toNat * input.height.toNat) :
    ReadsBelow (convertFrame inFormat outFormat Frame.rgbBytes Frame.rgbStep (blockLoop block)) alloc
        input out (2 * (input.width.toNat * input.height.toNat)) ∧
      StoresInside (convertFrame inFormat outFormat Frame.rgbBytes Frame.rgbStep (blockLoop block))
        alloc input out input.rgbBytes := by
  have sized : (uvcEnsureFrameSize alloc.data out input.rgbBytes).2.dataBytes =
      input.width.toNat * input.height.toNat * 3 := by
    rw [uvcEnsureFrameSize_owned_dataBytes owned, Frame.rgbBytes, rgbBytes_toNat, Nat.mod_eq_of_lt fits]
  constructor
  · refine (convertFrame_reads (fun n => 16 * ((n + 23) / 24)) (fun _ => rfl) (fun _ => rfl)
      fun n src src' dst agree => ?_).mono ?_
    · rw [blockLoop_apply stores, blockLoop_apply stores, blockStores_congr inUnit dst agree]
    · rw [sized]
      omega
  · refine convertFrame_stores_inside exact fun src dst i outside => ?_
    rw [blockLoop_apply stores, blockStores, if_neg (by omega)]

theorem pickKernel_stays_inside (k : Nat) (small : k < 2) :
    ReadsBelow (convertFrame .yuyv .gray8 Frame.planeBytes Frame.planeStep (byteLoop (pick k))) alloc
        input out (2 * (input.width.toNat * input.height.toNat)) ∧
      StoresInside (convertFrame .yuyv .gray8 Frame.planeBytes Frame.planeStep (byteLoop (pick k)))
        alloc input out input.planeBytes := by
  have sized : (uvcEnsureFrameSize alloc.data out input.planeBytes).2.dataBytes ≤
      input.width.toNat * input.height.toNat := by
    rw [uvcEnsureFrameSize_owned_dataBytes owned]
    exact Nat.mod_le _ _
  constructor
  · refine (convertFrame_reads (fun n => 2 * n) (fun _ => rfl) (fun _ => rfl)
      fun n src src' dst agree => ?_).mono (by omega)
    rw [byteLoop_pick, byteLoop_pick, pickStores_congr small dst agree]
  · refine convertFrame_stores_inside exact fun src dst i outside => ?_
    rw [byteLoop_pick, pickStores, if_neg (by omega)]

end Owned

variable {jpeg : Option Loop}

/-- On a destination from `uvc_allocate_frame`, after any calls, the 8-pixel kernels
`uvc_yuyv2rgb`, `uvc_uyvy2rgb` and `uvc_uyvy2bgr` stay inside both buffers when the image is whole
8-pixel blocks of fewer than `2^32` bytes: they read only the `2 · width · height` bytes a source
of the header's size holds, and store only inside the block `uvc_ensure_frame_size` sized. -/
theorem block_kernels_stay_inside {kernel : Converter}
    (block : kernel = uvcYuyv2rgb ∨ kernel = uvcUyvy2rgb ∨ kernel = uvcUyvy2bgr)
    (reached : Reachable jpeg out) (fits : input.width.toNat * input.height.toNat * 3 < 2 ^ 32)
    (whole : 8 ∣ input.width.toNat * input.height.toNat) :
    ReadsBelow kernel alloc input out (2 * (input.width.toNat * input.height.toNat)) ∧
      StoresInside kernel alloc input out input.rgbBytes := by
  obtain ⟨owned, exact, -⟩ := reached.healthy
  rcases block with rfl | rfl | rfl
  · exact blockKernel_stays_inside owned exact iyuyv2rgb8_stores (by decide) fits whole
  · exact blockKernel_stays_inside owned exact iuyvy2rgb8_stores (by decide) fits whole
  · exact blockKernel_stays_inside owned exact iuyvy2bgr8_stores (by decide) fits whole

theorem grey_strip_stays_inside_allocated_frame :
    (uvcYuyv2rgb = uvcYuyv2rgb ∨ uvcYuyv2rgb = uvcUyvy2rgb ∨ uvcYuyv2rgb = uvcUyvy2bgr) ∧
      Reachable none emptyOwned ∧ greyStrip.width.toNat * greyStrip.height.toNat * 3 < 2 ^ 32 ∧
      8 ∣ greyStrip.width.toNat * greyStrip.height.toNat ∧
      ReadsBelow uvcYuyv2rgb granting greyStrip emptyOwned (2 * (8 * 1)) ∧
      StoresInside uvcYuyv2rgb granting greyStrip emptyOwned greyStrip.rgbBytes :=
  have allocated : uvcAllocateFrame true none 0 = some emptyOwned := rfl
  have reached : Reachable none emptyOwned := .allocate allocated
  ⟨.inl rfl, reached, by decide, by decide,
    block_kernels_stay_inside (.inl rfl) reached (by decide) (by decide)⟩

/-- On a destination from `uvc_allocate_frame`, after any calls, the luma and chroma extractors
stay inside both buffers for every image: they read only the `2 · width · height` bytes a YUYV
source of the header's size holds, and store only inside the block `uvc_ensure_frame_size` sized. -/
theorem extractors_stay_inside {kernel : Converter} (extract : kernel = uvcYuyv2y ∨ kernel = uvcYuyv2uv)
    (reached : Reachable jpeg out) :
    ReadsBelow kernel alloc input out (2 * (input.width.toNat * input.height.toNat)) ∧
      StoresInside kernel alloc input out input.planeBytes := by
  obtain ⟨owned, exact, -⟩ := reached.healthy
  rcases extract with rfl | rfl
  · exact pickKernel_stays_inside owned exact 0 (by decide)
  · exact pickKernel_stays_inside owned exact 1 (by decide)

/-- On a destination from `uvc_allocate_frame`, after any calls, no operation of frame.c stores
outside the block `uvc_ensure_frame_size` sized to the byte count the operation asks for, when the
source's image is whole 8-pixel blocks of fewer than `2^32` RGB bytes and the JPEG decoder of a
build that has one stores only below the byte count it is given. -/
theorem calls_store_inside (op : Op)
    (decoder : ∀ decode, jpeg = some decode → ∀ src n dst i, n ≤ i → decode src n dst i = dst i)
    (reached : Reachable jpeg out) (fits : input.width.toNat * input.height.toNat * 3 < 2 ^ 32)
    (whole : 8 ∣ input.width.toNat * input.height.toNat) :
    StoresInside (op.run jpeg) alloc input out (op.need input) := by
  obtain ⟨owned, exact, -⟩ := reached.healthy
  have yuyv2rgb : StoresInside uvcYuyv2rgb alloc input out input.rgbBytes :=
    (blockKernel_stays_inside owned exact iyuyv2rgb8_stores (by decide) fits whole).2
  have uyvy2rgb : StoresInside uvcUyvy2rgb alloc input out input.rgbBytes :=
    (blockKernel_stays_inside owned exact iuyvy2rgb8_stores (by decide) fits whole).2
  have uyvy2bgr : StoresInside uvcUyvy2bgr alloc input out input.rgbBytes :=
    (blockKernel_stays_inside owned exact iuyvy2bgr8_stores (by decide) fits whole).2
  have duplicate : StoresInside uvcDuplicateFrame alloc input out input.dataBytes :=
    uvcDuplicateFrame_stores_inside exact
  have yuyv2bgr : StoresInside uvcYuyv2bgr alloc input out input.rgbBytes := uvcYuyv2bgr_stores_inside exact
  cases op with
  | duplicateFrame => exact duplicate
  | yuyv2rgb => exact yuyv2rgb
  | yuyv2bgr => exact yuyv2bgr
  | yuyv2y => exact (pickKernel_stays_inside owned exact 0 (by decide)).2
  | yuyv2uv => exact (pickKernel_stays_inside owned exact 1 (by decide)).2
  | uyvy2rgb => exact uyvy2rgb
  | uyvy2bgr => exact uyvy2bgr
  | any2rgb =>
      by_cases rgb : input.frameFormat = .rgb
      · simp only [Op.run, Op.need, StoresInside, uvcAny2rgb, rgb, if_true]
        exact duplicate
      simp only [Op.run, Op.need, StoresInside, uvcAny2rgb, rgb, if_false]
      split
      · exact convertFrame_stores_inside exact fun src dst i => decoder _ rfl src _ dst i
      · exact yuyv2rgb
      · exact uyvy2rgb
      · contradiction
      · exact fun _ refused => by cases refused
  | any2bgr =>
      by_cases bgr : input.frameFormat = .bgr
      · simp only [Op.run, Op.need, StoresInside, uvcAny2bgr, bgr, if_true]
        exact duplicate
      simp only [Op.run, Op.need, StoresInside, uvcAny2bgr, bgr, if_false]
      split
      · exact yuyv2bgr
      · exact uyvy2bgr
      · contradiction
      · exact fun _ refused => by cases refused

theorem grey_strip_calls_store_inside :
    (∀ decode, (none : Option Loop) = some decode → ∀ src n dst i, n ≤ i → decode src n dst i = dst i) ∧
      Reachable none emptyOwned ∧ greyStrip.width.toNat * greyStrip.height.toNat * 3 < 2 ^ 32 ∧
      8 ∣ greyStrip.width.toNat * greyStrip.height.toNat ∧
      StoresInside (Op.any2rgb.run none) granting greyStrip emptyOwned (Op.any2rgb.need greyStrip) :=
  have decoder : ∀ decode, (none : Option Loop) = some decode →
      ∀ src n dst i, n ≤ i → decode src n dst i = dst i := fun _ absent => nomatch absent
  have allocated : uvcAllocateFrame true none 0 = some emptyOwned := rfl
  have reached : Reachable none emptyOwned := .allocate allocated
  ⟨decoder, reached, by decide, by decide, calls_store_inside .any2rgb decoder reached (by decide) (by decide)⟩

theorem grey_strip_planes_stay_inside_allocated_frame :
    (uvcYuyv2uv = uvcYuyv2y ∨ uvcYuyv2uv = uvcYuyv2uv) ∧ Reachable none emptyOwned ∧
      ReadsBelow uvcYuyv2uv granting greyStrip emptyOwned (2 * (8 * 1)) ∧
      StoresInside uvcYuyv2uv granting greyStrip emptyOwned greyStrip.planeBytes :=
  have allocated : uvcAllocateFrame true none 0 = some emptyOwned := rfl
  have reached : Reachable none emptyOwned := .allocate allocated
  ⟨.inr rfl, reached, extractors_stay_inside (.inr rfl) reached⟩

end UvcFrame
