import UvcFrame.Duplicate
import UvcFrame.Loop

/-! # The conversion kernels and the routers

The kernels of frame.c all have one shape, `convertFrame`: check the source format, size the
destination through `uvc_ensure_frame_size`, write its header, run a pixel loop. Each kernel is
that shape applied to its own formats, sizes and loop, as the source spells them. `uvc_yuyv2bgr`
does not have the shape: its loop is commented out in frame.c, and it keeps its own body.
-/

namespace UvcFrame

/-- An operation of frame.c that writes a destination frame from a source frame, with the
allocator's answers; `none` when it goes through NULL. -/
abbrev Converter := Alloc → Frame → Frame → Option (UvcError × Frame)

/-- A pixel loop run from `in->data` into `out->data`: source bytes, `out->data_bytes`, and the
destination bytes it rewrites. -/
abbrev Loop := (Nat → UInt8) → Nat → (Nat → UInt8) → Nat → UInt8

/-- The body the converting kernels share: reject a source of another format, size the
destination to `need` bytes, write its header with the output format and `step`, then run
`loop` from `in->data` into `out->data` up to `out->data_bytes`. -/
def convertFrame (inFormat outFormat : FrameFormat) (need step : Frame → Nat) (loop : Loop) :
    Converter :=
  fun alloc input out =>
    if input.frameFormat ≠ inFormat then some (.errorInvalidParam, out)
    else
      let (result, out) := uvcEnsureFrameSize alloc.data out (need input)
      if result ≠ .success then some (.errorNoMem, out)
      else
        let out := out.convertedFrom input outFormat (step input)
        (transfer out.data input.data out.dataBytes fun src dst => loop src out.dataBytes dst).map
          fun data => (.success, { out with data })

/-- `in->width * in->height * 3`, the byte count of an RGB or BGR frame, in 32 bits. -/
def Frame.rgbBytes (input : Frame) : Nat := (input.width * input.height * 3).toNat

def Frame.rgbStep (input : Frame) : Nat := (input.width * 3).toNat

/-- `in->width * in->height`, the byte count of a plane, in 32 bits. -/
def Frame.planeBytes (input : Frame) : Nat := (input.width * input.height).toNat

def Frame.planeStep (input : Frame) : Nat := input.width.toNat

def uvcYuyv2rgb : Converter :=
  convertFrame .yuyv .rgb Frame.rgbBytes Frame.rgbStep (blockLoop iyuyv2rgb8)

def uvcUyvy2rgb : Converter :=
  convertFrame .uyvy .rgb Frame.rgbBytes Frame.rgbStep (blockLoop iuyvy2rgb8)

def uvcUyvy2bgr : Converter :=
  convertFrame .uyvy .bgr Frame.rgbBytes Frame.rgbStep (blockLoop iuyvy2bgr8)

def uvcYuyv2y : Converter :=
  convertFrame .yuyv .gray8 Frame.planeBytes Frame.planeStep (byteLoop iyuyv2y)

def uvcYuyv2uv : Converter :=
  convertFrame .yuyv .gray8 Frame.planeBytes Frame.planeStep (byteLoop iyuyv2uv)

/-- `uvc_yuyv2bgr` as frame.c has it: the format check, sizing and header of its siblings, and
no pixel loop (the loop, and the one of the older version above it, are commented out). The
pointers and pixel counts it still computes are never used. -/
def uvcYuyv2bgr : Converter :=
  fun alloc input out =>
    if input.frameFormat ≠ .yuyv then some (.errorInvalidParam, out)
    else
      let expectedOutSize := (input.width * input.height * 3).toNat
      let (result, out) := uvcEnsureFrameSize alloc.data out expectedOutSize
      if result ≠ .success then some (.errorNoMem, out)
      else some (.success, out.convertedFrom input .bgr (input.width * 3).toNat)

/-- Modelled from the spec: `uvc_mjpeg2rgb`, which `uvc_any2rgb` calls in a build with
`LIBUVC_HAS_JPEG` and whose source is not in the repository. As §4.3 has every kernel do, it
checks the format, sizes the destination to `width * height * 3` bytes through
`uvc_ensure_frame_size` and writes the RGB header; the pixels are whatever the external JPEG
decoder `decode` makes of the compressed bytes. -/
def uvcMjpeg2rgb (decode : Loop) : Converter :=
  convertFrame .mjpeg .rgb Frame.rgbBytes Frame.rgbStep decode

/-- `uvc_any2rgb`. `jpeg` is the JPEG decoder of a build with `LIBUVC_HAS_JPEG`, `none` in a
build without it, where an MJPEG source falls to the `default` case. -/
def uvcAny2rgb (jpeg : Option Loop) : Converter :=
  fun alloc input out =>
    match input.frameFormat, jpeg with
    | .mjpeg, some decode => uvcMjpeg2rgb decode alloc input out
    | .yuyv, _ => uvcYuyv2rgb alloc input out
    | .uyvy, _ => uvcUyvy2rgb alloc input out
    | .rgb, _ => uvcDuplicateFrame alloc input out
    | _, _ => some (.errorNotSupported, out)

def uvcAny2bgr : Converter :=
  fun alloc input out =>
    match input.frameFormat with
    | .yuyv => uvcYuyv2bgr alloc input out
    | .uyvy => uvcUyvy2bgr alloc input out
    | .bgr => uvcDuplicateFrame alloc input out
    | _ => some (.errorNotSupported, out)

inductive Op where
  | duplicateFrame | yuyv2rgb | yuyv2bgr | yuyv2y | yuyv2uv | uyvy2rgb | uyvy2bgr
  | any2rgb | any2bgr
deriving DecidableEq, Repr

def Op.run (jpeg : Option Loop) : Op → Converter
  | .duplicateFrame => uvcDuplicateFrame
  | .yuyv2rgb => uvcYuyv2rgb
  | .yuyv2bgr => uvcYuyv2bgr
  | .yuyv2y => uvcYuyv2y
  | .yuyv2uv => uvcYuyv2uv
  | .uyvy2rgb => uvcUyvy2rgb
  | .uyvy2bgr => uvcUyvy2bgr
  | .any2rgb => uvcAny2rgb jpeg
  | .any2bgr => uvcAny2bgr

/-- The byte count each operation asks `uvc_ensure_frame_size` for: `in->data_bytes` for a copy,
`width * height * 3` for an RGB or BGR frame, `width * height` for a plane; a router asks what the
function it calls for the source's format asks. -/
def Op.need : Op → Frame → Nat
  | .duplicateFrame => Frame.dataBytes
  | .yuyv2y | .yuyv2uv => Frame.planeBytes
  | .any2rgb => fun input => if input.frameFormat = .rgb then input.dataBytes else input.rgbBytes
  | .any2bgr => fun input => if input.frameFormat = .bgr then input.dataBytes else input.rgbBytes
  | _ => Frame.rgbBytes

section Kernel

variable {inFormat outFormat : FrameFormat} {need step : Frame → Nat} {loop : Loop}
  {alloc : Alloc} {input out out' ensured : Frame} {result : UvcError}

/-- What a kernel call that returns has done: rejected the source, failed to size the
destination, or sized it, written its header and run the loop through `transfer`. -/
theorem convertFrame_eq_some
    (converted : convertFrame inFormat outFormat need step loop alloc input out = some (result, out')) :
    (result = .errorInvalidParam ∧ out' = out) ∨
      (result = .errorNoMem ∧ (uvcEnsureFrameSize alloc.data out (need input)).1 ≠ .success ∧
        out' = (uvcEnsureFrameSize alloc.data out (need input)).2) ∨
      (result = .success ∧ input.frameFormat = inFormat ∧ ∃ ensured data,
        uvcEnsureFrameSize alloc.data out (need input) = (.success, ensured) ∧
        transfer ensured.data input.data ensured.dataBytes
          (fun src dst => loop src ensured.dataBytes dst) = some data ∧
        out' = { ensured.convertedFrom input outFormat (step input) with data }) := by
  unfold convertFrame at converted
  by_cases format : input.frameFormat = inFormat
  · rcases sizing : uvcEnsureFrameSize alloc.data out (need input) with ⟨sizedResult, sized⟩
    simp only [format, ne_eq, not_true_eq_false, if_false, sizing] at converted
    by_cases succeeded : sizedResult = .success
    · subst succeeded
      simp only [not_true_eq_false, if_false, Option.map_eq_some', Prod.mk.injEq] at converted
      obtain ⟨data, moved, rfl, rfl⟩ := converted
      exact .inr (.inr ⟨rfl, format, sized, data, rfl, moved, rfl⟩)
    · simp only [succeeded, not_false_eq_true, if_true, Option.some.injEq, Prod.mk.injEq] at converted
      exact .inr (.inl ⟨converted.1.symm, succeeded, converted.2.symm⟩)
  · simp only [format, ne_eq, not_false_eq_true, if_true, Option.some.injEq, Prod.mk.injEq] at converted
    exact .inl ⟨converted.1.symm, converted.2.symm⟩

theorem uvcYuyv2bgr_eq_some (converted : uvcYuyv2bgr alloc input out = some (result, out')) :
    (result = .errorInvalidParam ∧ out' = out) ∨
      (result = .errorNoMem ∧
        (uvcEnsureFrameSize alloc.data out (input.width * input.height * 3).toNat).1 ≠ .success ∧
        out' = (uvcEnsureFrameSize alloc.data out (input.width * input.height * 3).toNat).2) ∨
      (result = .success ∧ input.frameFormat = .yuyv ∧ ∃ ensured,
        uvcEnsureFrameSize alloc.data out (input.width * input.height * 3).toNat = (.success, ensured) ∧
        out' = ensured.convertedFrom input .bgr (input.width * 3).toNat) := by
  unfold uvcYuyv2bgr at converted
  by_cases format : input.frameFormat = .yuyv
  · rcases sizing : uvcEnsureFrameSize alloc.data out (input.width * input.height * 3).toNat with
      ⟨sizedResult, sized⟩
    simp only [format, ne_eq, not_true_eq_false, if_false, sizing] at converted
    by_cases succeeded : sizedResult = .success
    · subst succeeded
      simp only [not_true_eq_false, if_false, Option.some.injEq, Prod.mk.injEq] at converted
      obtain ⟨rfl, rfl⟩ := converted
      exact .inr (.inr ⟨rfl, format, sized, rfl, rfl⟩)
    · simp only [succeeded, not_false_eq_true, if_true, Option.some.injEq, Prod.mk.injEq] at converted
      exact .inr (.inl ⟨converted.1.symm, succeeded, converted.2.symm⟩)
  · simp only [format, ne_eq, not_false_eq_true, if_true, Option.some.injEq, Prod.mk.injEq] at converted
    exact .inl ⟨converted.1.symm, converted.2.symm⟩

theorem uvcYuyv2bgr_header (converted : uvcYuyv2bgr alloc input out = some (.success, out')) :
    (input.width * input.height * 3).toNat ≤ out'.dataBytes ∧ out'.width = input.width ∧
      out'.height = input.height ∧ out'.step = (input.width * 3).toNat ∧ out'.frameFormat = .bgr := by
  rcases uvcYuyv2bgr_eq_some converted with ⟨failed, -⟩ | ⟨failed, -⟩ | ⟨-, -, ensured, sized, rfl⟩
  · cases failed
  · cases failed
  · exact ⟨(uvcEnsureFrameSize_success sized).2.1, rfl, rfl, rfl, rfl⟩

theorem convertFrame_success (outFormat : FrameFormat) (need step : Frame → Nat) (loop : Loop)
    {src dst : Block} (format : input.frameFormat = inFormat)
    (sized : uvcEnsureFrameSize alloc.data out (need input) = (.success, ensured))
    (present : input.data = some src) (buffer : ensured.data = some dst) :
    convertFrame inFormat outFormat need step loop alloc input out =
      some (.success, { ensured.convertedFrom input outFormat (step input) with
        data := some { dst with bytes := loop src.bytes ensured.dataBytes dst.bytes } }) := by
  simp [convertFrame, format, sized, present, buffer, transfer]

theorem convertFrame_header
    (converted : convertFrame inFormat outFormat need step loop alloc input out = some (.success, out')) :
    need input ≤ out'.dataBytes ∧ out'.width = input.width ∧ out'.height = input.height ∧
      out'.step = step input ∧ out'.frameFormat = outFormat := by
  rcases convertFrame_eq_some converted with ⟨failed, -⟩ | ⟨failed, -⟩ |
      ⟨-, -, ensured, data, sized, -, rfl⟩
  · cases failed
  · cases failed
  · exact ⟨(uvcEnsureFrameSize_success sized).2.1, rfl, rfl, rfl, rfl⟩

end Kernel

end UvcFrame
