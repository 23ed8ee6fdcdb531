import UvcFrame.Kernels

/-! # What a call does to its destination

Every operation of frame.c that returns does one of three things to its destination, `Outcome`:
it rejects the source and leaves the destination alone; it returns the frame a failed
`uvc_ensure_frame_size` left; or it keeps the block and the byte count a successful one sized,
and changes the metadata at most through the metadata step of `uvc_duplicate_frame`.
`Op.run_outcome` proves this of each operation. What follows about ownership and about failed
calls, here and in the lifecycle of a reused frame, is proved from `Outcome` alone.
-/

namespace UvcFrame

/-- What a call that returns `(result, out')` has done to its destination `out`. -/
inductive Outcome (alloc : Alloc) (input out : Frame) : UvcError × Frame → Prop
  | rejected {result : UvcError}
      (refused : result = .errorInvalidParam ∨ result = .errorNotSupported) :
      Outcome alloc input out (result, out)
  | unsized {need : Nat} (failed : (uvcEnsureFrameSize alloc.data out need).1 = .errorNoMem) :
      Outcome alloc input out (.errorNoMem, (uvcEnsureFrameSize alloc.data out need).2)
  | sized {need : Nat} {ensured out' : Frame}
      (succeeded : uvcEnsureFrameSize alloc.data out need = (.success, ensured))
      (address : out'.data.map Block.address = ensured.data.map Block.address)
      (size : out'.data.map Block.size = ensured.data.map Block.size)
      (dataBytes : out'.dataBytes = ensured.dataBytes)
      (owner : out'.libraryOwnsData = out.libraryOwnsData)
      (metadata : (out'.metadata = out.metadata ∧ out'.metadataBytes = out.metadataBytes) ∨
        ∃ before, before.metadata = out.metadata ∧ before.metadataBytes = out.metadataBytes ∧
          copyMetadata alloc.metadata input before = some out') :
      Outcome alloc input out (.success, out')

section Operations

variable {jpeg : Option Loop} {alloc : Alloc} {input out out' : Frame} {result : UvcError}

theorem Outcome.of_ensure_failed {need : Nat}
    (failed : (uvcEnsureFrameSize alloc.data out need).1 ≠ .success) :
    Outcome alloc input out (.errorNoMem, (uvcEnsureFrameSize alloc.data out need).2) :=
  .unsized ((uvcEnsureFrameSize_result _ _ _).resolve_left failed)

theorem convertFrame_outcome {inFormat outFormat : FrameFormat} {need step : Frame → Nat} {loop : Loop}
    (converted : convertFrame inFormat outFormat need step loop alloc input out = some (result, out')) :
    Outcome alloc input out (result, out') := by
  rcases convertFrame_eq_some converted with ⟨rfl, rfl⟩ | ⟨rfl, failed, rfl⟩ |
      ⟨rfl, -, ensured, data, sized, moved, rfl⟩
  · exact .rejected (.inl rfl)
  · exact .of_ensure_failed failed
  · obtain ⟨owner, metadata, metadataBytes⟩ := uvcEnsureFrameSize_keeps sized
    exact .sized sized (transfer_block moved).1 (transfer_block moved).2 rfl owner
      (.inl ⟨metadata, metadataBytes⟩)

theorem uvcYuyv2bgr_outcome (converted : uvcYuyv2bgr alloc input out = some (result, out')) :
    Outcome alloc input out (result, out') := by
  rcases uvcYuyv2bgr_eq_some converted with ⟨rfl, rfl⟩ | ⟨rfl, failed, rfl⟩ |
      ⟨rfl, -, ensured, sized, rfl⟩
  · exact .rejected (.inl rfl)
  · exact .of_ensure_failed failed
  · obtain ⟨owner, metadata, metadataBytes⟩ := uvcEnsureFrameSize_keeps sized
    exact .sized sized rfl rfl rfl owner (.inl ⟨metadata, metadataBytes⟩)

theorem uvcDuplicateFrame_outcome (duplicated : uvcDuplicateFrame alloc input out = some (result, out')) :
    Outcome alloc input out (result, out') := by
  rcases uvcDuplicateFrame_eq_some duplicated with ⟨rfl, failed, rfl⟩ |
      ⟨rfl, ensured, data, sized, copied, metadata⟩
  · exact .of_ensure_failed failed
  · obtain ⟨owner, keptMetadata, keptBytes⟩ := uvcEnsureFrameSize_keeps sized
    have kept := (copyMetadata_eq_some metadata).1
    have data' := congrArg Frame.data kept
    have dataBytes' := congrArg Frame.dataBytes kept
    have owner' := congrArg Frame.libraryOwnsData kept
    dsimp only at data' dataBytes' owner'
    subst data'
    refine .sized sized (transfer_block copied).1 (transfer_block copied).2 dataBytes'
      (owner'.trans owner) (.inr ⟨_, ?_, ?_, metadata⟩)
    exacts [keptMetadata, keptBytes]

theorem uvcAny2rgb_outcome (converted : uvcAny2rgb jpeg alloc input out = some (result, out')) :
    Outcome alloc input out (result, out') := by
  unfold uvcAny2rgb at converted
  split at converted
  · exact convertFrame_outcome converted
  · exact convertFrame_outcome converted
  · exact convertFrame_outcome converted
  · exact uvcDuplicateFrame_outcome converted
  · cases converted
    exact .rejected (.inr rfl)

theorem uvcAny2bgr_outcome (converted : uvcAny2bgr alloc input out = some (result, out')) :
    Outcome alloc input out (result, out') := by
  unfold uvcAny2bgr at converted
  split at converted
  · exact uvcYuyv2bgr_outcome converted
  · exact convertFrame_outcome converted
  · exact uvcDuplicateFrame_outcome converted
  · cases converted
    exact .rejected (.inr rfl)

theorem Op.run_outcome (op : Op) (called : op.run jpeg alloc input out = some (result, out')) :
    Outcome alloc input out (result, out') := by
  cases op with
  | duplicateFrame => exact uvcDuplicateFrame_outcome called
  | yuyv2bgr => exact uvcYuyv2bgr_outcome called
  | any2rgb => exact uvcAny2rgb_outcome called
  | any2bgr => exact uvcAny2bgr_outcome called
  | yuyv2rgb | yuyv2y | yuyv2uv | uyvy2rgb | uyvy2bgr =>
      dsimp only [Op.run] at called
      exact convertFrame_outcome called

end Operations

namespace Outcome

variable {alloc : Alloc} {input out : Frame} {r : UvcError × Frame}

theorem libraryOwnsData (outcome : Outcome alloc input out r) :
    r.2.libraryOwnsData = out.libraryOwnsData := by
  cases outcome with
  | rejected => rfl
  | unsized => simp
  | sized _ _ _ _ owner => exact owner

theorem borrowed_data (outcome : Outcome alloc input out r) (borrowed : out.libraryOwnsData = false) :
    r.2.data.map Block.address = out.data.map Block.address ∧
      r.2.data.map Block.size = out.data.map Block.size ∧ r.2.dataBytes = out.dataBytes := by
  cases outcome with
  | rejected => exact ⟨rfl, rfl, rfl⟩
  | unsized => simp [uvcEnsureFrameSize_borrowed borrowed]
  | @sized need ensured out' succeeded address size dataBytes =>
      have unchanged : (uvcEnsureFrameSize alloc.data out need).2 = out :=
        uvcEnsureFrameSize_borrowed borrowed
      rw [succeeded] at unchanged
      subst unchanged
      exact ⟨address, size, dataBytes⟩

/-- The metadata pointer is kept, or moved to the allocator's block when the metadata step of
`uvc_duplicate_frame` reallocated it, `out` recording fewer bytes than `in` carries. -/
theorem metadata_address (outcome : Outcome alloc input out r) :
    r.2.metadata.map Block.address = out.metadata.map Block.address ∨
      (out.metadataBytes < input.metadataBytes ∧
        r.2.metadata.map Block.address = alloc.metadata.map Grant.address) := by
  cases outcome with
  | rejected => exact .inl rfl
  | unsized => simp
  | sized _ _ _ _ _ metadata =>
      rcases metadata with ⟨kept, -⟩ | ⟨before, kept, keptBytes, copied⟩
      · exact .inl (by rw [kept])
      · rw [← kept, ← keptBytes]
        exact copyMetadata_address copied

/-- A call that fails leaves its destination as it was, except a library-owned one whose
`realloc` the allocator refused: that one has lost its buffer and records the size asked for. -/
theorem failed (outcome : Outcome alloc input out r) (unsuccessful : r.1 ≠ .success) :
    r.2 = out ∨ (out.libraryOwnsData = true ∧ r.1 = .errorNoMem ∧ alloc.data = none ∧
      r.2 = { out with data := none, dataBytes := r.2.dataBytes }) := by
  cases outcome with
  | rejected => exact .inl rfl
  | unsized failed =>
      rcases uvcEnsureFrameSize_failed failed with kept | ⟨owned, refused, dropped⟩
      · exact .inl kept
      · refine .inr ⟨owned, rfl, refused, ?_⟩
        rw [dropped]
  | sized => exact absurd rfl unsuccessful

end Outcome

section Ownership

variable {jpeg : Option Loop} {alloc : Alloc} {input out out' : Frame} {result : UvcError}

/-- No operation reallocates a borrowed destination's `data`: the block and `data_bytes` stay as
they were, whatever the result. Its metadata pointer stays too unless `in` carries more
metadata than `out` records. -/
theorem borrowed_destination_keeps_data (op : Op) (borrowed : out.libraryOwnsData = false)
    (called : op.run jpeg alloc input out = some (result, out')) :
    out'.libraryOwnsData = false ∧ out'.data.map Block.address = out.data.map Block.address ∧
      out'.data.map Block.size = out.data.map Block.size ∧ out'.dataBytes = out.dataBytes ∧
      (input.metadataBytes ≤ out.metadataBytes →
        out'.metadata.map Block.address = out.metadata.map Block.address) := by
  have outcome := op.run_outcome called
  obtain ⟨address, size, dataBytes⟩ := outcome.borrowed_data borrowed
  refine ⟨outcome.libraryOwnsData.trans borrowed, address, size, dataBytes, fun recorded => ?_⟩
  rcases outcome.metadata_address with kept | ⟨fewer, -⟩
  · exact kept
  · omega

theorem counting_pixel_keeps_borrowed_buffer :
    borrowedTwoBytes.libraryOwnsData = false ∧
      ∃ result out', Op.yuyv2y.run none granting countingPixel borrowedTwoBytes = some (result, out') ∧
        out'.libraryOwnsData = false ∧
        out'.data.map Block.address = borrowedTwoBytes.data.map Block.address ∧
        out'.data.map Block.size = borrowedTwoBytes.data.map Block.size ∧
        out'.dataBytes = borrowedTwoBytes.dataBytes ∧
        (countingPixel.metadataBytes ≤ borrowedTwoBytes.metadataBytes →
          out'.metadata.map Block.address = borrowedTwoBytes.metadata.map Block.address) :=
  have borrowed : borrowedTwoBytes.libraryOwnsData = false := rfl
  have called : Op.yuyv2y.run none granting countingPixel borrowedTwoBytes = some (.success, _) := rfl
  ⟨borrowed, _, _, called, borrowed_destination_keeps_data .yuyv2y borrowed called⟩

/-- A failed `uvc_ensure_frame_size` leaves the frame as it was unless it is library-owned and
the allocator refused the `realloc`; then `data` is NULL and `data_bytes` the size asked for.
So a failed call leaves its destination as it was, or, in that one case, with only `data` and
`data_bytes` changed. -/
theorem failures_drop_only_owned_buffers :
    (∀ (grant : Option Grant) (frame : Frame) (need : Nat),
      (uvcEnsureFrameSize grant frame need).1 = .errorNoMem →
        (uvcEnsureFrameSize grant frame need).2 = frame ∨
          (frame.libraryOwnsData = true ∧ grant = none ∧
            (uvcEnsureFrameSize grant frame need).2 = { frame with data := none, dataBytes := need })) ∧
    ∀ (op : Op) (jpeg : Option Loop) (alloc : Alloc) (input out out' : Frame) (result : UvcError),
      op.run jpeg alloc input out = some (result, out') → result ≠ .success →
        out' = out ∨ (out.libraryOwnsData = true ∧ result = .errorNoMem ∧ alloc.data = none ∧
          out' = { out with data := none, dataBytes := out'.dataBytes }) :=
  ⟨fun _ _ _ failed => uvcEnsureFrameSize_failed failed,
    fun op _ _ _ _ _ _ called unsuccessful => (op.run_outcome called).failed unsuccessful⟩

theorem refused_conversion_drops_owned_buffer :
    (uvcEnsureFrameSize refusing.data threeZeroBytes 24).1 = .errorNoMem ∧
      ((uvcEnsureFrameSize refusing.data threeZeroBytes 24).2 = threeZeroBytes ∨
        (threeZeroBytes.libraryOwnsData = true ∧ refusing.data = none ∧
          (uvcEnsureFrameSize refusing.data threeZeroBytes 24).2 =
            { threeZeroBytes with data := none, dataBytes := 24 })) ∧
      ∃ result out', Op.yuyv2rgb.run none refusing greyStrip threeZeroBytes = some (result, out') ∧
        result ≠ .success ∧
        (out' = threeZeroBytes ∨ (threeZeroBytes.libraryOwnsData = true ∧ result = .errorNoMem ∧
          refusing.data = none ∧ out' = { threeZeroBytes with data := none, dataBytes := out'.dataBytes })) :=
  ⟨rfl, failures_drop_only_owned_buffers.1 _ _ _ rfl, _, _, rfl, by decide,
    failures_drop_only_owned_buffers.2 .yuyv2rgb none refusing greyStrip threeZeroBytes _ _ rfl
      (by decide)⟩

/-- A library-owned 3-byte frame asked for 24 bytes by an allocator that refuses: the call fails,
and the frame's `data` is NULL and its `data_bytes` 24, no longer the 3-byte buffer it had. -/
theorem refused_resize_loses_buffer :
    uvcEnsureFrameSize none threeZeroBytes 24 =
        (.errorNoMem, { threeZeroBytes with data := none, dataBytes := 24 }) ∧
      threeZeroBytes.data.isSome ∧ threeZeroBytes.dataBytes = 3 :=
  ⟨rfl, rfl, rfl⟩

end Ownership

def borrowedMetadata : Frame :=
  { Frame.zeroed with
    dataBytes := 2, data := some ⟨2, 2, fun _ => 0⟩,
    metadataBytes := 1, metadata := some ⟨11, 1, fun _ => 0⟩ }

/-- Duplicating a frame with more metadata into a borrowed frame reallocates the caller's
metadata block: the pointer moves from 11 to the allocator's block at 4. -/
theorem duplicate_reallocates_borrowed_metadata :
    ∃ out', uvcDuplicateFrame granting taggedPixel borrowedMetadata = some (.success, out') ∧
      borrowedMetadata.libraryOwnsData = false ∧
      borrowedMetadata.metadata.map Block.address = some 11 ∧
      out'.metadata.map Block.address = some 4 :=
  ⟨_, rfl, rfl, rfl, rfl⟩

end UvcFrame
