import UvcFrame.Kernels

namespace UvcFrame

/-- A pixel loop that, run again on the bytes it left, leaves them as they are. -/
def Loop.Idempotent (loop : Loop) : Prop :=
  ∀ src n dst, loop src n (loop src n dst) = loop src n dst

theorem blockLoop_idempotent {block : PixelMacro} {packing : Packing} {order : ChannelOrder}
    (stores : StoresRun block 24 (unitRun packing order)) : Loop.Idempotent (blockLoop block) := by
  intro src n dst
  rw [blockLoop_apply stores, blockLoop_apply stores]
  funext i
  unfold blockStores
  split <;> rfl

theorem byteLoop_pick_idempotent (k : Nat) : Loop.Idempotent (byteLoop (pick k)) := by
  intro src n dst
  rw [byteLoop_pick, byteLoop_pick]
  funext i
  unfold pickStores
  split <;> rfl

variable {inFormat outFormat : FrameFormat} {need step : Frame → Nat} {loop : Loop}
  {alloc : Alloc} {input out out' : Frame}

theorem convertFrame_again (idempotent : loop.Idempotent) (alloc' : Alloc)
    (converted : convertFrame inFormat outFormat need step loop alloc input out = some (.success, out')) :
    convertFrame inFormat outFormat need step loop alloc' input out' = some (.success, out') := by
  rcases convertFrame_eq_some converted with ⟨failed, -⟩ | ⟨failed, -⟩ |
      ⟨-, format, ensured, data, sized, moved, rfl⟩
  · cases failed
  · cases failed
  obtain ⟨present, fits, exact⟩ := uvcEnsureFrameSize_success sized
  have owner := (uvcEnsureFrameSize_keeps sized).1
  have buffer : data.isSome := by simpa [present] using congrArg Option.isSome (transfer_block moved).2
  have kept : uvcEnsureFrameSize alloc'.data { ensured.convertedFrom input outFormat (step input) with data }
      (need input) = (.success, { ensured.convertedFrom input outFormat (step input) with data }) :=
    uvcEnsureFrameSize_of_sized buffer fits fun owned => exact (owner ▸ owned)
  have again := transfer_again (fun origin target => idempotent origin ensured.dataBytes target) moved
  unfold convertFrame
  rw [if_neg (not_not.mpr format), kept]
  simp only [ne_eq, not_true_eq_false, if_false, Frame.convertedFrom_data,
    Frame.convertedFrom_dataBytes, again, Option.map_some']
  rfl

theorem uvcYuyv2bgr_again (alloc' : Alloc)
    (converted : uvcYuyv2bgr alloc input out = some (.success, out')) :
    uvcYuyv2bgr alloc' input out' = some (.success, out') := by
  rcases uvcYuyv2bgr_eq_some converted with ⟨failed, -⟩ | ⟨failed, -⟩ | ⟨-, format, ensured, sized, rfl⟩
  · cases failed
  · cases failed
  obtain ⟨present, fits, exact⟩ := uvcEnsureFrameSize_success sized
  have owner := (uvcEnsureFrameSize_keeps sized).1
  have kept : uvcEnsureFrameSize alloc'.data (ensured.convertedFrom input .bgr (input.width * 3).toNat)
      (input.width * input.height * 3).toNat =
        (.success, ensured.convertedFrom input .bgr (input.width * 3).toNat) :=
    uvcEnsureFrameSize_of_sized present fits fun owned => exact (owner ▸ owned)
  dsimp only [uvcYuyv2bgr]
  rw [if_neg (not_not.mpr format), kept]
  rfl

theorem uvcDuplicateFrame_again (alloc' : Alloc)
    (duplicated : uvcDuplicateFrame alloc input out = some (.success, out')) :
    uvcDuplicateFrame alloc' input out' = some (.success, out') := by
  rcases uvcDuplicateFrame_eq_some duplicated with ⟨failed, -⟩ |
      ⟨-, ensured, data, sized, copied, metadata⟩
  · cases failed
  obtain ⟨present, fits, exact⟩ := uvcEnsureFrameSize_success sized
  have owner := (uvcEnsureFrameSize_keeps sized).1
  have buffer : data.isSome := by simpa [present] using congrArg Option.isSome (transfer_block copied).2
  obtain ⟨m, mb, rfl⟩ : ∃ m mb, out' = { ensured.convertedFrom input input.frameFormat input.step with
      data, metadata := m, metadataBytes := mb } :=
    ⟨_, _, congrArg
      (fun frame : Frame => { frame with metadata := out'.metadata, metadataBytes := out'.metadataBytes })
      (copyMetadata_eq_some metadata).1⟩
  have kept : uvcEnsureFrameSize alloc'.data { ensured.convertedFrom input input.frameFormat input.step with
      data, metadata := m, metadataBytes := mb } input.dataBytes =
        (.success, { ensured.convertedFrom input input.frameFormat input.step with
          data, metadata := m, metadataBytes := mb }) :=
    uvcEnsureFrameSize_of_sized buffer fits fun owned => exact (owner ▸ owned)
  have again := copyMetadata_again alloc'.metadata metadata
  simp only [uvcDuplicateFrame, kept, ne_eq, not_true_eq_false, if_false, Frame.convertedFrom_data,
    memcpy_again copied, Option.some_bind]
  exact congrArg (Option.map _) again

theorem uvcYuyv2rgb_again (alloc' : Alloc) (called : uvcYuyv2rgb alloc input out = some (.success, out')) :
    uvcYuyv2rgb alloc' input out' = some (.success, out') :=
  convertFrame_again (blockLoop_idempotent iyuyv2rgb8_stores) alloc' called

theorem uvcUyvy2rgb_again (alloc' : Alloc) (called : uvcUyvy2rgb alloc input out = some (.success, out')) :
    uvcUyvy2rgb alloc' input out' = some (.success, out') :=
  convertFrame_again (blockLoop_idempotent iuyvy2rgb8_stores) alloc' called

theorem uvcUyvy2bgr_again (alloc' : Alloc) (called : uvcUyvy2bgr alloc input out = some (.success, out')) :
    uvcUyvy2bgr alloc' input out' = some (.success, out') :=
  convertFrame_again (blockLoop_idempotent iuyvy2bgr8_stores) alloc' called

variable {jpeg : Option Loop}

theorem uvcAny2rgb_again (decoder : ∀ decode, jpeg = some decode → decode.Idempotent) (alloc' : Alloc)
    (called : uvcAny2rgb jpeg alloc input out = some (.success, out')) :
    uvcAny2rgb jpeg alloc' input out' = some (.success, out') := by
  unfold uvcAny2rgb at called ⊢
  split at called
  · exact convertFrame_again (decoder _ rfl) alloc' called
  · exact uvcYuyv2rgb_again alloc' called
  · exact uvcUyvy2rgb_again alloc' called
  · exact uvcDuplicateFrame_again alloc' called
  · cases called

theorem uvcAny2bgr_again (alloc' : Alloc) (called : uvcAny2bgr alloc input out = some (.success, out')) :
    uvcAny2bgr alloc' input out' = some (.success, out') := by
  unfold uvcAny2bgr at called ⊢
  split at called
  · exact uvcYuyv2bgr_again alloc' called
  · exact uvcUyvy2bgr_again alloc' called
  · exact uvcDuplicateFrame_again alloc' called
  · cases called

/-- A capture loop in steady state allocates nothing: repeating a call that returned
`UVC_SUCCESS`, with the same source, on the frame it produced returns `UVC_SUCCESS` and that same
frame, whatever the allocator answers, for every operation, in a build whose JPEG decoder, if it
has one, is idempotent too. -/
theorem repeated_call_changes_nothing (op : Op)
    (decoder : ∀ decode, jpeg = some decode → decode.Idempotent) (alloc' : Alloc)
    (called : op.run jpeg alloc input out = some (.success, out')) :
    op.run jpeg alloc' input out' = some (.success, out') := by
  cases op with
  | duplicateFrame => exact uvcDuplicateFrame_again alloc' called
  | yuyv2rgb => exact uvcYuyv2rgb_again alloc' called
  | yuyv2bgr => exact uvcYuyv2bgr_again alloc' called
  | yuyv2y => exact convertFrame_again (byteLoop_pick_idempotent 0) alloc' called
  | yuyv2uv => exact convertFrame_again (byteLoop_pick_idempotent 1) alloc' called
  | uyvy2rgb => exact uvcUyvy2rgb_again alloc' called
  | uyvy2bgr => exact uvcUyvy2bgr_again alloc' called
  | any2rgb => exact uvcAny2rgb_again decoder alloc' called
  | any2bgr => exact uvcAny2bgr_again alloc' called

theorem grey_strip_conversion_repeats :
    (∀ decode, (none : Option Loop) = some decode → decode.Idempotent) ∧
      ∃ out', Op.yuyv2rgb.run none granting greyStrip zeroStrip = some (.success, out') ∧
        Op.yuyv2rgb.run none refusing greyStrip out' = some (.success, out') :=
  have decoder : ∀ decode, (none : Option Loop) = some decode → decode.Idempotent :=
    fun _ absent => nomatch absent
  have called : Op.yuyv2rgb.run none granting greyStrip zeroStrip = some (.success, _) := rfl
  ⟨decoder, _, called, repeated_call_changes_nothing .yuyv2rgb decoder refusing called⟩

end UvcFrame
