import UvcFrame.Outcome

/-! # A reused library-owned frame

A frame made by `uvc_allocate_frame` and handed as the destination of call after call, from any
sources and with any allocator answers, passes through the frames `Reachable` collects. All of
them are `Healthy`: the library owns them, `data` is NULL or a block of exactly `data_bytes`
bytes, and the metadata recorded fits the block `metadata` points to. The last fact is what keeps
the metadata `memcpy` of the next `uvc_duplicate_frame` in bounds, since `metadata_bytes`
records the last count copied, not the block's size.

A block's bytes past its size stand for the memory that follows it, and a store there changes
those bytes and nothing else. So a run through a call that reads or stores past a block, which C
leaves undefined (a block kernel on an image that is not whole 8-pixel blocks, or one whose size
wraps), still counts as reachable, and what is proved of reachable frames is proved of such runs
only as this memory model has them. `calls_store_inside` names the sources for which no call
steps outside its block.
-/

namespace UvcFrame

def capacity (p : Option Block) : Nat :=
  (p.map Block.size).getD 0

@[simp] theorem capacity_some (block : Block) : capacity (some block) = block.size := rfl

/-- The `metadata_bytes` recorded fit in the block `metadata` points to. -/
def Frame.MetadataFits (frame : Frame) : Prop :=
  frame.metadataBytes ≤ capacity frame.metadata

instance (frame : Frame) : Decidable frame.MetadataFits :=
  inferInstanceAs (Decidable (_ ≤ _))

theorem Frame.MetadataFits.congr {frame frame' : Frame} (fits : frame.MetadataFits)
    (metadata : frame'.metadata = frame.metadata) (bytes : frame'.metadataBytes = frame.metadataBytes) :
    frame'.MetadataFits := by
  unfold Frame.MetadataFits
  rwa [metadata, bytes]

/-- What holds of a library-owned frame whatever calls it went through. -/
structure Frame.Healthy (frame : Frame) : Prop where
  owned : frame.libraryOwnsData = true
  dataExact : frame.DataExact
  metadataFits : frame.MetadataFits

variable {grant : Option Grant} {alloc : Alloc} {input out frame : Frame} {need : Nat}

/-- The block the metadata `memcpy` writes into holds the bytes it copies: a reallocated one has
exactly that size, and a kept one already holds the larger count `out` records. -/
theorem metadataTarget_fits {block : Block} (fits : out.MetadataFits)
    (target : metadataTarget grant input out = some block) : input.metadataBytes ≤ block.size := by
  unfold metadataTarget at target
  split at target
  · exact (realloc_size target).ge
  · unfold Frame.MetadataFits at fits
    rw [target, capacity_some] at fits
    omega

theorem copyMetadata_fits {out' : Frame} (fits : out.MetadataFits)
    (copied : copyMetadata grant input out = some out') : out'.MetadataFits := by
  unfold copyMetadata at copied
  split at copied
  · rename_i carries
    obtain ⟨metadata, moved, rfl⟩ := Option.map_eq_some'.mp copied
    have positive : 0 < input.metadataBytes := by simp_all
    rcases transfer_some moved with ⟨empty, -⟩ | ⟨target, origin, picked, -, rfl⟩
    · omega
    · exact (metadataTarget_fits fits picked :)
  · cases copied
    exact fits

namespace Outcome

variable {r : UvcError × Frame}

theorem dataExact (outcome : Outcome alloc input out r) (exact : out.DataExact) : r.2.DataExact := by
  cases outcome with
  | rejected => exact exact
  | unsized => exact uvcEnsureFrameSize_dataExact exact
  | @sized need ensured out' succeeded _ size dataBytes =>
      have sized : (uvcEnsureFrameSize alloc.data out need).2.DataExact := uvcEnsureFrameSize_dataExact exact
      rw [succeeded] at sized
      unfold Frame.DataExact at sized ⊢
      rwa [size, dataBytes]

theorem metadataFits (outcome : Outcome alloc input out r) (fits : out.MetadataFits) :
    r.2.MetadataFits := by
  cases outcome with
  | rejected => exact fits
  | unsized => exact fits.congr (by simp) (by simp)
  | sized _ _ _ _ _ metadata =>
      rcases metadata with ⟨kept, keptBytes⟩ | ⟨before, kept, keptBytes, copied⟩
      · exact fits.congr kept keptBytes
      · exact copyMetadata_fits (fits.congr kept keptBytes) copied

theorem healthy (outcome : Outcome alloc input out r) (healthy : out.Healthy) : r.2.Healthy :=
  ⟨outcome.libraryOwnsData.trans healthy.owned, outcome.dataExact healthy.dataExact,
    outcome.metadataFits healthy.metadataFits⟩

end Outcome

theorem uvcAllocateFrame_healthy {granted : Bool} {dataBytes : Nat}
    (allocated : uvcAllocateFrame granted grant dataBytes = some frame) : frame.Healthy := by
  unfold uvcAllocateFrame at allocated
  split at allocated
  · cases allocated
  · split at allocated
    · obtain ⟨block, granted, rfl⟩ := Option.map_eq_some'.mp allocated
      cases grant with
      | none => cases granted
      | some _ =>
          cases granted
          exact ⟨rfl, .inr rfl, Nat.zero_le _⟩
    · cases allocated
      exact ⟨rfl, .inl rfl, Nat.zero_le _⟩

/-- The frames a destination made by `uvc_allocate_frame` passes through when it is reused by
call after call that returns, from any source, with any allocator answers, in a build with the
JPEG decoder `jpeg`. -/
inductive Reachable (jpeg : Option Loop) : Frame → Prop
  | allocate {granted : Bool} {grant : Option Grant} {dataBytes : Nat} {frame : Frame}
      (allocated : uvcAllocateFrame granted grant dataBytes = some frame) : Reachable jpeg frame
  | call {frame : Frame} (op : Op) {alloc : Alloc} {input : Frame} {result : UvcError}
      {frame' : Frame} (reached : Reachable jpeg frame)
      (called : op.run jpeg alloc input frame = some (result, frame')) : Reachable jpeg frame'

variable {jpeg : Option Loop}

theorem Reachable.healthy (reached : Reachable jpeg frame) : frame.Healthy := by
  induction reached with
  | allocate allocated => exact uvcAllocateFrame_healthy allocated
  | call op _ called healthy => exact (op.run_outcome called).healthy healthy

/-- Along every run of a reused library-owned frame the metadata recorded fits its block, so the
metadata `memcpy` of the next `uvc_duplicate_frame`, into the block `metadataTarget` picks,
stays inside that block whether or not the call reallocates it. -/
theorem reused_frame_metadata_fits (reached : Reachable jpeg frame) :
    frame.MetadataFits ∧ ∀ (grant : Option Grant) (input : Frame) (block : Block),
      metadataTarget grant input frame = some block → input.metadataBytes ≤ block.size :=
  ⟨reached.healthy.metadataFits,
    fun _ _ _ target => metadataTarget_fits reached.healthy.metadataFits target⟩

theorem tagged_copy_metadata_fits :
    ∃ result out', Op.duplicateFrame.run none granting taggedPixel emptyOwned = some (result, out') ∧
      out'.MetadataFits ∧ ∀ (grant : Option Grant) (input : Frame) (block : Block),
        metadataTarget grant input out' = some block → input.metadataBytes ≤ block.size :=
  have allocated : uvcAllocateFrame true none 0 = some emptyOwned := rfl
  have called : Op.duplicateFrame.run none granting taggedPixel emptyOwned = some (.success, _) := rfl
  ⟨_, _, called, reused_frame_metadata_fits (.call .duplicateFrame (.allocate allocated) called)⟩

/-- A reused library-owned frame stays library-owned, and its `data`, when not NULL, is a block of
exactly `data_bytes` bytes. -/
theorem reused_frame_data_exact (reached : Reachable jpeg frame) :
    frame.libraryOwnsData = true ∧ frame.DataExact :=
  ⟨reached.healthy.owned, reached.healthy.dataExact⟩

theorem tagged_copy_data_exact :
    ∃ result out', Op.duplicateFrame.run none granting taggedPixel emptyOwned = some (result, out') ∧
      out'.libraryOwnsData = true ∧ out'.DataExact :=
  have allocated : uvcAllocateFrame true none 0 = some emptyOwned := rfl
  have called : Op.duplicateFrame.run none granting taggedPixel emptyOwned = some (.success, _) := rfl
  ⟨_, _, called, reused_frame_data_exact (.call .duplicateFrame (.allocate allocated) called)⟩

/-- The frames a destination passes through when it is handed to call after call that returns,
from any sources, with any allocator answers, in a build with the JPEG decoder `jpeg`. -/
inductive Run (jpeg : Option Loop) (frame : Frame) : Frame → Prop
  | start : Run jpeg frame frame
  | call {frame' : Frame} (op : Op) {alloc : Alloc} {input : Frame} {result : UvcError}
      {frame'' : Frame} (run : Run jpeg frame frame')
      (called : op.run jpeg alloc input frame' = some (result, frame'')) : Run jpeg frame frame''

/-- A destination the caller lends stays lent along every run: it stays borrowed, keeps its data
block, that block's size and its `data_bytes`, and `uvc_free_frame` frees none of its buffers at
the end. -/
theorem lent_frame_stays_lent {frame frame' : Frame} (run : Run jpeg frame frame')
    (borrowed : frame.libraryOwnsData = false) :
    frame'.libraryOwnsData = false ∧ frame'.data.map Block.address = frame.data.map Block.address ∧
      frame'.data.map Block.size = frame.data.map Block.size ∧ frame'.dataBytes = frame.dataBytes ∧
      uvcFreeFrame frame' = [] := by
  induction run with
  | start => exact ⟨borrowed, rfl, rfl, rfl, uvcFreeFrame_borrowed borrowed⟩
  | call op _ called lent =>
      obtain ⟨lent, address, size, dataBytes, -⟩ := lent
      have outcome := op.run_outcome called
      obtain ⟨address', size', dataBytes'⟩ := outcome.borrowed_data lent
      have owner := outcome.libraryOwnsData.trans lent
      exact ⟨owner, address'.trans address, size'.trans size, dataBytes'.trans dataBytes,
        uvcFreeFrame_borrowed owner⟩

theorem counting_pixel_lends_buffer :
    borrowedTwoBytes.libraryOwnsData = false ∧ ∃ frame', Run none borrowedTwoBytes frame' ∧
      frame'.libraryOwnsData = false ∧
      frame'.data.map Block.address = borrowedTwoBytes.data.map Block.address ∧
      frame'.data.map Block.size = borrowedTwoBytes.data.map Block.size ∧
      frame'.dataBytes = borrowedTwoBytes.dataBytes ∧ uvcFreeFrame frame' = [] :=
  have borrowed : borrowedTwoBytes.libraryOwnsData = false := rfl
  have called : Op.yuyv2y.run none granting countingPixel borrowedTwoBytes = some (.success, _) := rfl
  have run : Run none borrowedTwoBytes _ := .call .yuyv2y .start called
  ⟨borrowed, _, run, lent_frame_stays_lent run borrowed⟩

end UvcFrame
