import UvcFrame.Allocator

namespace UvcFrame

variable {alloc : Alloc} {grant : Option Grant} {input out out' : Frame} {result : UvcError}

/-- The block the metadata `memcpy` of `uvc_duplicate_frame` writes into: `out->metadata`,
reallocated to `in->metadata_bytes` first when it records fewer bytes. -/
def metadataTarget (grant : Option Grant) (input out : Frame) : Option Block :=
  if out.metadataBytes < input.metadataBytes then realloc out.metadata input.metadataBytes grant
  else out.metadata

/-- The metadata step of `uvc_duplicate_frame`: when `in` carries metadata, `out->metadata` takes
its count and its bytes. The realloc's result is not checked, so a failed one is followed by a
`memcpy` into NULL: `none`. -/
def copyMetadata (grant : Option Grant) (input out : Frame) : Option Frame :=
  if input.metadata.isSome && decide (0 < input.metadataBytes) then
    (memcpy (metadataTarget grant input out) input.metadata input.metadataBytes).map fun metadata =>
      { out with metadata, metadataBytes := input.metadataBytes }
  else some out

theorem copyMetadata_eq_some (copied : copyMetadata grant input out = some out') :
    { out' with metadata := out.metadata, metadataBytes := out.metadataBytes } = out ∧
      (input.metadata.isSome = true → 0 < input.metadataBytes →
        out'.metadataBytes = input.metadataBytes ∧
          ∀ i < input.metadataBytes, peek out'.metadata i = peek input.metadata i) := by
  unfold copyMetadata at copied
  split at copied
  · rename_i carries
    obtain ⟨metadata, moved, rfl⟩ := Option.map_eq_some'.mp copied
    exact ⟨rfl, fun _ _ => ⟨rfl, fun i below => memcpy_peek moved below⟩⟩
  · rename_i bare
    cases copied
    refine ⟨rfl, fun present positive => ?_⟩
    simp [present, positive] at bare

theorem copyMetadata_address (copied : copyMetadata grant input out = some out') :
    out'.metadata.map Block.address = out.metadata.map Block.address ∨
      (out.metadataBytes < input.metadataBytes ∧
        out'.metadata.map Block.address = grant.map Grant.address) := by
  unfold copyMetadata at copied
  split at copied
  · obtain ⟨metadata, moved, rfl⟩ := Option.map_eq_some'.mp copied
    have address := (transfer_block moved).1
    unfold metadataTarget at address
    split at address
    · exact .inr ⟨‹_›, by simpa using address⟩
    · exact .inl address
  · cases copied
    exact .inl rfl

theorem copyMetadata_again (grant' : Option Grant) (copied : copyMetadata grant input out = some out') :
    copyMetadata grant' input out' = some out' := by
  unfold copyMetadata at copied ⊢
  split at copied
  · rename_i carries
    obtain ⟨metadata, moved, rfl⟩ := Option.map_eq_some'.mp copied
    have target : metadataTarget grant' input
        { out with metadata, metadataBytes := input.metadataBytes } = metadata := if_neg (Nat.lt_irrefl _)
    rw [if_pos carries, target, memcpy_again moved, Option.map_some']
  · rename_i bare
    cases copied
    exact if_neg bare

def uvcDuplicateFrame (alloc : Alloc) (input out : Frame) : Option (UvcError × Frame) :=
  let (result, out) := uvcEnsureFrameSize alloc.data out input.dataBytes
  if result ≠ .success then some (.errorNoMem, out)
  else
    let out := out.convertedFrom input input.frameFormat input.step
    (memcpy out.data input.data input.dataBytes).bind fun data =>
      (copyMetadata alloc.metadata input { out with data }).map fun out => (.success, out)

theorem uvcDuplicateFrame_eq_some (duplicated : uvcDuplicateFrame alloc input out = some (result, out')) :
    (result = .errorNoMem ∧ (uvcEnsureFrameSize alloc.data out input.dataBytes).1 ≠ .success ∧
        out' = (uvcEnsureFrameSize alloc.data out input.dataBytes).2) ∨
      (result = .success ∧ ∃ ensured data,
        uvcEnsureFrameSize alloc.data out input.dataBytes = (.success, ensured) ∧
        memcpy ensured.data input.data input.dataBytes = some data ∧
        copyMetadata alloc.metadata input
          { ensured.convertedFrom input input.frameFormat input.step with data } = some out') := by
  unfold uvcDuplicateFrame at duplicated
  rcases ensuring : uvcEnsureFrameSize alloc.data out input.dataBytes with ⟨ensuredResult, ensured⟩
  rw [ensuring] at duplicated
  dsimp only at duplicated ⊢
  by_cases succeeded : ensuredResult = .success
  · subst succeeded
    simp only [ne_eq, not_true_eq_false, if_false, Option.bind_eq_some, Option.map_eq_some'] at duplicated
    obtain ⟨data, copied, final, copiedMetadata, finished⟩ := duplicated
    cases finished
    exact .inr ⟨rfl, ensured, data, rfl, copied, copiedMetadata⟩
  · simp only [succeeded, ne_eq, not_false_eq_true, if_true, Option.some.injEq, Prod.mk.injEq] at duplicated
    exact .inl ⟨duplicated.1.symm, succeeded, duplicated.2.symm⟩

def taggedPixel : Frame :=
  { Frame.zeroed with
    width := 1, height := 1, frameFormat := .rgb, dataBytes := 2, data := some ⟨1, 2, fun _ => 7⟩,
    metadataBytes := 2, metadata := some ⟨5, 2, fun _ => 9⟩ }

end UvcFrame
