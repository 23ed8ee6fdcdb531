import UvcFrame.Frame

namespace UvcFrame

variable {grant : Option Grant} {frame : Frame} {need : Nat}

@[simps]
def Frame.resized (frame : Frame) (needBytes : Nat) (grant : Option Grant) : Frame :=
  { frame with dataBytes := needBytes, data := realloc frame.data needBytes grant }

/-- `uvc_ensure_frame_size`. A library-owned frame is reallocated to exactly `needBytes` unless
it already has a buffer of that size; a borrowed frame must already hold them. `grant` is the
allocator's answer to the `realloc`. -/
def uvcEnsureFrameSize (grant : Option Grant) (frame : Frame) (needBytes : Nat) : UvcError × Frame :=
  if frame.libraryOwnsData then
    let frame := if frame.data.isNone || frame.dataBytes != needBytes then
      frame.resized needBytes grant else frame
    if frame.data.isNone then (.errorNoMem, frame) else (.success, frame)
  else if frame.data.isNone || decide (frame.dataBytes < needBytes) then (.errorNoMem, frame)
  else (.success, frame)

/-- Everything `uvc_ensure_frame_size` can do: succeed on the frame as it is, reallocate a
library-owned frame, or refuse a borrowed one. -/
theorem uvcEnsureFrameSize_eq (grant : Option Grant) (frame : Frame) (need : Nat) :
    (uvcEnsureFrameSize grant frame need = (.success, frame) ∧ frame.data.isSome ∧
        need ≤ frame.dataBytes ∧ (frame.libraryOwnsData = true → frame.dataBytes = need)) ∨
      (frame.libraryOwnsData = true ∧ uvcEnsureFrameSize grant frame need =
        if (realloc frame.data need grant).isNone then (.errorNoMem, frame.resized need grant)
        else (.success, frame.resized need grant)) ∨
      (frame.libraryOwnsData = false ∧ uvcEnsureFrameSize grant frame need = (.errorNoMem, frame)) := by
  unfold uvcEnsureFrameSize
  cases owned : frame.libraryOwnsData with
  | false =>
      by_cases refused : (frame.data.isNone || decide (frame.dataBytes < need)) = true
      · simp [refused]
      · left
        cases present : frame.data with
        | none => simp [present] at refused
        | some block =>
            simp only [present, Option.isNone_some, Bool.false_or, decide_eq_true_eq] at refused
            simp [present]
            omega
  | true =>
      by_cases resize : (frame.data.isNone || frame.dataBytes != need) = true
      · simp only [resize, if_true, Frame.resized_data]
        simp
      · left
        cases present : frame.data with
        | none => simp [present] at resize
        | some block =>
            simp only [present, Option.isNone_some, Bool.false_or, bne_iff_ne, ne_eq,
              Bool.not_eq_true, decide_eq_false_iff_not, not_not] at resize
            simp [present, resize]

theorem uvcEnsureFrameSize_result (grant : Option Grant) (frame : Frame) (need : Nat) :
    (uvcEnsureFrameSize grant frame need).1 = .success ∨
      (uvcEnsureFrameSize grant frame need).1 = .errorNoMem := by
  rcases uvcEnsureFrameSize_eq grant frame need with ⟨ensured, -⟩ | ⟨-, ensured⟩ | ⟨-, ensured⟩ <;>
    rw [ensured]
  · simp
  · split <;> simp
  · simp

theorem uvcEnsureFrameSize_frame (grant : Option Grant) (frame : Frame) (need : Nat) :
    { (uvcEnsureFrameSize grant frame need).2 with data := frame.data, dataBytes := frame.dataBytes } =
      frame := by
  rcases uvcEnsureFrameSize_eq grant frame need with ⟨ensured, -⟩ | ⟨-, ensured⟩ | ⟨-, ensured⟩ <;>
    rw [ensured]
  split <;> rfl

@[simp] theorem uvcEnsureFrameSize_metadata :
    (uvcEnsureFrameSize grant frame need).2.metadata = frame.metadata := by
  rw [← congrArg Frame.metadata (uvcEnsureFrameSize_frame grant frame need)]

@[simp] theorem uvcEnsureFrameSize_metadataBytes :
    (uvcEnsureFrameSize grant frame need).2.metadataBytes = frame.metadataBytes := by
  rw [← congrArg Frame.metadataBytes (uvcEnsureFrameSize_frame grant frame need)]

@[simp] theorem uvcEnsureFrameSize_libraryOwnsData :
    (uvcEnsureFrameSize grant frame need).2.libraryOwnsData = frame.libraryOwnsData := by
  rw [← congrArg Frame.libraryOwnsData (uvcEnsureFrameSize_frame grant frame need)]

theorem uvcEnsureFrameSize_keeps {result : UvcError} {frame' : Frame}
    (ensured : uvcEnsureFrameSize grant frame need = (result, frame')) :
    frame'.libraryOwnsData = frame.libraryOwnsData ∧ frame'.metadata = frame.metadata ∧
      frame'.metadataBytes = frame.metadataBytes := by
  have kept : (uvcEnsureFrameSize grant frame need).2 = frame' := congrArg Prod.snd ensured
  subst kept
  exact ⟨by simp, by simp, by simp⟩

theorem uvcEnsureFrameSize_borrowed (borrowed : frame.libraryOwnsData = false) :
    (uvcEnsureFrameSize grant frame need).2 = frame := by
  rcases uvcEnsureFrameSize_eq grant frame need with ⟨ensured, -⟩ | ⟨owned, -⟩ | ⟨-, ensured⟩
  · rw [ensured]
  · simp [owned] at borrowed
  · rw [ensured]

theorem uvcEnsureFrameSize_success {ensured : Frame}
    (succeeded : uvcEnsureFrameSize grant frame need = (.success, ensured)) :
    ensured.data.isSome ∧ need ≤ ensured.dataBytes ∧
      (frame.libraryOwnsData = true → ensured.dataBytes = need) := by
  rcases uvcEnsureFrameSize_eq grant frame need with ⟨kept, present, fits, exact⟩ | ⟨-, resized⟩ |
      ⟨-, refused⟩
  · rw [kept] at succeeded
    cases succeeded
    exact ⟨present, fits, exact⟩
  · rw [resized] at succeeded
    split at succeeded
    · cases succeeded
    · rename_i granted
      cases succeeded
      refine ⟨Option.isSome_iff_ne_none.mpr fun absent => granted ?_, by simp, by simp⟩
      simp only [Frame.resized_data] at absent
      simp [absent]
  · rw [refused] at succeeded
    cases succeeded

theorem uvcEnsureFrameSize_of_sized (present : frame.data.isSome) (fits : need ≤ frame.dataBytes)
    (exact : frame.libraryOwnsData = true → frame.dataBytes = need) :
    uvcEnsureFrameSize grant frame need = (.success, frame) := by
  obtain ⟨block, found⟩ := Option.isSome_iff_exists.mp present
  unfold uvcEnsureFrameSize
  cases owned : frame.libraryOwnsData with
  | false => simp [found, Nat.not_lt.mpr fits]
  | true => simp [found, exact owned]

/-- When `uvc_ensure_frame_size` fails, the frame is as it was, or it is library-owned, the
allocator refused the `realloc`, and the frame has lost its buffer and records the size asked
for. -/
theorem uvcEnsureFrameSize_failed (failed : (uvcEnsureFrameSize grant frame need).1 = .errorNoMem) :
    (uvcEnsureFrameSize grant frame need).2 = frame ∨
      (frame.libraryOwnsData = true ∧ grant = none ∧
        (uvcEnsureFrameSize grant frame need).2 = { frame with data := none, dataBytes := need }) := by
  rcases uvcEnsureFrameSize_eq grant frame need with ⟨kept, -⟩ | ⟨owned, resized⟩ | ⟨-, refused⟩
  · rw [kept] at failed
    cases failed
  · rw [resized] at failed ⊢
    cases grant with
    | none => exact .inr ⟨owned, rfl, by simp [Frame.resized]⟩
    | some _ => simp at failed
  · rw [refused]
    exact .inl rfl

/-- `data` is NULL or a block of exactly `data_bytes` bytes. -/
def Frame.DataExact (frame : Frame) : Prop :=
  frame.data.map Block.size = none ∨ frame.data.map Block.size = some frame.dataBytes

instance (frame : Frame) : Decidable frame.DataExact :=
  inferInstanceAs (Decidable (_ ∨ _))

theorem uvcEnsureFrameSize_dataExact (exact : frame.DataExact) :
    (uvcEnsureFrameSize grant frame need).2.DataExact := by
  rcases uvcEnsureFrameSize_eq grant frame need with ⟨kept, -⟩ | ⟨-, resized⟩ | ⟨-, refused⟩
  · rwa [kept]
  · rw [resized]
    have sized : (frame.resized need grant).DataExact := by
      cases reallocated : realloc frame.data need grant with
      | none => exact .inl (by simp [reallocated])
      | some block => exact .inr (by simp [reallocated, realloc_size reallocated])
    split <;> exact sized
  · rwa [refused]

theorem uvcEnsureFrameSize_block {ensured : Frame}
    (exact : frame.DataExact) (sized : uvcEnsureFrameSize grant frame need = (.success, ensured)) :
    ∃ dst, ensured.data = some dst ∧ dst.size = ensured.dataBytes ∧ need ≤ dst.size := by
  obtain ⟨present, fits, -⟩ := uvcEnsureFrameSize_success sized
  obtain ⟨dst, buffer⟩ := Option.isSome_iff_exists.mp present
  have exact' : (uvcEnsureFrameSize grant frame need).2.DataExact := uvcEnsureFrameSize_dataExact exact
  rw [sized] at exact'
  rcases exact' with absent | size
  · simp [buffer] at absent
  · simp only [buffer, Option.map_some', Option.some.injEq] at size
    exact ⟨dst, buffer, size, size ▸ fits⟩

/-- `uvc_allocate_frame(data_bytes)`: a zeroed, library-owned frame, with `data_bytes` bytes of
`data` when that is positive; `none` is the NULL it returns when an allocation fails. `granted`
says whether the `malloc` of the frame structure succeeds, `grant` answers the one of `data`. -/
def uvcAllocateFrame (granted : Bool) (grant : Option Grant) (dataBytes : Nat) : Option Frame :=
  if !granted then none
  else
    let frame := { Frame.zeroed with libraryOwnsData := true }
    if 0 < dataBytes then (malloc dataBytes grant).map fun data => { frame with dataBytes, data := some data }
    else some frame

def emptyOwned : Frame := { Frame.zeroed with libraryOwnsData := true }

example : uvcAllocateFrame true none 0 = some emptyOwned := rfl

def granting : Alloc := ⟨some ⟨3, fun _ => 0⟩, some ⟨4, fun _ => 0⟩⟩

def refusing : Alloc := ⟨none, none⟩

/-- `uvc_free_frame`: the addresses it passes to `free`, besides the frame structure itself,
which it frees whoever owns the buffers. -/
def uvcFreeFrame (frame : Frame) : List Nat :=
  if frame.libraryOwnsData then
    (if 0 < frame.dataBytes then frame.data.toList.map Block.address else []) ++
      (if 0 < frame.metadataBytes then frame.metadata.toList.map Block.address else []) ++
      frame.timeStamp.toList
  else []

theorem uvcFreeFrame_borrowed (borrowed : frame.libraryOwnsData = false) : uvcFreeFrame frame = [] := by
  simp [uvcFreeFrame, borrowed]

end UvcFrame
