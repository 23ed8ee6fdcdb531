import Mathlib.Logic.Function.Basic

/-! # Frames of libuvc's frame.c

`uvc_frame_t` with the fields frame.c reads or writes, and the C library calls it makes on
them: `malloc`, `realloc` and `memcpy`.

Frames are values. A call of frame.c takes its source frame and its destination frame and
returns the destination as the call leaves it; the source is never returned, as frame.c never
writes through `in`. A heap buffer is a `Block` behind an `Option`, `none` standing for NULL.
What the allocator answers is an argument of every call (`Alloc`), so a statement about a call
holds whatever the allocator does, failures included. An access through NULL, which C leaves
undefined, makes a call return `none`.
-/

namespace UvcFrame

inductive FrameFormat where
  | unknown | uncompressed | compressed | yuyv | uyvy | rgb | bgr | mjpeg | h264 | gray8
  | gray16 | by8 | ba81 | sgrbg8 | sgbrg8 | srggb8 | sbggr8 | nv12 | p010
deriving DecidableEq, Repr

inductive UvcError where
  | success | errorInvalidParam | errorNoMem | errorNotSupported
deriving DecidableEq, Repr

structure Timeval where
  tvSec : Int
  tvUsec : Int
deriving DecidableEq, Repr

structure Timespec where
  tvSec : Int
  tvNsec : Int
deriving DecidableEq, Repr

/-- A heap block: its address, the size it was allocated with, and the bytes from its start on
(an index at or past `size` reads or writes the memory that follows the block). -/
structure Block where
  address : Nat
  size : Nat
  bytes : Nat → UInt8

structure Grant where
  address : Nat
  bytes : Nat → UInt8

def malloc (size : Nat) : Option Grant → Option Block
  | none => none
  | some grant => some ⟨grant.address, size, grant.bytes⟩

/-- `realloc(p, size)`, when the allocator answers `grant`: NULL on failure, otherwise the
granted block, holding the first `min(old size, size)` bytes of the old one. -/
def realloc (p : Option Block) (size : Nat) (grant : Option Grant) : Option Block :=
  match p with
  | none => malloc size grant
  | some old => (malloc size grant).map fun block =>
      { block with bytes := fun i => if i < old.size ∧ i < size then old.bytes i else block.bytes i }

@[simp] theorem malloc_none (size : Nat) : malloc size none = none := rfl

@[simp] theorem realloc_none (p : Option Block) (size : Nat) : realloc p size none = none := by
  cases p <;> rfl

theorem realloc_size {p : Option Block} {size : Nat} {grant : Option Grant} {block : Block}
    (granted : realloc p size grant = some block) : block.size = size := by
  cases grant <;> cases p <;> simp [realloc, malloc] at granted <;> rw [← granted]

@[simp] theorem realloc_address (p : Option Block) (size : Nat) (grant : Option Grant) :
    (realloc p size grant).map Block.address = grant.map Grant.address := by
  cases grant <;> cases p <;> rfl

@[simp] theorem realloc_isNone (p : Option Block) (size : Nat) (grant : Option Grant) :
    (realloc p size grant).isNone = grant.isNone := by
  cases grant <;> cases p <;> rfl

def peek (p : Option Block) (i : Nat) : Option UInt8 :=
  p.map fun block => block.bytes i

/-- Write through `dst` with `write`, reading through `src`: the pointer `dst` with its new
bytes. When one of the two is NULL, nothing is written if there are no bytes to move, and the
access is undefined otherwise (`none`). `memcpy` and the pixel loops of the kernels are instances. -/
def transfer (dst src : Option Block) (count : Nat)
    (write : (Nat → UInt8) → (Nat → UInt8) → Nat → UInt8) : Option (Option Block) :=
  match dst, src with
  | some target, some origin => some (some { target with bytes := write origin.bytes target.bytes })
  | _, _ => if count = 0 then some dst else none

def memcpy (dst src : Option Block) (count : Nat) : Option (Option Block) :=
  transfer dst src count fun origin target i => if i < count then origin i else target i

theorem transfer_some {dst src : Option Block} {count : Nat}
    {write : (Nat → UInt8) → (Nat → UInt8) → Nat → UInt8} {after : Option Block}
    (moved : transfer dst src count write = some after) :
    (count = 0 ∧ after = dst) ∨ ∃ target origin, dst = some target ∧ src = some origin ∧
      after = some { target with bytes := write origin.bytes target.bytes } := by
  unfold transfer at moved
  split at moved
  · exact .inr ⟨_, _, rfl, rfl, (Option.some.inj moved).symm⟩
  · split at moved
    · exact .inl ⟨‹_›, (Option.some.inj moved).symm⟩
    · cases moved

theorem transfer_block {dst src after : Option Block} {count : Nat}
    {write : (Nat → UInt8) → (Nat → UInt8) → Nat → UInt8}
    (moved : transfer dst src count write = some after) :
    after.map Block.address = dst.map Block.address ∧ after.map Block.size = dst.map Block.size := by
  rcases transfer_some moved with ⟨-, rfl⟩ | ⟨target, origin, rfl, -, rfl⟩ <;> simp

theorem transfer_again {dst src after : Option Block} {count : Nat}
    {write : (Nat → UInt8) → (Nat → UInt8) → Nat → UInt8}
    (idempotent : ∀ origin target, write origin (write origin target) = write origin target)
    (moved : transfer dst src count write = some after) : transfer after src count write = some after := by
  rcases transfer_some moved with ⟨-, rfl⟩ | ⟨target, origin, rfl, rfl, rfl⟩
  · exact moved
  · simp [transfer, idempotent]

theorem memcpy_again {dst src after : Option Block} {count : Nat}
    (copied : memcpy dst src count = some after) : memcpy after src count = some after :=
  transfer_again (fun _ _ => funext fun i => by by_cases below : i < count <;> simp [below]) copied

theorem memcpy_peek {dst src after : Option Block} {count : Nat}
    (copied : memcpy dst src count = some after) {i : Nat} (below : i < count) :
    peek after i = peek src i := by
  rcases transfer_some copied with ⟨rfl, -⟩ | ⟨target, origin, rfl, rfl, rfl⟩
  · omega
  · simp [peek, below]

/-- `uvc_frame_t`, with the fields frame.c reads or writes. -/
structure Frame where
  data : Option Block
  dataBytes : Nat
  width : UInt32
  height : UInt32
  frameFormat : FrameFormat
  step : Nat
  sequence : UInt32
  captureTime : Timeval
  captureTimeFinished : Timespec
  source : Nat
  libraryOwnsData : Bool
  metadata : Option Block
  metadataBytes : Nat
  timeStamp : Option Nat

def Frame.zeroed : Frame :=
  ⟨none, 0, 0, 0, .unknown, 0, 0, ⟨0, 0⟩, ⟨0, 0⟩, 0, false, none, 0, none⟩

/-- The header a conversion copies from its source once the destination is sized, with the
destination's own format and step. -/
@[simps]
def Frame.convertedFrom (out input : Frame) (format : FrameFormat) (step : Nat) : Frame :=
  { out with width := input.width, height := input.height, frameFormat := format, step,
             sequence := input.sequence, captureTime := input.captureTime,
             captureTimeFinished := input.captureTimeFinished, source := input.source }

/-- The allocator's answers to the calls one operation of frame.c makes: to the `realloc` that
sizes `data` and to the one that grows `metadata`. -/
structure Alloc where
  data : Option Grant
  metadata : Option Grant

end UvcFrame
