import RegionBus.Block.Basic

/-!
# A Block in Use

Whoever has a block asks it for words and bytes, stores some, or wants to know where in host
memory they are. All of this is a `BlockStep`. Every step is about some bytes in a row, and
the block takes it iff it has all of them. A step that it does not take is refused, with the
answer that says so, and leaves it alone.

A caller who reads bytes passes a buffer. It belongs to the answer, so that it can be said
what is in it after a read that was refused.

## Main definitions

* `BlockStep`, `BlockAnswer`: What a block is asked, and what it answers.
* `BlockStep.first`, `BlockStep.count`: The bytes that a step is about.
* `BlockStep.refusal`: What a step answers that is refused.
* `Block.perform`, `Block.run`: A block in use.
* `Block.SamePlace`: A block is where another one was.

## Theorems

* `succeeded_perform`, `perform_of_not_has`: When a step is refused, and what is left then.
* `samePlace_perform`: No step moves the block.
* `run_append`: Steps in two parts.
-/

namespace RegionBus

/-- What a block can be asked. -/
inductive BlockStep where
  /-- Read the word at a position. -/
  | readWord (offset : Nat)
  /-- Write some bits of the word at a position. -/
  | writeWord (offset : Nat) (value mask : UInt32)
  /-- Copy bytes from a position on to a buffer, as many as it has. -/
  | readBytes (offset : Nat) (buffer : List UInt8)
  /-- Copy bytes to a position. -/
  | writeBytes (offset : Nat) (data : Image)
  /-- Copy an image to a position, with its words turned around. -/
  | loadWords (offset : Nat) (image : Image)
  /-- Fill the block with a byte. -/
  | fill (byte : UInt8)
  /-- Tell the host address of the byte at a position. -/
  | addressAt (offset : Nat)

/-- What a block answers. -/
inductive BlockAnswer where
  /-- The word that was read, if there is one. -/
  | word (w : Option UInt32)
  /-- Whether something was stored. -/
  | stored (ok : Bool)
  /-- Whether bytes were copied to a buffer, and what is in it now. -/
  | copied (ok : Bool) (buffer : List UInt8)
  /-- The block was filled. -/
  | filled
  /-- The host address of a byte, if there is one. -/
  | address (a : Option Nat)
  deriving DecidableEq, Repr

/-- An answer is not that the step was refused. -/
def BlockAnswer.succeeded : BlockAnswer → Bool
  | .word w => w.isSome
  | .stored ok | .copied ok _ => ok
  | .filled => true
  | .address a => a.isSome

namespace BlockStep

/-- The first of the bytes that a step is about. -/
def first : BlockStep → Nat
  | readWord offset | writeWord offset _ _ | readBytes offset _ | writeBytes offset _
  | loadWords offset _ | addressAt offset => offset
  | fill _ => 0

/-- How many bytes a step is about when the block has `size` of them. -/
def count (size : Nat) : BlockStep → Nat
  | readWord _ | writeWord _ _ _ => 4
  | readBytes _ buffer => buffer.length
  | writeBytes _ data => data.size
  | loadWords _ image => image.paddedSize
  | fill _ => size
  | addressAt _ => 1

/-- A step is a store, or fills the block. -/
def stores : BlockStep → Bool
  | writeWord _ _ _ | writeBytes _ _ | loadWords _ _ | fill _ => true
  | readWord _ | readBytes _ _ | addressAt _ => false

/-- What a step answers that is refused. To fill a block is never refused. -/
def refusal : BlockStep → BlockAnswer
  | readWord _ => .word none
  | writeWord _ _ _ | writeBytes _ _ | loadWords _ _ => .stored false
  | readBytes _ buffer => .copied false buffer
  | fill _ => .filled
  | addressAt _ => .address none

end BlockStep

namespace Block

/-- The answer to a store that a block takes or refuses, and the block afterwards. -/
def attempt (b : Block) (result : Option Block) : BlockAnswer × Block :=
  (.stored result.isSome, result.getD b)

/-- The answer of a block to a step, and the block afterwards. -/
def perform (b : Block) : BlockStep → BlockAnswer × Block
  | .readWord offset => (.word (b.readWord? offset), b)
  | .writeWord offset value mask => b.attempt (b.writeWord? offset value mask)
  | .readBytes offset buffer =>
    let copied := b.readBytes? offset buffer.length
    (.copied copied.isSome (copied.getD buffer), b)
  | .writeBytes offset data => b.attempt (b.writeBytes? offset data)
  | .loadWords offset image => b.attempt (b.loadWords? offset image)
  | .fill byte => (.filled, b.fill byte)
  | .addressAt offset => (.address (b.addressAt? offset), b)

/-- The answers of a block to some steps in order, and the block afterwards. -/
def run (b : Block) : List BlockStep → List BlockAnswer × Block
  | [] => ([], b)
  | step :: steps =>
    let (reply, b) := b.perform step
    let (replies, b) := b.run steps
    (reply :: replies, b)

/-- A block is where another one was, and as long as that. -/
structure SamePlace (b b' : Block) : Prop where
  /-- It has the same name. -/
  kind_eq : b'.kind = b.kind
  /-- It has the same host address. -/
  address_eq : b'.address = b.address
  /-- It has the same length. -/
  size_eq : b'.size = b.size

/-- A block has all the bytes that a step is about. -/
abbrev Has (b : Block) (step : BlockStep) : Prop :=
  b.Fits step.first (step.count b.size)

variable {b b' : Block} {offset : Nat}

theorem readBytes?_isSome (b : Block) (offset n : Nat) :
    (b.readBytes? offset n).isSome ↔ b.Fits offset n := by
  rw [readBytes?, Option.isSome_ite]

theorem writeBytes?_isSome (b : Block) (offset : Nat) (data : Image) :
    (b.writeBytes? offset data).isSome ↔ b.Fits offset data.size := by
  rw [writeBytes?, Option.isSome_ite]

theorem loadWords?_isSome (b : Block) (offset : Nat) (image : Image) :
    (b.loadWords? offset image).isSome ↔ b.Fits offset image.paddedSize := by
  rw [loadWords?, Option.isSome_ite]

theorem addressAt?_isSome (b : Block) (offset : Nat) :
    (b.addressAt? offset).isSome ↔ offset < b.size := by
  rw [addressAt?, Option.isSome_ite]

/-- A step succeeds iff the block has all the bytes that it is about. -/
theorem succeeded_perform (b : Block) (step : BlockStep) :
    (b.perform step).1.succeeded = true ↔ b.Has step := by
  cases step with
  | readWord offset => exact b.readWord?_isSome offset
  | writeWord offset value mask => exact b.writeWord?_isSome offset value mask
  | readBytes offset buffer => exact b.readBytes?_isSome offset buffer.length
  | writeBytes offset data => exact b.writeBytes?_isSome offset data
  | loadWords offset image => exact b.loadWords?_isSome offset image
  | fill byte => exact iff_of_true rfl (Nat.le_of_eq (Nat.zero_add b.size))
  | addressAt offset => exact b.addressAt?_isSome offset

/-- A step that is refused says so and leaves the block alone. -/
theorem perform_of_not_has {step : BlockStep} (h : ¬ b.Has step) :
    b.perform step = (step.refusal, b) := by
  have hfailed : ¬ (b.perform step).1.succeeded = true := mt (b.succeeded_perform step).mp h
  cases step with
  | readWord offset => rw [perform, show b.readWord? offset = none from if_neg h]; rfl
  | writeWord offset value mask =>
      rw [perform, show b.writeWord? offset value mask = none from if_neg h]; rfl
  | readBytes offset buffer =>
      rw [perform, show b.readBytes? offset buffer.length = none from if_neg h]; rfl
  | writeBytes offset data =>
      rw [perform, show b.writeBytes? offset data = none from if_neg h]; rfl
  | loadWords offset image =>
      rw [perform, show b.loadWords? offset image = none from if_neg h]; rfl
  | fill byte => exact absurd rfl hfailed
  | addressAt offset => rw [perform, show b.addressAt? offset = none from if_neg h]; rfl

theorem SamePlace.refl (b : Block) : b.SamePlace b :=
  ⟨rfl, rfl, rfl⟩

theorem samePlace_of_writeWord? {value mask : UInt32}
    (h : b.writeWord? offset value mask = some b') : b.SamePlace b' := by
  unfold writeWord? at h
  split at h
  · cases h
    constructor <;> simp only [putWord]
  · cases h

theorem samePlace_of_writeBytes? {data : Image} (h : b.writeBytes? offset data = some b') :
    b.SamePlace b' := by
  unfold writeBytes? at h
  split at h
  · cases h
    exact ⟨rfl, rfl, rfl⟩
  · cases h

theorem samePlace_of_loadWords? {image : Image} (h : b.loadWords? offset image = some b') :
    b.SamePlace b' := by
  unfold loadWords? at h
  split at h
  · cases h
    exact ⟨rfl, rfl, rfl⟩
  · cases h

theorem samePlace_attempt {result : Option Block}
    (hplace : ∀ b', result = some b' → b.SamePlace b') :
    b.SamePlace (b.attempt result).2 := by
  cases result with
  | none => exact .refl b
  | some b' => exact hplace b' rfl

/-- No step moves the block. -/
theorem samePlace_perform (b : Block) (step : BlockStep) :
    b.SamePlace (b.perform step).2 := by
  cases step with
  | readWord | readBytes | addressAt => exact .refl b
  | writeWord => exact samePlace_attempt fun _ => samePlace_of_writeWord?
  | writeBytes => exact samePlace_attempt fun _ => samePlace_of_writeBytes?
  | loadWords => exact samePlace_attempt fun _ => samePlace_of_loadWords?
  | fill => exact ⟨rfl, rfl, rfl⟩

/-- Steps in two parts leave the block as they do one after the other. -/
theorem run_append (b : Block) (steps steps' : List BlockStep) :
    (b.run (steps ++ steps')).2 = ((b.run steps).2.run steps').2 := by
  induction steps generalizing b with
  | nil => rfl
  | cons step steps ih => exact ih (b.perform step).2

end Block

end RegionBus
