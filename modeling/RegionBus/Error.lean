import RegionBus.Block.Kind
import RegionBus.Text.Hex

/-!
# Errors

What can go wrong while memory is built, loaded or configured. Accesses
themselves never fail: an address without a device reads as open bus, and an
address without raw memory behind it stands for nothing.

Each cause carries the values its message shows. The wording lives in
`MemoryError.message` alone.

## Main definitions

* `ConfigFault`: What is wrong with a configuration.
* `MemoryError`: The causes.
* `MemoryError.message`: The text of a cause.
-/

namespace RegionBus

/-- What is wrong with a configuration. -/
inductive ConfigFault where
  /-- The document is not well formed, or a setting has the wrong type. -/
  | unreadable
  /-- The configuration has no written form. -/
  | unwritable
  /-- Main memory is empty or not a whole number of 64 KiB units. -/
  | dramUnaligned (size : Nat)
  /-- Main memory is larger than its address windows. -/
  | dramTooLarge (size : Nat)
  deriving DecidableEq, Repr

/-- Why memory could not be built, loaded or configured. -/
inductive MemoryError where
  /-- A block could not be had with its size and alignment. -/
  | allocation (block : BlockKind)
  /-- An image of `size` bytes was offered to a block that takes `limit`. -/
  | imageTooLarge (block : BlockKind) (size limit : Nat)
  /-- Two address windows share an address. -/
  | overlappingWindows (first second : String)
  /-- A range whose first address lies behind its last. -/
  | invertedRange (first last : UInt32)
  /-- The configuration is faulty. -/
  | config (fault : ConfigFault)
  /-- A file could not be read or written. -/
  | file
  deriving DecidableEq, Repr

/-- The text of a configuration fault. -/
def ConfigFault.message : ConfigFault → String
  | unreadable => "Failed to parse config"
  | unwritable => "Failed to serialize config"
  | dramUnaligned size =>
    "dram_size 0x" ++ Text.hexPadded 1 size ++ " must be a non-zero multiple of 0x" ++
      Text.hexPadded 1 dramAlignment
  | dramTooLarge size =>
    "dram_size 0x" ++ Text.hexPadded 1 size ++ " exceeds maximum 0x" ++
      Text.hexPadded 1 dramMaxSize

/-- The text of an error. -/
def MemoryError.message : MemoryError → String
  | allocation block => "failed to allocate " ++ block.label ++ " backing memory"
  | imageTooLarge block size limit =>
    block.label ++ " image is " ++ size.repr ++ " bytes, maximum is " ++ limit.repr ++ " bytes"
  | overlappingWindows first second =>
    "address window " ++ first ++ " overlaps window " ++ second
  | invertedRange first last =>
    "invalid mapping range " ++ Text.hexWord first ++ "-" ++ Text.hexWord last
  | config fault => "configuration error: " ++ fault.message
  | file => "I/O error"

end RegionBus
