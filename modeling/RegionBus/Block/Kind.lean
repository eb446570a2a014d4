/-!
# Memory Blocks of the Machine

The machine has five raw memory blocks. Main memory has the size the
configuration asks for; the other four have fixed sizes. The order of
`BlockKind.all` is the order in which blocks are allocated.

## Main definitions

* `BlockKind`: Which of the five blocks.
* `BlockKind.all`: Every block, in allocation order.
* `BlockKind.label`: The name used in messages.
* `BlockKind.alignment`: The alignment a block's memory needs.
* `BlockKind.sizeWith`: The size of each block for a given main memory size.
-/

namespace RegionBus

/-- One of the machine's raw memory blocks. -/
inductive BlockKind where
  /-- Main memory. -/
  | dram
  /-- The cartridge image. -/
  | cartRom
  /-- The signal processor's data and instruction memory. -/
  | rspMem
  /-- The boot image of the disk drive. -/
  | ddRom
  /-- Boot code and scratch memory of the peripheral interface. -/
  | pifMem
  deriving DecidableEq, Repr

namespace BlockKind

/-- Every block, in the order of allocation. -/
def all : List BlockKind := [dram, cartRom, rspMem, ddRom, pifMem]

theorem mem_all (k : BlockKind) : k ∈ all := by
  cases k <;> decide

/-- The name a block has in messages. -/
def label : BlockKind → String
  | dram => "RDRAM"
  | cartRom => "cartridge ROM"
  | rspMem => "RSP memory"
  | ddRom => "DD ROM"
  | pifMem => "PIF memory"

end BlockKind

/-- Main memory when the configuration names no size: 4 MiB and the 4 MiB expansion. -/
def dramDefaultSize : Nat := 0x00800000

/-- The largest main memory that its two address windows can reach. -/
def dramMaxSize : Nat := 0x0BF00000

/-- Size of the cartridge block, and the largest image that fits it. -/
def cartRomSize : Nat := 0x0FC00000

/-- Size of the signal processor's memory. -/
def rspMemSize : Nat := 0x2000

/-- Size of the disk drive's image block. -/
def ddRomSize : Nat := 0x00400000

/-- The boot code at the start of the peripheral interface's block. -/
def pifRomSize : Nat := 0x7C0

/-- The scratch memory that follows the boot code. -/
def pifRamSize : Nat := 0x40

/-- Alignment of main memory, and the unit its size is counted in. -/
def dramAlignment : Nat := 0x10000

/-- Alignment of every block but main memory. -/
def blockAlignment : Nat := 0x1000

namespace BlockKind

/-- The alignment the memory of a block needs. -/
def alignment : BlockKind → Nat
  | dram => dramAlignment
  | cartRom | rspMem | ddRom | pifMem => blockAlignment

/-- The size of each block when main memory has `dramSize` bytes. -/
def sizeWith (dramSize : Nat) : BlockKind → Nat
  | dram => dramSize
  | cartRom => cartRomSize
  | rspMem => rspMemSize
  | ddRom => ddRomSize
  | pifMem => pifRomSize + pifRamSize

end BlockKind

end RegionBus
