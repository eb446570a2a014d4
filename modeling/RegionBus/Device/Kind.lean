/-!
# Device Kinds

The tag of a region says what kind of device is mapped there. It is
independent of who serves the region's accesses, so it stays the same while a
breakpoint intercepts them.

## Main definitions

* `DeviceKind`: The kinds.
* `DeviceKind.name`: The name of a kind in reports.
* `DeviceKind.all`: Every kind.
-/

namespace RegionBus

/-- The kind of device mapped at a region. -/
inductive DeviceKind where
  /-- Nothing is mapped. -/
  | nothing
  /-- Main memory. -/
  | rdram
  /-- Registers of the memory chips. -/
  | rdramRegs
  /-- The signal processor's memory. -/
  | rspMem
  /-- The signal processor's registers. -/
  | rspRegs
  /-- The signal processor's program counter. -/
  | rsp
  /-- Command registers of the display processor. -/
  | dp
  /-- Span registers of the display processor. -/
  | dps
  /-- Video output. -/
  | vi
  /-- Audio output. -/
  | ai
  /-- The cartridge bus. -/
  | pi
  /-- The memory controller. -/
  | ri
  /-- The serial interface of the controllers. -/
  | si
  /-- Status of the flash memory in a cartridge. -/
  | flashRamStat
  /-- The cartridge image. -/
  | rom
  /-- Boot code and scratch memory of the peripheral interface. -/
  | pif
  /-- The interrupt controller. -/
  | mi
  /-- Registers of the disk drive. -/
  | ddRegs
  /-- The disk drive's boot image. -/
  | ddRom
  /-- Debug output. -/
  | isViewer
  deriving DecidableEq, Repr, Inhabited

namespace DeviceKind

/-- Every kind, in the order of declaration. -/
def all : List DeviceKind :=
  [nothing, rdram, rdramRegs, rspMem, rspRegs, rsp, dp, dps, vi, ai, pi, ri, si, flashRamStat,
    rom, pif, mi, ddRegs, ddRom, isViewer]

theorem mem_all (k : DeviceKind) : k ∈ all := by
  cases k <;> decide

/-- The name of a kind in reports. -/
def name : DeviceKind → String
  | nothing => "Nothing"
  | rdram => "Rdram"
  | rdramRegs => "RdramRegs"
  | rspMem => "RspMem"
  | rspRegs => "RspRegs"
  | rsp => "Rsp"
  | dp => "Dp"
  | dps => "Dps"
  | vi => "Vi"
  | ai => "Ai"
  | pi => "Pi"
  | ri => "Ri"
  | si => "Si"
  | flashRamStat => "FlashRamStat"
  | rom => "Rom"
  | pif => "Pif"
  | mi => "Mi"
  | ddRegs => "DdRegs"
  | ddRom => "DdRom"
  | isViewer => "IsViewer"

end DeviceKind

end RegionBus
