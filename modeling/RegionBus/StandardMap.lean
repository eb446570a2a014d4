import RegionBus.Device.Memory
import RegionBus.Mapping

/-!
# The Standard Map

The mappings of the machine. Memory is served by its blocks. Registers are
tagged with the kind of device they belong to and left to the open bus, until a
device is mapped over them.

Main memory is mapped as far as it reaches, in its low range up to the register
block and from there on in its high range. The high range comes last, so that it
replaces the tag of the flash memory where main memory reaches that far.
Everything here is arithmetic of 32-bit addresses.

## Main definitions

* `lowDram`, `highDram`: The devices of main memory's two ranges.
* `rspMemory`, `pifMemory`, `cartridge`, `diskImage`: The other memory devices.
* `standardMap`: All mappings for a main memory of a given size.
-/

namespace RegionBus

/-- Main memory from its start on. -/
def lowDram : RamDevice where
  name := "RDRAM"
  block := .dram
  base := dramBase

/-- Main memory from where its low range ends. -/
def highDram : RamDevice where
  name := "RDRAM"
  block := .dram
  base := highDramBase
  start := dramRegsBase.toUInt64

/-- The signal processor's memory, repeated throughout its region. -/
def rspMemory : RamDevice where
  name := "RSP memory"
  block := .rspMem
  base := rspMemBase
  distanceMask := 0x1FFF

/-- The block of the peripheral interface, repeated throughout its range. The
    boot code at its start cannot be written. -/
def pifMemory : RamDevice where
  name := "PIF"
  block := .pifMem
  base := pifMemBase
  distanceMask := 0x7FF
  readOnlyBelow := 0x7C0

/-- The cartridge image. -/
def cartridge : RomDevice where
  name := "cartridge ROM"
  block := .cartRom
  base := cartRomBase

/-- The disk drive's image. -/
def diskImage : RomDevice where
  name := "DD ROM"
  block := .ddRom
  base := ddRomBase

/-- Registers from `first` to `last` that no device serves yet. -/
def registers {X : Type} (first last : UInt32) (kind : DeviceKind) : Mapping (Device X) :=
  ⟨first, last, kind, .openBus⟩

/-- Main memory's high range, if main memory of size `dramSize` reaches it. -/
def highDramMap {X : Type} (dramSize : UInt32) : List (Mapping (Device X)) :=
  if dramRegsBase < dramSize then
    [⟨highDramBase, highDramBase + (dramSize - dramRegsBase) - 1, .rdram,
      .device (.ram highDram)⟩]
  else
    []

/-- The mappings of a machine whose main memory has `dramSize` bytes. -/
def standardMap {X : Type} (dramSize : UInt32) : List (Mapping (Device X)) :=
  [ ⟨dramBase, dramBase + min dramSize dramRegsBase - 1, .rdram, .device (.ram lowDram)⟩,
    registers dramRegsBase (dramRegsBase + 0xFFFFF) .rdramRegs,
    ⟨rspMemBase, rspMemBase + 0xFFFF, .rspMem, .device (.ram rspMemory)⟩,
    registers 0x04040000 0x0407FFFF .rspRegs,
    registers 0x04080000 0x040FFFFF .rsp,
    registers 0x04100000 0x041FFFFF .dp,
    registers 0x04200000 0x042FFFFF .dps,
    registers 0x04300000 0x043FFFFF .mi,
    registers 0x04400000 0x044FFFFF .vi,
    registers 0x04500000 0x045FFFFF .ai,
    registers 0x04600000 0x046FFFFF .pi,
    registers 0x04700000 0x047FFFFF .ri,
    registers 0x04800000 0x048FFFFF .si,
    registers 0x05000000 0x05FFFFFF .ddRegs,
    ⟨ddRomBase, ddRomBase + 0x01FFFFFF, .ddRom, .device (.rom diskImage)⟩,
    registers highDramBase (cartRomBase - 1) .flashRamStat,
    ⟨cartRomBase, pifMemBase - 1, .rom, .device (.rom cartridge)⟩,
    ⟨pifMemBase, pifMemBase + 0xFFFFF, .pif, .device (.ram pifMemory)⟩ ] ++
  highDramMap dramSize

/-- The size of main memory as the map takes it. -/
def Store.dramWord (s : Store) : UInt32 :=
  UInt32.ofNat s.dram.size

end RegionBus
