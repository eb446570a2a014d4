import RegionBus.Proofs.Bus.Arithmetic

/-!
# Devices with a Larger State

The bus hands the state of its devices on and never looks into it. So the same devices
can be given a larger state, of which they use a part and leave the rest as it is, and no
access tells the difference. What the rest is for is not a matter of the bus.

Two states mean two banks of devices over the same names, and a bus works with either.
Which one is meant is written out here, since nothing else would decide it.

## Main definitions

* `DeviceBank.Embeds`: Devices do over a larger state what they do over their own.
* `Backplane.embed`: What an access can change, with the larger state.

## Theorems

* `readWord`, `writeWord`: One word moved over the larger state.
* `read`, `write`, `writeMasked`: Accesses of each width.
-/

namespace RegionBus

variable {D R W V : Type}

/-- Devices do over a larger state what they do over their own, where `f` puts their own
    state into the larger one. -/
structure DeviceBank.Embeds (bank : DeviceBank D W) (larger : DeviceBank D V) (f : W → V) :
    Prop where
  /-- The same word is read, and their own state changes in the same way. -/
  read_eq : ∀ d a w, larger.read d a (f w) = ((bank.read d a w).1, f (bank.read d a w).2)
  /-- Their own state is the same after a word was written. -/
  write_eq : ∀ d a value mask w,
    larger.write d a value mask (f w) = f (bank.write d a value mask w)
  /-- It is the same after an access that could not be completed. -/
  fail_eq : ∀ w, larger.fail (f w) = f (bank.fail w)

/-- What an access can change, with a larger state of the devices. -/
def Backplane.embed (f : W → V) (p : Backplane R W) : Backplane R V :=
  ⟨p.registry, f p.devices⟩

theorem Bus.note_embed [Registry R] (bus : Bus D) (k : AccessKind) (a size : UInt32)
    (f : W → V) (p : Backplane R W) :
    bus.note k a size (p.embed f) = (bus.note k a size p).embed f := by
  rcases p with ⟨registry, devices⟩
  simp only [note, Backplane.embed]
  split
  · cases registry <;> rfl
  · rfl

namespace DeviceBank.Embeds

variable {bank : DeviceBank D W} {larger : DeviceBank D V} {f : W → V}

theorem target_read (h : bank.Embeds larger f) (t : Target D) (a : UInt32) (w : W) :
    @Target.read D V larger t a (f w) =
      ((@Target.read D W bank t a w).1, f (@Target.read D W bank t a w).2) := by
  cases t with
  | device d => exact h.read_eq d a w
  | openBus | unsaved => rfl
  | circular => exact congrArg (Prod.mk 0) (h.fail_eq w)

theorem target_write (h : bank.Embeds larger f) (t : Target D) (a value mask : UInt32) (w : W) :
    @Target.write D V larger t a value mask (f w) =
      f (@Target.write D W bank t a value mask w) := by
  cases t with
  | device d => exact h.write_eq d a value mask w
  | openBus | unsaved => rfl
  | circular => exact h.fail_eq w

variable [registry : Registry R]

theorem readWord (h : bank.Embeds larger f) (bus : Bus D) (a : UInt32) (p : Backplane R W) :
    @Bus.readWord D R V larger registry bus a (p.embed f) =
      ((@Bus.readWord D R W bank registry bus a p).1,
        (@Bus.readWord D R W bank registry bus a p).2.embed f) := by
  simp only [Bus.readWord]
  cases (bus.entryAt a).live with
  | openBus => rfl
  | device d => simp only [Backplane.embed, h.target_read]
  | debug =>
      rw [Bus.note_embed]
      simp only [Backplane.embed, h.target_read]

theorem writeWord (h : bank.Embeds larger f) (bus : Bus D) (a value mask : UInt32)
    (p : Backplane R W) :
    @Bus.writeWord D R V larger registry bus a value mask (p.embed f) =
      (@Bus.writeWord D R W bank registry bus a value mask p).embed f := by
  simp only [Bus.writeWord]
  cases (bus.entryAt a).live with
  | openBus => rfl
  | device d => simp only [Backplane.embed, h.target_write]
  | debug =>
      cases Word.add? a (firstLane mask) with
      | none => simp only [Backplane.fail, Backplane.embed, h.fail_eq]
      | some first =>
          dsimp only
          rw [Bus.note_embed]
          simp only [Backplane.embed, h.target_write]

/-- A value of any width read: it is made of the same words. -/
theorem read (h : bank.Embeds larger f) (bus : Bus D) (width : Width) (a : UInt32)
    (p : Backplane R W) :
    @Bus.read D R V larger registry bus width a (p.embed f) =
      ((@Bus.read D R W bank registry bus width a p).1,
        (@Bus.read D R W bank registry bus width a p).2.embed f) := by
  cases width with
  | byte => simp only [Bus.read, Bus.read8_eq, h.readWord]
  | half => simp only [Bus.read, Bus.read16_eq, h.readWord]
  | word => simp only [Bus.read, Bus.read32, h.readWord]
  | double => simp only [Bus.read, Bus.read64_eq, h.readWord]

theorem writeMasked (h : bank.Embeds larger f) (bus : Bus D) (a value mask : UInt32)
    (p : Backplane R W) :
    @Bus.writeMasked D R V larger registry bus a value mask (p.embed f) =
      (@Bus.writeMasked D R W bank registry bus a value mask p).embed f := by
  simp only [Bus.writeMasked, h.writeWord]

/-- A value of any width written. -/
theorem write (h : bank.Embeds larger f) (bus : Bus D) (width : Width) (a : UInt32)
    (value : UInt64) (p : Backplane R W) :
    @Bus.write D R V larger registry bus width a value (p.embed f) =
      (@Bus.write D R W bank registry bus width a value p).embed f := by
  cases width with
  | byte => simp only [Bus.write, Bus.write8_eq, h.writeMasked]
  | half => simp only [Bus.write, Bus.write16_eq, h.writeMasked]
  | word => simp only [Bus.write, Bus.write32, h.writeMasked]
  | double => simp only [Bus.write, Bus.write64_eq, h.writeMasked]

end DeviceBank.Embeds

end RegionBus
