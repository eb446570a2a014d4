import RegionBus.Proofs.Bus.Reports
import RegionBus.Proofs.Device.Positions

/-!
# When an Access Fails

On a bus whose regions are settled an access meets two things that might fail it. The
debug handler passes it on to a device, never to itself, and works out the bytes that it
reports. These lie below the end of the address space, so anything that a registry can
rely on for such bytes it can rely on for good, `registry_stable_read`. The device may be
memory, and then the position of a word may overflow.

The second is the only way to fail. `failed_read`, `failed_write` and
`failed_writeMasked` say so exactly: an access fails iff the position of some word that
it moves overflows, and a failure before it is never undone.

## Main definitions

* `Registry.Stable`: What stays true of a registry as long as reports have an end.
* `Bus.overflows`: The position of an address overflows in the device of its region.

## Theorems

* `InWord.end_le`: Bytes within a word have an end.
* `registry_stable_read`, `registry_stable_write`, `registry_stable_writeMasked`: What is
  stable stays true through an access.
* `failed_read`, `failed_write`, `failed_writeMasked`: When an access fails.
-/

namespace RegionBus

variable {D R W : Type} [Registry R]

/-- What is said of a registry stays true when it is told of an access, as long as the
    access has some bytes and they all lie below the end of the address space. -/
def Registry.Stable (motive : R → Prop) : Prop :=
  ∀ (l : R) (pc a size : UInt32) (flags : Flags), motive l → 0 < size.toNat →
    a.toNat + size.toNat ≤ 2 ^ 32 → motive (Registry.report l pc a size flags)

/-- Bytes within a word have an end. -/
theorem InWord.end_le {a size : UInt32} (h : InWord a size) :
    a.toNat + size.toNat ≤ 2 ^ 32 := by
  have ha := a.toNat_lt
  have hend := h.2
  omega

namespace Bus

section Reported

variable {motive : R → Prop} {registry : Option R} (bus : Bus D)

theorem told_stable (h : Registry.Stable motive) {a size : UInt32} (hw : InWord a size)
    (k : AccessKind) (hregistry : ∀ l ∈ registry, motive l) :
    ∀ l ∈ bus.told k a size registry, motive l := by
  intro l hl
  unfold told at hl
  -- The registry is the one that was told, or it was not told at all.
  split at hl
  · rcases Option.map_eq_some_iff.mp hl with ⟨l', hl', rfl⟩
    exact h l' _ a size _ (hregistry l' hl') hw.1 hw.end_le
  · exact hregistry l hl

theorem foldl_told_stable (h : Registry.Stable motive) (k : AccessKind)
    {ranges : List (UInt32 × UInt32)} (hw : ∀ x ∈ ranges, InWord x.1 x.2)
    (hregistry : ∀ l ∈ registry, motive l) :
    ∀ l ∈ ranges.foldl (fun registry x => bus.told k x.1 x.2 registry) registry, motive l := by
  induction ranges generalizing registry with
  | nil => exact hregistry
  | cons x ranges ih =>
      have hfirst := bus.told_stable h (hw x List.mem_cons_self) k hregistry
      exact ih (fun y hy => hw y (List.mem_cons_of_mem x hy)) hfirst

variable {bus} [DeviceBank D W] {p : Backplane R W}

/-- What is stable stays true through a read. -/
theorem registry_stable_read (hs : ∀ r, (bus.entry r).Settled) (h : Registry.Stable motive)
    (hregistry : ∀ l ∈ p.registry, motive l) (width : Width) (a : UInt32) :
    ∀ l ∈ (bus.read width a p).2.registry, motive l := by
  have hwords : ∀ x ∈ (width.words a).map fun w => (w, (4 : UInt32)), InWord x.1 x.2 := by
    intro x hx
    rcases List.mem_map.mp hx with ⟨w, hw, rfl⟩
    exact Width.inWord_words hw
  have hfold := bus.foldl_told_stable h .read hwords hregistry
  rw [List.foldl_map] at hfold
  rw [registry_read hs]
  exact hfold

/-- So it does through a write. -/
theorem registry_stable_write (hs : ∀ r, (bus.entry r).Settled) (h : Registry.Stable motive)
    (hregistry : ∀ l ∈ p.registry, motive l) (width : Width) (a : UInt32) (value : UInt64) :
    ∀ l ∈ (bus.write width a value p).registry, motive l := by
  rw [registry_write hs]
  exact bus.foldl_told_stable h .write (fun x hx => Width.inWord_stores hx) hregistry

/-- And through a write under a mask. -/
theorem registry_stable_writeMasked (hs : ∀ r, (bus.entry r).Settled)
    (h : Registry.Stable motive) (hregistry : ∀ l ∈ p.registry, motive l)
    (a value mask : UInt32) : ∀ l ∈ (bus.writeMasked a value mask p).registry, motive l := by
  rw [registry_writeMasked hs]
  exact bus.told_stable h (inWord_masked a mask) .write hregistry

end Reported

section Failed

variable {X A : Type}

/-- The device of the region of an address is memory, and the position that it finds for
    the address overflows. -/
def overflows (bus : Bus (Device X)) (a : UInt32) : Bool :=
  (bus.entryAt a).device.overflows a

variable [AttachedDevice X A] {bus : Bus (Device X)}

theorem failed_readWord (hs : ∀ r, (bus.entry r).Settled) (a : UInt32)
    (p : Backplane R (Hardware A)) :
    (bus.readWord a p).2.devices.failed = (p.devices.failed || bus.overflows a) := by
  rw [readWord_eq (hs (regionOf a))]
  exact Handler.failed_read (hs (regionOf a)).device_ne a p.devices

/-- A store under a mask fails iff the position of its word overflows. -/
theorem failed_writeMasked (hs : ∀ r, (bus.entry r).Settled) (a value mask : UInt32)
    (p : Backplane R (Hardware A)) : (bus.writeMasked a value mask p).devices.failed =
      (p.devices.failed || bus.overflows (a &&& ~~~3)) := by
  have hsettled := hs (regionOf (a &&& ~~~3))
  rw [writeMasked, writeWord_eq (aligned_word a) hsettled]
  exact Handler.failed_write hsettled.device_ne (a &&& ~~~3) value mask p.devices

/-- A read fails iff the position of one of its words overflows. -/
theorem failed_read (hs : ∀ r, (bus.entry r).Settled) (width : Width) (a : UInt32)
    (p : Backplane R (Hardware A)) : (bus.read width a p).2.devices.failed =
      (p.devices.failed || (width.words a).any bus.overflows) := by
  cases width with
  | byte =>
      rw [Width.words, List.any_cons, List.any_nil, Bool.or_false, read, read8_eq]
      exact failed_readWord hs _ p
  | half =>
      rw [Width.words, List.any_cons, List.any_nil, Bool.or_false, read, read16_eq]
      exact failed_readWord hs _ p
  | word =>
      rw [Width.words, List.any_cons, List.any_nil, Bool.or_false]
      exact failed_readWord hs _ p
  | double =>
      -- The second word is read where the first one left off, failed or not.
      simp only [Width.words, List.any_cons, List.any_nil, Bool.or_false, read, read64_eq]
      rw [failed_readWord hs, failed_readWord hs, Bool.or_assoc]

/-- A store fails iff the position of one of the words that it touches overflows. -/
theorem failed_write (hs : ∀ r, (bus.entry r).Settled) (width : Width) (a : UInt32)
    (value : UInt64) (p : Backplane R (Hardware A)) :
    (bus.write width a value p).devices.failed =
      (p.devices.failed || (width.words a).any bus.overflows) := by
  cases width with
  | byte =>
      rw [Width.words, List.any_cons, List.any_nil, Bool.or_false, write, write8_eq]
      exact failed_writeMasked hs _ _ _ p
  | half =>
      rw [Width.words, List.any_cons, List.any_nil, Bool.or_false, write, write16_eq]
      exact failed_writeMasked hs _ _ _ p
  | word =>
      rw [Width.words, List.any_cons, List.any_nil, Bool.or_false]
      exact failed_writeMasked hs _ _ _ p
  | double =>
      -- Both addresses are those of words, and rounding them down once more is idle.
      have hfirst := alignWord_eq_self (aligned_double a)
      have hsecond := alignWord_eq_self (aligned_secondWord a)
      simp only [Width.words, List.any_cons, List.any_nil, Bool.or_false, write, write64_eq]
      rw [failed_writeMasked hs, failed_writeMasked hs, hfirst, hsecond, Bool.or_assoc]

end Failed

end Bus

end RegionBus
