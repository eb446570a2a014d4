import RegionBus.Proofs.Bus.Arithmetic

/-!
# Where a Word Access Goes

One word access has two effects. The device of the region answers it, and the
registry may be told. `readWord_eq` and `writeWord_eq` say both at once, for any
region that is settled: the device answers in the same way whether or not it is
behind the debug handler, and the registry is told iff the region watches this
kind of access. No proof after these looks at the live handler again.

A store is reported at its first enabled byte and not at the word. The region is
the same, because words do not cross regions, and so both effects are those of
the region the word lies in.

## Main definitions

* `Handler.target`: Where an access to a handler ends.
* `Bus.told`: The registry after an access.

## Theorems

* `readWord_eq`: A word read from a settled region.
* `writeWord_eq`: A word written to a settled region.
-/

namespace RegionBus

variable {D R W : Type}

/-- Where an access to a handler ends. -/
def Handler.target : Handler D → Target D
  | openBus => .openBus
  | device d => .device d
  | debug => .circular

namespace RegionEntry

theorem forwarded_eq {e : RegionEntry D} (h : e.Settled) (hc : e.checks.isEmpty = false) :
    e.forwarded = e.device.target := by
  have hs := h.saved_eq
  rw [if_neg (by rw [hc]; exact Bool.false_ne_true)] at hs
  rw [forwarded, hs]
  cases e.device <;> rfl

end RegionEntry

theorem Checks.has_of_isEmpty {c : Checks} (h : c.isEmpty = true) (k : AccessKind) :
    c.has k = false := by
  rw [(isEmpty_iff c).mp h]
  cases k <;> rfl

namespace Bus

variable [Registry R]

/-- The registry after an access to `size` bytes from an address on: it is told
    of the access if the region of the address watches this kind. -/
def told (bus : Bus D) (k : AccessKind) (a size : UInt32) (registry : Option R) : Option R :=
  if (bus.entryAt a).checks.has k then
    registry.map fun l => Registry.report l (bus.lastPc - 4) a size k.watched
  else registry

theorem told_of_isEmpty {bus : Bus D} {a : UInt32}
    (h : (bus.entryAt a).checks.isEmpty = true) (k : AccessKind) (size : UInt32)
    (registry : Option R) : bus.told k a size registry = registry := by
  rw [told, if_neg (by rw [Checks.has_of_isEmpty h k]; exact Bool.false_ne_true)]

theorem note_eq (bus : Bus D) (k : AccessKind) (a size : UInt32) (p : Backplane R W) :
    bus.note k a size p = ⟨bus.told k a size p.registry, p.devices⟩ := by
  rcases p with ⟨registry, devices⟩
  unfold note told
  by_cases h : (bus.entryAt a).checks.has k
  · rw [if_pos h, if_pos h]
    cases registry <;> rfl
  · rw [if_neg h, if_neg h]

variable [DeviceBank D W]

/-- A word read from a settled region: the device answers, and the registry is
    told if reads are watched. -/
theorem readWord_eq {bus : Bus D} {a : UInt32} (h : (bus.entryAt a).Settled)
    (p : Backplane R W) : bus.readWord a p =
      (((bus.entryAt a).device.target.read a p.devices).1,
        ⟨bus.told .read a 4 p.registry, ((bus.entryAt a).device.target.read a p.devices).2⟩) := by
  rcases p with ⟨registry, devices⟩
  have hlive := h.live_eq
  by_cases hc : (bus.entryAt a).checks.isEmpty
  · rw [if_pos hc] at hlive
    rw [told_of_isEmpty hc, readWord, hlive]
    cases hd : (bus.entryAt a).device with
    | openBus => rfl
    | device d => rfl
    | debug =>
        -- The device of a settled region is never the debug handler.
        have hne := h.device_ne
        rw [hd] at hne
        exact absurd hne.symm Bool.false_ne_true
  · rw [if_neg hc] at hlive
    rw [readWord, hlive]
    simp only [note_eq]
    rw [RegionEntry.forwarded_eq h ((Bool.not_eq_true _).mp hc)]

/-- A word written to a settled region: the device takes it, and the registry is
    told if writes are watched. -/
theorem writeWord_eq {bus : Bus D} {a : UInt32} (ha : a.toNat % 4 = 0)
    (h : (bus.entryAt a).Settled) (value mask : UInt32) (p : Backplane R W) :
    bus.writeWord a value mask p =
      ⟨bus.told .write (a + firstLane mask) (laneCount mask) p.registry,
        (bus.entryAt a).device.target.write a value mask p.devices⟩ := by
  rcases p with ⟨registry, devices⟩
  have hlive := h.live_eq
  have hfirst : bus.entryAt (a + firstLane mask) = bus.entryAt a := by
    rw [entryAt, regionOf_add_firstLane ha, entryAt]
  by_cases hc : (bus.entryAt a).checks.isEmpty
  · rw [if_pos hc] at hlive
    rw [told_of_isEmpty (by rw [hfirst]; exact hc), writeWord, hlive]
    cases hd : (bus.entryAt a).device with
    | openBus => rfl
    | device d => rfl
    | debug =>
        have hne := h.device_ne
        rw [hd] at hne
        exact absurd hne.symm Bool.false_ne_true
  · rw [if_neg hc] at hlive
    rw [writeWord, hlive]
    simp only [firstByte?_eq ha, note_eq]
    rw [hfirst, RegionEntry.forwarded_eq h ((Bool.not_eq_true _).mp hc)]

end Bus

end RegionBus
