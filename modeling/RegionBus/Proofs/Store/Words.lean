import RegionBus.Device.Memory
import RegionBus.Proofs.Bus.Alignment

/-!
# Words of a Store

What a word store leaves behind, first in a block and then in a store: the word
itself at its place, and every other byte of every block as it was. A store that
does not fit is lost and leaves everything as it was. No word store changes how
long a block is, so a store goes on to have the shape it was made with, and an
address goes on to stand for the same byte.

## Main definitions

* `Store.Shaped`: The blocks have the sizes of a given main memory.

## Theorems

* `Block.wordAt_putWord`: A word that was put is found.
* `Block.get_writeWordOrDrop`: What a store that may be lost does to each byte.
* `Store.size_writeWordOrDrop`, `Store.Shaped.of_poke?`: Stores keep the shape.
* `Store.peek?_of_poke?`: A word that was poked is seen.
-/

namespace RegionBus

namespace Block

theorem wordAt_putWord (b : Block) (offset : Nat) (word : UInt32) :
    (b.putWord offset word).wordAt offset = word := by
  -- Each of the four bytes is the one that was put there.
  have hbyte : ∀ i < 4, (b.putWord offset word).get (offset + i) = Word.byte word i := by
    intro i hi
    have hin : offset ≤ offset + i ∧ offset + i < offset + 4 := by omega
    rw [get_putWord, if_pos hin, Nat.add_sub_cancel_left]
  have h0 := hbyte 0 (by decide)
  rw [Nat.add_zero] at h0
  rw [wordAt, h0, hbyte 1 (by decide), hbyte 2 (by decide), hbyte 3 (by decide),
    Word.ofBytes_byte]

theorem size_putWord (b : Block) (offset : Nat) (word : UInt32) :
    (b.putWord offset word).size = b.size := by
  simp only [putWord]

theorem readWord?_putWord {b : Block} {offset : Nat} (h : b.Fits offset 4) (word : UInt32) :
    (b.putWord offset word).readWord? offset = some word := by
  have hfits : (b.putWord offset word).Fits offset 4 := by
    unfold Fits
    rwa [size_putWord]
  rw [readWord?, if_pos hfits, wordAt_putWord]

theorem size_writeWordOrDrop (b : Block) (offset : Nat) (value mask : UInt32) :
    (b.writeWordOrDrop offset value mask).size = b.size := by
  unfold writeWordOrDrop
  split
  · exact size_putWord b offset _
  · rfl

theorem get_writeWordOrDrop (b : Block) (offset : Nat) (value mask : UInt32) (j : Nat) :
    (b.writeWordOrDrop offset value mask).get j =
      if b.Fits offset 4 ∧ offset ≤ j ∧ j < offset + 4 then
        Word.byte (Word.merge (b.wordAt offset) value mask) (j - offset)
      else b.get j := by
  unfold writeWordOrDrop
  by_cases h : b.Fits offset 4
  · rw [if_pos h, get_putWord]
    simp only [h, true_and]
  · rw [if_neg h, if_neg fun hc => h hc.1]

theorem wordAt_writeWordOrDrop {b : Block} {offset : Nat} (h : b.Fits offset 4)
    (value mask : UInt32) : (b.writeWordOrDrop offset value mask).wordAt offset =
      Word.merge (b.wordAt offset) value mask := by
  rw [writeWordOrDrop, if_pos h, wordAt_putWord]

theorem writeWordOrDrop_of_not_fits {b : Block} {offset : Nat} (h : ¬ b.Fits offset 4)
    (value mask : UInt32) : b.writeWordOrDrop offset value mask = b :=
  if_neg h

end Block

namespace Store

/-- The blocks of a store are as long as they are when main memory has `n` bytes. -/
def Shaped (s : Store) (n : Nat) : Prop :=
  ∀ k, (s.block k).size = k.sizeWith n

variable {s : Store} {n : Nat}

theorem setBlock_block (s : Store) (k : BlockKind) : s.setBlock k (s.block k) = s := by
  cases k <;> rfl

theorem Shaped.setBlock (hs : s.Shaped n) {k : BlockKind} {b : Block}
    (hb : b.size = (s.block k).size) : (s.setBlock k b).Shaped n := by
  intro j
  rw [block_setBlock]
  split
  · next h => rw [hb, ← h, hs k]
  · exact hs j

theorem block_writeWordOrDrop (s : Store) (k j : BlockKind) (offset : Nat)
    (value mask : UInt32) : (s.writeWordOrDrop k offset value mask).block j =
      if k = j then (s.block k).writeWordOrDrop offset value mask else s.block j := by
  rw [writeWordOrDrop, updateBlock_eq, block_setBlock]

theorem size_writeWordOrDrop (s : Store) (k j : BlockKind) (offset : Nat)
    (value mask : UInt32) :
    ((s.writeWordOrDrop k offset value mask).block j).size = (s.block j).size := by
  rw [block_writeWordOrDrop]
  split
  · next h => rw [Block.size_writeWordOrDrop, h]
  · rfl

/-- A word that lies outside of its block is lost. -/
theorem writeWordOrDrop_of_not_fits {k : BlockKind} {offset : Nat}
    (h : ¬ (s.block k).Fits offset 4) (value mask : UInt32) :
    s.writeWordOrDrop k offset value mask = s := by
  rw [writeWordOrDrop, updateBlock_eq, Block.writeWordOrDrop_of_not_fits h, setBlock_block]

/-- A location that is found lies inside its block. -/
theorem lt_of_locate? {a : UInt32} {l : Location} (h : s.locate? a = some l) :
    l.offset < (s.block l.block).size := by
  rw [locate?, Option.filter_eq_some_iff] at h
  exact of_decide_eq_true h.2

theorem locate?_setBlock (a : UInt32) {k : BlockKind} {b : Block}
    (hb : b.size = (s.block k).size) : (s.setBlock k b).locate? a = s.locate? a := by
  -- Only the length of a block matters.
  have hsize : ∀ j, ((s.setBlock k b).block j).size = (s.block j).size := by
    intro j
    rw [block_setBlock]
    split
    · next h => rw [hb, h]
    · rfl
  simp only [locate?, hsize]

/-- A poke puts a word into the block that its address stands for. -/
theorem poke?_eq_some {a value : UInt32} {s' : Store} (h : s.poke? a value = some s') :
    ∃ l, s.locate? (wordStart a) = some l ∧ (s.block l.block).Fits l.offset 4 ∧
      s' = s.setBlock l.block ((s.block l.block).putWord l.offset value) := by
  rcases Option.bind_eq_some_iff.mp h with ⟨l, hl, hwrite⟩
  rcases Option.map_eq_some_iff.mp hwrite with ⟨b, hb, rfl⟩
  rw [Block.writeWord?, Word.merge_full] at hb
  split at hb
  · next hfits => exact ⟨l, hl, hfits, by rw [← Option.some.inj hb]⟩
  · cases hb

/-- A word that was poked is seen. -/
theorem peek?_of_poke? {a value : UInt32} {s' : Store} (h : s.poke? a value = some s') :
    s'.peek? a = some value := by
  rcases poke?_eq_some h with ⟨l, hl, hfits, rfl⟩
  rw [peek?, locate?_setBlock (wordStart a) (Block.size_putWord _ _ _), hl, Option.bind_some,
    block_setBlock, if_pos rfl, Block.readWord?_putWord hfits]

end Store

end RegionBus
