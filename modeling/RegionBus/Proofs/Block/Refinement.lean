import RegionBus.Proofs.Allocation.Sharing
import RegionBus.Proofs.Block.FlatBlock
import RegionBus.Proofs.Store.Images

/-!
# A Block is a List of Bytes

A block keeps its bytes in a backdrop with a table over it, and stores a word as four bytes
and an image as one piece. Whoever uses it sees a list of bytes all the same. `Block.flat` is
that list, and a step of the block is the same step of the list: the answer is the same, and
so are the bytes afterwards. For some steps in a row this follows step by step.

All three stores are alike in what has to be known of them: when they are taken, that the
block stays where it is, and what each byte is afterwards. `attempt_flat` needs no more.

What a step does can also be said without the list, and `Block.StepLaw` does so. The position
and the number of the bytes that a step is about may be large, so their sum is taken with
care. A sum that a machine word cannot hold is no position in a block.

The owners of a store share its blocks. Each of their accesses is a step, so what they share
are lists of bytes too.

## Main definitions

* `Block.bytes`, `Block.flat`: The bytes of a block as a list.
* `checkedSum?`: A sum that a machine word can hold.
* `Image.wordSteps`: The words of an image, stored one after the other.
* `Block.StepLaw`: What a step does to a block.

## Theorems

* `perform_flat`, `run_flat`: A block goes along with the list of its bytes.
* `getElem?_perform`: The bytes that a step is not about.
* `testBit_writeWord`: The bits of a word that was stored.
* `bytes_loadWords`: Loading an image is storing its words.
* `after_flat`: What the owners of a block have made of it.
* `block_law`: A block in use.
-/

namespace RegionBus

namespace Word

/-- Each bit of a merged word is from the new value if it is in the mask, and from the old
    word if not. -/
theorem testBit_merge (old value mask : UInt32) {i : Nat} (hi : i < 32) :
    (merge old value mask).toNat.testBit i =
      if mask.toNat.testBit i then value.toNat.testBit i else old.toNat.testBit i := by
  have hnot : (~~~mask).toNat.testBit i = !mask.toNat.testBit i := by
    rw [UInt32.toNat_not, Nat.sub_sub, Nat.add_comm 1,
      Nat.testBit_two_pow_sub_succ mask.toNat_lt, decide_eq_true hi, Bool.true_and]
  rw [merge, UInt32.toNat_or, UInt32.toNat_and, UInt32.toNat_and, Nat.testBit_or,
    Nat.testBit_and, Nat.testBit_and, hnot]
  cases mask.toNat.testBit i with
  | true => simp only [Bool.not_true, Bool.and_true, Bool.and_false, if_true, Bool.false_or]
  | false => simp only [Bool.not_false, Bool.and_true, Bool.and_false, Bool.or_false,
      Bool.false_eq_true, if_false]

end Word

/-- A sum, if a machine word of 64 bits can hold it. -/
def checkedSum? (m n : Nat) : Option Nat :=
  if m + n < 2 ^ 64 then some (m + n) else none

/-- A sum that no machine word can hold is behind every position that one can. -/
theorem le_iff_checkedSum? {m n size : Nat} (hsize : size < 2 ^ 64) :
    m + n ≤ size ↔ ∃ last, checkedSum? m n = some last ∧ last ≤ size := by
  constructor
  · intro h
    exact ⟨m + n, if_pos (Nat.lt_of_le_of_lt h hsize), h⟩
  · rintro ⟨last, hsum, hle⟩
    unfold checkedSum? at hsum
    split at hsum
    · rwa [← Option.some.inj hsum] at hle
    · cases hsum

/-- The steps that store the first `n` words of an image one after the other. -/
def Image.wordSteps (image : Image) (offset n : Nat) : List BlockStep :=
  (List.range n).map fun i => .writeWord (offset + 4 * i) (image.word i) 0xFFFFFFFF

namespace Block

/-- The bytes of a block. -/
def bytes (b : Block) : List UInt8 :=
  (List.range b.size).map b.get

/-- A block as nothing but a list of bytes. -/
def flat (b : Block) : FlatBlock where
  address := b.address
  bytes := b.bytes

/-- What a step does to a block. -/
structure StepLaw (b : Block) (step : BlockStep) : Prop where
  /-- It succeeds iff the block has all the bytes that it is about. -/
  succeeded_iff : (b.perform step).1.succeeded = true ↔ b.Has step
  /-- That is so iff their end can be computed and is not behind the end of the block. -/
  checked_iff : b.size < 2 ^ 64 → ((b.perform step).1.succeeded = true ↔
    ∃ last, checkedSum? step.first (step.count b.size) = some last ∧ last ≤ b.size)
  /-- If it is refused, it says so and the block is as it was. -/
  refused : ¬ b.Has step → b.perform step = (step.refusal, b)
  /-- If it does not store anything, the block is as it was. -/
  reads : step.stores = false → (b.perform step).2 = b
  /-- A byte that it is not about is as it was. -/
  outside : ∀ i, i < step.first ∨ step.first + step.count b.size ≤ i →
    (b.perform step).2.bytes[i]? = b.bytes[i]?
  /-- The bits of a word are the new ones where the mask has them, and the old ones
      elsewhere. -/
  masked : ∀ offset value mask, step = .writeWord offset value mask → b.Has step → ∀ i < 32,
    (littleEndian (slice (b.perform step).2.bytes offset 4)).testBit i =
      if mask.toNat.testBit i then value.toNat.testBit i
      else (littleEndian (slice b.bytes offset 4)).testBit i
  /-- An image is loaded as if its words had been stored one after the other. -/
  by_words : ∀ offset image, step = .loadWords offset image → b.Has step →
    (b.perform step).2.bytes =
      (b.run (image.wordSteps offset (image.paddedSize / 4))).2.bytes
  /-- The block stays where it is. -/
  place : b.SamePlace (b.perform step).2

variable {b b' : Block} {offset n : Nat}

section Bytes

@[simp]
theorem length_bytes (b : Block) : b.bytes.length = b.size := by
  rw [bytes, List.length_map, List.length_range]

theorem getElem?_bytes (b : Block) (i : Nat) :
    b.bytes[i]? = if i < b.size then some (b.get i) else none := by
  rw [bytes, getElem?_map_range]

/-- The bytes of a block are had one by one. -/
theorem bytes_eq_of_get (hsize : b'.size = b.size) (hget : ∀ i, b'.get i = b.get i) :
    b'.bytes = b.bytes := by
  rw [bytes, bytes, hsize, funext hget]

/-- A piece of the bytes is had byte by byte. -/
theorem slice_bytes (h : b.Fits offset n) :
    slice b.bytes offset n = (List.range n).map fun i => b.get (offset + i) := by
  unfold Fits at h
  apply List.ext_getElem?
  intro i
  rw [getElem?_slice, getElem?_bytes, getElem?_map_range]
  by_cases hi : i < n
  · rw [if_pos hi, if_pos hi, if_pos (by omega)]
  · rw [if_neg hi, if_neg hi]

theorem littleEndian_slice_bytes (h : b.Fits offset 4) :
    littleEndian (slice b.bytes offset 4) = (b.wordAt offset).toNat := by
  have hfour : slice b.bytes offset 4 =
      [b.get offset, b.get (offset + 1), b.get (offset + 2), b.get (offset + 3)] := slice_bytes h
  rw [hfour, littleEndian_four, wordAt]

theorem wordAt_flat (h : b.Fits offset 4) : b.flat.wordAt offset = b.wordAt offset := by
  rw [FlatBlock.wordAt, flat, littleEndian_slice_bytes h, UInt32.ofNat_toNat]

/-- Where the bytes of a piece come from new ones and all others are as before, the piece was
    replaced. -/
theorem bytes_eq_patch {new : List UInt8} (hsize : b'.size = b.size)
    (hfits : b.Fits offset new.length)
    (hget : ∀ i, b'.get i = if offset ≤ i ∧ i < offset + new.length then new.getD (i - offset) 0
      else b.get i) : b'.bytes = patch b.bytes offset new := by
  unfold Fits at hfits
  apply List.ext_getElem?
  intro i
  rw [getElem?_patch (by rw [length_bytes]; omega), getElem?_bytes, getElem?_bytes, hsize,
    hget]
  by_cases hin : offset ≤ i ∧ i < offset + new.length
  · have hlt : i - offset < new.length := by omega
    rw [if_pos hin, if_pos hin, if_pos (by omega), List.getD_eq_getElem?_getD,
      List.getElem?_eq_getElem hlt, Option.getD_some]
  · rw [if_neg hin, if_neg hin]

end Bytes

section Flat

/-- A store that a block takes as it should is the same store in the list of its bytes. -/
theorem attempt_flat {result : Option Block} {new : List UInt8}
    (hsome : result.isSome = true ↔ b.Fits offset new.length)
    (hplace : ∀ b', result = some b' → b.SamePlace b')
    (hget : ∀ b', result = some b' → ∀ i, b'.get i =
      if offset ≤ i ∧ i < offset + new.length then new.getD (i - offset) 0 else b.get i) :
    (b.attempt result).1 = (b.flat.put offset new).1 ∧
      (b.attempt result).2.flat = (b.flat.put offset new).2 := by
  rw [FlatBlock.put, flat, length_bytes]
  -- The block and the list refuse the same stores.
  cases result with
  | none =>
      have hfits : ¬ b.Fits offset new.length := fun h => by cases hsome.mpr h
      rw [if_neg hfits]
      exact ⟨rfl, rfl⟩
  | some b' =>
      have hfits := hsome.mp rfl
      have hsame := hplace b' rfl
      have hbytes := bytes_eq_patch hsame.size_eq hfits (hget b' rfl)
      rw [if_pos hfits, attempt, Option.getD_some, flat, hsame.address_eq, hbytes]
      exact ⟨rfl, rfl⟩

theorem bytes_fill (b : Block) (byte : UInt8) :
    (b.fill byte).bytes = List.replicate b.size byte := by
  have hsize : (b.fill byte).size = b.size := rfl
  apply List.ext_getElem?
  intro i
  rw [getElem?_bytes, get_fill, hsize, List.getElem?_replicate]

/-- A block answers a step as the list of its bytes does, and the list goes with it. -/
theorem perform_flat (b : Block) (step : BlockStep) :
    (b.perform step).1 = (b.flat.perform step).1 ∧
      (b.perform step).2.flat = (b.flat.perform step).2 := by
  cases step with
  | readWord offset =>
      refine ⟨?_, rfl⟩
      rw [perform, FlatBlock.perform, readWord?]
      by_cases h : b.Fits offset 4
      · rw [if_pos h, wordAt_flat h, flat, length_bytes, if_pos h]
      · rw [if_neg h, flat, length_bytes, if_neg h]
  | writeWord offset value mask =>
      refine attempt_flat (b.writeWord?_isSome offset value mask)
        (fun _ => samePlace_of_writeWord?) fun b' hb' i => ?_
      -- The old word is the same only if all of it is there, and else nothing is stored.
      have hfits : b.Fits offset 4 := by
        rw [← b.writeWord?_isSome offset value mask, hb', Option.isSome_some]
      rw [get_writeWord? hb', wordAt_flat hfits, length_wordBytes]
      by_cases hin : offset ≤ i ∧ i < offset + 4
      · rw [if_pos hin, if_pos hin, getD_wordBytes _ (by omega)]
      · rw [if_neg hin, if_neg hin]
  | readBytes offset buffer =>
      simp only [perform, FlatBlock.perform, readBytes?, flat, length_bytes]
      by_cases h : b.Fits offset buffer.length
      · rw [if_pos h, if_pos h, slice_bytes h]
        exact ⟨rfl, rfl⟩
      · rw [if_neg h, if_neg h]
        exact ⟨rfl, rfl⟩
  | writeBytes offset data =>
      refine attempt_flat ?_ (fun _ => samePlace_of_writeBytes?) fun b' hb' i => ?_
      · rw [Image.length_byteList]
        exact b.writeBytes?_isSome offset data
      · rw [get_writeBytes? hb', Image.length_byteList, Image.getD_byteList]
  | loadWords offset image =>
      refine attempt_flat ?_ (fun _ => samePlace_of_loadWords?) fun b' hb' i => ?_
      · rw [Image.length_turned_byteList]
        exact b.loadWords?_isSome offset image
      · have hlength := image.length_turned_byteList
        rw [get_loadWords? hb', hlength]
        by_cases hin : offset ≤ i ∧ i < offset + image.paddedSize
        · rw [if_pos hin, if_pos hin, getD_turned _ (by omega), Image.getD_byteList]
        · rw [if_neg hin, if_neg hin]
  | fill byte =>
      refine ⟨rfl, ?_⟩
      rw [perform, FlatBlock.perform, flat, flat, bytes_fill, length_bytes]
      rfl
  | addressAt offset =>
      refine ⟨?_, rfl⟩
      rw [perform, FlatBlock.perform, addressAt?, flat, length_bytes]

/-- Steps in a row are answered as the list of the bytes answers them. -/
theorem run_flat (b : Block) (steps : List BlockStep) :
    (b.run steps).1 = (b.flat.run steps).1 ∧
      (b.run steps).2.flat = (b.flat.run steps).2 := by
  induction steps generalizing b with
  | nil => exact ⟨rfl, rfl⟩
  | cons step steps ih =>
      rcases b.perform_flat step with ⟨hreply, hflat⟩
      rcases ih (b.perform step).2 with ⟨hreplies, hrest⟩
      rw [hflat] at hreplies hrest
      exact ⟨congrArg₂ List.cons hreply hreplies, hrest⟩

end Flat

section Steps

/-- A byte that a step is not about is as it was. -/
theorem getElem?_perform {step : BlockStep} {i : Nat}
    (hi : i < step.first ∨ step.first + step.count b.size ≤ i) :
    (b.perform step).2.bytes[i]? = b.bytes[i]? := by
  have hflat : (b.perform step).2.bytes = (b.flat.perform step).2.bytes :=
    congrArg FlatBlock.bytes (b.perform_flat step).2
  cases step with
  | readWord | readBytes | addressAt => rfl
  | writeWord offset value mask =>
      rw [hflat]
      exact b.flat.getElem?_put hi
  | writeBytes offset data =>
      rw [hflat]
      exact b.flat.getElem?_put (by rwa [Image.length_byteList])
  | loadWords offset image =>
      rw [hflat]
      exact b.flat.getElem?_put (by rwa [Image.length_turned_byteList])
  | fill byte =>
      have hbehind : b.size ≤ i := by
        simp only [BlockStep.first, BlockStep.count] at hi
        omega
      rw [perform, bytes_fill, List.getElem?_eq_none (by rwa [List.length_replicate]),
        List.getElem?_eq_none (by rwa [length_bytes])]

/-- A word is stored if it fits. -/
theorem perform_writeWord (h : b.Fits offset 4) (value mask : UInt32) :
    (b.perform (.writeWord offset value mask)).2 =
      b.putWord offset (Word.merge (b.wordAt offset) value mask) := by
  rw [perform, writeWord?, if_pos h]
  rfl

/-- Each bit of a word that was stored is the one that the mask says. -/
theorem testBit_writeWord (h : b.Fits offset 4) (value mask : UInt32) {i : Nat} (hi : i < 32) :
    (littleEndian (slice (b.perform (.writeWord offset value mask)).2.bytes offset 4)).testBit i =
      if mask.toNat.testBit i then value.toNat.testBit i
      else (littleEndian (slice b.bytes offset 4)).testBit i := by
  have hfits : (b.putWord offset (Word.merge (b.wordAt offset) value mask)).Fits offset 4 := by
    unfold Fits
    rwa [size_putWord]
  rw [perform_writeWord h, littleEndian_slice_bytes hfits, wordAt_putWord,
    littleEndian_slice_bytes h, Word.testBit_merge _ _ _ hi]

theorem size_storeWords (b : Block) (offset : Nat) (image : Image) (n : Nat) :
    (b.storeWords offset image n).size = b.size := by
  induction n with
  | zero => rfl
  | succ n ih => rw [storeWords, size_putWord, ih]

/-- The words of an image are stored one after the other if all of them fit. -/
theorem run_wordSteps (image : Image) (h : b.Fits offset (4 * n)) :
    (b.run (image.wordSteps offset n)).2 = b.storeWords offset image n := by
  unfold Fits at h
  induction n with
  | zero => rfl
  | succ n ih =>
      have hfits : (b.storeWords offset image n).Fits (offset + 4 * n) 4 := by
        rw [Fits, size_storeWords]
        omega
      have hsteps : image.wordSteps offset (n + 1) = image.wordSteps offset n ++
          [.writeWord (offset + 4 * n) (image.word n) 0xFFFFFFFF] := by
        rw [Image.wordSteps, List.range_succ, List.map_append]
        rfl
      rw [hsteps, run_append, ih (by omega), storeWords]
      exact (perform_writeWord hfits _ _).trans (by rw [Word.merge_full])

/-- An image is loaded as if its words had been stored one after the other. -/
theorem bytes_loadWords {image : Image} (h : b.Fits offset image.paddedSize) :
    (b.perform (.loadWords offset image)).2.bytes =
      (b.run (image.wordSteps offset (image.paddedSize / 4))).2.bytes := by
  rcases Option.isSome_iff_exists.mp ((b.loadWords?_isSome offset image).mpr h) with ⟨b', hb'⟩
  rw [run_wordSteps image (by rwa [image.four_mul_words]), perform, hb']
  refine bytes_eq_of_get ?_ (get_loadWords?_eq hb')
  rw [size_storeWords]
  exact (samePlace_of_loadWords? hb').size_eq

/-- Every step of every block does what it should. -/
theorem stepLaw (b : Block) (step : BlockStep) : b.StepLaw step := by
  constructor
  case succeeded_iff => exact b.succeeded_perform step
  case checked_iff =>
    intro hsize
    rw [succeeded_perform]
    exact le_iff_checkedSum? hsize
  case refused => exact perform_of_not_has
  case reads =>
    intro h
    cases step with
    | readWord | readBytes | addressAt => rfl
    | writeWord | writeBytes | loadWords | fill => cases h
  case outside => exact fun _ => getElem?_perform
  case masked =>
    rintro offset value mask rfl h i hi
    exact testBit_writeWord h value mask hi
  case by_words =>
    rintro offset image rfl h
    exact bytes_loadWords h
  case place => exact b.samePlace_perform step

end Steps

end Block

/-- What the owners of a block have made of it is what they would have made of a list of
    bytes. -/
theorem Block.after_flat (b : Block) (accesses : List BlockAccess) :
    (b.after accesses).flat = (b.flat.run (accesses.map BlockAccess.step)).2 := by
  have hrun : (b.run (accesses.map BlockAccess.step)).2 = b.after accesses := by
    induction accesses generalizing b with
    | nil => rfl
    | cons x accesses ih =>
        change ((b.perform x.step).2.run (accesses.map BlockAccess.step)).2 = _
        rw [x.perform_step]
        exact ih (x.perform b).2
  rw [← hrun]
  exact (b.run_flat _).2

/-- A block in use gives the answers that the list of its bytes gives, and has the bytes that
    the list has in the end, and every step goes as it should. -/
theorem block_law (b : Block) (steps : List BlockStep) :
    (b.run steps).1 = (b.flat.run steps).1 ∧ (b.run steps).2.flat = (b.flat.run steps).2 ∧
      ∀ step, (b.run steps).2.StepLaw step :=
  ⟨(b.run_flat steps).1, (b.run_flat steps).2, fun step => (b.run steps).2.stepLaw step⟩

end RegionBus
