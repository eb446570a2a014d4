import RegionBus.Proofs.Block.Steps
import RegionBus.Proofs.Store.Words

/-!
# Images Loaded into a Store

An image has the most significant byte of each word first and a block has it last, so
loading turns every word around. `Block.bigEndian` counts the bytes of a block in the
order of their addresses, and seen that way the image is simply there, with zeros up to
the end of its last word.

There are three places for images. They differ in the block, in how long an image may
be, and in that the store remembers the length of a cartridge. A limit is a whole number
of words and the block is as long or longer. So an image is accepted iff it is no longer
than the limit, although it is its length in whole words that is compared.

## Main definitions

* `ImageSlot`: A place for an image.
* `Block.bigEndian`: The bytes of a block in the order of their addresses.
* `Image.word`, `Block.storeWords`: An image stored word by word.
* `Store.Genuine`: The blocks are those of a machine.
* `ImageSlot.Loaded`: A store after an image was loaded.
* `ImageSlot.LoadLaw`: What loading an image does.

## Theorems

* `get_storeWords`, `get_loadWords?_eq`: Loading is storing word after word.
* `loadImage_eq_ok_iff`, `loadImage_eq_error_iff`: When an image is accepted.
* `loaded_of_load`: What an accepted image leaves behind.
* `load_isOk_iff`, `load_eq_error`: Acceptance, for blocks of any lengths.
* `load_law`: Loading, for every place and every image.
-/

namespace RegionBus

/-- A place for an image. -/
inductive ImageSlot where
  /-- The cartridge. -/
  | cartridge
  /-- The boot code of the peripheral interface. -/
  | bootCode
  /-- The disk drive. -/
  | disk
  deriving DecidableEq, Repr

namespace ImageSlot

/-- The block that an image goes to. -/
def block : ImageSlot → BlockKind
  | cartridge => .cartRom
  | bootCode => .pifMem
  | disk => .ddRom

/-- The length of the longest image. -/
def limit : ImageSlot → Nat
  | cartridge => cartRomSize
  | bootCode => pifRomSize
  | disk => ddRomSize

/-- The store with an image. -/
def load (slot : ImageSlot) (s : Store) (image : Image) : Except MemoryError Store :=
  match slot with
  | cartridge => s.loadCartridge image
  | bootCode => s.loadPif image
  | disk => s.loadDisk image

end ImageSlot

/-- The byte that has the position `i` when the most significant byte of each word is
    counted first. -/
def Block.bigEndian (b : Block) (i : Nat) : UInt8 :=
  b.get (i / 4 * 4 + (3 - i % 4))

/-- A word of an image, with zeros behind the end. -/
def Image.word (image : Image) (i : Nat) : UInt32 :=
  Word.ofBytes (image.get (4 * i + 3)) (image.get (4 * i + 2)) (image.get (4 * i + 1))
    (image.get (4 * i))

/-- The block with the first `n` words of an image stored one after the other. -/
def Block.storeWords (b : Block) (offset : Nat) (image : Image) : Nat → Block
  | 0 => b
  | n + 1 => (b.storeWords offset image n).putWord (offset + 4 * n) (image.word n)

/-- A store after an image was loaded into another one. -/
structure ImageSlot.Loaded (slot : ImageSlot) (image : Image) (s t : Store) : Prop where
  /-- The block has the image at its start, with zeros up to a whole word. -/
  image_eq : ∀ i < image.paddedSize, (t.block slot.block).bigEndian i = image.get i
  /-- Behind that every byte is as it was. -/
  behind_eq : ∀ j, image.paddedSize ≤ j →
    (t.block slot.block).get j = (s.block slot.block).get j
  /-- All of it is as if the words had been stored one after the other. -/
  words_eq : ∀ j, (t.block slot.block).get j =
    ((s.block slot.block).storeWords 0 image (image.paddedSize / 4)).get j
  /-- All other blocks are as they were. -/
  other_eq : ∀ k, k ≠ slot.block → t.block k = s.block k
  /-- The block is the same one, where it was and as long as it was. -/
  place_eq : (t.block slot.block).kind = (s.block slot.block).kind ∧
    (t.block slot.block).address = (s.block slot.block).address ∧
    (t.block slot.block).size = (s.block slot.block).size
  /-- The length of a cartridge is remembered, and that of other images is not. -/
  cartridgeSize_eq : t.cartridgeSize =
    if slot = .cartridge then image.size else s.cartridgeSize

/-- An image that is filled up has whole words. -/
theorem Image.four_mul_words (image : Image) :
    4 * (image.paddedSize / 4) = image.paddedSize := by
  unfold paddedSize
  omega

namespace Block

variable {b b' : Block} {offset n : Nat} {image : Image}

/-- A byte of an image's word is the one with its position among the bytes of the
    image, from the end of the word. -/
theorem byte_word (image : Image) (i : Nat) {j : Nat} (hj : j < 4) :
    Word.byte (image.word i) j = image.get (4 * i + (3 - j)) :=
  Word.byte_ofBytes_apply (fun j => image.get (4 * i + (3 - j))) hj

/-- After some words the bytes of these words are the image's, and every other byte is as
    before. -/
theorem get_storeWords (b : Block) (offset : Nat) (image : Image) (n j : Nat) :
    (b.storeWords offset image n).get j = if offset ≤ j ∧ j < offset + 4 * n then
      image.get ((j - offset) / 4 * 4 + (3 - (j - offset) % 4)) else b.get j := by
  induction n with
  | zero =>
      rw [storeWords, if_neg]
      omega
  | succ n ih =>
      rw [storeWords, get_putWord, ih]
      by_cases hlast : offset + 4 * n ≤ j ∧ j < offset + 4 * n + 4
      · have hindex : (j - offset) / 4 * 4 + (3 - (j - offset) % 4) =
            4 * n + (3 - (j - (offset + 4 * n))) := by omega
        rw [if_pos hlast, byte_word image n (by omega), if_pos (by omega), hindex]
      · -- The word that comes last is not the byte's.
        have hiff : (offset ≤ j ∧ j < offset + 4 * (n + 1)) ↔
            (offset ≤ j ∧ j < offset + 4 * n) := by omega
        rw [if_neg hlast]
        simp only [hiff]

/-- Loading an image is storing its words one after the other. -/
theorem get_loadWords?_eq (h : b.loadWords? offset image = some b') (j : Nat) :
    b'.get j = (b.storeWords offset image (image.paddedSize / 4)).get j := by
  rw [get_loadWords? h, get_storeWords, image.four_mul_words]

/-- An image at the start of a block is found in its own order. -/
theorem bigEndian_loadWords? (h : b.loadWords? 0 image = some b') {i : Nat}
    (hi : i < image.paddedSize) : b'.bigEndian i = image.get i := by
  have hin : 0 ≤ i / 4 * 4 + (3 - i % 4) ∧
      i / 4 * 4 + (3 - i % 4) < 0 + image.paddedSize := by
    unfold Image.paddedSize at hi ⊢
    omega
  have hback : (i / 4 * 4 + (3 - i % 4) - 0) / 4 * 4 +
      (3 - (i / 4 * 4 + (3 - i % 4) - 0) % 4) = i := by omega
  rw [bigEndian, get_loadWords? h, if_pos hin, hback]

end Block

namespace Store

variable {s t : Store} {k : BlockKind} {image : Image} {limit : Nat}

/-- A limit of whole words may as well be compared with the length itself. -/
theorem paddedSize_le_iff (image : Image) (hlimit : limit % 4 = 0) :
    image.paddedSize ≤ limit ↔ image.size ≤ limit := by
  unfold Image.paddedSize
  omega

/-- An image is accepted iff it fits the limit and the block. It is put in the place of
    the block. -/
theorem loadImage_eq_ok_iff : s.loadImage k image limit = .ok t ↔
    image.paddedSize ≤ limit ∧
      ∃ b, (s.block k).loadWords? 0 image = some b ∧ t = s.setBlock k b := by
  rw [loadImage]
  -- The limit is looked at first, and only then the block.
  by_cases hlimit : image.paddedSize ≤ limit
  · rw [if_neg (Nat.not_lt.mpr hlimit)]
    cases hb : (s.block k).loadWords? 0 image with
    | none =>
        refine ⟨fun h => ?_, ?_⟩
        · cases h
        · rintro ⟨-, b, hsome, -⟩
          cases hsome
    | some b =>
        refine ⟨fun h => ⟨hlimit, b, rfl, (Except.ok.inj h).symm⟩, ?_⟩
        rintro ⟨-, b', hb', rfl⟩
        rw [Option.some.inj hb']
  · rw [if_pos (Nat.lt_of_not_le hlimit)]
    refine ⟨fun h => ?_, fun h => absurd h.1 hlimit⟩
    cases h

/-- There is one reason to refuse an image. -/
theorem loadImage_eq_error_iff {e : MemoryError} : s.loadImage k image limit = .error e ↔
    e = .imageTooLarge (s.block k).kind image.size limit ∧
      ∀ t, s.loadImage k image limit ≠ .ok t := by
  rw [loadImage]
  -- Whether the limit or the block refuses it, the reason that is given is the same.
  split
  · refine ⟨fun h => ⟨(Except.error.inj h).symm, fun t ht => ?_⟩, fun h => by rw [h.1]⟩
    cases ht
  · split
    · refine ⟨fun h => ?_, fun h => absurd rfl (h.2 _)⟩
      cases h
    · refine ⟨fun h => ⟨(Except.error.inj h).symm, fun t ht => ?_⟩, fun h => by rw [h.1]⟩
      cases ht

end Store

namespace ImageSlot

variable {s t : Store} {n : Nat} {slot : ImageSlot} {image : Image}

theorem limit_mod_four (slot : ImageSlot) : slot.limit % 4 = 0 := by
  cases slot <;> rfl

/-- The places differ in nothing but the block, the limit, and the length that is
    remembered. -/
theorem load_eq (slot : ImageSlot) (s : Store) (image : Image) : slot.load s image =
    (s.loadImage slot.block image slot.limit).map fun t =>
      { t with cartridgeSize := if slot = .cartridge then image.size else t.cartridgeSize } := by
  cases slot with
  | cartridge =>
      rw [load, Store.loadCartridge]
      change _ = (s.loadImage .cartRom image cartRomSize).map _
      cases s.loadImage .cartRom image cartRomSize <;> rfl
  | bootCode =>
      change s.loadImage .pifMem image pifRomSize = (s.loadImage .pifMem image pifRomSize).map _
      cases s.loadImage .pifMem image pifRomSize <;> rfl
  | disk =>
      change s.loadImage .ddRom image ddRomSize = (s.loadImage .ddRom image ddRomSize).map _
      cases s.loadImage .ddRom image ddRomSize <;> rfl

/-- A block that is put in with an image. -/
theorem loaded_setBlock {b : Block} (hb : (s.block slot.block).loadWords? 0 image = some b) :
    slot.Loaded image s { s.setBlock slot.block b with
      cartridgeSize := if slot = .cartridge then image.size else s.cartridgeSize } := by
  have hblock : ∀ k, Store.block { s.setBlock slot.block b with cartridgeSize :=
      if slot = .cartridge then image.size else s.cartridgeSize } k =
        if slot.block = k then b else s.block k := by
    intro k
    rw [← s.block_setBlock]
    cases k <;> rfl
  have hself := hblock slot.block
  rw [if_pos rfl] at hself
  constructor
  case image_eq =>
    intro i hi
    rw [hself, Block.bigEndian_loadWords? hb hi]
  case behind_eq =>
    intro j hj
    rw [hself, Block.get_loadWords? hb, if_neg]
    omega
  case words_eq =>
    intro j
    rw [hself, Block.get_loadWords?_eq hb]
  case other_eq =>
    intro k hk
    rw [hblock, if_neg (Ne.symm hk)]
  case place_eq =>
    rw [hself]
    have hplace := Block.samePlace_of_loadWords? hb
    exact ⟨hplace.kind_eq, hplace.address_eq, hplace.size_eq⟩
  case cartridgeSize_eq => rfl

/-- What an accepted image leaves behind, whatever the lengths of the blocks. -/
theorem loaded_of_load (h : slot.load s image = .ok t) : slot.Loaded image s t := by
  rw [load_eq] at h
  cases hload : s.loadImage slot.block image slot.limit with
  | error e =>
      rw [hload] at h
      cases h
  | ok u =>
      rcases Store.loadImage_eq_ok_iff.mp hload with ⟨-, b, hb, rfl⟩
      rw [hload, Except.map, s.cartridgeSize_setBlock] at h
      rw [← Except.ok.inj h]
      exact loaded_setBlock hb

/-- An image is accepted iff it is no longer than the limit and fits the block. -/
theorem load_isOk_iff : (∃ t, slot.load s image = .ok t) ↔
    image.size ≤ slot.limit ∧ image.paddedSize ≤ (s.block slot.block).size := by
  have hfits : (s.block slot.block).Fits 0 image.paddedSize ↔
      image.paddedSize ≤ (s.block slot.block).size := by
    rw [Block.Fits, Nat.zero_add]
  -- Limits are whole words, so an image may be filled up before it is compared with one.
  rw [← Store.paddedSize_le_iff image slot.limit_mod_four, load_eq, ← hfits,
    ← Block.loadWords?_isSome, Option.isSome_iff_exists]
  constructor
  · rintro ⟨t, ht⟩
    cases hload : s.loadImage slot.block image slot.limit with
    | error e =>
        rw [hload] at ht
        cases ht
    | ok u =>
        rcases Store.loadImage_eq_ok_iff.mp hload with ⟨hlimit, b, hb, -⟩
        exact ⟨hlimit, b, hb⟩
  · rintro ⟨hlimit, b, hb⟩
    rw [Store.loadImage_eq_ok_iff.mpr ⟨hlimit, b, hb, rfl⟩]
    exact ⟨_, rfl⟩

/-- If not, its length is the reason that is given. -/
theorem load_eq_error (h : ∀ t, slot.load s image ≠ .ok t) : slot.load s image =
    .error (.imageTooLarge (s.block slot.block).kind image.size slot.limit) := by
  rw [load_eq] at h ⊢
  cases hload : s.loadImage slot.block image slot.limit with
  | ok u =>
      rw [hload] at h
      exact absurd rfl (h _)
  | error e =>
      rw [(Store.loadImage_eq_error_iff.mp hload).1]
      rfl

/-- In the memory of a machine there is room for as much as the limit allows. -/
theorem load_isOk_iff_of_shaped (hs : s.Shaped n) :
    (∃ t, slot.load s image = .ok t) ↔ image.size ≤ slot.limit := by
  have hroom : slot.limit ≤ (s.block slot.block).size := by
    rw [hs]
    cases slot <;> exact of_decide_eq_true rfl
  rw [load_isOk_iff, ← Store.paddedSize_le_iff image slot.limit_mod_four]
  exact and_iff_left_of_imp fun h => Nat.le_trans h hroom

theorem load_of_lt (h : slot.limit < image.size) : slot.load s image =
    .error (.imageTooLarge (s.block slot.block).kind image.size slot.limit) :=
  load_eq_error fun t ht => Nat.not_le.mpr h (load_isOk_iff.mp ⟨t, ht⟩).1

end ImageSlot

end RegionBus
