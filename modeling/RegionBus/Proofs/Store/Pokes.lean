import RegionBus.Proofs.StandardMap.Effects
import RegionBus.Proofs.Store.Translation
import RegionBus.RawMemory

/-!
# Words Seen and Replaced past the Bus

A tool that replaces a word sees what it put there, at every address of the word, and
sees every other word as before. That the others stay as they are is a matter of the
windows: words with different addresses lie at different places, as translation never
leads to the same byte twice, and places are whole words apart, as every window leads
from words to words. Nothing of this depends on how long the blocks are.

The lengths decide which words there are. Where a block ends inside of a word, its
last bytes have addresses but are part of no word that could be seen or replaced.
Both are found out in the same way, so a word is replaced iff it is seen. The blocks of
a machine that a configuration was accepted for end with whole words, and there a word
is seen wherever an address stands for a byte.

## Main definitions

* `Store.SamePlaces`: Two stores have blocks of the same lengths at the same places.
* `Store.SameBytes`: They have the same bytes as well.
* `Store.Replaced`: One store is another one with a word at a location replaced.
* `RawMemory.PokeLaw`: How words are seen and replaced.

## Theorems

* `Block.byte_wordAt`, `Block.wordAt_putWord_of_apart`: Words and the bytes of a block.
* `isSome_poke?_iff`: A word is replaced iff it is seen.
* `replaced_of_poke?`: What replacing it does to each byte.
* `peek?_of_poke?_of_ne`: Words at other addresses stay.
* `sameBytes_poked_back`: Putting back what was there before undoes it.
* `Catalog.resolve?_wordStart`: An address lies as far into its word as in its block.
* `poke_law`: All of this, for every store.
-/

namespace RegionBus

variable {A : Type}

namespace Store

/-- The blocks of two stores are as long and lie at the same host addresses, and the same
    length is known of the cartridge image. -/
structure SamePlaces (s t : Store) : Prop where
  /-- They are the same blocks of the machine. -/
  kind_eq : ∀ k, (t.block k).kind = (s.block k).kind
  /-- They lie where they lay. -/
  address_eq : ∀ k, (t.block k).address = (s.block k).address
  /-- No block is longer or shorter. -/
  size_eq : ∀ k, (t.block k).size = (s.block k).size
  /-- The cartridge image is as long. -/
  cartridgeSize_eq : t.cartridgeSize = s.cartridgeSize

/-- Two stores cannot be told apart. -/
structure SameBytes (s t : Store) : Prop extends s.SamePlaces t where
  /-- Every byte of every block is the same. -/
  get_eq : ∀ k j, (t.block k).get j = (s.block k).get j

/-- One store is another one with the word at a location replaced. -/
structure Replaced (s : Store) (l : Location) (value : UInt32) (t : Store) : Prop
    extends s.SamePlaces t where
  /-- Four bytes of a block are those of the value, and every other byte is as before. -/
  get_eq : ∀ k j, (t.block k).get j =
    if k = l.block ∧ l.offset ≤ j ∧ j < l.offset + 4 then Word.byte value (j - l.offset)
    else (s.block k).get j

end Store

/-- How words are seen and replaced past the bus. -/
structure RawMemory.PokeLaw (m : RawMemory A) : Prop where
  /-- A word is replaced iff one is seen. -/
  done_iff : ∀ a value, (m.poke a value).1 = true ↔ (m.store.peek? a).isSome
  /-- It is then seen at every address of its word. -/
  seen : ∀ a value b, (m.poke a value).1 = true → b &&& ~~~3 = a &&& ~~~3 →
    (m.poke a value).2.store.peek? b = some value
  /-- At every other address what is seen is the same as before. -/
  other : ∀ a value b, (m.poke a value).1 = true → b &&& ~~~3 ≠ a &&& ~~~3 →
    (m.poke a value).2.store.peek? b = m.store.peek? b
  /-- The four bytes that the word stands for are replaced and no others. -/
  replaced : ∀ a value, (m.poke a value).1 = true →
    ∃ l, m.store.locate? (a &&& ~~~3) = some l ∧ (m.store.block l.block).Fits l.offset 4 ∧
      m.store.Replaced l value (m.poke a value).2.store
  /-- Putting back what was there before undoes it. -/
  undone : ∀ a value old, m.store.peek? a = some old →
    m.store.SameBytes ((m.poke a value).2.poke a old).2.store
  /-- Where there is no word nothing happens. -/
  refused : ∀ a value, (m.poke a value).1 = false → (m.poke a value).2 = m

namespace Block

theorem byte_wordAt (b : Block) (offset : Nat) {i : Nat} (hi : i < 4) :
    Word.byte (b.wordAt offset) i = b.get (offset + i) :=
  Word.byte_ofBytes_apply (fun i => b.get (offset + i)) hi

theorem kind_putWord (b : Block) (offset : Nat) (word : UInt32) :
    (b.putWord offset word).kind = b.kind := by
  simp only [putWord]

theorem address_putWord (b : Block) (offset : Nat) (word : UInt32) :
    (b.putWord offset word).address = b.address := by
  simp only [putWord]

/-- A word stays if the one that is put lies apart from it. -/
theorem wordAt_putWord_of_apart (b : Block) {offset offset' : Nat}
    (h : offset + 4 ≤ offset' ∨ offset' + 4 ≤ offset) (word : UInt32) :
    (b.putWord offset word).wordAt offset' = b.wordAt offset' := by
  have hout : ∀ i < 4, (b.putWord offset word).get (offset' + i) = b.get (offset' + i) := by
    intro i hi
    rw [get_putWord, if_neg]
    omega
  have h0 := hout 0 (by decide)
  rw [Nat.add_zero] at h0
  rw [wordAt, h0, hout 1 (by decide), hout 2 (by decide), hout 3 (by decide), wordAt]

theorem readWord?_putWord_of_apart (b : Block) {offset offset' : Nat}
    (h : offset + 4 ≤ offset' ∨ offset' + 4 ≤ offset) (word : UInt32) :
    (b.putWord offset word).readWord? offset' = b.readWord? offset' := by
  simp only [readWord?, Fits, size_putWord, wordAt_putWord_of_apart b h]

end Block

namespace Store

variable {s t : Store} {a b value : UInt32}

theorem peek?_eq_some_iff {v : UInt32} : s.peek? a = some v ↔
    ∃ l, s.locate? (wordStart a) = some l ∧ (s.block l.block).Fits l.offset 4 ∧
      (s.block l.block).wordAt l.offset = v := by
  rw [peek?, Option.bind_eq_some_iff]
  simp only [Block.readWord?, Option.ite_none_right_eq_some, Option.some.injEq]

/-- A word is replaced iff it is seen, since both are found out in the same way. -/
theorem isSome_poke?_iff (s : Store) (a value : UInt32) :
    (s.poke? a value).isSome ↔ (s.peek? a).isSome := by
  rw [poke?, peek?]
  cases s.locate? (wordStart a) with
  | none => rfl
  | some l =>
      rw [Option.bind_some, Option.bind_some, Option.isSome_map, Block.writeWord?_isSome,
        Block.readWord?_isSome]

/-- A word is put where it was seen. -/
theorem poke?_of_fits {l : Location} (hl : s.locate? (wordStart a) = some l)
    (hfits : (s.block l.block).Fits l.offset 4) (value : UInt32) :
    s.poke? a value = some (s.setBlock l.block ((s.block l.block).putWord l.offset value)) := by
  rw [poke?, hl, Option.bind_some, Block.writeWord?, if_pos hfits, Word.merge_full,
    Option.map_some]

/-- What one block has in common with the one that it replaces, every block has in common
    with the one that was there. -/
theorem apply_block_setBlock {β : Type} (f : Block → β) {k : BlockKind} {new : Block}
    (h : f new = f (s.block k)) (j : BlockKind) :
    f ((s.setBlock k new).block j) = f (s.block j) := by
  rw [block_setBlock]
  by_cases hk : k = j
  · rw [if_pos hk, h, hk]
  · rw [if_neg hk]

theorem replaced_putWord (s : Store) (l : Location) (value : UInt32) :
    s.Replaced l value (s.setBlock l.block ((s.block l.block).putWord l.offset value)) := by
  constructor
  case toSamePlaces =>
    constructor
    case kind_eq => exact apply_block_setBlock Block.kind (Block.kind_putWord _ _ _)
    case address_eq => exact apply_block_setBlock Block.address (Block.address_putWord _ _ _)
    case size_eq => exact apply_block_setBlock Block.size (Block.size_putWord _ _ _)
    case cartridgeSize_eq => exact cartridgeSize_setBlock s l.block _
  case get_eq =>
    intro k j
    rw [block_setBlock]
    by_cases hk : l.block = k
    · subst hk
      simp only [if_true, Block.get_putWord, true_and]
    · rw [if_neg hk, if_neg fun h => hk h.1.symm]

theorem replaced_of_poke? (h : s.poke? a value = some t) :
    ∃ l, s.locate? (wordStart a) = some l ∧ (s.block l.block).Fits l.offset 4 ∧
      s.Replaced l value t := by
  rcases poke?_eq_some h with ⟨l, hl, hfits, rfl⟩
  exact ⟨l, hl, hfits, s.replaced_putWord l value⟩

/-- Two words lie at the same place or apart, and at the same place only if they have the
    same address. -/
theorem eq_or_apart {l l' : Location} (ha : a.toNat % 4 = 0) (hb : b.toNat % 4 = 0)
    (hl : s.locate? a = some l) (hl' : s.locate? b = some l') (hblock : l'.block = l.block) :
    a = b ∨ l.offset + 4 ≤ l'.offset ∨ l'.offset + 4 ≤ l.offset := by
  have hoffset := Catalog.offset_of_resolve? ha (Option.filter_eq_some_iff.mp hl).1
  have hoffset' := Catalog.offset_of_resolve? hb (Option.filter_eq_some_iff.mp hl').1
  by_cases heq : l'.offset = l.offset
  · have hplace : l' = l := by
      rcases l with ⟨block, offset⟩
      rcases l' with ⟨block', offset'⟩
      rw [Location.mk.injEq]
      exact ⟨hblock, heq⟩
    rw [hplace] at hl'
    exact .inl (s.translated.injective a b l hl hl')
  · exact .inr (by omega)

/-- Words at other addresses stay. -/
theorem peek?_of_poke?_of_ne (h : s.poke? a value = some t)
    (hne : wordStart b ≠ wordStart a) : t.peek? b = s.peek? b := by
  rcases poke?_eq_some h with ⟨l, hl, hfits, rfl⟩
  rw [peek?, locate?_setBlock _ (Block.size_putWord _ _ _), peek?]
  cases hl' : s.locate? (wordStart b) with
  | none => rfl
  | some l' =>
      rw [Option.bind_some, Option.bind_some, block_setBlock]
      by_cases hblock : l.block = l'.block
      · rcases eq_or_apart (aligned_word a) (aligned_word b) hl hl' hblock.symm with heq | hapart
        · exact absurd heq.symm hne
        · rw [if_pos hblock, Block.readWord?_putWord_of_apart _ hapart, hblock]
      · rw [if_neg hblock]

theorem SamePlaces.trans {u : Store} (h : s.SamePlaces t) (h' : t.SamePlaces u) :
    s.SamePlaces u :=
  ⟨fun k => (h'.kind_eq k).trans (h.kind_eq k), fun k => (h'.address_eq k).trans (h.address_eq k),
    fun k => (h'.size_eq k).trans (h.size_eq k), h'.cartridgeSize_eq.trans h.cartridgeSize_eq⟩

/-- A word that is replaced and put back leaves every byte as it was. -/
theorem Replaced.undone {l : Location} {u : Store} (h : s.Replaced l value t)
    (h' : t.Replaced l ((s.block l.block).wordAt l.offset) u) : s.SameBytes u := by
  refine ⟨h.toSamePlaces.trans h'.toSamePlaces, fun k j => ?_⟩
  rw [h'.get_eq, h.get_eq]
  by_cases hin : k = l.block ∧ l.offset ≤ j ∧ j < l.offset + 4
  · have hback : l.offset + (j - l.offset) = j := by omega
    rw [if_pos hin, Block.byte_wordAt _ _ (by omega), hback, hin.1]
  · rw [if_neg hin, if_neg hin]

/-- Putting back what was there before undoes a poke. -/
theorem sameBytes_poked_back {old : UInt32} (hold : s.peek? a = some old) (value : UInt32) :
    ∃ t u, s.poke? a value = some t ∧ t.poke? a old = some u ∧ s.SameBytes u := by
  rcases peek?_eq_some_iff.mp hold with ⟨l, hl, hfits, rfl⟩
  have hpoke := poke?_of_fits hl hfits value
  have hplaced := s.replaced_putWord l value
  generalize s.setBlock l.block ((s.block l.block).putWord l.offset value) = t at hpoke hplaced
  -- The word is found at the same place again.
  have hl' : t.locate? (wordStart a) = some l := by
    simp only [locate?, hplaced.size_eq]
    exact hl
  have hfits' : (t.block l.block).Fits l.offset 4 := by
    unfold Block.Fits
    rw [hplaced.size_eq]
    exact hfits
  exact ⟨t, _, hpoke, poke?_of_fits hl' hfits' _, hplaced.undone (t.replaced_putWord l _)⟩

end Store

/-- An address lies as far behind the start of its word as what it stands for. -/
theorem Catalog.resolve?_wordStart (a : UInt32) : standard.resolve? a =
    (standard.resolve? (Store.wordStart a)).map fun l => ⟨l.block, l.offset + a.toNat % 4⟩ := by
  rw [resolve?_standard, resolve?_standard, Store.wordStart, toNat_alignWord]
  generalize a.toNat = i
  have hback : ∀ base, base % 4 = 0 → base ≤ i → i / 4 * 4 - base + i % 4 = i - base := by omega
  rcases address_parts i with h | h | h | h | h | h | h | h | h | h
  all_goals simp (disch := omega) only [if_pos, if_neg, Option.map_some, Option.map_none]
  all_goals simp only [Option.some.injEq, Location.mk.injEq, true_and]
  all_goals omega

namespace Store

variable {n : Nat} {s : Store}

/-- Where blocks end with whole words, a word is seen wherever an address stands for a
    byte. -/
theorem isSome_peek?_iff_hostAddress? (hn : ValidDramSize n) (hs : s.Shaped n) (a : UInt32) :
    (s.peek? a).isSome ↔ (s.hostAddress? a).isSome := by
  rw [s.translated.host, Option.isSome_map]
  constructor
  · intro h
    rcases Option.isSome_iff_exists.mp h with ⟨v, hv⟩
    rcases peek?_eq_some_iff.mp hv with ⟨l, hl, hfits, -⟩
    have hresolve := (Option.filter_eq_some_iff.mp hl).1
    rw [locate?, Catalog.resolve?_wordStart, hresolve, Option.map_some, Option.filter_some,
      if_pos]
    · rfl
    · rw [decide_eq_true_eq]
      exact Nat.lt_of_lt_of_le (Nat.add_lt_add_left (Nat.mod_lt _ (by decide)) _) hfits
  · intro h
    rcases Option.isSome_iff_exists.mp h with ⟨l, hl⟩
    have hin := lt_of_locate? hl
    have hresolve := (Option.filter_eq_some_iff.mp hl).1
    rw [Catalog.resolve?_wordStart] at hresolve
    rcases Option.map_eq_some_iff.mp hresolve with ⟨l', hl', rfl⟩
    have hfound : s.locate? (wordStart a) = some l' := by
      rw [locate?, hl', Option.filter_some, if_pos]
      rw [decide_eq_true_eq]
      exact Nat.lt_of_le_of_lt (Nat.le_add_right _ _) hin
    have hfits := (fits_of_locate? hn hs (aligned_word a) hfound).2
    rw [peek?, hfound, Option.bind_some, Block.readWord?, if_pos hfits]
    rfl

end Store

namespace RawMemory

variable {m : RawMemory A} {a value : UInt32}

theorem poke_of_some {s : Store} (h : m.store.poke? a value = some s) :
    (m.poke a value).1 = true ∧ (m.poke a value).2.store = s := by
  rw [poke, h]
  exact ⟨rfl, rfl⟩

theorem poke_of_none (h : m.store.poke? a value = none) : m.poke a value = (false, m) := by
  rw [poke, h]

theorem poke_iff_isSome (m : RawMemory A) (a value : UInt32) :
    (m.poke a value).1 = true ↔ (m.store.poke? a value).isSome := by
  cases h : m.store.poke? a value with
  | none =>
      rw [poke_of_none h]
      exact Iff.rfl
  | some s =>
      rw [(poke_of_some h).1]
      exact Iff.rfl

theorem poke_done_iff (m : RawMemory A) (a value : UInt32) : (m.poke a value).1 = true ↔
    m.store.poke? a value = some (m.poke a value).2.store := by
  cases h : m.store.poke? a value with
  | none =>
      rw [poke_of_none h]
      simp only [Bool.false_eq_true, reduceCtorEq]
  | some s =>
      rw [(poke_of_some h).1, (poke_of_some h).2]
      simp only

end RawMemory

/-- How words are seen and replaced past the bus, whatever the lengths of the blocks, and
    where they are seen in the memory of a machine. -/
theorem poke_law (m : RawMemory A) : m.PokeLaw ∧
    ∀ c : Config, c.validate = .ok () → m.store.Shaped c.dramSize →
      ∀ a, (m.store.peek? a).isSome ↔ (m.store.hostAddress? a).isSome := by
  refine ⟨?_, fun c hc hs a =>
    Store.isSome_peek?_iff_hostAddress? (c.validate_eq_ok_iff.mp hc) hs a⟩
  constructor
  case done_iff =>
    intro a value
    rw [m.poke_iff_isSome, m.store.isSome_poke?_iff]
  case seen =>
    intro a value b hdone hword
    have hsame : ∀ s : Store, s.peek? b = s.peek? a := by
      intro s
      rw [Store.peek?, Store.wordStart, hword, Store.peek?, Store.wordStart]
    rw [hsame]
    exact Store.peek?_of_poke? ((m.poke_done_iff a value).mp hdone)
  case other =>
    intro a value b hdone hne
    exact Store.peek?_of_poke?_of_ne ((m.poke_done_iff a value).mp hdone) hne
  case replaced =>
    intro a value hdone
    exact Store.replaced_of_poke? ((m.poke_done_iff a value).mp hdone)
  case undone =>
    intro a value old hold
    rcases Store.sameBytes_poked_back hold value with ⟨t, u, ht, hu, hsame⟩
    have hstore := (RawMemory.poke_of_some ht).2
    rw [← hstore] at hu
    rw [(RawMemory.poke_of_some hu).2]
    exact hsame
  case refused =>
    intro a value hnot
    cases h : m.store.poke? a value with
    | none => rw [RawMemory.poke_of_none h]
    | some s =>
        rw [(RawMemory.poke_of_some h).1] at hnot
        cases hnot

/-- Of a block of two bytes more than whole words, the last two have addresses and are
    part of no word. In the memory of a machine the last byte is part of one. -/
theorem poke_law_partial :
    (∃ m : RawMemory Unit, m.store = Store.ofGrants 0x1002 [] ∧
      (m.store.hostAddress? 0x1001).isSome ∧ m.store.peek? 0x1001 = none ∧
        m.poke 0x1001 0x11223344 = (false, m) ∧ (m.poke 0xFFE 0x11223344).1 = true ∧
          (m.poke 0xFFE 0x11223344).2.store.peek? 0xFFD = some 0x11223344) ∧
      ((Store.ofGrants 0x04000000 []).peek? 0x080FFFFF).isSome := by
  constructor
  · have hlaw := (poke_law (.ofStore (Store.ofGrants 0x1002 []) ())).1
    have hstore : (RawMemory.ofStore (Store.ofGrants 0x1002 []) ()).store =
      Store.ofGrants 0x1002 [] := rfl
    generalize RawMemory.ofStore (Store.ofGrants 0x1002 []) () = m at hlaw hstore
    have hnone : m.store.peek? 0x1001 = none := by
      rw [hstore]
      rfl
    have hsome : (m.store.peek? 0xFFE).isSome := by
      rw [hstore]
      rfl
    have hnot : (m.poke 0x1001 0x11223344).1 = false := by
      rw [← Bool.not_eq_true, hlaw.done_iff, hnone]
      decide
    have hdone := (hlaw.done_iff 0xFFE 0x11223344).mpr hsome
    refine ⟨m, hstore, ?_, hnone, Prod.ext hnot (hlaw.refused _ _ hnot), hdone,
      hlaw.seen _ _ 0xFFD hdone rfl⟩
    rw [hstore]
    rfl
  · have hc : ({ Config.default with dramSize := 0x04000000 } : Config).validate = .ok () := rfl
    have hshape : (Store.ofGrants 0x04000000 []).Shaped 0x04000000 := fun k => by cases k <;> rfl
    have hseen := (poke_law (.ofStore (Store.ofGrants 0x04000000 []) ())).2 _ hc hshape
    exact (hseen 0x080FFFFF).mpr rfl

end RegionBus
