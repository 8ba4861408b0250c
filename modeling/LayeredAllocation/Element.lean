import LayeredAllocation.Memory
import LayeredAllocation.Text

namespace LayeredAllocation

-- How the bytes of an element are to be read.
inductive Form where
  | unsigned
  | signed
  | raw
deriving DecidableEq, Repr

structure Element where
  size : Nat
  align : Nat
  form : Form
deriving DecidableEq, Repr

namespace Element

def bytesOfNat : (size : Nat) → Nat → List UInt8
  | 0, _ => []
  | size + 1, n => UInt8.ofNat n :: bytesOfNat size (n / 256)

def natOfBytes : List UInt8 → Nat
  | [] => 0
  | byte :: rest => byte.toNat + 256 * natOfBytes rest

def valuesIn : (size : Nat) → Nat
  | 0 => 1
  | size + 1 => valuesIn size * 256

-- The bytes of an integer, if the element has room for it.
def encode? (element : Element) (z : Int) : Option (List UInt8) :=
  let range : Int := valuesIn element.size
  let half : Int := range / 2
  match element.form with
  | .unsigned =>
    if 0 ≤ z ∧ z < range then some (bytesOfNat element.size z.toNat) else none
  | .signed =>
    if -half ≤ z ∧ z < half then some (bytesOfNat element.size (z % range).toNat) else none
  | .raw => none

def decode (element : Element) (bytes : List UInt8) : Int :=
  let n := natOfBytes bytes
  match element.form with
  | .signed =>
    if n < valuesIn element.size / 2 then n else (n : Int) - valuesIn element.size
  | _ => n

def zero (element : Element) : List UInt8 := List.replicate element.size 0

theorem length_bytesOfNat (size n : Nat) : (bytesOfNat size n).length = size := by
  induction size generalizing n with
  | zero => rfl
  | succ size ih => simp [bytesOfNat, ih]

theorem natOfBytes_bytesOfNat {size n : Nat} (fits : n < valuesIn size) :
    natOfBytes (bytesOfNat size n) = n := by
  induction size generalizing n with
  | zero =>
    have : n = 0 := by simpa [valuesIn] using fits
    simp [bytesOfNat, natOfBytes, this]
  | succ size ih =>
    have smaller : n / 256 < valuesIn size := by
      rw [Nat.div_lt_iff_lt_mul (by decide)]
      simpa [valuesIn] using fits
    simp only [bytesOfNat, natOfBytes, ih smaller]
    have low : (UInt8.ofNat n).toNat = n % 256 := by simp
    omega

theorem natOfBytes_lt (bytes : List UInt8) : natOfBytes bytes < valuesIn bytes.length := by
  induction bytes with
  | nil => simp [natOfBytes, valuesIn]
  | cons byte rest ih =>
    have := byte.toNat_lt
    simp only [natOfBytes, List.length_cons, valuesIn]
    omega

end Element

structure ElementRun where
  address : Nat
  count : Nat
  element : Element
deriving DecidableEq, Repr

namespace ElementRun

def byteLength (run : ElementRun) : Nat := run.count * run.element.size

def extent (run : ElementRun) : Extent := ⟨run.address, run.byteLength⟩

def addressOf (run : ElementRun) (index : Nat) : Nat := run.address + index * run.element.size

def part (run : ElementRun) (start stop : Nat) : ElementRun :=
  ⟨run.addressOf start, stop - start, run.element⟩

def get (run : ElementRun) (memory : Memory) (index : Nat) : List UInt8 :=
  memory.bytes (run.addressOf index) run.element.size

def set (run : ElementRun) (memory : Memory) (index : Nat) (value : List UInt8) : Memory :=
  memory.writeBytes (run.addressOf index) value

def toList (run : ElementRun) (memory : Memory) : List (List UInt8) :=
  (List.range run.count).map (run.get memory)

def bytes (run : ElementRun) (memory : Memory) : List UInt8 :=
  memory.bytes run.address run.byteLength

def fill (run : ElementRun) (memory : Memory) (value : List UInt8) : Memory :=
  let stored := value.toArray
  memory.write run.address run.byteLength fun i => stored[i % stored.size]?

def clear (run : ElementRun) (memory : Memory) : Memory :=
  memory.zero run.address run.byteLength

def copyFrom (run : ElementRun) (memory : Memory) (values : List (List UInt8)) : Memory :=
  memory.writeBytes run.address values.flatten

def permute (run : ElementRun) (memory : Memory) (source : Nat → Nat) : Memory :=
  let stored := (run.bytes memory).toArray
  let size := run.element.size
  memory.write run.address run.byteLength fun i => stored[source (i / size) * size + i % size]?

def reverse (run : ElementRun) (memory : Memory) : Memory :=
  run.permute memory fun i => run.count - 1 - i

-- Moves every element one place towards the start, and the first to the end.
def rotate (run : ElementRun) (memory : Memory) : Memory :=
  run.permute memory fun i => (i + 1) % run.count

end LayeredAllocation.ElementRun
