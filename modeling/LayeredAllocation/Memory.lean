import LayeredAllocation.Platform
import LayeredAllocation.Text

namespace LayeredAllocation

structure Patch where
  extent : Extent
  content : Nat → Option UInt8

structure Memory where
  platform : Platform
  attempts : Nat := 0
  -- Newest first.
  roots : List Root := []
  patches : List Patch := []
  returned : List Extent := []

namespace Memory

def readFrom (patches : List Patch) (address : Nat) : Option UInt8 :=
  match patches with
  | [] => none
  | patch :: older =>
    if patch.extent.Contains address then patch.content (address - patch.extent.start)
    else readFrom older address

def read (memory : Memory) (address : Nat) : Option UInt8 := readFrom memory.patches address

def bytes (memory : Memory) (start length : Nat) : List UInt8 :=
  (List.range length).map fun i => (memory.read (start + i)).getD 0

def write (memory : Memory) (start length : Nat) (content : Nat → Option UInt8) : Memory :=
  { memory with patches := ⟨⟨start, length⟩, content⟩ :: memory.patches }

def writeBytes (memory : Memory) (start : Nat) (data : List UInt8) : Memory :=
  let stored := data.toArray
  memory.write start stored.size fun i => stored[i]?

def zero (memory : Memory) (start length : Nat) : Memory :=
  memory.write start length fun _ => some 0

def freshContent : Origin → Option UInt8
  | .heap | .borrowed => none
  | .pages | .largePages | .pinned => some 0

def obtain (memory : Memory) (origin : Origin) (size align : Nat) : Option Nat × Memory :=
  let asked := { memory with attempts := memory.attempts + 1 }
  match memory.platform.place memory.attempts memory.roots origin size align with
  | none => (none, asked)
  | some base =>
    let extended := { asked with roots := ⟨⟨base, size⟩, align, origin, true⟩ :: memory.roots }
    (some base, extended.write base size fun _ => freshContent origin)

def retire (start : Nat) : List Root → List Root
  | [] => []
  | root :: older =>
    if root.extent.start = start ∧ root.live = true then { root with live := false } :: older
    else root :: retire start older

def giveBack (memory : Memory) (start length : Nat) : Memory :=
  { memory with
    roots := retire start memory.roots
    returned := ⟨start, length⟩ :: memory.returned }

-- The number of the root that an address belongs to, in the order in which roots were obtained,
-- and the distance from its start. The address behind the last byte still belongs to the root.
def placeOf? (address : Nat) : List Root → Option (Nat × Nat)
  | [] => none
  | root :: older =>
    if root.extent.start ≤ address ∧ address ≤ root.extent.stop then
      some (older.length, address - root.extent.start)
    else placeOf? address older

theorem read_write_inside {memory : Memory} {start length address : Nat}
    {content : Nat → Option UInt8} (inside : Extent.Contains ⟨start, length⟩ address) :
    (memory.write start length content).read address = content (address - start) := by
  simp only [read, write, readFrom, if_pos inside]

theorem read_write_outside {memory : Memory} {start length address : Nat}
    {content : Nat → Option UInt8} (outside : ¬ Extent.Contains ⟨start, length⟩ address) :
    (memory.write start length content).read address = memory.read address := by
  simp only [read, write, readFrom, if_neg outside]

theorem read_zero_inside {memory : Memory} {start length address : Nat}
    (inside : Extent.Contains ⟨start, length⟩ address) :
    (memory.zero start length).read address = some 0 := read_write_inside inside

theorem read_writeBytes_inside {memory : Memory} {start : Nat} {data : List UInt8} {i : Nat}
    (small : i < data.length) : (memory.writeBytes start data).read (start + i) = data[i]? := by
  unfold writeBytes
  rw [read_write_inside]
  · rw [Nat.add_sub_cancel_left, List.getElem?_toArray]
  · exact ⟨Nat.le_add_right _ _, by simpa [Extent.stop] using small⟩

theorem length_bytes (memory : Memory) (start length : Nat) :
    (memory.bytes start length).length = length := by simp [bytes]

end LayeredAllocation.Memory

namespace LayeredAllocation.Memory

def placeText (place : Nat × Nat) : String :=
  "r" ++ Text.Numeral.decimal place.1 ++ "+" ++ Text.Numeral.decimal place.2

def addressText? (memory : Memory) (address : Nat) : Option String :=
  (placeOf? address memory.roots).map placeText

def isAddressDigit (c : Char) : Bool := c.isDigit || ('a' ≤ c && c ≤ 'f')

def nameCharacters (memory : Memory) : (fuel : Nat) → List Char → List Char
  | 0, text => text
  | _ + 1, [] => []
  -- Every step uses up a character, so the length of the text is fuel enough.
  | fuel + 1, '0' :: 'x' :: rest =>
    let digits := rest.takeWhile isAddressDigit
    let named :=
      if digits.isEmpty then none
      else memory.addressText? (Text.Numeral.value 16 0 digits)
    match named with
    | some place => place.toList ++ nameCharacters memory fuel (rest.dropWhile isAddressDigit)
    | none => '0' :: 'x' :: digits ++ nameCharacters memory fuel (rest.dropWhile isAddressDigit)
  | fuel + 1, c :: rest => c :: nameCharacters memory fuel rest

def nameAddresses (memory : Memory) (text : String) : String :=
  let characters := text.toList
  String.ofList (nameCharacters memory characters.length characters)

end Memory

namespace Fingerprint

def offsetBasis : UInt64 := 0xcbf29ce484222325

def prime : UInt64 := 0x100000001b3

def extend (hash : UInt64) (byte : UInt8) : UInt64 := (hash ^^^ byte.toUInt64) * prime

def ofBytes (bytes : List UInt8) : UInt64 := bytes.foldl extend offsetBasis

def ofContent (length : Nat) (content : Nat → UInt8) : UInt64 :=
  Nat.fold length (fun i _ hash => extend hash (content i)) offsetBasis

theorem ofContent_eq_ofBytes (length : Nat) (content : Nat → UInt8) :
    ofContent length content = ofBytes ((List.range length).map content) := by
  unfold ofContent ofBytes
  induction length with
  | zero => rfl
  | succ length ih =>
    rw [Nat.fold_succ, ih, List.range_succ, List.map_append, List.foldl_append]
    rfl

def text (hash : UInt64) : String :=
  let digits := Text.Numeral.digits 16 hash.toNat
  String.ofList (List.replicate (16 - digits.length) '0' ++ digits)

end Fingerprint

def Memory.fingerprint (memory : Memory) (start length : Nat) : UInt64 :=
  Fingerprint.ofContent length fun i => (memory.read (start + i)).getD 0

namespace Pattern

def byte (seed i : Nat) : UInt8 := UInt8.ofNat ((seed + 7 * i + i / 256) % 255 + 1)

def bytes (seed start length : Nat) : List UInt8 :=
  (List.range length).map fun i => byte seed (start + i)

theorem byte_ne_zero (seed i : Nat) : byte seed i ≠ 0 := by
  intro zero
  have value := congrArg UInt8.toNat zero
  simp only [byte, UInt8.toNat_ofNat', UInt8.toNat_zero] at value
  have := Nat.mod_lt (seed + 7 * i + i / 256) (show 0 < 255 by decide)
  omega

end Pattern

end LayeredAllocation
