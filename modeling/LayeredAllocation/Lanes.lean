import LayeredAllocation.Text

namespace LayeredAllocation.Lanes

inductive Level where
  | avx2
  | sse2
  | neon
  | scalar
deriving DecidableEq, Repr

def Level.laneWidth : Level → Nat
  | .avx2 => 32
  | .sse2 | .neon => 16
  | .scalar => 8

structure Stride where
  lanes : Nat
  width : Nat
deriving DecidableEq, Repr

def Stride.length (stride : Stride) : Nat := stride.lanes * stride.width

def plainStrides : List Stride := [⟨8, 8⟩, ⟨1, 8⟩, ⟨1, 1⟩]

-- The strides of a level, widest first. Instructions of other processors run as plain words.
def Level.strides : Level → List Stride
  | .avx2 => ⟨4, 32⟩ :: ⟨1, 32⟩ :: plainStrides
  | .sse2 => ⟨4, 16⟩ :: ⟨1, 16⟩ :: plainStrides
  | .neon | .scalar => plainStrides

structure Lane where
  offset : Nat
  width : Nat
deriving DecidableEq, Repr

def Stride.group (stride : Stride) (offset : Nat) : List Lane :=
  (List.range stride.lanes).map fun i => ⟨offset + i * stride.width, stride.width⟩

-- The groups that cover the bytes from `offset` up to `length`, each stride as often as it fits.
def schedule : List Stride → (offset length : Nat) → List (List Lane)
  | [], _, _ => []
  | stride :: rest, offset, length =>
    let rounds := (length - offset) / stride.length
    (List.range rounds).map (fun round => stride.group (offset + round * stride.length)) ++
      schedule rest (offset + rounds * stride.length) length

@[ext]
structure Image where
  read : Nat → UInt8

def Image.blank : Image := ⟨fun _ => 0⟩

def load (image : Image) (address width : Nat) : List UInt8 :=
  (List.range width).map fun i => image.read (address + i)

def store (image : Image) (address : Nat) (bytes : List UInt8) : Image :=
  let stored := bytes.toArray
  ⟨fun a =>
    if address ≤ a then
      match stored[a - address]? with
      | some byte => byte
      | none => image.read a
    else image.read a⟩

def zeroGroup (target : Nat) (image : Image) (group : List Lane) : Image :=
  group.foldl (fun image lane => store image (target + lane.offset) (List.replicate lane.width 0))
    image

def copyGroup (target origin : Nat) (image : Image) (group : List Lane) : Image :=
  let loaded := group.map fun lane => (lane, load image (origin + lane.offset) lane.width)
  loaded.foldl (fun image (lane, bytes) => store image (target + lane.offset) bytes) image

def zeroWith (level : Level) (target length : Nat) (image : Image) : Image :=
  (schedule level.strides 0 length).foldl (zeroGroup target) image

def copyWith (level : Level) (target origin length : Nat) (image : Image) : Image :=
  (schedule level.strides 0 length).foldl (copyGroup target origin) image

def best : Level := .avx2

-- Copies between runs that must be equally long; anything else is a panic.
def copyRuns (level : Level) (target targetLength origin originLength : Nat) (image : Image) :
    Except String Image :=
  if targetLength = originLength then .ok (copyWith level target origin targetLength image)
  else
    .error ("assertion `left == right` failed: copy: destination and source lengths differ\n  " ++
      "left: " ++ Text.Numeral.decimal targetLength ++ "\n right: " ++
      Text.Numeral.decimal originLength)

theorem read_store_of_outside {image : Image} {address a : Nat} {bytes : List UInt8}
    (outside : a < address ∨ address + bytes.length ≤ a) :
    (store image address bytes).read a = image.read a := by
  simp only [store]
  split
  · next above =>
    rw [Array.getElem?_eq_none (by simp only [List.size_toArray]; omega)]
  · rfl

theorem read_store_of_inside {image : Image} {address i : Nat} {bytes : List UInt8}
    (inside : i < bytes.length) : (store image address bytes).read (address + i) = bytes[i] := by
  simp only [store]
  rw [if_pos (Nat.le_add_right _ _), Nat.add_sub_cancel_left, List.getElem?_toArray,
    List.getElem?_eq_getElem inside]

end LayeredAllocation.Lanes
