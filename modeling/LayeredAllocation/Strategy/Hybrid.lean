import LayeredAllocation.Word
import LayeredAllocation.Source
import LayeredAllocation.Table

namespace LayeredAllocation

structure HybridThresholds where
  byte : Nat := 1024
  word : Nat := 256
  doubleWord : Nat := 128
  general : Nat := 64
deriving DecidableEq, Repr

def HybridThresholds.forElementSize (thresholds : HybridThresholds) : Nat → Nat
  | 1 => thresholds.byte
  | 4 => thresholds.word
  | 8 => thresholds.doubleWord
  | _ => thresholds.general

structure PinnedBlock where
  address : Nat
  chunks : Nat
deriving DecidableEq, Repr

namespace PinnedBlock

def chunkSize : Nat := 64

def chunksFor (size : Nat) : Nat := (size + (chunkSize - 1)) / chunkSize

def size (pinned : PinnedBlock) : Nat := pinned.chunks * chunkSize

-- Finds a place for some chunks. No chunks need no memory, and their address is merely aligned.
def place (chunks : Nat) (memory : Memory) : Option Nat × Memory :=
  if chunks = 0 then (some chunkSize, memory)
  else memory.obtain .pinned (chunks * chunkSize) chunkSize

end PinnedBlock

structure Hybrid where
  owner : Nat
  thresholds : HybridThresholds
  pinned : Table PinnedBlock := .empty
  nextPin : Nat := 1
  pinnedBytes : Counter := {}
  backingBytes : Counter := {}

namespace Hybrid

def name : String := "hybrid"

def pins (hybrid : Hybrid) (request : Request) : Bool :=
  request.align ≤ PinnedBlock.chunkSize &&
    request.count < hybrid.thresholds.forElementSize request.elementSize

def register (hybrid : Hybrid) (pinned : PinnedBlock) : Hybrid :=
  { hybrid with
    pinned := hybrid.pinned.insert hybrid.nextPin pinned
    nextPin := (hybrid.nextPin + 1) % Word.range
    pinnedBytes := hybrid.pinnedBytes.add pinned.size }

-- Pins a block. Running out of memory here is no refusal: it ends in a panic.
def pin (request : Request) (hybrid : Hybrid) (beneath : σ) (machine : Machine) :
    Reply (Hybrid × σ) Block :=
  let chunks := PinnedBlock.chunksFor request.size
  let size := chunks * PinnedBlock.chunkSize
  if Word.longest < size then .panic "capacity overflow" (hybrid, beneath) machine
  else
    match PinnedBlock.place chunks machine.memory with
    | (none, memory) =>
      .panic ("memory allocation of " ++ Text.Numeral.decimal size ++ " bytes failed")
        (hybrid, beneath) { machine with memory }
    | (some base, memory) =>
      .done ⟨base, request.size, request.align, .pinned hybrid.owner hybrid.nextPin⟩
        (hybrid.register ⟨base, chunks⟩, beneath) { machine with memory }

def allocate (below : Source σ) (request : Request) (state : Hybrid × σ) (machine : Machine) :
    Reply (Hybrid × σ) Block :=
  let (hybrid, beneath) := state
  if hybrid.pins request then pin request hybrid beneath machine
  else
    match below.allocate request beneath machine with
    | ⟨.error fault, beneath, machine⟩ => ⟨.error fault, (hybrid, beneath), machine⟩
    | ⟨.ok block, beneath, machine⟩ =>
      .done block
        ({ hybrid with backingBytes := hybrid.backingBytes.add block.size }, beneath) machine

-- Takes a pinned block back, unless its number is no longer in use or belongs to another address.
def unpin (address id : Nat) (hybrid : Hybrid) (beneath : σ) (machine : Machine) :
    Reply (Hybrid × σ) Unit :=
  match hybrid.pinned.find? id with
  | none => .refuse (.doubleFree name address) (hybrid, beneath) machine
  | some pinned =>
    if pinned.address ≠ address then
      .refuse (.foreignBlock name address) (hybrid, beneath) machine
    else
      .done ()
        ({ hybrid with
            pinned := hybrid.pinned.erase id
            pinnedBytes := hybrid.pinnedBytes.sub pinned.size }, beneath)
        (machine.giveBack pinned.address pinned.size)

def passBack (below : Source σ) (block : Block) (hybrid : Hybrid) (beneath : σ)
    (machine : Machine) : Reply (Hybrid × σ) Unit :=
  match below.free block beneath machine with
  | ⟨.ok (), beneath, machine⟩ =>
    .done ()
      ({ hybrid with backingBytes := hybrid.backingBytes.sub block.size }, beneath) machine
  | ⟨.error fault, beneath, machine⟩ => ⟨.error fault, (hybrid, beneath), machine⟩

def free (below : Source σ) (block : Block) (state : Hybrid × σ) (machine : Machine) :
    Reply (Hybrid × σ) Unit :=
  let (hybrid, beneath) := state
  match block.tag with
  | .pinned owner id =>
    if owner ≠ hybrid.owner then .refuse (.foreignBlock name block.address) state machine
    else unpin block.address id hybrid beneath machine
  | _ => passBack below block hybrid beneath machine

def held (hybrid : Hybrid) : Nat :=
  (hybrid.pinnedBytes.read + hybrid.backingBytes.read) % Word.range

def source (below : Source σ) : Source (Hybrid × σ) where
  name _ := name
  releases _ := true
  held state := state.1.held
  allocate := allocate below
  free := free below

def close (hybrid : Hybrid) (machine : Machine) : Machine :=
  hybrid.pinned.values.foldl (fun machine pinned => machine.giveBack pinned.address pinned.size)
    machine

end LayeredAllocation.Hybrid
