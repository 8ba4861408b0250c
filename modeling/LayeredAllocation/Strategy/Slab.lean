import LayeredAllocation.Bitmap
import LayeredAllocation.Word
import LayeredAllocation.FreeList
import LayeredAllocation.Source

namespace LayeredAllocation

structure SlabConfig where
  classes : List Nat := [16, 32, 64, 128, 256, 512, 1024, 2048]
  pageSize : Nat := 64 * 1024
deriving DecidableEq, Repr

namespace SlabConfig

def isAscending : List Nat → Bool
  | a :: b :: rest => a < b && isAscending (b :: rest)
  | _ => true

def allUsable (config : SlabConfig) : Bool :=
  config.classes.all fun size => 8 ≤ size && Word.isPowerOfTwo size && size ≤ config.pageSize

-- Of several faults the first in this order is reported.
def validate (config : SlabConfig) : Except Error Unit :=
  if config.classes.isEmpty then
    .error (.invalidArgument "classes" "!self.classes.is_empty()")
  else if 255 < config.classes.length then
    .error (.invalidArgument "classes" "self.classes.len() <= u8::MAX as usize")
  else if ¬ isAscending config.classes then
    .error (.invalidArgument "classes" "self.classes.is_sorted_by(|a, b| a < b)")
  else if ¬ config.allUsable then
    .error (.invalidArgument "classes"
      ("self.classes.iter().all(|&size| size >= 8 && size.is_power_of_two() && size <=\n" ++
        "self.page_size)"))
  else
    Error.verify (Word.isPowerOfTwo config.pageSize) "page_size" "self.page_size.is_power_of_two()"

def classFor? (config : SlabConfig) (needed : Nat) : Option Nat :=
  config.classes.findIdx? (needed ≤ ·)

-- How many slots a page of a class has, in 32 bits.
def slotsPerPage (config : SlabConfig) (slotSize : Nat) : Nat :=
  Word.low32 (config.pageSize / slotSize)

end SlabConfig

structure SizeClass where
  slotSize : Nat
  free : FreeList := {}
  pages : Nat := 0
  live : Nat := 0
deriving DecidableEq, Repr

structure SlabPage where
  block : Block
  sizeClass : Nat
  taken : Bitmap
deriving DecidableEq, Repr

structure Slab where
  owner : Nat
  config : SlabConfig
  classes : List SizeClass
  pages : List SlabPage := []
  held : Counter := {}
  -- An operation panicked half way; every later one panics too.
  interrupted : Bool := false

namespace Slab
open Text.Numeral (decimal)

def name : String := "slab"

def interruptedMessage : String :=
  "called `Result::unwrap()` on an `Err` value: PoisonError \x7b .. \x7d"

def make (owner : Nat) (config : SlabConfig) : Slab :=
  { owner, config, classes := config.classes.map fun slotSize => { slotSize } }

def slotBlock (slab : Slab) (page : SlabPage) (slotSize : Nat) (slot : Slot) (request : Request) :
    Block :=
  ⟨page.block.address + slot.slot * slotSize, request.size, request.align,
    .slab slab.owner page.sizeClass slot.page slot.slot⟩

def takeSlot? (slab : Slab) (index : Nat) (request : Request) : Option (Block × Slab) :=
  match slab.classes[index]? with
  | none => none
  | some sizeClass =>
    match sizeClass.free.pop? with
    | none => none
    | some (slot, free) =>
      match slab.pages[slot.page]? with
      | none => none
      | some page =>
        some (slab.slotBlock page sizeClass.slotSize slot request,
          { slab with
            classes := slab.classes.set index { sizeClass with free, live := sizeClass.live + 1 }
            pages := slab.pages.set slot.page { page with taken := page.taken.mark slot.slot } })

def adopt (slab : Slab) (index : Nat) (sizeClass : SizeClass) (page : SlabPage) (slots : Nat) :
    Slab :=
  { slab with
    classes := slab.classes.set index
      { sizeClass with
        free := sizeClass.free.addPage (Word.low32 slab.pages.length) slots
        pages := sizeClass.pages + 1
        live := sizeClass.live + 1 }
    pages := slab.pages ++ [page] }

-- Gets a page from beneath. A page without any slot cannot have its first slot marked.
def grow (below : Source σ) (index : Nat) (sizeClass : SizeClass) (request : Request) (slab : Slab)
    (beneath : σ) (machine : Machine) : Reply (Slab × σ) Block :=
  match Request.bytes? slab.config.pageSize sizeClass.slotSize false Site.internal with
  | .error e => .refuse e (slab, beneath) machine
  | .ok pageRequest =>
    match below.allocate pageRequest beneath machine with
    | ⟨.error fault, beneath, machine⟩ => ⟨.error fault, (slab, beneath), machine⟩
    | ⟨.ok block, beneath, machine⟩ =>
      -- The page counts as held from here on, also if it turns out to be unusable.
      let slab := { slab with held := slab.held.add block.size }
      let machine := machine.debug
        ("slab: new page of " ++ decimal block.size ++ " bytes for " ++
          decimal sizeClass.slotSize ++ "-byte slots")
      let slots := slab.config.slotsPerPage sizeClass.slotSize
      let clear := Bitmap.forSlots slots
      if clear.covers 0 then
        let page : SlabPage := ⟨block, index, clear.mark 0⟩
        .done
          (slab.slotBlock page sizeClass.slotSize ⟨Word.low32 slab.pages.length, 0⟩ request)
          (slab.adopt index sizeClass page slots, beneath) machine
      else
        .panic "index out of bounds: the len is 0 but the index is 0"
          ({ slab with interrupted := true }, beneath) machine

def allocateSlot (below : Source σ) (index : Nat) (request : Request) (slab : Slab) (beneath : σ)
    (machine : Machine) : Reply (Slab × σ) Block :=
  if slab.interrupted then .panic interruptedMessage (slab, beneath) machine
  else
    match slab.takeSlot? index request with
    | some (block, slab) => .done block (slab, beneath) machine
    | none =>
      match slab.classes[index]? with
      | some sizeClass => grow below index sizeClass request slab beneath machine
      | none => .panic "index out of bounds" (slab, beneath) machine

def passThrough (below : Source σ) (request : Request) (slab : Slab) (beneath : σ)
    (machine : Machine) : Reply (Slab × σ) Block :=
  match below.allocate request beneath machine with
  | ⟨.error fault, beneath, machine⟩ => ⟨.error fault, (slab, beneath), machine⟩
  | ⟨.ok block, beneath, machine⟩ =>
    .done block ({ slab with held := slab.held.add block.size }, beneath) machine

def allocate (below : Source σ) (request : Request) (state : Slab × σ) (machine : Machine) :
    Reply (Slab × σ) Block :=
  let (slab, beneath) := state
  match slab.config.classFor? (max request.size request.align) with
  | none => passThrough below request slab beneath machine
  | some index =>
    match allocateSlot below index request slab beneath machine with
    | ⟨.ok block, state, machine⟩ =>
      .done block state (machine.zeroIf request.zero block.address request.size)
    | failed => failed

def freeSlot (slab : Slab) (address : Nat) (sizeClass : Nat) (slot : Slot) : Except Error Slab :=
  match slab.pages[slot.page]? with
  | none => .error (.foreignBlock name address)
  | some page =>
    match slab.classes[page.sizeClass]? with
    | none => .error (.foreignBlock name address)
    | some owner =>
      if page.sizeClass ≠ sizeClass ∨ slab.config.slotsPerPage owner.slotSize ≤ slot.slot ∨
          page.block.address + slot.slot * owner.slotSize ≠ address then
        .error (.foreignBlock name address)
      else if page.taken.has slot.slot then
        .ok { slab with
          classes := slab.classes.set sizeClass
            { owner with free := owner.free.push slot, live := owner.live - 1 }
          pages := slab.pages.set slot.page { page with taken := page.taken.unmark slot.slot } }
      else .error (.doubleFree name address)

def passBack (below : Source σ) (block : Block) (slab : Slab) (beneath : σ) (machine : Machine) :
    Reply (Slab × σ) Unit :=
  match below.free block beneath machine with
  | ⟨.ok (), beneath, machine⟩ =>
    .done () ({ slab with held := slab.held.sub block.size }, beneath) machine
  | ⟨.error fault, beneath, machine⟩ => ⟨.error fault, (slab, beneath), machine⟩

def free (below : Source σ) (block : Block) (state : Slab × σ) (machine : Machine) :
    Reply (Slab × σ) Unit :=
  let (slab, beneath) := state
  match block.tag with
  | .slab owner sizeClass page slot =>
    if owner ≠ slab.owner then .refuse (.foreignBlock name block.address) state machine
    else if slab.interrupted then .panic interruptedMessage state machine
    else
      match slab.freeSlot block.address sizeClass ⟨page, slot⟩ with
      | .ok slab => .done () (slab, beneath) machine
      | .error e => .refuse e state machine
  | _ => passBack below block slab beneath machine

def source (below : Source σ) : Source (Slab × σ) where
  name _ := name
  releases _ := true
  held state := state.1.held.read
  allocate := allocate below
  free := free below

def releasePages (below : Source σ) : List SlabPage → σ → Machine → Reply σ Unit
  | [], beneath, machine => .done () beneath machine
  | page :: rest, beneath, machine =>
    match below.free page.block beneath machine with
    | ⟨.ok (), beneath, machine⟩ => releasePages below rest beneath machine
    | ⟨.error (.refused e), beneath, machine⟩ =>
      releasePages below rest beneath
        (machine.failure ("slab: failed to release page: " ++ e.message))
    | ⟨.error (.panicked message), beneath, machine⟩ => .panic message beneath machine

def close (below : Source σ) (slab : Slab) (beneath : σ) (machine : Machine) : Reply σ Unit :=
  releasePages below slab.pages beneath machine

end LayeredAllocation.Slab
