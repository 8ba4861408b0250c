import LayeredAllocation.Strategy.Slab

namespace LayeredAllocation.Slab
variable {below : Source σ} {request : Request} {block : Block} {slab : Slab} {s : σ}
  {machine : Machine}

-- A new page, whose first slot is taken.
def newPage (slab : Slab) (index : Nat) (sizeClass : SizeClass) (page : Block) : SlabPage :=
  ⟨page, index, (Bitmap.forSlots (slab.config.slotsPerPage sizeClass.slotSize)).mark 0⟩

def withPage (slab : Slab) (index : Nat) (sizeClass : SizeClass) (page : Block) : Slab :=
  let counted := { slab with held := slab.held.add page.size }
  counted.adopt index sizeClass (slab.newPage index sizeClass page)
    (slab.config.slotsPerPage sizeClass.slotSize)

-- The block of the first slot of a new page.
def firstBlock (slab : Slab) (index : Nat) (sizeClass : SizeClass) (page : Block)
    (request : Request) : Block :=
  slab.slotBlock (slab.newPage index sizeClass page) sizeClass.slotSize
    ⟨Word.low32 slab.pages.length, 0⟩ request

theorem firstBlock_eq (slab : Slab) (index : Nat) (sizeClass : SizeClass) (page : Block)
    (request : Request) : slab.firstBlock index sizeClass page request =
      ⟨page.address, request.size, request.align,
        .slab slab.owner index (Word.low32 slab.pages.length) 0⟩ := by
  unfold firstBlock slotBlock newPage
  dsimp only
  rw [Nat.zero_mul, Nat.add_zero]

def pageLine (sizeClass : SizeClass) (page : Block) : String :=
  "slab: new page of " ++ Text.Numeral.decimal page.size ++ " bytes for " ++
    Text.Numeral.decimal sizeClass.slotSize ++ "-byte slots"

-- What makes a slab ask for a page: no slot of the class is free.
structure Grows (slab : Slab) (request : Request) (index : Nat) (sizeClass : SizeClass) : Prop where
  fits : slab.config.classFor? (max request.size request.align) = some index
  running : slab.interrupted = false
  full : slab.takeSlot? index request = none
  classed : slab.classes[index]? = some sizeClass

inductive AllocateStep (below : Source σ) (request : Request) (slab : Slab) (s : σ)
    (machine : Machine) : Reply (Slab × σ) Block → Prop where
  | passed {block : Block} {after : σ} {machine' : Machine}
      (large : slab.config.classFor? (max request.size request.align) = none)
      (answer : below.allocate request s machine = ⟨.ok block, after, machine'⟩) :
      AllocateStep below request slab s machine
        ⟨.ok block, ({ slab with held := slab.held.add block.size }, after), machine'⟩
  | passFailed {fault : Fault} {after : σ} {machine' : Machine}
      (large : slab.config.classFor? (max request.size request.align) = none)
      (answer : below.allocate request s machine = ⟨.error fault, after, machine'⟩) :
      AllocateStep below request slab s machine ⟨.error fault, (slab, after), machine'⟩
  | took {index : Nat} {block : Block} {after : Slab}
      (fits : slab.config.classFor? (max request.size request.align) = some index)
      (running : slab.interrupted = false)
      (taken : slab.takeSlot? index request = some (block, after)) :
      AllocateStep below request slab s machine
        ⟨.ok block, (after, s), machine.zeroIf request.zero block.address request.size⟩
  | grew {index : Nat} {sizeClass : SizeClass} {pageRequest : Request} {page : Block} {after : σ}
      {machine' : Machine} (grows : slab.Grows request index sizeClass)
      (asked : Request.bytes? slab.config.pageSize sizeClass.slotSize false Site.internal =
        .ok pageRequest)
      (answer : below.allocate pageRequest s machine = ⟨.ok page, after, machine'⟩)
      (usable : (Bitmap.forSlots (slab.config.slotsPerPage sizeClass.slotSize)).covers 0 = true) :
      AllocateStep below request slab s machine
        ⟨.ok (slab.firstBlock index sizeClass page request),
          (slab.withPage index sizeClass page, after),
          (machine'.debug (pageLine sizeClass page)).zeroIf request.zero
            (slab.firstBlock index sizeClass page request).address request.size⟩
  | growFailed {index : Nat} {sizeClass : SizeClass} {pageRequest : Request} {fault : Fault}
      {after : σ} {machine' : Machine} (grows : slab.Grows request index sizeClass)
      (asked : Request.bytes? slab.config.pageSize sizeClass.slotSize false Site.internal =
        .ok pageRequest)
      (answer : below.allocate pageRequest s machine = ⟨.error fault, after, machine'⟩) :
      AllocateStep below request slab s machine ⟨.error fault, (slab, after), machine'⟩
  | burst {index : Nat} {sizeClass : SizeClass} {pageRequest : Request} {page : Block} {after : σ}
      {machine' : Machine} (grows : slab.Grows request index sizeClass)
      (asked : Request.bytes? slab.config.pageSize sizeClass.slotSize false Site.internal =
        .ok pageRequest)
      (answer : below.allocate pageRequest s machine = ⟨.ok page, after, machine'⟩)
      (unusable : (Bitmap.forSlots (slab.config.slotsPerPage sizeClass.slotSize)).covers 0 = false) :
      AllocateStep below request slab s machine
        ⟨.error (.panicked "index out of bounds: the len is 0 but the index is 0"),
          ({ slab with held := slab.held.add page.size, interrupted := true }, after),
          machine'.debug (pageLine sizeClass page)⟩
  | unaskable {index : Nat} {sizeClass : SizeClass} {error : Error}
      (grows : slab.Grows request index sizeClass)
      (asked : Request.bytes? slab.config.pageSize sizeClass.slotSize false Site.internal =
        .error error) :
      AllocateStep below request slab s machine ⟨.error (.refused error), (slab, s), machine⟩
  | stuck {index : Nat} {message : String}
      (fits : slab.config.classFor? (max request.size request.align) = some index)
      (cause : (slab.interrupted = true ∧ message = interruptedMessage) ∨
        (slab.classes[index]? = none ∧ message = "index out of bounds")) :
      AllocateStep below request slab s machine ⟨.error (.panicked message), (slab, s), machine⟩

theorem allocate_step (below : Source σ) (request : Request) (slab : Slab) (s : σ)
    (machine : Machine) :
    AllocateStep below request slab s machine (Slab.allocate below request (slab, s) machine) := by
  unfold Slab.allocate
  dsimp only
  split
  · next large =>
    unfold passThrough
    generalize answer : below.allocate request s machine = reply
    match reply, answer with
    | ⟨.ok block, after, machine'⟩, answer => exact .passed large answer
    | ⟨.error fault, after, machine'⟩, answer => exact .passFailed large answer
  · next index fits =>
    unfold allocateSlot
    by_cases interrupted : slab.interrupted = true
    · rw [if_pos interrupted]
      exact .stuck fits (Or.inl ⟨interrupted, rfl⟩)
    · rw [if_neg interrupted]
      have running := Bool.eq_false_iff.2 interrupted
      cases taken : slab.takeSlot? index request with
      | some slot => exact .took fits running taken
      | none =>
        cases classed : slab.classes[index]? with
        | none => exact .stuck fits (Or.inr ⟨classed, rfl⟩)
        | some sizeClass =>
          have grows : slab.Grows request index sizeClass := ⟨fits, running, taken, classed⟩
          dsimp only
          unfold grow
          cases asked : Request.bytes? slab.config.pageSize sizeClass.slotSize false Site.internal with
          | error e => exact .unaskable grows asked
          | ok pageRequest =>
            dsimp only
            generalize answer : below.allocate pageRequest s machine = reply
            match reply, answer with
            | ⟨.error fault, after, machine'⟩, answer => exact .growFailed grows asked answer
            | ⟨.ok page, after, machine'⟩, answer =>
              by_cases usable :
                  (Bitmap.forSlots (slab.config.slotsPerPage sizeClass.slotSize)).covers 0 = true
              · dsimp only
                rw [if_pos usable]
                exact .grew grows asked answer usable
              · dsimp only
                rw [if_neg usable]
                exact .burst grows asked answer (Bool.eq_false_iff.2 usable)

inductive FreeStep (below : Source σ) (block : Block) (slab : Slab) (s : σ) (machine : Machine) :
    Reply (Slab × σ) Unit → Prop where
  | foreign {owner sizeClass page slot : Nat} (tag : block.tag = .slab owner sizeClass page slot)
      (other : owner ≠ slab.owner) :
      FreeStep below block slab s machine
        ⟨.error (.refused (.foreignBlock name block.address)), (slab, s), machine⟩
  | interrupted {sizeClass page slot : Nat} (tag : block.tag = .slab slab.owner sizeClass page slot)
      (interrupted : slab.interrupted = true) :
      FreeStep below block slab s machine ⟨.error (.panicked interruptedMessage), (slab, s), machine⟩
  | put {sizeClass page slot : Nat} {after : Slab}
      (tag : block.tag = .slab slab.owner sizeClass page slot) (running : slab.interrupted = false)
      (accepted : slab.freeSlot block.address sizeClass ⟨page, slot⟩ = .ok after) :
      FreeStep below block slab s machine ⟨.ok (), (after, s), machine⟩
  | refused {sizeClass page slot : Nat} {error : Error}
      (tag : block.tag = .slab slab.owner sizeClass page slot) (running : slab.interrupted = false)
      (rejected : slab.freeSlot block.address sizeClass ⟨page, slot⟩ = .error error) :
      FreeStep below block slab s machine ⟨.error (.refused error), (slab, s), machine⟩
  | passed {after : σ} {machine' : Machine}
      (unsliced : ∀ owner sizeClass page slot, block.tag ≠ .slab owner sizeClass page slot)
      (answer : below.free block s machine = ⟨.ok (), after, machine'⟩) :
      FreeStep below block slab s machine
        ⟨.ok (), ({ slab with held := slab.held.sub block.size }, after), machine'⟩
  | passFailed {fault : Fault} {after : σ} {machine' : Machine}
      (unsliced : ∀ owner sizeClass page slot, block.tag ≠ .slab owner sizeClass page slot)
      (answer : below.free block s machine = ⟨.error fault, after, machine'⟩) :
      FreeStep below block slab s machine ⟨.error fault, (slab, after), machine'⟩

theorem free_step (below : Source σ) (block : Block) (slab : Slab) (s : σ) (machine : Machine) :
    FreeStep below block slab s machine (Slab.free below block (slab, s) machine) := by
  unfold Slab.free
  dsimp only
  split
  · next owner sizeClass page slot tag =>
    split
    · next other => exact .foreign tag other
    · next own =>
      cases Decidable.of_not_not own
      split
      · next interrupted => exact .interrupted tag interrupted
      · next running =>
        have running := Bool.eq_false_iff.2 running
        split
        · next after accepted => exact .put tag running accepted
        · next error rejected => exact .refused tag running rejected
  · next unsliced =>
    unfold passBack
    generalize answer : below.free block s machine = reply
    match reply, answer with
    | ⟨.ok (), after, machine'⟩, answer => exact .passed unsliced answer
    | ⟨.error fault, after, machine'⟩, answer => exact .passFailed unsliced answer

end LayeredAllocation.Slab
