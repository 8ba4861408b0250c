import LayeredAllocation.Proofs.Steps.Bottom
import LayeredAllocation.Strategy.Hybrid

namespace LayeredAllocation.Hybrid
variable {below : Source σ} {request : Request} {block : Block} {hybrid : Hybrid} {s : σ}
  {machine : Machine}

-- Only chunks that need memory can be refused a place.
theorem untouched_of_place {chunks : Nat} {memory after : Memory}
    (refused : PinnedBlock.place chunks memory = (none, after)) : memory.Untouched after := by
  unfold PinnedBlock.place at refused
  split at refused
  · cases refused
  · exact Memory.untouched_of_obtain refused

theorem placed_of_place {chunks base : Nat} {memory after : Memory} (positive : 0 < chunks)
    (placed : PinnedBlock.place chunks memory = (some base, after)) :
    memory.Placed .pinned (chunks * PinnedBlock.chunkSize) PinnedBlock.chunkSize base after := by
  unfold PinnedBlock.place at placed
  rw [if_neg (Nat.ne_of_gt positive)] at placed
  exact Memory.placed_of_obtain placed

theorem place_zero {base : Nat} {memory after : Memory}
    (placed : PinnedBlock.place 0 memory = (some base, after)) : after = memory := by
  cases placed
  rfl

inductive AllocateStep (below : Source σ) (request : Request) (hybrid : Hybrid) (s : σ)
    (machine : Machine) : Reply (Hybrid × σ) Block → Prop where
  | overflowed (pins : hybrid.pins request = true)
      (large : Word.longest < PinnedBlock.chunksFor request.size * PinnedBlock.chunkSize) :
      AllocateStep below request hybrid s machine
        ⟨.error (.panicked "capacity overflow"), (hybrid, s), machine⟩
  | exhausted {memory : Memory} (pins : hybrid.pins request = true)
      (small : ¬ Word.longest < PinnedBlock.chunksFor request.size * PinnedBlock.chunkSize)
      (placed : PinnedBlock.place (PinnedBlock.chunksFor request.size) machine.memory = (none, memory)) :
      AllocateStep below request hybrid s machine
        ⟨.error (.panicked ("memory allocation of " ++
            Text.Numeral.decimal (PinnedBlock.chunksFor request.size * PinnedBlock.chunkSize) ++
            " bytes failed")), (hybrid, s), { machine with memory }⟩
  | pinned {base : Nat} {memory : Memory} (pins : hybrid.pins request = true)
      (small : ¬ Word.longest < PinnedBlock.chunksFor request.size * PinnedBlock.chunkSize)
      (placed : PinnedBlock.place (PinnedBlock.chunksFor request.size) machine.memory =
        (some base, memory)) :
      AllocateStep below request hybrid s machine
        ⟨.ok ⟨base, request.size, request.align, .pinned hybrid.owner hybrid.nextPin⟩,
          (hybrid.register ⟨base, PinnedBlock.chunksFor request.size⟩, s), { machine with memory }⟩
  | passed {block : Block} {after : σ} {machine' : Machine} (moves : hybrid.pins request = false)
      (answer : below.allocate request s machine = ⟨.ok block, after, machine'⟩) :
      AllocateStep below request hybrid s machine
        ⟨.ok block, ({ hybrid with backingBytes := hybrid.backingBytes.add block.size }, after),
          machine'⟩
  | passFailed {fault : Fault} {after : σ} {machine' : Machine} (moves : hybrid.pins request = false)
      (answer : below.allocate request s machine = ⟨.error fault, after, machine'⟩) :
      AllocateStep below request hybrid s machine ⟨.error fault, (hybrid, after), machine'⟩

theorem allocate_step (below : Source σ) (request : Request) (hybrid : Hybrid) (s : σ)
    (machine : Machine) :
    AllocateStep below request hybrid s machine
      (Hybrid.allocate below request (hybrid, s) machine) := by
  unfold Hybrid.allocate
  dsimp only
  split
  · next pins =>
    unfold pin
    dsimp only
    split
    · next large => exact .overflowed pins large
    · next small =>
      split
      · next memory placed => exact .exhausted pins small placed
      · next base memory placed => exact .pinned pins small placed
  · next moves =>
    have moves := Bool.eq_false_iff.2 moves
    generalize answer : below.allocate request s machine = reply
    match reply, answer with
    | ⟨.ok block, after, machine'⟩, answer => exact .passed moves answer
    | ⟨.error fault, after, machine'⟩, answer => exact .passFailed moves answer

inductive FreeStep (below : Source σ) (block : Block) (hybrid : Hybrid) (s : σ) (machine : Machine) :
    Reply (Hybrid × σ) Unit → Prop where
  | foreign {owner id : Nat} (tag : block.tag = .pinned owner id) (other : owner ≠ hybrid.owner) :
      FreeStep below block hybrid s machine
        ⟨.error (.refused (.foreignBlock name block.address)), (hybrid, s), machine⟩
  | doubled {id : Nat} (tag : block.tag = .pinned hybrid.owner id)
      (absent : hybrid.pinned.find? id = none) :
      FreeStep below block hybrid s machine
        ⟨.error (.refused (.doubleFree name block.address)), (hybrid, s), machine⟩
  | misplaced {id : Nat} {pinned : PinnedBlock} (tag : block.tag = .pinned hybrid.owner id)
      (found : hybrid.pinned.find? id = some pinned) (elsewhere : pinned.address ≠ block.address) :
      FreeStep below block hybrid s machine
        ⟨.error (.refused (.foreignBlock name block.address)), (hybrid, s), machine⟩
  | unpinned {id : Nat} {pinned : PinnedBlock} (tag : block.tag = .pinned hybrid.owner id)
      (found : hybrid.pinned.find? id = some pinned) (here : pinned.address = block.address) :
      FreeStep below block hybrid s machine
        ⟨.ok (), ({ hybrid with
            pinned := hybrid.pinned.erase id
            pinnedBytes := hybrid.pinnedBytes.sub pinned.size }, s),
          machine.giveBack pinned.address pinned.size⟩
  | passed {after : σ} {machine' : Machine} (unpinned : ∀ owner id, block.tag ≠ .pinned owner id)
      (answer : below.free block s machine = ⟨.ok (), after, machine'⟩) :
      FreeStep below block hybrid s machine
        ⟨.ok (), ({ hybrid with backingBytes := hybrid.backingBytes.sub block.size }, after),
          machine'⟩
  | passFailed {fault : Fault} {after : σ} {machine' : Machine}
      (unpinned : ∀ owner id, block.tag ≠ .pinned owner id)
      (answer : below.free block s machine = ⟨.error fault, after, machine'⟩) :
      FreeStep below block hybrid s machine ⟨.error fault, (hybrid, after), machine'⟩

theorem free_step (below : Source σ) (block : Block) (hybrid : Hybrid) (s : σ) (machine : Machine) :
    FreeStep below block hybrid s machine (Hybrid.free below block (hybrid, s) machine) := by
  unfold Hybrid.free
  dsimp only
  split
  · next owner id tag =>
    split
    · next other => exact .foreign tag other
    · next own =>
      cases Decidable.of_not_not own
      unfold unpin
      split
      · next absent => exact .doubled tag absent
      · next pinned found =>
        split
        · next elsewhere => exact .misplaced tag found elsewhere
        · next here => exact .unpinned tag found (Decidable.of_not_not here)
  · next unpinned =>
    unfold passBack
    generalize answer : below.free block s machine = reply
    match reply, answer with
    | ⟨.ok (), after, machine'⟩, answer => exact .passed unpinned answer
    | ⟨.error fault, after, machine'⟩, answer => exact .passFailed unpinned answer

end LayeredAllocation.Hybrid
