import LayeredAllocation.Proofs.Ledger
import LayeredAllocation.Proofs.Shelves

namespace LayeredAllocation.Pool
variable {past : List Event} {pool after : Pool} {store : SystemStore} {memory : Memory}
  {machine : Machine}

-- The system has on record what is idle and what is outstanding, the pool counts the same bytes, and
-- what is outstanding is what clients have, going by the history.
structure Balanced (past : List Event) (pool : Pool) (store : SystemStore) (memory : Memory) :
    Prop where
  books : Books store memory pool.kept []
  held : pool.held = store.allocated
  tidy : pool.Tidy
  listed : pool.config.Lists past pool.outstanding

namespace Balanced
variable {request : Request} {block backing : Block} {issued : IssuedBlock}

theorem later {event : Event} (balanced : pool.Balanced past store memory)
    (same : inHand (event :: past) = inHand past) : pool.Balanced (event :: past) store memory := by
  refine { balanced with listed := ?_ }
  rw [PoolConfig.Lists, same]
  exact balanced.listed

theorem failed {call : Call} {fault : Fault} (balanced : pool.Balanced past store memory) :
    pool.Balanced (⟨call, .error fault⟩ :: past) store memory :=
  balanced.later (inHand_failed call fault past)

theorem moved {left : Memory} (balanced : pool.Balanced past store memory)
    (platform : left.platform = memory.platform) (roots : left.roots = memory.roots) :
    pool.Balanced past store left :=
  { balanced with books := balanced.books.congr platform (Memory.pieces_congr roots) }

theorem reuse {sizeClass : Nat} {others : List IdleBlock} (balanced : pool.Balanced past store memory)
    (large : pool.config.minBlockSize ≤ request.size)
    (rounded : pool.config.sizeClass? request.size = .ok sizeClass) (active : pool.disposed = false)
    (found : takeIdle ⟨sizeClass, request.align⟩ pool.idle = some (backing, others)) :
    (pool.reuse backing ⟨sizeClass, request.align⟩ others).Balanced
      (⟨.allocate request, .ok (some (pool.issue backing request sizeClass))⟩ :: past) store memory := by
  have vacant := vacant_of_idle balanced.tidy.keyed balanced.books.addresses found
  have cut := balanced.tidy.cut_of_idle large rounded found
  exact ⟨balanced.books.perm (kept_reuse found vacant), balanced.held, balanced.tidy.reuse active found,
    listed_insert balanced.listed vacant cut rfl⟩

theorem adopt {asking : Pool} {wider : Request} {bucket : Option Bucket} {shape : Block → Block}
    {paid : SystemStore} {left : Memory} (balanced : pool.Balanced past store memory)
    (asks : Asks pool request asking wider bucket shape)
    (books : Books paid left (backing :: pool.kept) [])
    (allocated : paid.allocated = store.allocated.add backing.size) (size : backing.size = wider.size)
    (align : backing.align = wider.align) :
    (asking.adopt backing bucket).Balanced
      (⟨.allocate request, .ok (some (shape backing))⟩ :: past) paid left := by
  have vacant := vacant_of_new balanced.tidy.keyed books.addresses
  have tidy := (asks.tidy balanced.tidy).adopt (asks.filed size align)
  rw [asks.counted] at tidy ⊢
  refine ⟨books.perm (kept_adopt vacant).symm, ?_, tidy,
    listed_insert balanced.listed vacant (asks.cut size align) (asks.shaped backing).1⟩
  rw [allocated, ← balanced.held]
  rfl

theorem release (balanced : pool.Balanced past store machine.memory)
    (found : pool.outstanding.find? block.address = some issued) :
    ∃ forgot left, SystemStore.source.free issued.backing store machine = ⟨.ok (), forgot, left⟩ ∧
      Balanced (⟨.free block, .ok none⟩ :: past) { pool with
        outstanding := pool.outstanding.erase block.address
        held := pool.held.sub issued.backing.size } forgot left.memory := by
  have books := balanced.books.perm (kept_without found)
  obtain ⟨forgot, left, freed, books, allocated, _⟩ :=
    books.take (books.tags _ List.mem_cons_self) rfl
  refine ⟨forgot, left, freed, books, ?_, balanced.tidy.erase block.address _,
    listed_erase balanced.tidy.keyed balanced.listed⟩
  rw [allocated, ← balanced.held]

end Balanced

theorem Asks.balanced {request wider : Request} {asking : Pool} {bucket : Option Bucket}
    {shape : Block → Block} (asks : Asks pool request asking wider bucket shape)
    (balanced : pool.Balanced past store memory) : asking.Balanced past store memory := by
  have tidy := asks.tidy balanced.tidy
  rw [asks.counted] at tidy ⊢
  exact ⟨balanced.books, balanced.held, tidy, balanced.listed⟩

theorem allocate_balanced (request : Request) (balanced : pool.Balanced past store machine.memory) :
    let reply := Pool.allocate SystemStore.source request (pool, store) machine
    reply.state.1.Balanced (⟨.allocate request, reply.result.map some⟩ :: past) reply.state.2
      reply.machine.memory := by
  have step := allocate_step SystemStore.source request pool store machine
  generalize Pool.allocate SystemStore.source request (pool, store) machine = reply at step ⊢
  cases step with
  | refused cause => exact balanced.failed
  | @reused sizeClass backing others large rounded active found =>
    obtain ⟨platform, roots⟩ := machine.zeroIf_memory request.zero backing.address request.size
    exact (balanced.reuse large rounded active found).moved platform roots
  | obtained asks answer =>
    obtain ⟨_, rfl, grants⟩ := SystemStore.granted_of_answer answer
    exact balanced.adopt asks (balanced.books.grant grants) grants.allocated rfl rfl
  | failed asks answer =>
    obtain ⟨rfl, untouched⟩ := SystemStore.refused_of_answer answer
    exact ((asks.balanced balanced).moved untouched.platform untouched.roots).failed

-- Since the system takes the block, nothing is ever put back on record or lost.
theorem free_balanced (block : Block) (balanced : pool.Balanced past store machine.memory) :
    let reply := Pool.free SystemStore.source block (pool, store) machine
    reply.state.1.Balanced (⟨.free block, reply.result.map fun _ => none⟩ :: past) reply.state.2
      reply.machine.memory := by
  have step := free_step SystemStore.source block pool store machine
  generalize Pool.free SystemStore.source block (pool, store) machine = reply at step ⊢
  cases step with
  | foreign cause => exact balanced.failed
  | retained own found filed active allowed =>
    exact ⟨balanced.books.perm (kept_without found), balanced.held,
      balanced.tidy.retain found filed active allowed,
      listed_erase balanced.tidy.keyed balanced.listed⟩
  | released handsOn answer =>
    obtain ⟨forgot, left, freed, balanced⟩ := balanced.release handsOn.found
    cases freed.symm.trans answer
    exact balanced
  | restored handsOn answer =>
    obtain ⟨forgot, left, freed, _⟩ := balanced.release handsOn.found
    cases freed.symm.trans answer
  | lost handsOn answer =>
    obtain ⟨forgot, left, freed, _⟩ := balanced.release handsOn.found
    cases freed.symm.trans answer

theorem releaseAll_books (pool : Pool) (first : Option Error) (parked rest : List Block)
    (books : Books store machine.memory (parked ++ rest) []) (held : pool.held = store.allocated) :
    let reply := releaseAll SystemStore.source first parked pool store machine
    Books reply.state.2 reply.machine.memory rest [] ∧ reply.state.1.held = reply.state.2.allocated := by
  induction parked generalizing pool store machine with
  | nil =>
    unfold releaseAll
    split <;> exact ⟨books, held⟩
  | cons block parked ih =>
    obtain ⟨forgot, left, freed, books, allocated, _⟩ :=
      books.take (books.tags _ List.mem_cons_self) rfl
    unfold releaseAll
    rw [freed]
    refine ih _ books ?_
    rw [allocated, ← held]

theorem emptied_balanced (disposed : Bool) (balanced : pool.Balanced past store machine.memory) :
    let reply := releaseAll SystemStore.source none pool.idleBlocks { pool.emptied with disposed }
      store machine
    reply.state.1.Balanced past reply.state.2 reply.machine.memory := by
  have shuffled := List.reverse_perm (pool.idle.map IdleBlock.backing)
  have books := balanced.books.perm (shuffled.symm.append_right _)
  obtain ⟨books, held⟩ := releaseAll_books { pool.emptied with disposed } none pool.idleBlocks _ books
    balanced.held
  obtain ⟨_, same⟩ := releaseAll_held SystemStore.source pool.idleBlocks none
    { pool.emptied with disposed } store machine
  dsimp only
  rw [same] at held ⊢
  refine ⟨books, held, ?_, balanced.listed⟩
  exact (balanced.tidy.emptied disposed).congr rfl rfl rfl rfl rfl rfl

theorem Balanced.outstanding_sum (balanced : pool.Balanced past store memory) :
    ((pool.outstanding.values.map IssuedBlock.backing).map Block.size).sum =
      ((inHand past).map fun g => pool.config.backingSize g.request).sum := by
  have sizes := (balanced.listed.map fun entry => entry.2.sizeClass).sum_nat
  rw [List.map_map, List.map_map] at sizes
  rw [List.map_map]
  exact sizes

theorem close_books (balanced : pool.Balanced past store machine.memory) :
    ∃ left, Books (pool.close SystemStore.source store machine).state left
      (pool.outstanding.values.map IssuedBlock.backing) [] := by
  unfold Pool.close
  dsimp only
  generalize warned : (if pool.outstanding.isEmpty then machine else _) = noted
  have same : noted.memory = machine.memory := by
    rw [← warned]
    split <;> rfl
  have shuffled := List.reverse_perm (pool.idle.map IdleBlock.backing)
  have books : Books store noted.memory (pool.idleBlocks ++ _) [] :=
    same ▸ balanced.books.perm (shuffled.symm.append_right _)
  have outcome := releaseAll_books pool.emptied none pool.idleBlocks _ books balanced.held
  generalize releaseAll SystemStore.source none pool.idleBlocks pool.emptied store noted = reply at outcome ⊢
  obtain ⟨result, ⟨after, left⟩, machine⟩ := reply
  refine ⟨machine.memory, ?_⟩
  match result with
  | .ok () => exact outcome.1
  | .error (.refused e) => exact outcome.1
  | .error (.panicked message) => exact outcome.1

end LayeredAllocation.Pool
