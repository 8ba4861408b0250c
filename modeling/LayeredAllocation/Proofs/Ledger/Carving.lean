import LayeredAllocation.Proofs.Ledger
import LayeredAllocation.Proofs.Slots
import LayeredAllocation.Proofs.Steps.Arena
import LayeredAllocation.Proofs.Steps.Slab

namespace LayeredAllocation

namespace Arena
variable {arena : Arena} {store : SystemStore} {machine : Machine} {request : Request}

theorem allocate_books (books : Books store machine.memory arena.chunks []) :
    let reply := Arena.allocate SystemStore.source request (arena, store) machine
    Books reply.state.2 reply.machine.memory reply.state.1.chunks [] := by
  have step := allocate_step SystemStore.source request arena store machine
  generalize Arena.allocate SystemStore.source request (arena, store) machine = reply at step ⊢
  cases step with
  | @fitted index offset stop chunk fits =>
    obtain ⟨platform, roots⟩ := machine.zeroIf_memory request.zero
      (arena.carve index chunk offset request).address request.size
    exact books.congr platform (Memory.pieces_congr roots)
  | unaskable full asked => exact books
  | @failed chunkRequest fault after machine' grows answer =>
    obtain ⟨rfl, untouched⟩ := SystemStore.refused_of_answer answer
    exact books.congr untouched.platform (Memory.pieces_congr untouched.roots)
  | @grew chunkRequest chunk after machine' grows answer few =>
    obtain ⟨_, rfl, grants⟩ := SystemStore.granted_of_answer answer
    obtain ⟨platform, roots⟩ := Machine.zeroIf_memory
      (machine'.debug (arena.acquiredLine request _ (SystemStore.source.name after))) request.zero
      (arena.carve arena.chunks.length _ 0 request).address request.size
    change Books after _ (arena.adopt _ request).chunks []
    rw [adopt_chunks]
    refine ((books.grant grants).perm ?_).congr platform (Memory.pieces_congr roots)
    exact (List.perm_append_singleton _ _).symm
  | @limited chunkRequest chunk after left machine' last answered fault grows answer many freed why =>
    obtain ⟨base, rfl, grants⟩ := SystemStore.granted_of_answer answer
    generalize logged : machine'.debug _ = noted at freed
    have grown : Books after noted.memory
        (⟨base, chunkRequest.size, chunkRequest.align, .system⟩ :: arena.chunks) [] := by
      rw [← logged]
      exact books.grant grants
    obtain ⟨forgot, left, freed', rest, _⟩ := grown.take rfl rfl
    cases freed.symm.trans freed'
    exact rest

theorem releaseChunks_books {chunks rest : List Block}
    (books : Books store machine.memory (chunks ++ rest) []) :
    ∃ left after, releaseChunks SystemStore.source chunks store machine = ⟨.ok (), left, after⟩ ∧
      Books left after.memory rest [] := by
  induction chunks generalizing store machine with
  | nil => exact ⟨store, machine, rfl, books⟩
  | cons chunk others ih =>
    obtain ⟨forgot, left, freed, books, _⟩ := books.take (books.tags _ List.mem_cons_self) rfl
    obtain ⟨last, after, released, books⟩ := ih books
    refine ⟨last, after, ?_, books⟩
    unfold releaseChunks
    rw [freed]
    exact released

theorem close_books (books : Books store machine.memory arena.chunks []) :
    ∃ left, Books (arena.close SystemStore.source store machine).state left [] [] := by
  have books : Books store machine.memory (arena.chunks ++ []) [] :=
    (List.append_nil arena.chunks).symm ▸ books
  obtain ⟨left, after, released, books⟩ := releaseChunks_books books
  refine ⟨after.memory, ?_⟩
  unfold Arena.close
  rw [released]
  dsimp only
  split <;> exact books

end Arena

namespace Slab
variable {slab after : Slab} {store paid : SystemStore} {memory : Memory} {machine : Machine}
  {produced live : List Block} {block : Block} {request : Request} {index slotSize : Nat}

def pageBlocks (slab : Slab) : List Block := slab.layout.map Prod.fst

structure Balanced (slab : Slab) (store : SystemStore) (memory : Memory)
    (produced live : List Block) : Prop where
  accounts : Accounts store memory slab.pageBlocks [] produced live
  held : slab.held = store.allocated
  sizes : slab.slotSizes = slab.config.classes
  usable : ∀ slotSize ∈ slab.config.classes, 0 < slab.config.slotsPerPage slotSize

namespace Balanced

theorem congr {other : Memory} (balanced : slab.Balanced store memory produced live)
    (platform : other.platform = memory.platform) (roots : other.roots = memory.roots) :
    slab.Balanced store other produced live :=
  ⟨balanced.accounts.congr platform (Memory.pieces_congr roots), balanced.held,
    balanced.sizes, balanced.usable⟩

-- Slots are no concern of the system.
theorem change {free : List Slot} {slot : Slot} {mark : Bool} {more fewer : List Block}
    (balanced : slab.Balanced store memory produced live)
    (change : Change slab after [] index free slot mark)
    (accounts : Accounts store memory slab.pageBlocks [] more fewer) :
    after.Balanced store memory more fewer := by
  have layout : after.layout = slab.layout := change.layout.trans (List.append_nil _)
  refine ⟨?_, change.held.trans balanced.held, ?_, change.config ▸ balanced.usable⟩
  · unfold pageBlocks
    rw [layout]
    exact accounts
  · rw [change.sizes, change.config, balanced.sizes]

-- A page is kept by the slab; its first slot is no concern of the system.
theorem withPage {sizeClass : SizeClass} {pageRequest : Request} {base : Nat}
    {after : Memory} (balanced : slab.Balanced store memory produced live)
    (classed : slab.classes[index]? = some sizeClass) (request : Request)
    (grants : SystemStore.Grants pageRequest store paid base memory after) :
    let page : Block := ⟨base, pageRequest.size, pageRequest.align, .system⟩
    let block := slab.firstBlock index sizeClass page request
    (slab.withPage index sizeClass page).Balanced paid after (block :: produced) (block :: live) := by
  have accounts := balanced.accounts.keep grants
  refine ⟨?_, ?_, ?_, balanced.usable⟩
  · rw [firstBlock_eq]
    refine Accounts.enter ?_ (by simp)
    unfold pageBlocks Slab.withPage
    rw [layout_adopt, List.map_append]
    exact accounts
  · rw [grants.allocated, ← balanced.held]
    rfl
  · refine (slotSizes_adopt ?_ _ _).trans balanced.sizes
    exact classed

theorem usable_of_class {sizeClass : SizeClass}
    (balanced : slab.Balanced store memory produced live)
    (classed : slab.classes[index]? = some sizeClass) :
    (Bitmap.forSlots (slab.config.slotsPerPage sizeClass.slotSize)).covers 0 = true := by
  have member : sizeClass.slotSize ∈ slab.config.classes := by
    rw [← balanced.sizes]
    exact List.mem_of_getElem? (slotSizes_of_class classed)
  exact Bitmap.covers_forSlots (balanced.usable _ member)

end Balanced

theorem allocate_entered (balanced : slab.Balanced store machine.memory produced live) :
    Entered Balanced produced live
      (Slab.allocate SystemStore.source request (slab, store) machine) := by
  have step := allocate_step SystemStore.source request slab store machine
  generalize Slab.allocate SystemStore.source request (slab, store) machine = reply at step ⊢
  cases step with
  | passed large answer =>
    obtain ⟨_, rfl, grants⟩ := SystemStore.granted_of_answer answer
    refine .issued ⟨balanced.accounts.pass grants, ?_, balanced.sizes, balanced.usable⟩
    rw [grants.allocated, ← balanced.held]
  | passFailed large answer =>
    obtain ⟨rfl, untouched⟩ := SystemStore.refused_of_answer answer
    exact .failed (balanced.congr untouched.platform untouched.roots)
  | @took index block after fits running taken =>
    obtain ⟨platform, roots⟩ := machine.zeroIf_memory request.zero block.address request.size
    obtain ⟨_, _, _, _, _, _, _, rfl, change⟩ := takeSlot?_eq_some taken
    refine .issued ((balanced.change change (balanced.accounts.enter ?_)).congr platform roots)
    simp
  | @grew index sizeClass pageRequest page after machine' grows asked answer usable =>
    obtain ⟨_, rfl, grants⟩ := SystemStore.granted_of_answer answer
    obtain ⟨platform, roots⟩ := Machine.zeroIf_memory (machine'.debug (pageLine sizeClass _))
      request.zero (slab.firstBlock index sizeClass _ request).address request.size
    exact .issued ((balanced.withPage grows.classed request grants).congr platform roots)
  | @growFailed index sizeClass pageRequest fault after machine' grows asked answer =>
    obtain ⟨rfl, untouched⟩ := SystemStore.refused_of_answer answer
    exact .failed (balanced.congr untouched.platform untouched.roots)
  | burst grows asked answer unusable =>
    exact absurd (balanced.usable_of_class grows.classed) (by simp [unusable])
  | unaskable grows asked => exact .failed balanced
  | stuck fits cause => exact .failed balanced

theorem free_cleared (balanced : slab.Balanced store machine.memory produced live)
    (member : block ∈ produced) :
    Cleared Balanced produced live block
      (Slab.free SystemStore.source block (slab, store) machine) := by
  have step := free_step SystemStore.source block slab store machine
  generalize Slab.free SystemStore.source block (slab, store) machine = reply at step ⊢
  cases step with
  | foreign tag other => exact .failed balanced
  | interrupted tag interrupted => exact .failed balanced
  | put tag running accepted =>
    obtain ⟨_, _, _, _, _, _, _, change⟩ := freeSlot_ok accepted
    exact .taken (balanced.change change (balanced.accounts.leave (by simp [tag])))
  | refused tag running rejected => exact .failed balanced
  | passed unsliced answer =>
    rcases balanced.accounts.passBack member with
      ⟨e, refused⟩ | ⟨forgot, left, freed, accounts, allocated⟩
    · cases refused.symm.trans answer
    · cases freed.symm.trans answer
      refine .taken ⟨accounts, ?_, balanced.sizes, balanced.usable⟩
      rw [allocated, ← balanced.held]
  | passFailed unsliced answer =>
    rcases balanced.accounts.passBack member with ⟨e, refused⟩ | ⟨forgot, left, freed, _⟩
    · cases refused.symm.trans answer
      exact .failed balanced
    · cases freed.symm.trans answer

theorem releasePages_books {pages : List SlabPage} {rest : List Block}
    (books : Books store machine.memory (pages.map SlabPage.block ++ rest) []) :
    ∃ left after, releasePages SystemStore.source pages store machine = ⟨.ok (), left, after⟩ ∧
      Books left after.memory rest [] := by
  induction pages generalizing store machine with
  | nil => exact ⟨store, machine, rfl, books⟩
  | cons page others ih =>
    obtain ⟨forgot, left, freed, books, _⟩ := books.take (books.tags _ List.mem_cons_self) rfl
    obtain ⟨last, after, released, books⟩ := ih books
    refine ⟨last, after, ?_, books⟩
    unfold releasePages
    rw [freed]
    exact released

-- When the slab ends, only what it handed on stays on record.
theorem close_books (balanced : slab.Balanced store machine.memory produced live) :
    ∃ left, Books (slab.close SystemStore.source store machine).state left (direct live) [] := by
  have blocks : slab.pageBlocks = slab.pages.map SlabPage.block := List.map_map
  have books := balanced.accounts.books
  rw [blocks] at books
  obtain ⟨left, after, released, books⟩ := releasePages_books books
  refine ⟨after.memory, ?_⟩
  unfold Slab.close
  rw [released]
  exact books

end Slab

end LayeredAllocation
