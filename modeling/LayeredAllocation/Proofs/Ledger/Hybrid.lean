import LayeredAllocation.Proofs.Contract.Hybrid
import LayeredAllocation.Proofs.Ledger

namespace LayeredAllocation.Hybrid
variable {hybrid : Hybrid} {store : SystemStore} {memory : Memory} {machine : Machine}
  {produced live : List Block} {pins : List Extent} {block : Block} {request : Request}

-- Empty pins are not worth a place among the pinned pieces.
structure Pinned (hybrid : Hybrid) (pins : List Extent) : Prop where
  counted : hybrid.pinnedBytes = Counter.ofNat (Extent.total pins)
  listed : ∀ id pinned, hybrid.pinned.find? id = some pinned → pinned.chunks ≠ 0 →
    extentOf pinned ∈ pins
  separate : ∀ m n first second, hybrid.pinned.find? m = some first →
    hybrid.pinned.find? n = some second → first.chunks ≠ 0 → second.chunks ≠ 0 → m ≠ n →
      first.address ≠ second.address

def Balanced (hybrid : Hybrid) (store : SystemStore) (memory : Memory) (produced live : List Block) :
    Prop :=
  hybrid.backingBytes = store.allocated ∧
    ∃ pins, Accounts store memory [] pins produced live ∧ hybrid.Pinned pins

theorem Balanced.congr {other : Memory} (balanced : hybrid.Balanced store memory produced live)
    (platform : other.platform = memory.platform) (roots : other.roots = memory.roots) :
    hybrid.Balanced store other produced live := by
  obtain ⟨backing, pins, accounts, pinned⟩ := balanced
  exact ⟨backing, pins, accounts.congr platform (Memory.pieces_congr roots), pinned⟩

theorem Pinned.congr {other : Hybrid} (pinned : hybrid.Pinned pins)
    (table : other.pinned = hybrid.pinned) (bytes : other.pinnedBytes = hybrid.pinnedBytes) :
    other.Pinned pins :=
  ⟨bytes.trans pinned.counted, table ▸ pinned.listed, table ▸ pinned.separate⟩

-- A pin of no chunks starts anywhere and covers nothing.
theorem Pinned.registerEmpty {base : Nat} (pinned : hybrid.Pinned pins) :
    (hybrid.register ⟨base, 0⟩).Pinned pins := by
  refine ⟨?_, ?_, ?_⟩
  · simp only [Hybrid.register, PinnedBlock.size, pinned.counted, Counter.ofNat_add, Nat.zero_mul,
      Nat.add_zero]
  · intro id entry found some
    simp only [Hybrid.register, Table.find?_insert] at found
    split at found
    · cases found
      exact absurd rfl some
    · exact pinned.listed id entry found some
  · intro m n first second foundFirst foundSecond someFirst someSecond different
    simp only [Hybrid.register, Table.find?_insert] at foundFirst foundSecond
    split at foundFirst
    · cases foundFirst
      exact absurd rfl someFirst
    · split at foundSecond
      · cases foundSecond
        exact absurd rfl someSecond
      · exact pinned.separate m n first second foundFirst foundSecond someFirst someSecond different

theorem Pinned.register {base chunks : Nat} (pinned : hybrid.Pinned pins)
    (elsewhere : ∀ e ∈ pins, e.start ≠ base) :
    (hybrid.register ⟨base, chunks⟩).Pinned (⟨base, chunks * PinnedBlock.chunkSize⟩ :: pins) := by
  refine ⟨?_, ?_, ?_⟩
  · simp only [Hybrid.register, PinnedBlock.size, pinned.counted, Counter.ofNat_add, Extent.total,
      List.map_cons, List.sum_cons]
    rw [Nat.add_comm]
  · intro id entry found some
    simp only [Hybrid.register, Table.find?_insert] at found
    split at found
    · cases found
      exact List.mem_cons_self
    · exact List.mem_cons_of_mem _ (pinned.listed id entry found some)
  · intro m n first second foundFirst foundSecond someFirst someSecond different
    simp only [Hybrid.register, Table.find?_insert] at foundFirst foundSecond
    split at foundFirst
    · next same =>
      cases foundFirst
      rw [if_neg (by rw [← same]; exact different.symm)] at foundSecond
      exact (elsewhere _ (pinned.listed n second foundSecond someSecond)).symm
    · split at foundSecond
      · cases foundSecond
        exact elsewhere _ (pinned.listed m first foundFirst someFirst)
      · exact pinned.separate m n first second foundFirst foundSecond someFirst someSecond different

theorem Pinned.unpin {id : Nat} {entry : PinnedBlock} {fewer : List Extent}
    (pinned : hybrid.Pinned pins) (found : hybrid.pinned.find? id = some entry)
    (bytes : Extent.total pins = Extent.total fewer + entry.size)
    (kept : ∀ e ∈ pins, (entry.chunks ≠ 0 → e.start ≠ entry.address) → e ∈ fewer) :
    Pinned { hybrid with
      pinned := hybrid.pinned.erase id
      pinnedBytes := hybrid.pinnedBytes.sub entry.size } fewer := by
  refine ⟨?_, ?_, ?_⟩
  · simp only [pinned.counted, bytes, ← Counter.ofNat_add, Counter.add_sub]
  · intro n other listed some
    simp only [Table.find?_erase] at listed
    split at listed
    · cases listed
    · next different =>
      refine kept _ (pinned.listed n other listed some) fun notEmpty => ?_
      exact pinned.separate n id other entry listed found some notEmpty different
  · intro m n first second foundFirst foundSecond someFirst someSecond different
    simp only [Table.find?_erase] at foundFirst foundSecond
    split at foundFirst
    · cases foundFirst
    · split at foundSecond
      · cases foundSecond
      · exact pinned.separate m n first second foundFirst foundSecond someFirst someSecond different

-- A block that was given a place lies apart from what is pinned, unless it needs no memory.
theorem register_balanced {base chunks : Nat} {after : Memory} {label : ReleaseTag}
    (balanced : hybrid.Balanced store memory produced live)
    (placed : PinnedBlock.place chunks memory = (some base, after)) (other : label ≠ .system)
    (request : Request) :
    let block : Block := ⟨base, request.size, request.align, label⟩
    (hybrid.register ⟨base, chunks⟩).Balanced store after (block :: produced) (block :: live) := by
  obtain ⟨backing, pins, accounts, pinned⟩ := balanced
  by_cases none : chunks = 0
  · subst none
    cases place_zero placed
    exact ⟨backing, pins, accounts.enter other, pinned.registerEmpty⟩
  · have placed := placed_of_place (Nat.pos_of_ne_zero none) placed
    have grown := accounts.pin placed
    refine ⟨backing, _, grown.enter other, pinned.register ?_⟩
    intro e member same
    have apart := (List.pairwise_append.1 grown.books.charted.apart).2.1
    exact ((List.pairwise_cons.1 apart).1 e member).2 same.symm

theorem allocate_entered (balanced : hybrid.Balanced store machine.memory produced live) :
    Entered Balanced produced live
      (Hybrid.allocate SystemStore.source request (hybrid, store) machine) := by
  have step := allocate_step SystemStore.source request hybrid store machine
  generalize Hybrid.allocate SystemStore.source request (hybrid, store) machine = reply at step ⊢
  cases step with
  | overflowed chosen large => exact .failed balanced
  | exhausted chosen small placed =>
    have untouched := untouched_of_place placed
    exact .failed (balanced.congr untouched.platform untouched.roots)
  | pinned chosen small placed =>
    exact .issued (register_balanced balanced placed (by simp) request)
  | passed moves answer =>
    obtain ⟨_, rfl, grants⟩ := SystemStore.granted_of_answer answer
    obtain ⟨backing, pins, accounts, pinned⟩ := balanced
    refine .issued ⟨?_, pins, accounts.pass grants, pinned.congr rfl rfl⟩
    rw [grants.allocated, ← backing]
  | passFailed moves answer =>
    obtain ⟨rfl, untouched⟩ := SystemStore.refused_of_answer answer
    exact .failed (balanced.congr untouched.platform untouched.roots)

theorem unpin_balanced {id : Nat} {entry : PinnedBlock}
    (balanced : hybrid.Balanced store machine.memory produced live)
    (found : hybrid.pinned.find? id = some entry) (other : block.tag ≠ .system) :
    Balanced { hybrid with
        pinned := hybrid.pinned.erase id
        pinnedBytes := hybrid.pinnedBytes.sub entry.size } store
      (machine.giveBack entry.address entry.size).memory produced (block.others live) := by
  obtain ⟨backing, pins, accounts, pinned⟩ := balanced
  have pieces : (machine.giveBack entry.address entry.size).memory.pieces = machine.memory.pieces :=
    Memory.retire_pieces _ _
  have platform : (machine.giveBack entry.address entry.size).memory.platform =
      machine.memory.platform := rfl
  by_cases none : entry.chunks = 0
  · have empty : entry.size = 0 := by rw [PinnedBlock.size, none, Nat.zero_mul]
    have accounts := accounts.congr platform pieces
    refine ⟨backing, pins, accounts.leave other, pinned.unpin found ?_ ?_⟩
    · rw [empty, Nat.add_zero]
    · exact fun e member _ => member
  · have member := pinned.listed id entry found none
    have same := List.perm_cons_erase member
    have accounts := accounts.unpin same platform pieces
    refine ⟨backing, _, accounts.leave other, pinned.unpin found ?_ ?_⟩
    · have sums := (same.map Extent.length).sum_nat
      rw [List.map_cons, List.sum_cons, Nat.add_comm] at sums
      exact sums
    · intro e listed elsewhere
      refine (List.mem_erase_of_ne ?_).2 listed
      rintro rfl
      exact elsewhere none rfl

theorem free_cleared (balanced : hybrid.Balanced store machine.memory produced live)
    (member : block ∈ produced) :
    Cleared Balanced produced live block
      (Hybrid.free SystemStore.source block (hybrid, store) machine) := by
  have step := free_step SystemStore.source block hybrid store machine
  generalize Hybrid.free SystemStore.source block (hybrid, store) machine = reply at step ⊢
  cases step with
  | foreign tag other => exact .failed balanced
  | doubled tag absent => exact .failed balanced
  | misplaced tag found elsewhere => exact .failed balanced
  | unpinned tag found here => exact .taken (unpin_balanced balanced found (by simp [tag]))
  | passed unpinned answer =>
    obtain ⟨backing, pins, accounts, pinned⟩ := balanced
    rcases accounts.passBack member with ⟨e, refused⟩ | ⟨forgot, left, freed, rest, allocated⟩
    · cases refused.symm.trans answer
    · cases freed.symm.trans answer
      refine .taken ⟨?_, pins, rest, pinned.congr rfl rfl⟩
      rw [allocated, ← backing]
  | passFailed unpinned answer =>
    have ⟨_, _, accounts, _⟩ := balanced
    rcases accounts.passBack member with ⟨e, refused⟩ | ⟨forgot, left, freed, _⟩
    · cases refused.symm.trans answer
      exact .failed balanced
    · cases freed.symm.trans answer

end LayeredAllocation.Hybrid
