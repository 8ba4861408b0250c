import Mathlib.Algebra.GroupWithZero.Nat
import LayeredAllocation.Proofs.Contract.Pool

namespace LayeredAllocation

def Block.bucket (block : Block) : Bucket := ⟨block.size, block.align⟩

def IssuedBlock.entry (issued : IssuedBlock) : Nat × Bucket :=
  (issued.backing.address, issued.backing.bucket)

namespace PoolConfig

-- Where a block is, and what it was cut from.
def entryOf (config : PoolConfig) (grant : Grant) : Nat × Bucket :=
  (grant.block.address, ⟨config.backingSize grant.request, grant.request.align⟩)

-- The record of a pool and what its clients have agree on every block.
def Lists (config : PoolConfig) (past : List Event) (record : Table IssuedBlock) : Prop :=
  (record.values.map IssuedBlock.entry).Perm ((inHand past).map config.entryOf)

end PoolConfig

namespace Pool
variable {pool after : Pool} {config : PoolConfig} {past : List Event} {request : Request}
  {backing : Block} {issued : IssuedBlock} {a : Nat} {bucket : Bucket}

-- Every block that the pool has from beneath.
def kept (pool : Pool) : List Block :=
  pool.idle.map IdleBlock.backing ++ pool.outstanding.values.map IssuedBlock.backing

theorem kept_without (found : pool.outstanding.find? a = some issued) :
    pool.kept.Perm (issued.backing ::
      (pool.idle.map IdleBlock.backing ++
        (pool.outstanding.erase a).values.map IssuedBlock.backing)) := by
  have values := (Table.values_erase found).map IssuedBlock.backing
  exact (values.append_left _).trans List.perm_middle

theorem vacant {rest : List Block} (keyed : pool.outstanding.Keyed (·.backing.address))
    (distinct : ((backing :: rest).map Block.address).Nodup)
    (within : ∀ issued ∈ pool.outstanding.values, issued.backing ∈ rest) :
    pool.outstanding.find? backing.address = none := by
  apply keyed.absent
  intro issued member here
  have inside := List.mem_map_of_mem (f := Block.address) (within issued member)
  exact (List.nodup_cons.1 distinct).1 (here ▸ inside)

theorem vacant_of_new (keyed : pool.outstanding.Keyed (·.backing.address))
    (distinct : ((backing :: pool.kept).map Block.address).Nodup) :
    pool.outstanding.find? backing.address = none := by
  apply vacant keyed distinct
  intro issued member
  exact List.mem_append_right _ (List.mem_map_of_mem member)

theorem vacant_of_idle {others : List IdleBlock} (keyed : pool.outstanding.Keyed (·.backing.address))
    (distinct : (pool.kept.map Block.address).Nodup)
    (found : takeIdle bucket pool.idle = some (backing, others)) :
    pool.outstanding.find? backing.address = none := by
  have idle := (takeIdle_perm found).map IdleBlock.backing
  apply vacant keyed (((idle.append_right _).map Block.address).nodup_iff.1 distinct)
  intro issued member
  exact List.mem_append_right _ (List.mem_map_of_mem member)

theorem kept_reuse {others : List IdleBlock} (found : takeIdle bucket pool.idle = some (backing, others))
    (absent : pool.outstanding.find? backing.address = none) :
    pool.kept.Perm (pool.reuse backing bucket others).kept := by
  have idle := (takeIdle_perm found).map IdleBlock.backing
  have values := (Table.values_insert absent ⟨backing, some bucket⟩).map IssuedBlock.backing
  exact (idle.append_right _).trans (List.perm_middle.symm.trans (values.symm.append_left _))

theorem kept_adopt {target : Option Bucket}
    (absent : pool.outstanding.find? backing.address = none) :
    (pool.adopt backing target).kept.Perm (backing :: pool.kept) := by
  have values := (Table.values_insert absent ⟨backing, target⟩).map IssuedBlock.backing
  exact (values.append_left _).trans List.perm_middle

structure Tidy (pool : Pool) : Prop where
  blocks : pool.residentBlocks = pool.idle.length
  bytes : pool.residentBytes = (pool.idle.map (·.backing.size)).sum
  filed : ∀ i ∈ pool.idle,
    i.backing.size = i.bucket.sizeClass ∧ i.backing.align = i.bucket.align
  issued : ∀ a issued bucket, pool.outstanding.find? a = some issued → issued.bucket = some bucket →
    issued.backing.size = bucket.sizeClass ∧ issued.backing.align = bucket.align
  keyed : pool.outstanding.Keyed (·.backing.address)
  capped : ∀ most, pool.config.maxRetained = some most → pool.residentBytes ≤ most
  closed : pool.disposed = true → pool.idle = []

namespace Tidy

theorem reuse {others : List IdleBlock} (tidy : pool.Tidy) (active : pool.disposed = false)
    (found : takeIdle bucket pool.idle = some (backing, others)) :
    (pool.reuse backing bucket others).Tidy := by
  have shuffled := takeIdle_perm found
  have filed := tidy.filed ⟨bucket, backing⟩ (shuffled.mem_iff.2 List.mem_cons_self)
  have blocks := tidy.blocks.trans shuffled.length_eq
  have bytes := tidy.bytes.trans (shuffled.map (·.backing.size)).sum_nat
  simp only [List.length_cons, List.map_cons, List.sum_cons] at blocks bytes
  refine ⟨?_, ?_, ?_, ?_, tidy.keyed.insert ⟨backing, some bucket⟩, ?_, ?_⟩
  · simp only [Pool.reuse]
    omega
  · simp only [Pool.reuse]
    omega
  · intro i member
    exact tidy.filed i (shuffled.mem_iff.2 (List.mem_cons_of_mem _ member))
  · intro k other listed recorded files
    simp only [Pool.reuse, Table.find?_insert] at recorded
    split at recorded
    · cases recorded
      cases files
      exact filed
    · exact tidy.issued k other listed recorded files
  · intro most limit
    have := tidy.capped most limit
    simp only [Pool.reuse]
    omega
  · intro disposed
    exact absurd (disposed.symm.trans active) (by decide)

theorem adopt {target : Option Bucket} (tidy : pool.Tidy) (files : ∀ bucket, target = some bucket →
    backing.size = bucket.sizeClass ∧ backing.align = bucket.align) :
    (pool.adopt backing target).Tidy := by
  refine ⟨tidy.blocks, tidy.bytes, tidy.filed, ?_, tidy.keyed.insert ⟨backing, target⟩, tidy.capped,
    tidy.closed⟩
  intro k other listed recorded filed
  simp only [Pool.adopt, Table.find?_insert] at recorded
  split at recorded
  · cases recorded
    exact files listed filed
  · exact tidy.issued k other listed recorded filed

theorem erase (tidy : pool.Tidy) (a : Nat) (held : Counter) :
    Tidy { pool with outstanding := pool.outstanding.erase a, held } := by
  refine ⟨tidy.blocks, tidy.bytes, tidy.filed, ?_, tidy.keyed.erase a, tidy.capped, tidy.closed⟩
  intro k other listed recorded filed
  simp only [Table.find?_erase] at recorded
  split at recorded
  · cases recorded
  · exact tidy.issued k other listed recorded filed

theorem retain (tidy : pool.Tidy) (found : pool.outstanding.find? a = some issued)
    (filed : issued.bucket = some bucket) (active : pool.disposed = false)
    (allowed : pool.config.allows (pool.residentBytes + issued.backing.size) = true) :
    (pool.retain a issued bucket).Tidy := by
  have erased := tidy.erase a pool.held
  refine ⟨?_, ?_, ?_, erased.issued, erased.keyed, ?_, ?_⟩
  · simp [Pool.retain, tidy.blocks]
  · simp [Pool.retain, tidy.bytes, Nat.add_comm]
  · intro i member
    rcases List.mem_cons.1 member with rfl | old
    · exact tidy.issued a issued bucket found filed
    · exact tidy.filed i old
  · intro most limit
    have limit : pool.config.maxRetained = some most := limit
    simp only [PoolConfig.allows, limit, decide_eq_true_eq] at allowed
    exact allowed
  · intro disposed
    exact absurd (disposed.symm.trans active) (by decide)

theorem congr (tidy : pool.Tidy) (idle : after.idle = pool.idle)
    (outstanding : after.outstanding = pool.outstanding) (config : after.config = pool.config)
    (blocks : after.residentBlocks = pool.residentBlocks)
    (bytes : after.residentBytes = pool.residentBytes) (disposed : after.disposed = pool.disposed) :
    after.Tidy := by
  refine ⟨?_, ?_, idle ▸ tidy.filed, outstanding ▸ tidy.issued, outstanding ▸ tidy.keyed, ?_, ?_⟩
  · rw [blocks, idle, tidy.blocks]
  · rw [bytes, idle, tidy.bytes]
  · rw [config, bytes]
    exact tidy.capped
  · rw [disposed, idle]
    exact tidy.closed

theorem emptied (tidy : pool.Tidy) (disposed : Bool) : Tidy { pool.emptied with disposed } :=
  ⟨rfl, rfl, by simp [Pool.emptied], tidy.issued, tidy.keyed, fun _ _ => Nat.zero_le _, fun _ => rfl⟩

theorem start (owner : Nat) (name : String) (config : PoolConfig) : Tidy { owner, name, config } := by
  refine ⟨rfl, rfl, by simp, ?_, .empty, fun _ _ => Nat.zero_le _, fun _ => rfl⟩
  intro a issued bucket recorded
  rw [Table.find?_empty] at recorded
  cases recorded

end Tidy

-- An idle block is as large as what would be asked for in its place.
theorem Tidy.cut_of_idle {sizeClass : Nat} {others : List IdleBlock} (tidy : pool.Tidy)
    (large : pool.config.minBlockSize ≤ request.size)
    (rounded : pool.config.sizeClass? request.size = .ok sizeClass)
    (found : takeIdle ⟨sizeClass, request.align⟩ pool.idle = some (backing, others)) :
    backing.bucket = ⟨pool.config.backingSize request, request.align⟩ := by
  have idle := (takeIdle_perm found).mem_iff.2 List.mem_cons_self
  have size : backing.size = sizeClass := (tidy.filed _ idle).1
  have align : backing.align = request.align := (tidy.filed _ idle).2
  rw [PoolConfig.backingSize_of_rounded large rounded, Block.bucket, size, align]

section
variable {asking : Pool} {wider : Request} {filed : Option Bucket} {shape : Block → Block}

theorem Asks.tidy (asks : Asks pool request asking wider filed shape) (tidy : pool.Tidy) :
    asking.Tidy := by
  rw [asks.counted]
  exact tidy.congr rfl rfl rfl rfl rfl rfl

theorem Asks.cut (asks : Asks pool request asking wider filed shape) (size : backing.size = wider.size)
    (align : backing.align = wider.align) :
    backing.bucket = ⟨pool.config.backingSize request, request.align⟩ := by
  rw [Block.bucket, size, align, asks.sized, asks.widened.2]

end

theorem listed_insert {block : Block} {filed : Option Bucket}
    (listed : config.Lists past pool.outstanding)
    (absent : pool.outstanding.find? backing.address = none)
    (cut : backing.bucket = ⟨config.backingSize request, request.align⟩)
    (address : block.address = backing.address) :
    config.Lists (⟨.allocate request, .ok (some block)⟩ :: past)
      (pool.outstanding.insert backing.address ⟨backing, filed⟩) := by
  have same : IssuedBlock.entry ⟨backing, filed⟩ = config.entryOf ⟨request, block⟩ := by
    rw [IssuedBlock.entry, cut, PoolConfig.entryOf, address]
  refine ((Table.values_insert absent ⟨backing, filed⟩).map IssuedBlock.entry).trans ?_
  rw [List.map_cons, same]
  exact listed.cons _

theorem listed_erase {block : Block} (keyed : pool.outstanding.Keyed (·.backing.address))
    (listed : config.Lists past pool.outstanding) :
    config.Lists (⟨.free block, .ok none⟩ :: past) (pool.outstanding.erase block.address) := by
  have kept := listed.filter (·.1 ≠ block.address)
  rw [List.filter_map, List.filter_map] at kept
  rw [PoolConfig.Lists, keyed.values_erase]
  exact kept

end Pool

end LayeredAllocation
