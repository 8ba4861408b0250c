import LayeredAllocation.Strategy.Pool

namespace LayeredAllocation

theorem PoolConfig.sizeClass?_ok {config : PoolConfig} {size sizeClass : Nat}
    (rounded : config.sizeClass? size = .ok sizeClass) :
    Word.roundUp? size config.granularity = some sizeClass ∧ sizeClass ≤ Word.longest := by
  unfold sizeClass? at rounded
  split at rounded
  · next found =>
    cases rounded
    obtain ⟨found, small⟩ := Option.filter_eq_some_iff.1 found
    exact ⟨found, of_decide_eq_true small⟩
  · cases rounded

theorem PoolConfig.le_sizeClass {config : PoolConfig} {size sizeClass : Nat}
    (rounded : config.sizeClass? size = .ok sizeClass) : size ≤ sizeClass := by
  obtain ⟨positive, rfl, _⟩ := Word.roundUp?_eq_some.1 (sizeClass?_ok rounded).1
  exact Word.le_roundUp positive

-- How large the block is that stands behind a request.
def PoolConfig.backingSize (config : PoolConfig) (request : Request) : Nat :=
  if request.size < config.minBlockSize then request.size
  else Word.roundUp request.size config.granularity

theorem PoolConfig.backingSize_of_rounded {config : PoolConfig} {request : Request} {sizeClass : Nat}
    (large : config.minBlockSize ≤ request.size)
    (rounded : config.sizeClass? request.size = .ok sizeClass) : config.backingSize request = sizeClass := by
  obtain ⟨_, rfl, _⟩ := Word.roundUp?_eq_some.1 (sizeClass?_ok rounded).1
  exact if_neg (Nat.not_lt.2 large)

namespace Pool
variable {below : Source σ} {request : Request} {block : Block} {pool : Pool} {s : σ}
  {machine : Machine}

-- How a pool turns to the source beneath: as which pool, with which request, for which bucket, and
-- what it makes of the block that it gets.
inductive Asks (pool : Pool) (request : Request) :
    Pool → Request → Option Bucket → (Block → Block) → Prop where
  | bypass (small : request.size < pool.config.minBlockSize) (active : pool.disposed = false) :
      Asks pool request pool (request.withSize request.size) none
        fun backing => ⟨backing.address, request.size, request.align, backing.tag⟩
  | miss {sizeClass : Nat} (large : pool.config.minBlockSize ≤ request.size)
      (rounded : pool.config.sizeClass? request.size = .ok sizeClass) (active : pool.disposed = false)
      (absent : takeIdle ⟨sizeClass, request.align⟩ pool.idle = none) :
      Asks pool request { pool with misses := pool.misses + 1 } (request.withSize sizeClass)
        (some ⟨sizeClass, request.align⟩) fun backing => pool.issue backing request sizeClass

namespace Asks
variable {asking : Pool} {wider : Request} {bucket : Option Bucket} {shape : Block → Block}

-- Asking changes nothing but the count of the misses.
theorem counted (asks : Asks pool request asking wider bucket shape) :
    asking = { pool with misses := asking.misses } := by
  cases asks with
  | bypass small active => rfl
  | miss large rounded active absent => rfl

theorem widened (asks : Asks pool request asking wider bucket shape) :
    request.size ≤ wider.size ∧ wider.align = request.align := by
  cases asks with
  | bypass small active => exact ⟨Nat.le_refl _, rfl⟩
  | miss large rounded active absent => exact ⟨PoolConfig.le_sizeClass rounded, rfl⟩

theorem sized (asks : Asks pool request asking wider bucket shape) :
    wider.size = pool.config.backingSize request := by
  cases asks with
  | bypass small active => exact (if_pos small).symm
  | miss large rounded active absent => exact (PoolConfig.backingSize_of_rounded large rounded).symm

theorem proper (asks : Asks pool request asking wider bucket shape) (proper : request.Proper) :
    wider.Proper := by
  obtain ⟨large, align⟩ := asks.widened
  exact ⟨Nat.lt_of_lt_of_le proper.1 large, align ▸ proper.2⟩

theorem shaped (asks : Asks pool request asking wider bucket shape) (backing : Block) :
    (shape backing).address = backing.address ∧ (shape backing).size = request.size ∧
      (shape backing).align = request.align := by
  cases asks with
  | bypass small active => exact ⟨rfl, rfl, rfl⟩
  | miss large rounded active absent => exact ⟨rfl, rfl, rfl⟩

theorem filed {backing : Block} (asks : Asks pool request asking wider bucket shape)
    (size : backing.size = wider.size) (align : backing.align = wider.align) :
    ∀ listed, bucket = some listed →
      backing.size = listed.sizeClass ∧ backing.align = listed.align := by
  intro listed files
  cases asks with
  | bypass small active => cases files
  | miss large rounded active absent =>
    cases files
    exact ⟨size, align⟩

end Asks

inductive AllocateStep (below : Source σ) (request : Request) (pool : Pool) (s : σ)
    (machine : Machine) : Reply (Pool × σ) Block → Prop where
  | refused {error : Error}
      (cause : (pool.disposed = true ∧ error = pool.disposedError) ∨
        (pool.config.minBlockSize ≤ request.size ∧
          pool.config.sizeClass? request.size = .error error)) :
      AllocateStep below request pool s machine ⟨.error (.refused error), (pool, s), machine⟩
  | reused {sizeClass : Nat} {backing : Block} {others : List IdleBlock}
      (large : pool.config.minBlockSize ≤ request.size)
      (rounded : pool.config.sizeClass? request.size = .ok sizeClass) (active : pool.disposed = false)
      (found : takeIdle ⟨sizeClass, request.align⟩ pool.idle = some (backing, others)) :
      AllocateStep below request pool s machine
        ⟨.ok (pool.issue backing request sizeClass),
          (pool.reuse backing ⟨sizeClass, request.align⟩ others, s),
          machine.zeroIf request.zero backing.address request.size⟩
  | obtained {asking : Pool} {wider : Request} {bucket : Option Bucket} {shape : Block → Block}
      {backing : Block} {after : σ} {machine' : Machine}
      (asks : Asks pool request asking wider bucket shape)
      (answer : below.allocate wider s machine = ⟨.ok backing, after, machine'⟩) :
      AllocateStep below request pool s machine
        ⟨.ok (shape backing), (asking.adopt backing bucket, after), machine'⟩
  | failed {asking : Pool} {wider : Request} {bucket : Option Bucket} {shape : Block → Block}
      {fault : Fault} {after : σ} {machine' : Machine}
      (asks : Asks pool request asking wider bucket shape)
      (answer : below.allocate wider s machine = ⟨.error fault, after, machine'⟩) :
      AllocateStep below request pool s machine ⟨.error fault, (asking, after), machine'⟩

theorem allocate_step (below : Source σ) (request : Request) (pool : Pool) (s : σ)
    (machine : Machine) :
    AllocateStep below request pool s machine (Pool.allocate below request (pool, s) machine) := by
  unfold Pool.allocate
  dsimp only
  split
  · next small =>
    split
    · next disposed => exact .refused (Or.inl ⟨disposed, rfl⟩)
    · next active =>
      have asks := Asks.bypass small (Bool.eq_false_iff.2 active)
      unfold bypass
      generalize answer : below.allocate (request.withSize request.size) s machine = reply
      match reply, answer with
      | ⟨.ok backing, after, machine'⟩, answer => exact .obtained asks answer
      | ⟨.error fault, after, machine'⟩, answer => exact .failed asks answer
  · next large =>
    have large := Nat.le_of_not_lt large
    split
    · next error overflows => exact .refused (Or.inr ⟨large, overflows⟩)
    · next sizeClass rounded =>
      split
      · next disposed => exact .refused (Or.inl ⟨disposed, rfl⟩)
      · next active =>
        have active := Bool.eq_false_iff.2 active
        split
        · next found => exact .reused large rounded active found
        · next absent =>
          have asks := Asks.miss large rounded active absent
          unfold miss
          generalize answer : below.allocate (request.withSize sizeClass) s machine = reply
          match reply, answer with
          | ⟨.ok backing, after, machine'⟩, answer => exact .obtained asks answer
          | ⟨.error fault, after, machine'⟩, answer => exact .failed asks answer

-- A block that the pool has out, and that it does not keep when it comes back.
structure HandsOn (pool : Pool) (block : Block) (issued : IssuedBlock) : Prop where
  own : pool.isOthers block.tag = false
  found : pool.outstanding.find? block.address = some issued
  spare : ∀ bucket, issued.bucket = some bucket → pool.disposed = false →
    pool.config.allows (pool.residentBytes + issued.backing.size) = false

inductive FreeStep (below : Source σ) (block : Block) (pool : Pool) (s : σ) (machine : Machine) :
    Reply (Pool × σ) Unit → Prop where
  | foreign (cause : pool.isOthers block.tag = true ∨ pool.outstanding.find? block.address = none) :
      FreeStep below block pool s machine
        ⟨.error (.refused (.foreignBlock pool.name block.address)), (pool, s), machine⟩
  | retained {issued : IssuedBlock} {bucket : Bucket} (own : pool.isOthers block.tag = false)
      (found : pool.outstanding.find? block.address = some issued)
      (filed : issued.bucket = some bucket) (active : pool.disposed = false)
      (allowed : pool.config.allows (pool.residentBytes + issued.backing.size) = true) :
      FreeStep below block pool s machine
        ⟨.ok (), (pool.retain block.address issued bucket, s), machine⟩
  | released {issued : IssuedBlock} {after : σ} {machine' : Machine}
      (handsOn : pool.HandsOn block issued)
      (answer : below.free issued.backing s machine = ⟨.ok (), after, machine'⟩) :
      FreeStep below block pool s machine
        ⟨.ok (), ({ pool with
            outstanding := pool.outstanding.erase block.address
            held := pool.held.sub issued.backing.size }, after), machine'⟩
  | restored {issued : IssuedBlock} {error : Error} {after : σ} {machine' : Machine}
      (handsOn : pool.HandsOn block issued)
      (answer : below.free issued.backing s machine = ⟨.error (.refused error), after, machine'⟩) :
      FreeStep below block pool s machine
        ⟨.error (.refused error), ({ pool with
            outstanding :=
              (pool.outstanding.erase block.address).insert issued.backing.address issued },
          after), machine'⟩
  | lost {issued : IssuedBlock} {message : String} {after : σ} {machine' : Machine}
      (handsOn : pool.HandsOn block issued)
      (answer : below.free issued.backing s machine = ⟨.error (.panicked message), after, machine'⟩) :
      FreeStep below block pool s machine
        ⟨.error (.panicked message),
          ({ pool with outstanding := pool.outstanding.erase block.address }, after), machine'⟩

theorem passOn_step {issued : IssuedBlock} (handsOn : pool.HandsOn block issued) :
    FreeStep below block pool s machine (passOn below block.address issued pool s machine) := by
  unfold passOn
  generalize answer : below.free issued.backing s machine = reply
  match reply, answer with
  | ⟨.ok (), after, machine'⟩, answer => exact .released handsOn answer
  | ⟨.error (.refused error), after, machine'⟩, answer => exact .restored handsOn answer
  | ⟨.error (.panicked message), after, machine'⟩, answer => exact .lost handsOn answer

theorem free_step (below : Source σ) (block : Block) (pool : Pool) (s : σ) (machine : Machine) :
    FreeStep below block pool s machine (Pool.free below block (pool, s) machine) := by
  unfold Pool.free
  dsimp only
  split
  · next others => exact .foreign (Or.inl others)
  · next own =>
    have own := Bool.eq_false_iff.2 own
    split
    · next absent => exact .foreign (Or.inr absent)
    · next issued found =>
      split
      · next bucket filed =>
        split
        · next fits => exact .retained own found filed fits.1 fits.2
        · next full =>
          refine passOn_step ⟨own, found, fun _ _ active => ?_⟩
          exact Bool.eq_false_iff.2 fun allowed => full ⟨active, allowed⟩
      · next bypassed =>
        refine passOn_step ⟨own, found, fun bucket filed => ?_⟩
        rw [bypassed] at filed
        cases filed

-- Nothing of a pool but its total depends on what comes of giving blocks back.
theorem releaseAll_held (below : Source σ) (blocks : List Block) (first : Option Error) (pool : Pool)
    (s : σ) (machine : Machine) :
    ∃ held, (releaseAll below first blocks pool s machine).state.1 = { pool with held } := by
  induction blocks generalizing first pool s machine with
  | nil =>
    unfold releaseAll
    split <;> exact ⟨pool.held, rfl⟩
  | cons block rest ih =>
    unfold releaseAll
    generalize below.free block s machine = reply
    match reply with
    | ⟨.ok (), s, machine⟩ => exact ih first { pool with held := pool.held.sub block.size } s machine
    | ⟨.error (.refused e), s, machine⟩ => exact ih _ pool s _
    | ⟨.error (.panicked message), s, machine⟩ => exact ⟨pool.held, rfl⟩

end Pool

end LayeredAllocation
