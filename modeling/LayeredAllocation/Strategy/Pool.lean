import LayeredAllocation.Pages
import LayeredAllocation.Source
import LayeredAllocation.Table
import LayeredAllocation.Word

namespace LayeredAllocation

structure PoolConfig where
  granularity : Nat := 1
  maxRetained : Option Nat := none
  minBlockSize : Nat := 0
deriving DecidableEq, Repr

namespace PoolConfig

def validate (config : PoolConfig) : Except Error Unit :=
  Error.verify (Word.isPowerOfTwo config.granularity) "granularity"
    "self.granularity.is_power_of_two()"

def sizeClass? (config : PoolConfig) (size : Nat) : Except Error Nat :=
  match (Word.roundUp? size config.granularity).filter (· ≤ Word.longest) with
  | some sizeClass => .ok sizeClass
  | none =>
    .error (.invalidArgument "size"
      (Text.Numeral.decimal size ++ " bytes overflow the size class"))

def allows (config : PoolConfig) (idle : Nat) : Bool :=
  match config.maxRetained with
  | none => true
  | some most => idle ≤ most

end PoolConfig

structure Bucket where
  sizeClass : Nat
  align : Nat
deriving DecidableEq, Repr

structure IssuedBlock where
  backing : Block
  -- Where the block goes when it comes back; nowhere if it bypassed the pool.
  bucket : Option Bucket
deriving DecidableEq, Repr

structure IdleBlock where
  bucket : Bucket
  backing : Block
deriving DecidableEq, Repr

structure Pool where
  owner : Nat
  name : String
  config : PoolConfig
  idle : List IdleBlock := []
  outstanding : Table IssuedBlock := .empty
  residentBlocks : Nat := 0
  residentBytes : Nat := 0
  hits : Nat := 0
  misses : Nat := 0
  disposed : Bool := false
  held : Counter := {}

namespace Pool
open Text.Numeral (decimal)

def takeIdle (bucket : Bucket) : List IdleBlock → Option (Block × List IdleBlock)
  | [] => none
  | first :: rest =>
    if first.bucket = bucket then some (first.backing, rest)
    else (takeIdle bucket rest).map fun (block, others) => (block, first :: others)

def issue (pool : Pool) (backing : Block) (request : Request) (sizeClass : Nat) : Block :=
  ⟨backing.address, request.size, request.align, .pool pool.owner sizeClass⟩

def reuse (pool : Pool) (backing : Block) (bucket : Bucket) (others : List IdleBlock) : Pool :=
  { pool with
    idle := others
    outstanding := pool.outstanding.insert backing.address ⟨backing, some bucket⟩
    residentBlocks := pool.residentBlocks - 1
    residentBytes := pool.residentBytes - backing.size
    hits := pool.hits + 1 }

def adopt (pool : Pool) (backing : Block) (bucket : Option Bucket) : Pool :=
  { pool with
    outstanding := pool.outstanding.insert backing.address ⟨backing, bucket⟩
    held := pool.held.add backing.size }

def retain (pool : Pool) (address : Nat) (issued : IssuedBlock) (bucket : Bucket) : Pool :=
  { pool with
    idle := ⟨bucket, issued.backing⟩ :: pool.idle
    outstanding := pool.outstanding.erase address
    residentBlocks := pool.residentBlocks + 1
    residentBytes := pool.residentBytes + issued.backing.size }

def miss (below : Source σ) (request : Request) (sizeClass : Nat) (pool : Pool) (beneath : σ)
    (machine : Machine) : Reply (Pool × σ) Block :=
  match below.allocate (request.withSize sizeClass) beneath machine with
  | ⟨.error fault, beneath, machine⟩ => ⟨.error fault, (pool, beneath), machine⟩
  | ⟨.ok backing, beneath, machine⟩ =>
    .done (pool.issue backing request sizeClass)
      (pool.adopt backing (some ⟨sizeClass, request.align⟩), beneath) machine

def bypass (below : Source σ) (request : Request) (pool : Pool) (beneath : σ)
    (machine : Machine) : Reply (Pool × σ) Block :=
  match below.allocate (request.withSize request.size) beneath machine with
  | ⟨.error fault, beneath, machine⟩ => ⟨.error fault, (pool, beneath), machine⟩
  | ⟨.ok backing, beneath, machine⟩ =>
    .done ⟨backing.address, request.size, request.align, backing.tag⟩
      (pool.adopt backing none, beneath) machine

def disposedError (pool : Pool) : Error := .invalidOperation ("allocate on disposed " ++ pool.name)

def allocate (below : Source σ) (request : Request) (state : Pool × σ) (machine : Machine) :
    Reply (Pool × σ) Block :=
  let (pool, beneath) := state
  if request.size < pool.config.minBlockSize then
    if pool.disposed then .refuse pool.disposedError state machine
    else bypass below request pool beneath machine
  else
    match pool.config.sizeClass? request.size with
    | .error e => .refuse e state machine
    | .ok sizeClass =>
      if pool.disposed then .refuse pool.disposedError state machine
      else
        let bucket := ⟨sizeClass, request.align⟩
        match takeIdle bucket pool.idle with
        | some (backing, others) =>
          let block := pool.issue backing request sizeClass
          .done block (pool.reuse backing bucket others, beneath)
            (machine.zeroIf request.zero block.address request.size)
        | none =>
          miss below request sizeClass { pool with misses := pool.misses + 1 } beneath machine

def isOthers (pool : Pool) : ReleaseTag → Bool
  | .pool owner _ => owner != pool.owner
  | _ => false

def passOn (below : Source σ) (address : Nat) (issued : IssuedBlock) (pool : Pool) (beneath : σ)
    (machine : Machine) : Reply (Pool × σ) Unit :=
  -- The source beneath never sees the pool with the block still on record.
  let removed := { pool with outstanding := pool.outstanding.erase address }
  match below.free issued.backing beneath machine with
  | ⟨.ok (), beneath, machine⟩ =>
    .done () ({ removed with held := removed.held.sub issued.backing.size }, beneath) machine
  | ⟨.error (.refused e), beneath, machine⟩ =>
    let restored := removed.outstanding.insert issued.backing.address issued
    .refuse e ({ removed with outstanding := restored }, beneath) machine
  | ⟨.error (.panicked message), beneath, machine⟩ => .panic message (removed, beneath) machine

def free (below : Source σ) (block : Block) (state : Pool × σ) (machine : Machine) :
    Reply (Pool × σ) Unit :=
  let (pool, beneath) := state
  if pool.isOthers block.tag then .refuse (.foreignBlock pool.name block.address) state machine
  else
    match pool.outstanding.find? block.address with
    | none => .refuse (.foreignBlock pool.name block.address) state machine
    | some issued =>
      match issued.bucket with
      | some bucket =>
        if pool.disposed = false ∧
            pool.config.allows (pool.residentBytes + issued.backing.size) = true then
          .done () (pool.retain block.address issued bucket, beneath) machine
        else passOn below block.address issued pool beneath machine
      | none => passOn below block.address issued pool beneath machine

def source (below : Source σ) : Source (Pool × σ) where
  name state := state.1.name
  releases _ := true
  held state := state.1.held.read
  allocate := allocate below
  free := free below

-- Returns blocks that are idle no longer. A block that is refused is written down and lost to the
-- pool, while its bytes stay counted; the first refusal is the answer.
def releaseAll (below : Source σ) (first : Option Error) :
    List Block → Pool → σ → Machine → Reply (Pool × σ) Unit
  | [], pool, beneath, machine =>
    match first with
    | none => .done () (pool, beneath) machine
    | some e => .refuse e (pool, beneath) machine
  | block :: rest, pool, beneath, machine =>
    match below.free block beneath machine with
    | ⟨.ok (), beneath, machine⟩ =>
      releaseAll below first rest { pool with held := pool.held.sub block.size } beneath machine
    | ⟨.error (.refused e), beneath, machine⟩ =>
      releaseAll below (first.or (some e)) rest pool beneath
        (machine.warning (pool.name ++ ": failed to release idle block: " ++ e.message))
    | ⟨.error (.panicked message), beneath, machine⟩ => .panic message (pool, beneath) machine

def idleBlocks (pool : Pool) : List Block := (pool.idle.map IdleBlock.backing).reverse

def emptied (pool : Pool) : Pool := { pool with idle := [], residentBlocks := 0, residentBytes := 0 }

def trim (below : Source σ) (state : Pool × σ) (machine : Machine) : Reply (Pool × σ) Unit :=
  releaseAll below none state.1.idleBlocks state.1.emptied state.2 machine

def dispose (below : Source σ) (state : Pool × σ) (machine : Machine) : Reply (Pool × σ) Unit :=
  releaseAll below none state.1.idleBlocks { state.1.emptied with disposed := true } state.2 machine

-- Ends the pool. Blocks still outstanding are left to the source beneath.
def close (below : Source σ) (pool : Pool) (beneath : σ) (machine : Machine) : Reply σ Unit :=
  let machine :=
    if pool.outstanding.isEmpty then machine
    else
      machine.warning (pool.name ++ ": dropped with " ++ decimal pool.outstanding.size ++
        " block(s) still outstanding")
  match releaseAll below none pool.idleBlocks pool.emptied beneath machine with
  | ⟨.ok (), state, machine⟩ => .done () state.2 machine
  | ⟨.error (.refused e), state, machine⟩ =>
    .done () state.2
      (machine.failure (pool.name ++ ": failed to release idle blocks on drop: " ++ e.message))
  | ⟨.error (.panicked message), state, machine⟩ => .panic message state.2 machine

end Pool

structure LargeBlockConfig where
  granularity : Nat := Pages.pageSize
  maxRetained : Nat := 256 * 1024 * 1024
  minBlockSize : Nat := 64 * 1024
deriving DecidableEq, Repr

namespace LargeBlockConfig

def poolConfig (config : LargeBlockConfig) : PoolConfig :=
  ⟨config.granularity, some config.maxRetained, config.minBlockSize⟩

def validate (config : LargeBlockConfig) : Except Error Unit := config.poolConfig.validate

def pool (config : LargeBlockConfig) (owner : Nat) : Pool :=
  { owner, name := "large-block", config := config.poolConfig }

end LayeredAllocation.LargeBlockConfig
