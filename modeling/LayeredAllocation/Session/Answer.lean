import LayeredAllocation.Session.Command
import LayeredAllocation.Strategy.Probe
import LayeredAllocation.Strategy.Tracker

namespace LayeredAllocation.Session

structure PoolFigures where
  hits : Nat
  misses : Nat
  residentBlocks : Nat
  residentBytes : Nat
  outstandingBlocks : Nat
deriving DecidableEq, Repr

def PoolFigures.ofPool (pool : Pool) : PoolFigures :=
  ⟨pool.hits, pool.misses, pool.residentBlocks, pool.residentBytes, pool.outstanding.size⟩

structure ClassFigures where
  slotSize : Nat
  pages : Nat
  liveSlots : Nat
  freeSlots : Nat
deriving DecidableEq, Repr

def ClassFigures.ofClass (sizeClass : SizeClass) : ClassFigures :=
  ⟨sizeClass.slotSize, sizeClass.pages, sizeClass.live, sizeClass.free.length⟩

def liveSlots (classes : List ClassFigures) : Nat :=
  classes.foldr (fun row rest => row.liveSlots + rest) 0

def pagesOf (classes : List ClassFigures) : Nat :=
  classes.foldr (fun row rest => row.pages + rest) 0

inductive Figures where
  | none
  | system (budget : Option Nat)
  | arena (chunks used chunkSize : Nat)
  | pool (figures : PoolFigures) (disposed : Bool) (granularity : Nat)
  | largeBlock (figures : PoolFigures) (minBlockSize : Nat)
  | slab (classes : List ClassFigures) (pageSize : Nat)
  | hybrid (pinnedCount pinnedBytes general : Nat)
  | tracker (tracked : Nat) (disposed : Bool) (mode : Leak.Mode)
deriving DecidableEq, Repr

inductive ShownAddress where
  | null
  -- Not null, but without any byte to it.
  | dangling
  | place (text : String)
deriving DecidableEq, Repr

structure BufferFigures where
  address : ShownAddress
  length : Nat
  byteLength : Nat
  disposed : Bool
  tag : ReleaseTag
deriving DecidableEq, Repr

structure PointerFigures where
  distance : Int
  back : Int
  bytes : Int
  same : Bool
  isNull : Bool
  read : Option Scalar
  description : Option String
deriving DecidableEq, Repr

structure ShownLeak where
  record : Leak.Record
  address : String
  text : String
deriving DecidableEq, Repr

structure ShownReport where
  allocator : String
  leaks : List ShownLeak
  lines : List String
deriving DecidableEq, Repr

-- A failed cleanup action: its place, its cause, and the whole of what is said about it.
structure ShownFailure where
  index : Nat
  cause : String
  text : String
deriving DecidableEq, Repr

structure ShownCleanup where
  single : Bool
  message : String
  failures : List ShownFailure
deriving DecidableEq, Repr

def ShownCleanup.ofReport (shown : String → String) (report : Cleanup.Report String) :
    ShownCleanup :=
  { single :=
      match report with
      | .single _ => true
      | .composite .. => false
    message := shown (report.message id)
    failures := report.failures.map fun failure =>
      ⟨failure.index, shown (failure.cause.message id), shown (failure.message id)⟩ }

inductive Answer where
  | nothing
  | strategy (name : String) (releases : Bool) (held : Nat)
  | statistics (name : String) (releases : Bool) (held : Nat) (figures : Figures)
  | report (report : ShownReport)
  | text (text : String)
  | calls (requests : List SeenRequest) (frees : List String)
  | block (address : String) (size align : Nat) (tag : ReleaseTag)
  | bytes (bytes : List UInt8)
  | buffer (figures : BufferFigures)
  | value (value : Scalar)
  | values (values : List Scalar)
  | length (length : Nat)
  | count (count : Nat)
  | fingerprint (hash : UInt64)
  | pointer (figures : PointerFigures)
  | cleanup (report : Option ShownCleanup)
deriving DecidableEq, Repr

inductive Response where
  | answer (answer : Answer)
  | fault (fault : Fault)
  | illFormed
deriving DecidableEq, Repr

end LayeredAllocation.Session
