import LayeredAllocation.Source

namespace LayeredAllocation

-- Which of the calls to come fail, counted from the time the plan was made.
structure FaultPlan where
  passed : Nat := 0
  fails : Nat → Bool := fun _ => false

namespace FaultPlan

def after (skip count : Nat) : FaultPlan := { fails := fun call => skip ≤ call && call < skip + count }

def next (plan : FaultPlan) : Bool × FaultPlan :=
  (plan.fails plan.passed, { plan with passed := plan.passed + 1 })

end FaultPlan

structure SeenRequest where
  size : Nat
  align : Nat
  zero : Bool
deriving DecidableEq, Repr

structure Probe where
  requests : List SeenRequest := []
  frees : List Nat := []
  allocatePlan : FaultPlan := {}
  freePlan : FaultPlan := {}

namespace Probe

def injected : String := "injected fault"

def seeRequest (probe : Probe) (request : Request) : Bool × Probe :=
  let (fails, plan) := probe.allocatePlan.next
  (fails, { probe with
    requests := ⟨request.size, request.align, request.zero⟩ :: probe.requests
    allocatePlan := plan })

def seeFree (probe : Probe) (block : Block) : Bool × Probe :=
  let (fails, plan) := probe.freePlan.next
  (fails, { probe with frees := block.address :: probe.frees, freePlan := plan })

def allocate (below : Source σ) (request : Request) (state : Probe × σ) (machine : Machine) :
    Reply (Probe × σ) Block :=
  match state.1.seeRequest request with
  | (true, probe) => .refuse (.outOfMemory request.size injected) (probe, state.2) machine
  | (false, probe) =>
    match below.allocate request state.2 machine with
    | ⟨result, beneath, machine⟩ => ⟨result, (probe, beneath), machine⟩

def free (below : Source σ) (block : Block) (state : Probe × σ) (machine : Machine) :
    Reply (Probe × σ) Unit :=
  match state.1.seeFree block with
  | (true, probe) => .refuse (.invalidOperation injected) (probe, state.2) machine
  | (false, probe) =>
    match below.free block state.2 machine with
    | ⟨result, beneath, machine⟩ => ⟨result, (probe, beneath), machine⟩

def source (below : Source σ) : Source (Probe × σ) where
  name state := below.name state.2
  releases state := below.releases state.2
  held state := below.held state.2
  allocate := allocate below
  free := free below

def takeCalls (probe : Probe) : (List SeenRequest × List Nat) × Probe :=
  ((probe.requests.reverse, probe.frees.reverse), { probe with requests := [], frees := [] })

end LayeredAllocation.Probe
