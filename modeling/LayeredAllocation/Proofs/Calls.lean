import LayeredAllocation.Layer

namespace LayeredAllocation

namespace Reply

def map (f : α → β) (reply : Reply σ α) : Reply σ β := ⟨reply.result.map f, reply.state, reply.machine⟩

end Reply

inductive Call where
  | allocate (request : Request)
  | free (block : Block)
  | trim
  | dispose

structure Event where
  call : Call
  answer : Except Fault (Option Block)

namespace Layer

def trim (below : Source σ) (state : Layer × σ) (machine : Machine) : Reply (Layer × σ) Unit :=
  match state with
  | (.pool inner, beneath) => (Pool.trim below (inner, beneath) machine).mapState (lift .pool)
  | _ => .done () state machine

def reported (beneath : σ) :
    Except Error Leak.Report × Tracker × Machine → Reply (Layer × σ) Unit
  | (.ok _, inner, machine) => .done () (.tracker inner, beneath) machine
  | (.error e, inner, machine) => .refuse e (.tracker inner, beneath) machine

def dispose (below : Source σ) (state : Layer × σ) (machine : Machine) : Reply (Layer × σ) Unit :=
  match state with
  | (.pool inner, beneath) => (Pool.dispose below (inner, beneath) machine).mapState (lift .pool)
  | (.tracker inner, beneath) => reported beneath (inner.dispose machine)
  | _ => .done () state machine

def perform (below : Source σ) (call : Call) (state : Layer × σ) (machine : Machine) :
    Reply (Layer × σ) (Option Block) :=
  match call with
  | .allocate request => ((source below).allocate request state machine).map some
  | .free block => ((source below).free block state machine).map fun _ => none
  | .trim => (trim below state machine).map fun _ => none
  | .dispose => (dispose below state machine).map fun _ => none

-- A layer as it is made, with a configuration that was accepted and nothing in it. Probes may
-- have been told to fail any calls to come.
inductive Made : Layer → Prop where
  | arena (accepted : config.validate = .ok ()) : Made (.arena { owner, config })
  | pool (accepted : config.validate = .ok ()) : Made (.pool { owner, name := "pool", config })
  | largeBlock (accepted : config.validate = .ok ()) : Made (.pool (LargeBlockConfig.pool config owner))
  | slab (accepted : config.validate = .ok ()) : Made (.slab (.make owner config))
  | hybrid : Made (.hybrid { owner, thresholds })
  | tracker : Made (.tracker { name, mode, sink })
  | probe : Made (.probe { allocatePlan, freePlan })

end Layer

namespace Bottom

def perform (call : Call) (bottom : Bottom) (machine : Machine) : Reply Bottom (Option Block) :=
  match call with
  | .allocate request => (source.allocate request bottom machine).map some
  | .free block => (source.free block bottom machine).map fun _ => none
  | .trim | .dispose => .done none bottom machine

inductive Made : Bottom → Prop where
  | system : Made (.system {})
  | budgeted : Made (.system (.withBudget limit))
  | pages : Made (.pages { prefersLarge })

end Bottom

namespace Stack

def perform : {height : Nat} → Call → Stack height → Machine → Reply (Stack height) (Option Block)
  | 0 => Bottom.perform
  | height + 1 => Layer.perform (source height)

def Made : {height : Nat} → Stack height → Prop
  | 0, bottom => Bottom.Made bottom
  | _ + 1, (layer, beneath) => layer.Made ∧ Made beneath

end Stack

abbrev Rule (σ : Type) := List Event → σ → Call → Prop

-- The states that a history leads to. The newest event comes first.
inductive Run (perform : Call → σ → Machine → Reply σ (Option Block)) (rule : Rule σ) (start : σ)
    (origin : Machine) : List Event → σ → Machine → Prop where
  | start : Run perform rule start origin [] start origin
  | call {state : σ} {machine : Machine} : Run perform rule start origin past state machine →
      rule past state call →
      Run perform rule start origin (⟨call, (perform call state machine).result⟩ :: past)
        (perform call state machine).state (perform call state machine).machine

-- What comes of some calls, the newest first.
def played (perform : Call → σ → Machine → Reply σ (Option Block)) (start : σ) (origin : Machine) :
    List Call → List Event × σ × Machine
  | [] => ([], start, origin)
  | call :: earlier =>
    let (past, state, machine) := played perform start origin earlier
    let reply := perform call state machine
    (⟨call, reply.result⟩ :: past, reply.state, reply.machine)

def Allowed (perform : Call → σ → Machine → Reply σ (Option Block)) (rule : Rule σ) (start : σ)
    (origin : Machine) : List Call → Prop
  | [] => True
  | call :: earlier =>
    let (past, state, _) := played perform start origin earlier
    Allowed perform rule start origin earlier ∧ rule past state call

instance Allowed.decidable {perform : Call → σ → Machine → Reply σ (Option Block)} {rule : Rule σ}
    [∀ past state call, Decidable (rule past state call)] (start : σ) (origin : Machine) :
    (calls : List Call) → Decidable (Allowed perform rule start origin calls)
  | [] => isTrue trivial
  | _ :: earlier => @instDecidableAnd _ _ (decidable start origin earlier) inferInstance

theorem Run.played {perform : Call → σ → Machine → Reply σ (Option Block)} {rule : Rule σ}
    {start : σ} {origin : Machine} {calls : List Call}
    (allowed : Allowed perform rule start origin calls) :
    Run perform rule start origin (played perform start origin calls).1
      (played perform start origin calls).2.1 (played perform start origin calls).2.2 := by
  induction calls with
  | nil => exact .start
  | cons call earlier ih => exact .call (ih allowed.1) allowed.2

def Block.others (block : Block) (live : List Block) : List Block := live.filter (· ≠ block)

theorem Block.mem_others {block other : Block} {live : List Block} :
    other ∈ block.others live ↔ other ∈ live ∧ other ≠ block := by
  simp only [others, List.mem_filter, decide_eq_true_eq]

structure Grant where
  request : Request
  block : Block
deriving DecidableEq, Repr

-- The blocks issued and not yet taken back.
def grants : List Event → List Grant
  | [] => []
  | ⟨.allocate request, .ok (some block)⟩ :: past => ⟨request, block⟩ :: grants past
  | ⟨.free block, .ok _⟩ :: past => (grants past).filter (·.block ≠ block)
  | _ :: past => grants past

def outstanding (past : List Event) : List Block := (grants past).map Grant.block

def produced : List Event → List Block
  | [] => []
  | ⟨_, .ok (some block)⟩ :: past => block :: produced past
  | _ :: past => produced past

-- What clients have. A block is known by its address alone when it is given back.
def inHand : List Event → List Grant
  | [] => []
  | ⟨.allocate request, .ok (some block)⟩ :: past => ⟨request, block⟩ :: inHand past
  | ⟨.free block, .ok _⟩ :: past => (inHand past).filter (·.block.address ≠ block.address)
  | _ :: past => inHand past

theorem inHand_failed (call : Call) (fault : Fault) (past : List Event) :
    inHand (⟨call, .error fault⟩ :: past) = inHand past := by
  cases call <;> rfl

theorem mem_inHand_free {block : Block} {answer : Option Block} {past : List Event} {grant : Grant} :
    grant ∈ inHand (⟨.free block, .ok answer⟩ :: past) ↔
      grant ∈ inHand past ∧ grant.block.address ≠ block.address := by
  simp only [inHand, List.mem_filter, decide_eq_true_eq]

theorem outstanding_free (block : Block) (past : List Event) :
    outstanding (⟨.free block, .ok none⟩ :: past) = block.others (outstanding past) := by
  have taken : grants (⟨.free block, .ok none⟩ :: past) = (grants past).filter (·.block ≠ block) := rfl
  rw [outstanding, taken, outstanding, Block.others, List.filter_map]
  rfl

theorem grants_failed (call : Call) (fault : Fault) (past : List Event) :
    grants (⟨call, .error fault⟩ :: past) = grants past := by
  cases call <;> rfl

theorem outstanding_failed (call : Call) (fault : Fault) (past : List Event) :
    outstanding (⟨call, .error fault⟩ :: past) = outstanding past :=
  congrArg (List.map Grant.block) (grants_failed call fault past)

end LayeredAllocation
