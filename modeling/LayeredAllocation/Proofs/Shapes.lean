import LayeredAllocation.Proofs.Slots
import LayeredAllocation.Proofs.Steps.Arena
import LayeredAllocation.Proofs.Steps.Hybrid
import LayeredAllocation.Proofs.Steps.Passing
import LayeredAllocation.Proofs.Steps.Pool
import LayeredAllocation.Proofs.Steps.Slab
import LayeredAllocation.Layer

namespace LayeredAllocation

def Reply.Shaped (request : Request) (reply : Reply σ Block) : Prop :=
  ∀ block, reply.result = .ok block → block.size = request.size ∧ block.align = request.align

def Source.Shapes (source : Source σ) : Prop :=
  ∀ request state machine, (source.allocate request state machine).Shaped request

namespace Reply.Shaped
variable {request : Request} {state : σ} {machine : Machine}

theorem issued {block : Block} (size : block.size = request.size) (align : block.align = request.align) :
    Shaped request ⟨.ok block, state, machine⟩ := by
  intro _ same
  cases same
  exact ⟨size, align⟩

theorem failed {fault : Fault} : Shaped request ⟨.error fault, state, machine⟩ := nofun

end Reply.Shaped

theorem Source.Shapes.passed {below : Source σ} {request : Request} {s after : σ}
    {machine machine' : Machine} {block : Block} {state : τ} {last : Machine} (shapes : below.Shapes)
    (answer : below.allocate request s machine = ⟨.ok block, after, machine'⟩) :
    Reply.Shaped request ⟨.ok block, state, last⟩ := by
  obtain ⟨size, align⟩ := shapes request s machine block (by rw [answer])
  exact .issued size align

theorem Bottom.shapes : source.Shapes := by
  intro request bottom machine
  cases bottom with
  | system store =>
    have step := store.allocate_step request machine
    change Reply.Shaped request ((store.allocate request machine).mapState Bottom.system)
    generalize store.allocate request machine = reply at step ⊢
    cases step with
    | granted made accepted asked => exact .issued rfl rfl
    | unshaped made => exact .failed
    | overdrawn made short => exact .failed
    | exhausted made accepted asked => exact .failed
  | pages store =>
    have step := store.allocate_step request machine
    change Reply.Shaped request ((PageStore.source.allocate request store machine).mapState Bottom.pages)
    generalize PageStore.source.allocate request store machine = reply at step ⊢
    cases step with
    | mapped small spanned => exact .issued rfl rfl
    | unaligned large => exact .failed
    | exhausted small spanned => exact .failed

section
variable {below : Source σ} {request : Request} {s : σ} {machine : Machine}

theorem Arena.AllocateStep.shaped {arena : Arena} {reply : Reply (Arena × σ) Block}
    (step : arena.AllocateStep below request s machine reply) : reply.Shaped request := by
  cases step with
  | fitted fits => exact .issued rfl rfl
  | grew grows answer few => exact .issued rfl rfl
  | unaskable full asked => exact .failed
  | failed grows answer => exact .failed
  | limited grows answer many freed why => exact .failed

theorem Pool.AllocateStep.shaped {pool : Pool} {reply : Reply (Pool × σ) Block}
    (step : pool.AllocateStep below request s machine reply) : reply.Shaped request := by
  cases step with
  | reused large rounded active found => exact .issued rfl rfl
  | obtained asks answer => exact .issued (asks.shaped _).2.1 (asks.shaped _).2.2
  | refused cause => exact .failed
  | failed asks answer => exact .failed

theorem Slab.AllocateStep.shaped {slab : Slab} {reply : Reply (Slab × σ) Block}
    (step : slab.AllocateStep below request s machine reply) (shapes : below.Shapes) :
    reply.Shaped request := by
  cases step with
  | took fits running taken =>
    obtain ⟨_, _, _, _, _, _, _, rfl, _⟩ := takeSlot?_parts taken
    exact .issued rfl rfl
  | grew grows asked answer usable => exact .issued rfl rfl
  | passed large answer => exact shapes.passed answer
  | passFailed large answer => exact .failed
  | growFailed grows asked answer => exact .failed
  | burst grows asked answer unusable => exact .failed
  | unaskable grows asked => exact .failed
  | stuck fits cause => exact .failed

theorem Hybrid.AllocateStep.shaped {hybrid : Hybrid} {reply : Reply (Hybrid × σ) Block}
    (step : hybrid.AllocateStep below request s machine reply) (shapes : below.Shapes) :
    reply.Shaped request := by
  cases step with
  | pinned pins small placed => exact .issued rfl rfl
  | passed moves answer => exact shapes.passed answer
  | overflowed pins large => exact .failed
  | exhausted pins small placed => exact .failed
  | passFailed moves answer => exact .failed

theorem Tracker.AllocateStep.shaped {tracker : Tracker} {reply : Reply (Tracker × σ) Block}
    (step : tracker.AllocateStep below request s machine reply) (shapes : below.Shapes) :
    reply.Shaped request := by
  cases step with
  | recorded active answer => exact shapes.passed answer
  | refused disposed => exact .failed
  | failed active answer => exact .failed

theorem Probe.AllocateStep.shaped {probe : Probe} {reply : Reply (Probe × σ) Block}
    (step : probe.AllocateStep below request s machine reply) (shapes : below.Shapes) :
    reply.Shaped request := by
  cases step with
  | @passed _ result _ _ sees answer =>
    cases result with
    | ok block => exact shapes.passed answer
    | error fault => exact .failed
  | injected sees => exact .failed

end

theorem Layer.shapes {below : Source σ} (shapes : below.Shapes) : (source below).Shapes := by
  rintro request ⟨layer, s⟩ machine
  cases layer with
  | arena inner => exact (inner.allocate_step below request s machine).shaped
  | pool inner => exact (inner.allocate_step below request s machine).shaped
  | slab inner => exact (inner.allocate_step below request s machine).shaped shapes
  | hybrid inner => exact (inner.allocate_step below request s machine).shaped shapes
  | tracker inner => exact (inner.allocate_step below request s machine).shaped shapes
  | probe inner => exact (inner.allocate_step below request s machine).shaped shapes

theorem Stack.shapes : (height : Nat) → (source height).Shapes
  | 0 => Bottom.shapes
  | height + 1 => Layer.shapes (shapes height)

end LayeredAllocation
