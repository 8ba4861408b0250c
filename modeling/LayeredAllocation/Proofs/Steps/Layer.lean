import LayeredAllocation.Layer
import LayeredAllocation.Proofs.Slots
import LayeredAllocation.Proofs.Steps.Arena
import LayeredAllocation.Proofs.Steps.Hybrid
import LayeredAllocation.Proofs.Steps.Passing
import LayeredAllocation.Proofs.Steps.Pool
import LayeredAllocation.Proofs.Steps.Slab

namespace LayeredAllocation
variable {σ : Type}

inductive Make where
  | arena (owner : Nat) (config : ArenaConfig)
  | pool (owner : Nat) (name : String) (config : PoolConfig)
  | slab (owner : Nat) (config : SlabConfig)
  | hybrid (owner : Nat) (thresholds : HybridThresholds)
  | tracker (name : String) (mode : Leak.Mode)
  | probe

namespace Layer

def make : Layer → Make
  | .arena inner => .arena inner.owner inner.config
  | .pool inner => .pool inner.owner inner.name inner.config
  | .slab inner => .slab inner.owner inner.config
  | .hybrid inner => .hybrid inner.owner inner.thresholds
  | .tracker inner => .tracker inner.name inner.mode
  | .probe _ => .probe

def pins : Layer → Table PinnedBlock
  | .hybrid inner => inner.pinned
  | .arena _ | .pool _ | .slab _ | .tracker _ | .probe _ => .empty

-- Only an interrupted slab panics over a block.
def Running : Layer → Prop
  | .slab inner => inner.interrupted = false
  | .arena _ | .pool _ | .hybrid _ | .tracker _ | .probe _ => True

structure Stays (layer after : Layer) : Prop where
  make : after.make = layer.make
  pins : after.pins = layer.pins

variable {below : Source σ} {request : Request} {block : Block} {s : σ} {machine : Machine}

-- A request is served from what the layer has, with a pinned block, or after a question to the
-- source beneath. What was got there may go back at once.
inductive AllocateStep (below : Source σ) (request : Request) (s : σ) (machine : Machine) :
    Layer → Reply (Layer × σ) Block → Prop where
  | alone {layer after : Layer} {result : Except Fault Block} {machine' : Machine}
      (stays : layer.Stays after) (same : machine.memory.SameRoots machine'.memory) :
      AllocateStep below request s machine layer ⟨result, (after, s), machine'⟩
  | pinned {hybrid : Hybrid} {result : Except Fault Block} {base : Nat} {memory : Memory}
      (placed : PinnedBlock.place (PinnedBlock.chunksFor request.size) machine.memory =
        (some base, memory)) :
      AllocateStep below request s machine (.hybrid hybrid)
        ⟨result, (.hybrid (hybrid.register ⟨base, PinnedBlock.chunksFor request.size⟩), s),
          { machine with memory }⟩
  | asked {layer after : Layer} {needed : Request} {answered result : Except Fault Block} {left : σ}
      {machine' last : Machine} (stays : layer.Stays after) (proper : request.Proper → needed.Proper)
      (answer : below.allocate needed s machine = ⟨answered, left, machine'⟩)
      (same : machine'.memory.SameRoots last.memory) :
      AllocateStep below request s machine layer ⟨result, (after, left), last⟩
  | returned {layer : Layer} {needed : Request} {chunk : Block} {fault : Fault} {after left : σ}
      {machine' between last : Machine} {answered : Except Fault Unit}
      (proper : request.Proper → needed.Proper)
      (answer : below.allocate needed s machine = ⟨.ok chunk, after, machine'⟩)
      (freed : below.free chunk after between = ⟨answered, left, last⟩)
      (same : between.memory = machine'.memory) :
      AllocateStep below request s machine layer ⟨.error fault, (layer, left), last⟩

namespace AllocateStep

theorem ofArena {arena : Arena} {reply : Reply (Arena × σ) Block}
    (step : arena.AllocateStep below request s machine reply) :
    AllocateStep below request s machine (.arena arena) (reply.mapState (lift .arena)) := by
  cases step with
  | fitted fits => exact .alone ⟨rfl, rfl⟩ (machine.zeroIf_memory ..)
  | unaskable full asked => exact .alone ⟨rfl, rfl⟩ (.refl _)
  | failed grows answer =>
    exact .asked ⟨rfl, rfl⟩ (fun _ => (Arena.chunkRequest?_ok grows.asked).1) answer (.refl _)
  | @grew _ chunk _ machine' grows answer few =>
    have same : make (.arena (arena.adopt chunk request)) = make (.arena arena) := by
      unfold Arena.adopt
      dsimp only
      split <;> rfl
    exact .asked ⟨same, rfl⟩ (fun _ => (Arena.chunkRequest?_ok grows.asked).1) answer
      (Machine.zeroIf_memory (machine'.debug _) ..)
  | limited grows answer many freed why =>
    exact .returned (fun _ => (Arena.chunkRequest?_ok grows.asked).1) answer freed rfl

theorem ofPool {pool : Pool} {reply : Reply (Pool × σ) Block}
    (step : pool.AllocateStep below request s machine reply) :
    AllocateStep below request s machine (.pool pool) (reply.mapState (lift .pool)) := by
  cases step with
  | refused cause => exact .alone ⟨rfl, rfl⟩ (.refl _)
  | reused large rounded active found => exact .alone ⟨rfl, rfl⟩ (machine.zeroIf_memory ..)
  | obtained asks answer =>
    rw [asks.counted]
    exact .asked ⟨rfl, rfl⟩ asks.proper answer (.refl _)
  | failed asks answer =>
    rw [asks.counted]
    exact .asked ⟨rfl, rfl⟩ asks.proper answer (.refl _)

theorem ofSlab {slab : Slab} {reply : Reply (Slab × σ) Block}
    (step : slab.AllocateStep below request s machine reply) :
    AllocateStep below request s machine (.slab slab) (reply.mapState (lift .slab)) := by
  have proper {size align : Nat} {page : Request}
      (asked : Request.bytes? size align false Site.internal = .ok page) :
      request.Proper → page.Proper := fun _ => (Request.bytes?_eq_ok.1 asked).2.proper
  cases step with
  | took fits running taken =>
    obtain ⟨_, _, _, _, _, _, _, _, rfl⟩ := Slab.takeSlot?_parts taken
    exact .alone ⟨rfl, rfl⟩ (machine.zeroIf_memory ..)
  | passed large answer | passFailed large answer => exact .asked ⟨rfl, rfl⟩ id answer (.refl _)
  | @grew _ _ _ _ _ machine' grows asked answer usable =>
    exact .asked ⟨rfl, rfl⟩ (proper asked) answer (Machine.zeroIf_memory (machine'.debug _) ..)
  | burst grows asked answer unusable => exact .asked ⟨rfl, rfl⟩ (proper asked) answer (.refl _)
  | growFailed grows asked answer => exact .asked ⟨rfl, rfl⟩ (proper asked) answer (.refl _)
  | unaskable grows asked => exact .alone ⟨rfl, rfl⟩ (.refl _)
  | stuck fits cause => exact .alone ⟨rfl, rfl⟩ (.refl _)

theorem ofHybrid {hybrid : Hybrid} {reply : Reply (Hybrid × σ) Block}
    (step : hybrid.AllocateStep below request s machine reply) :
    AllocateStep below request s machine (.hybrid hybrid) (reply.mapState (lift .hybrid)) := by
  cases step with
  | overflowed pins large => exact .alone ⟨rfl, rfl⟩ (.refl _)
  | exhausted pins small placed =>
    exact .alone ⟨rfl, rfl⟩ (Hybrid.untouched_of_place placed).sameRoots
  | pinned pins small placed => exact .pinned placed
  | passed moves answer | passFailed moves answer => exact .asked ⟨rfl, rfl⟩ id answer (.refl _)

theorem ofTracker {tracker : Tracker} {reply : Reply (Tracker × σ) Block}
    (step : tracker.AllocateStep below request s machine reply) :
    AllocateStep below request s machine (.tracker tracker) (reply.mapState (lift .tracker)) := by
  cases step with
  | refused disposed => exact .alone ⟨rfl, rfl⟩ (.refl _)
  | recorded active answer | failed active answer => exact .asked ⟨rfl, rfl⟩ id answer (.refl _)

theorem ofProbe {probe : Probe} {reply : Reply (Probe × σ) Block}
    (step : probe.AllocateStep below request s machine reply) :
    AllocateStep below request s machine (.probe probe) (reply.mapState (lift .probe)) := by
  cases step with
  | injected sees => exact .alone ⟨rfl, rfl⟩ (.refl _)
  | passed sees answer => exact .asked ⟨rfl, rfl⟩ id answer (.refl _)

end AllocateStep

theorem allocate_step (below : Source σ) (request : Request) (layer : Layer) (s : σ)
    (machine : Machine) :
    AllocateStep below request s machine layer
      ((source below).allocate request (layer, s) machine) := by
  cases layer with
  | arena inner => exact .ofArena (inner.allocate_step below request s machine)
  | pool inner => exact .ofPool (inner.allocate_step below request s machine)
  | slab inner => exact .ofSlab (inner.allocate_step below request s machine)
  | hybrid inner => exact .ofHybrid (inner.allocate_step below request s machine)
  | tracker inner => exact .ofTracker (inner.allocate_step below request s machine)
  | probe inner => exact .ofProbe (inner.allocate_step below request s machine)

-- A block is settled by the layer itself, or what stands behind it is handed to the source beneath,
-- whose answer is the answer of the layer.
inductive FreeStep (below : Source σ) (s : σ) (machine : Machine) :
    Layer → Reply (Layer × σ) Unit → Prop where
  | taken {layer after : Layer} (stays : layer.Stays after) (runs : layer.Running → after.Running) :
      FreeStep below s machine layer ⟨.ok (), (after, s), machine⟩
  | refused {layer after : Layer} {error : Error} {machine' : Machine} (stays : layer.Stays after)
      (runs : layer.Running → after.Running) (same : machine'.memory = machine.memory) :
      FreeStep below s machine layer ⟨.error (.refused error), (after, s), machine'⟩
  | interrupted {layer : Layer} {message : String} (interrupted : ¬ layer.Running) :
      FreeStep below s machine layer ⟨.error (.panicked message), (layer, s), machine⟩
  | unpinned {hybrid : Hybrid} {id : Nat} {pinned : PinnedBlock} {bytes : Counter}
      (found : hybrid.pinned.find? id = some pinned) :
      FreeStep below s machine (.hybrid hybrid)
        ⟨.ok (), (.hybrid { hybrid with pinned := hybrid.pinned.erase id, pinnedBytes := bytes }, s),
          machine.giveBack pinned.address pinned.size⟩
  | handed {layer after : Layer} {given : Block} {result : Except Fault Unit} {left : σ}
      {machine' : Machine} (stays : layer.Stays after) (runs : layer.Running → after.Running)
      (answer : below.free given s machine = ⟨result, left, machine'⟩) :
      FreeStep below s machine layer ⟨result, (after, left), machine'⟩

namespace FreeStep

theorem ofPool {pool : Pool} {reply : Reply (Pool × σ) Unit}
    (step : pool.FreeStep below block s machine reply) :
    FreeStep below s machine (.pool pool) (reply.mapState (lift .pool)) := by
  cases step with
  | foreign cause => exact .refused ⟨rfl, rfl⟩ id rfl
  | retained own found filed active allowed => exact .taken ⟨rfl, rfl⟩ id
  | released handsOn answer | restored handsOn answer | lost handsOn answer =>
    exact .handed ⟨rfl, rfl⟩ id answer

theorem ofSlab {slab : Slab} {reply : Reply (Slab × σ) Unit}
    (step : slab.FreeStep below block s machine reply) :
    FreeStep below s machine (.slab slab) (reply.mapState (lift .slab)) := by
  cases step with
  | put tag running accepted =>
    obtain ⟨_, _, _, _, _, _, _, _, rfl⟩ := Slab.freeSlot_parts accepted
    exact .taken ⟨rfl, rfl⟩ id
  | foreign tag other => exact .refused ⟨rfl, rfl⟩ id rfl
  | refused tag running rejected => exact .refused ⟨rfl, rfl⟩ id rfl
  | interrupted tag interrupted => 
    exact .interrupted fun running => Bool.false_ne_true (running.symm.trans interrupted)
  | passed unsliced answer | passFailed unsliced answer => exact .handed ⟨rfl, rfl⟩ id answer

theorem ofHybrid {hybrid : Hybrid} {reply : Reply (Hybrid × σ) Unit}
    (step : hybrid.FreeStep below block s machine reply) :
    FreeStep below s machine (.hybrid hybrid) (reply.mapState (lift .hybrid)) := by
  cases step with
  | foreign tag other => exact .refused ⟨rfl, rfl⟩ id rfl
  | doubled tag absent => exact .refused ⟨rfl, rfl⟩ id rfl
  | misplaced tag found elsewhere => exact .refused ⟨rfl, rfl⟩ id rfl
  | unpinned tag found here => exact .unpinned found
  | passed unpinned answer | passFailed unpinned answer => exact .handed ⟨rfl, rfl⟩ id answer

theorem ofTracker {tracker : Tracker} {reply : Reply (Tracker × σ) Unit}
    (step : tracker.FreeStep below block s machine reply) :
    FreeStep below s machine (.tracker tracker) (reply.mapState (lift .tracker)) := by
  cases step with
  | untracked absent => exact .refused ⟨rfl, rfl⟩ id rfl
  | dropped found keeps => exact .taken ⟨rfl, rfl⟩ id
  | released found releases answer | restored found releases answer | lost found releases answer =>
    exact .handed ⟨rfl, rfl⟩ id answer

theorem ofProbe {probe : Probe} {reply : Reply (Probe × σ) Unit}
    (step : probe.FreeStep below block s machine reply) :
    FreeStep below s machine (.probe probe) (reply.mapState (lift .probe)) := by
  cases step with
  | injected sees => exact .refused ⟨rfl, rfl⟩ id rfl
  | passed sees answer => exact .handed ⟨rfl, rfl⟩ id answer

end FreeStep

theorem free_step (below : Source σ) (block : Block) (layer : Layer) (s : σ) (machine : Machine) :
    FreeStep below s machine layer ((source below).free block (layer, s) machine) := by
  cases layer with
  | arena inner => exact .refused ⟨rfl, rfl⟩ id rfl
  | pool inner => exact .ofPool (inner.free_step below block s machine)
  | slab inner => exact .ofSlab (inner.free_step below block s machine)
  | hybrid inner => exact .ofHybrid (inner.free_step below block s machine)
  | tracker inner => exact .ofTracker (inner.free_step below block s machine)
  | probe inner => exact .ofProbe (inner.free_step below block s machine)

end Layer

end LayeredAllocation
