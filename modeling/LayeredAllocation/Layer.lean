import LayeredAllocation.Strategy.Arena
import LayeredAllocation.Strategy.Hybrid
import LayeredAllocation.Strategy.Pool
import LayeredAllocation.Strategy.Probe
import LayeredAllocation.Strategy.Slab
import LayeredAllocation.Strategy.Stores
import LayeredAllocation.Strategy.Tracker

namespace LayeredAllocation

inductive Bottom where
  | system (store : SystemStore)
  | pages (store : PageStore)

def Bottom.source : Source Bottom where
  name
    | .system _ => SystemStore.name
    | .pages _ => PageStore.name
  releases _ := true
  held
    | .system store => SystemStore.source.held store
    | .pages store => PageStore.source.held store
  allocate request bottom machine :=
    match bottom with
    | .system store => (store.allocate request machine).mapState .system
    | .pages store => (store.allocate request machine).mapState .pages
  free block bottom machine :=
    match bottom with
    | .system store => (store.free block machine).mapState .system
    | .pages store => (store.free block machine).mapState .pages

inductive Layer where
  | arena (arena : Arena)
  | pool (pool : Pool)
  | slab (slab : Slab)
  | hybrid (hybrid : Hybrid)
  | tracker (tracker : Tracker)
  | probe (probe : Probe)

namespace Layer

def lift (wrap : α → Layer) (state : α × σ) : Layer × σ := (wrap state.1, state.2)

def source (below : Source σ) : Source (Layer × σ) where
  name
    | (.arena inner, s) => (Arena.source below).name (inner, s)
    | (.pool inner, s) => (Pool.source below).name (inner, s)
    | (.slab inner, s) => (Slab.source below).name (inner, s)
    | (.hybrid inner, s) => (Hybrid.source below).name (inner, s)
    | (.tracker inner, s) => (Tracker.source below).name (inner, s)
    | (.probe inner, s) => (Probe.source below).name (inner, s)
  releases
    | (.arena inner, s) => (Arena.source below).releases (inner, s)
    | (.pool inner, s) => (Pool.source below).releases (inner, s)
    | (.slab inner, s) => (Slab.source below).releases (inner, s)
    | (.hybrid inner, s) => (Hybrid.source below).releases (inner, s)
    | (.tracker inner, s) => (Tracker.source below).releases (inner, s)
    | (.probe inner, s) => (Probe.source below).releases (inner, s)
  held
    | (.arena inner, s) => (Arena.source below).held (inner, s)
    | (.pool inner, s) => (Pool.source below).held (inner, s)
    | (.slab inner, s) => (Slab.source below).held (inner, s)
    | (.hybrid inner, s) => (Hybrid.source below).held (inner, s)
    | (.tracker inner, s) => (Tracker.source below).held (inner, s)
    | (.probe inner, s) => (Probe.source below).held (inner, s)
  allocate request state machine :=
    match state with
    | (.arena inner, s) => (Arena.allocate below request (inner, s) machine).mapState (lift .arena)
    | (.pool inner, s) => (Pool.allocate below request (inner, s) machine).mapState (lift .pool)
    | (.slab inner, s) => (Slab.allocate below request (inner, s) machine).mapState (lift .slab)
    | (.hybrid inner, s) =>
      (Hybrid.allocate below request (inner, s) machine).mapState (lift .hybrid)
    | (.tracker inner, s) =>
      (Tracker.allocate below request (inner, s) machine).mapState (lift .tracker)
    | (.probe inner, s) => (Probe.allocate below request (inner, s) machine).mapState (lift .probe)
  free block state machine :=
    match state with
    | (.arena inner, s) => (Arena.free block (inner, s) machine).mapState (lift .arena)
    | (.pool inner, s) => (Pool.free below block (inner, s) machine).mapState (lift .pool)
    | (.slab inner, s) => (Slab.free below block (inner, s) machine).mapState (lift .slab)
    | (.hybrid inner, s) => (Hybrid.free below block (inner, s) machine).mapState (lift .hybrid)
    | (.tracker inner, s) =>
      (Tracker.free below block (inner, s) machine).mapState (lift .tracker)
    | (.probe inner, s) => (Probe.free below block (inner, s) machine).mapState (lift .probe)

-- How a layer's end turned out: the message of a panic, if there was one.
structure Ending (σ : Type) where
  panic : Option String
  layer : Layer
  beneath : σ
  machine : Machine

def Ending.ofReply (layer : Layer) (reply : Reply σ Unit) : Ending σ :=
  match reply.result with
  | .error (.panicked message) => ⟨some message, layer, reply.state, reply.machine⟩
  | _ => ⟨none, layer, reply.state, reply.machine⟩

theorem ofReply_beneath (layer : Layer) (reply : Reply σ Unit) :
    (Ending.ofReply layer reply).beneath = reply.state := by
  unfold Ending.ofReply
  split <;> rfl

theorem ofReply_layer (layer : Layer) (reply : Reply σ Unit) :
    (Ending.ofReply layer reply).layer = layer := by
  unfold Ending.ofReply
  split <;> rfl

-- Ends a layer: what it holds goes back to the source beneath, and leaks are reported.
def close (below : Source σ) (panicking : Bool) (layer : Layer) (beneath : σ) (machine : Machine) :
    Ending σ :=
  match layer with
  | .arena inner => .ofReply layer (inner.close below beneath machine)
  | .pool inner => .ofReply layer (inner.close below beneath machine)
  | .slab inner => .ofReply layer (inner.close below beneath machine)
  | .hybrid inner => ⟨none, layer, beneath, inner.close machine⟩
  | .tracker inner =>
    match inner.close panicking machine with
    | (panic, inner, machine) => ⟨panic, .tracker inner, beneath, machine⟩
  | .probe _ => ⟨none, layer, beneath, machine⟩

end Layer

-- A bottom with so many layers on it, the top layer first.
def Stack : (height : Nat) → Type
  | 0 => Bottom
  | height + 1 => Layer × Stack height

namespace Stack

def source : (height : Nat) → Source (Stack height)
  | 0 => Bottom.source
  | height + 1 => Layer.source (source height)

end LayeredAllocation.Stack
