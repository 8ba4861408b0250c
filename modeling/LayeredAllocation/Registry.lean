import LayeredAllocation.Layer

namespace LayeredAllocation

inductive Body where
  | bottom (bottom : Bottom)
  | layer (backing : Nat) (layer : Layer)

namespace Body

def source (beneath : Nat → Source σ) : Source (Body × σ) where
  name
    | (.bottom base, _) => Bottom.source.name base
    | (.layer backing upper, s) => (Layer.source (beneath backing)).name (upper, s)
  releases
    | (.bottom base, _) => Bottom.source.releases base
    | (.layer backing upper, s) => (Layer.source (beneath backing)).releases (upper, s)
  held
    | (.bottom base, _) => Bottom.source.held base
    | (.layer backing upper, s) => (Layer.source (beneath backing)).held (upper, s)
  allocate request state machine :=
    match state with
    | (.bottom base, s) =>
      (Bottom.source.allocate request base machine).mapState fun base => (.bottom base, s)
    | (.layer backing upper, s) =>
      ((Layer.source (beneath backing)).allocate request (upper, s) machine).mapState
        fun (upper, s) => (.layer backing upper, s)
  free block state machine :=
    match state with
    | (.bottom base, s) =>
      (Bottom.source.free block base machine).mapState fun base => (.bottom base, s)
    | (.layer backing upper, s) =>
      ((Layer.source (beneath backing)).free block (upper, s) machine).mapState
        fun (upper, s) => (.layer backing upper, s)

end Body

structure Node where
  body : Body
  probe : Probe := {}
  users : Nat := 0

structure Registry where
  nodes : List Node := []
  nextOwner : Nat := 1

namespace Registry

def node? (registry : Registry) (number : Nat) : Option Node := registry.nodes[number]?

def modify (registry : Registry) (number : Nat) (change : Node → Node) : Registry :=
  { registry with nodes := registry.nodes.modify number change }

def addUser (registry : Registry) (number : Nat) : Registry :=
  registry.modify number fun node => { node with users := node.users + 1 }

def add (registry : Registry) (body : Body) : Nat × Registry :=
  let registry :=
    match body with
    | .bottom _ => registry
    | .layer backing _ => registry.addUser backing
  (registry.nodes.length, { registry with nodes := registry.nodes ++ [Node.mk body {} 0] })

def takeOwner (registry : Registry) : Nat × Registry :=
  (registry.nextOwner, { registry with nextOwner := registry.nextOwner + 1 })

def absent : Source Registry where
  name _ := ""
  releases _ := false
  held _ := 0
  allocate _ registry machine := .panic "no strategy has this number" registry machine
  free _ registry machine := .panic "no strategy has this number" registry machine

def store (number : Nat) (state : Probe × Body × Registry) : Registry :=
  state.2.2.modify number fun node => { node with probe := state.1, body := state.2.1 }

def sourceAt : (depth : Nat) → (number : Nat) → Source Registry
  | 0, _ => absent
  | depth + 1, number =>
    -- The body names its backing itself; only the depth left bounds how far down that goes.
    let source := Probe.source (Body.source (sourceAt depth))
    { name := fun registry =>
        match registry.node? number with
        | none => absent.name registry
        | some node => source.name (node.probe, node.body, registry)
      releases := fun registry =>
        match registry.node? number with
        | none => absent.releases registry
        | some node => source.releases (node.probe, node.body, registry)
      held := fun registry =>
        match registry.node? number with
        | none => absent.held registry
        | some node => source.held (node.probe, node.body, registry)
      allocate := fun request registry machine =>
        match registry.node? number with
        | none => absent.allocate request registry machine
        | some node =>
          (source.allocate request (node.probe, node.body, registry) machine).mapState
            (store number)
      free := fun block registry machine =>
        match registry.node? number with
        | none => absent.free block registry machine
        | some node =>
          (source.free block (node.probe, node.body, registry) machine).mapState (store number) }

def source (number : Nat) : Source Registry := sourceAt (number + 1) number

def setBody (registry : Registry) (number : Nat) (body : Body) : Registry :=
  registry.modify number fun node => { node with body }

-- Takes one user away from a strategy. Without users it ends, and then its use of the source
-- beneath it. The answer is the message of the first panic.
def releaseAt : (depth : Nat) → (panicking : Bool) → (number : Nat) → Registry → Machine →
    Option String × Registry × Machine
  | 0, _, _, registry, machine => (none, registry, machine)
  | depth + 1, panicking, number, registry, machine =>
    match registry.node? number with
    | none => (none, registry, machine)
    | some node =>
      let registry := registry.modify number fun node => { node with users := node.users - 1 }
      if 1 < node.users then (none, registry, machine)
      else
        match node.body with
        | .bottom _ => (none, registry, machine)
        | .layer backing layer =>
          -- The layer gives back what it holds while its backing is still there to take it.
          match layer.close (sourceAt depth backing) panicking registry machine with
          | ⟨panic, layer, registry, machine⟩ =>
            match releaseAt depth (panicking || panic.isSome) backing
                (registry.setBody number (.layer backing layer)) machine with
            | (later, registry, machine) => (panic.or later, registry, machine)

def release (panicking : Bool) (number : Nat) (registry : Registry) (machine : Machine) :
    Option String × Registry × Machine :=
  releaseAt (number + 1) panicking number registry machine

end LayeredAllocation.Registry
