import LayeredAllocation.Registry
import LayeredAllocation.Proofs.Called

namespace LayeredAllocation

def Body.backing? : Body → Option Nat
  | .bottom _ => none
  | .layer backing _ => some backing

namespace Registry
variable {registry before between after : Registry} {number depth backing : Nat} {node : Node}
  {layer : Layer} {request : Request} {block : Block} {machine : Machine}

theorem node?_modify (registry : Registry) (number k : Nat) (change : Node → Node) :
    (registry.modify number change).node? k =
      if number = k then (registry.node? k).map change else registry.node? k := by
  simp only [modify, node?, List.getElem?_modify]
  split
  · rfl
  · exact Option.map_id'

theorem node?_modify_other {k : Nat} (other : number ≠ k) (change : Node → Node) :
    (registry.modify number change).node? k = registry.node? k := by
  rw [node?_modify, if_neg other]

-- Every layer is younger than the source beneath it.
def Founded (registry : Registry) : Prop :=
  ∀ number node backing, registry.node? number = some node → node.body.backing? = some backing →
    backing < number

-- The strategies from a number on are as they were, and so is which strategy stands on which.
structure Kept (number : Nat) (before after : Registry) : Prop where
  above : ∀ k, number ≤ k → after.node? k = before.node? k
  built : ∀ k, (after.node? k).map (·.body.backing?) = (before.node? k).map (·.body.backing?)

namespace Kept

theorem refl (number : Nat) (registry : Registry) : Kept number registry registry :=
  ⟨fun _ _ => rfl, fun _ => rfl⟩

theorem trans (first : Kept number before between) (second : Kept number between after) :
    Kept number before after :=
  ⟨fun k above => (second.above k above).trans (first.above k above),
    fun k => (second.built k).trans (first.built k)⟩

theorem mono {larger : Nat} (kept : Kept number before after) (le : number ≤ larger) :
    Kept larger before after :=
  ⟨fun k above => kept.above k (Nat.le_trans le above), kept.built⟩

theorem founded (kept : Kept number before after) (founded : before.Founded) : after.Founded := by
  intro k node backing found stands
  have built := kept.built k
  rw [found] at built
  obtain ⟨old, foundOld, same⟩ := Option.map_eq_some_iff.1 built.symm
  exact founded k old backing foundOld (same.trans stands)

theorem present {k : Nat} (kept : Kept number before after) (present : (before.node? k).isSome) :
    (after.node? k).isSome := by
  have built := congrArg Option.isSome (kept.built k)
  simp only [Option.isSome_map] at built
  exact built.trans present

theorem modify {change : Node → Node} (found : registry.node? number = some node)
    (stays : (change node).body.backing? = node.body.backing?) :
    Kept (number + 1) registry (registry.modify number change) := by
  refine ⟨fun k above => node?_modify_other (Nat.ne_of_lt above) change, fun k => ?_⟩
  rw [node?_modify]
  split
  · next here =>
    cases here
    rw [found]
    exact congrArg some stays
  · rfl

end Kept

theorem present_of_lt {lower : Nat} (present : (registry.node? number).isSome) (less : lower < number) :
    (registry.node? lower).isSome := by
  obtain ⟨node, found⟩ := Option.isSome_iff_exists.1 present
  obtain ⟨inside, _⟩ := List.getElem?_eq_some_iff.1 found
  rw [node?, List.getElem?_eq_getElem (Nat.lt_trans less inside)]
  rfl

def returned (registry : Registry) (number : Nat) : List Nat :=
  ((registry.node? number).map (·.probe.frees)).getD []

theorem returned_of_node (found : registry.node? number = some node) :
    registry.returned number = node.probe.frees := by
  rw [returned, found]
  rfl

theorem returned_congr (same : after.node? number = before.node? number) :
    after.returned number = before.returned number := by
  rw [returned, same, returned]

theorem returned_modify {k : Nat} (other : number ≠ k) (change : Node → Node) :
    (registry.modify number change).returned k = registry.returned k :=
  returned_congr (node?_modify_other other change)

end Registry

-- What an operation may make of a strategy and of what lies beneath.
inductive Body.Worked (beneath : Nat → Source σ) : Body → σ → Body → σ → Prop where
  | bottom {base base' : Bottom} {s : σ} : Worked beneath (.bottom base) s (.bottom base') s
  | layer {backing : Nat} {upper upper' : Layer} {s s' : σ} {given : List Block}
      (called : (beneath backing).Called s given s') :
      Worked beneath (.layer backing upper) s (.layer backing upper') s'

namespace Body.Worked
variable {beneath : Nat → Source σ} {body body' : Body} {s s' : σ}

theorem idle (beneath : Nat → Source σ) (body : Body) (s : σ) : Worked beneath body s body s := by
  cases body with
  | bottom base => exact .bottom
  | layer backing upper => exact .layer .start

theorem stays (worked : Worked beneath body s body' s') : body'.backing? = body.backing? := by
  cases worked with
  | bottom => rfl
  | layer called => rfl

end Body.Worked

section
variable (beneath : Nat → Source σ) (backing : Nat) (upper : Layer) (s : σ) (machine : Machine)

theorem Body.allocate_layer (request : Request) :
    (Body.source beneath).allocate request (.layer backing upper, s) machine =
      ((Layer.source (beneath backing)).allocate request (upper, s) machine).mapState
        fun state => (.layer backing state.1, state.2) := rfl

theorem Body.free_bottom (base : Bottom) (block : Block) :
    (Body.source beneath).free block (.bottom base, s) machine =
      (Bottom.source.free block base machine).mapState fun base => (.bottom base, s) := rfl

theorem Body.free_layer (block : Block) :
    (Body.source beneath).free block (.layer backing upper, s) machine =
      ((Layer.source (beneath backing)).free block (upper, s) machine).mapState
        fun state => (.layer backing state.1, state.2) := rfl

end

theorem Body.allocate_worked (beneath : Nat → Source σ) (request : Request) (body : Body) (s : σ)
    (machine : Machine) :
    let reply := (Body.source beneath).allocate request (body, s) machine
    Worked beneath body s reply.state.1 reply.state.2 := by
  cases body with
  | bottom base => exact .bottom
  | layer backing upper =>
    obtain ⟨given, called⟩ := upper.allocate_called (beneath backing) request s machine
    exact .layer called

theorem Body.free_worked (beneath : Nat → Source σ) (block : Block) (body : Body) (s : σ)
    (machine : Machine) :
    let reply := (Body.source beneath).free block (body, s) machine
    Worked beneath body s reply.state.1 reply.state.2 := by
  cases body with
  | bottom base => exact .bottom
  | layer backing upper =>
    obtain ⟨given, called⟩ := upper.free_called (beneath backing) block s machine
    exact .layer called

theorem Probe.seeRequest_frees {probe after : Probe} {request : Request} {fails : Bool}
    (sees : probe.seeRequest request = (fails, after)) : after.frees = probe.frees := by
  cases sees
  rfl

theorem Probe.seeFree_frees {probe after : Probe} {block : Block} {fails : Bool}
    (sees : probe.seeFree block = (fails, after)) : after.frees = block.address :: probe.frees := by
  cases sees
  rfl

namespace Registry
variable {registry after : Registry} {number depth backing : Nat} {node : Node} {layer : Layer}
  {request : Request} {block : Block} {machine : Machine}

theorem sourceAt_allocate (depth : Nat) (request : Request) (machine : Machine)
    (found : registry.node? number = some node) :
    (sourceAt (depth + 1) number).allocate request registry machine =
      (Probe.allocate (Body.source (sourceAt depth)) request (node.probe, node.body, registry)
        machine).mapState (store number) := by
  simp only [sourceAt, found]
  rfl

theorem sourceAt_free (depth : Nat) (block : Block) (machine : Machine)
    (found : registry.node? number = some node) :
    (sourceAt (depth + 1) number).free block registry machine =
      (Probe.free (Body.source (sourceAt depth)) block (node.probe, node.body, registry)
        machine).mapState (store number) := by
  simp only [sourceAt, found]
  rfl

-- An operation of a strategy: what it makes of the strategy itself is put back into what it leaves.
inductive Visited (depth number : Nat) (node : Node) (frees : List Nat) (registry : Registry) :
    Registry → Prop where
  | stored {probe : Probe} {body : Body} {left : Registry} (seen : probe.frees = frees)
      (worked : Body.Worked (sourceAt depth) node.body registry body left) :
      Visited depth number node frees registry (store number (probe, body, left))

theorem allocate_visited (found : registry.node? number = some node) :
    Visited depth number node node.probe.frees registry
      ((sourceAt (depth + 1) number).allocate request registry machine).state := by
  rw [sourceAt_allocate depth request machine found]
  have step := Probe.allocate_step (Body.source (sourceAt depth)) request node.probe
    (node.body, registry) machine
  generalize Probe.allocate (Body.source (sourceAt depth)) request _ machine = reply at step ⊢
  cases step with
  | injected sees => exact .stored (Probe.seeRequest_frees sees) (.idle _ _ _)
  | @passed probe result left machine' sees answer =>
    have worked := Body.allocate_worked (sourceAt depth) request node.body registry machine
    rw [answer] at worked
    exact .stored (Probe.seeRequest_frees sees) worked

theorem free_visited (found : registry.node? number = some node) :
    Visited depth number node (block.address :: node.probe.frees) registry
      ((sourceAt (depth + 1) number).free block registry machine).state := by
  rw [sourceAt_free depth block machine found]
  have step := Probe.free_step (Body.source (sourceAt depth)) block node.probe
    (node.body, registry) machine
  generalize Probe.free (Body.source (sourceAt depth)) block _ machine = reply at step ⊢
  cases step with
  | injected sees => exact .stored (Probe.seeFree_frees sees) (.idle _ _ _)
  | @passed probe result left machine' sees answer =>
    have worked := Body.free_worked (sourceAt depth) block node.body registry machine
    rw [answer] at worked
    exact .stored (Probe.seeFree_frees sees) worked

structure Confined (source : Source Registry) (number : Nat) : Prop where
  allocate (request : Request) {registry : Registry} (machine : Machine) (founded : registry.Founded) :
    Kept (number + 1) registry (source.allocate request registry machine).state
  free (block : Block) {registry : Registry} (machine : Machine) (founded : registry.Founded) :
    Kept (number + 1) registry (source.free block registry machine).state

theorem Confined.called {source : Source Registry} {given : List Block}
    (confined : Confined source number) (founded : registry.Founded)
    (called : source.Called registry given after) : Kept (number + 1) registry after := by
  induction called with
  | start => exact .refl _ _
  | asked before request machine ih =>
    exact ih.trans (confined.allocate request machine (ih.founded founded))
  | given before block machine ih => exact ih.trans (confined.free block machine (ih.founded founded))

theorem Confined.worked {body : Body} {left : Registry}
    (confined : ∀ backing, Confined (sourceAt depth backing) backing) (founded : registry.Founded)
    (found : registry.node? number = some node)
    (worked : Body.Worked (sourceAt depth) node.body registry body left) :
    Kept number registry left := by
  generalize same : node.body = old at worked
  cases worked with
  | bottom => exact .refl _ _
  | @layer backing upper upper' _ left given called =>
    have lower : backing < number := founded number node backing found (by rw [same]; rfl)
    exact ((confined backing).called founded called).mono lower

section
variable {frees : List Nat}

theorem Visited.kept (visited : Visited depth number node frees registry after)
    (confined : ∀ backing, Confined (sourceAt depth backing) backing) (founded : registry.Founded)
    (found : registry.node? number = some node) : Kept (number + 1) registry after := by
  obtain ⟨seen, worked⟩ := visited
  have beneath := Confined.worked confined founded found worked
  have still := (beneath.above number (Nat.le_refl number)).trans found
  exact (beneath.mono (Nat.le_succ number)).trans (.modify still worked.stays)

theorem Visited.found (visited : Visited depth number node frees registry after)
    (confined : ∀ backing, Confined (sourceAt depth backing) backing) (founded : registry.Founded)
    (found : registry.node? number = some node) :
    ∃ probe body, probe.frees = frees ∧ after.node? number = some { node with probe, body } := by
  obtain @⟨probe, body, left, seen, worked⟩ := visited
  have beneath := Confined.worked confined founded found worked
  have still := (beneath.above number (Nat.le_refl number)).trans found
  refine ⟨probe, body, seen, ?_⟩
  rw [store, node?_modify, if_pos rfl, still]
  rfl

end

-- The induction is on the depth, since a layer calls the source beneath at the next smaller one.
theorem sourceAt_confined (depth number : Nat) : Confined (sourceAt depth number) number := by
  induction depth generalizing number with
  | zero => exact ⟨fun _ _ _ _ => .refl _ _, fun _ _ _ _ => .refl _ _⟩
  | succ depth ih =>
    constructor
    · intro request registry machine founded
      cases found : registry.node? number with
      | none =>
        simp only [sourceAt, found]
        exact .refl _ _
      | some node => exact (allocate_visited found).kept ih founded found
    · intro block registry machine founded
      cases found : registry.node? number with
      | none =>
        simp only [sourceAt, found]
        exact .refl _ _
      | some node => exact (free_visited found).kept ih founded found

theorem called_kept {given : List Block} (founded : registry.Founded)
    (called : (sourceAt depth number).Called registry given after) : Kept (number + 1) registry after :=
  (sourceAt_confined depth number).called founded called

-- Every block that was given to a strategy is on record, whether it was taken or not.
theorem called_returned {given : List Block} (founded : registry.Founded) (deep : 0 < depth)
    (present : (registry.node? number).isSome)
    (called : (sourceAt depth number).Called registry given after) :
    after.returned number = given.map Block.address ++ registry.returned number := by
  obtain ⟨depth, rfl⟩ := Nat.exists_eq_add_one_of_ne_zero (Nat.ne_of_gt deep)
  have remains : ∀ {given after}, (sourceAt (depth + 1) number).Called registry given after →
      after.Founded ∧ ∃ node, after.node? number = some node := by
    intro given after called
    have kept := called_kept founded called
    exact ⟨kept.founded founded, Option.isSome_iff_exists.1 (kept.present present)⟩
  induction called with
  | start => rfl
  | asked before request machine ih =>
    obtain ⟨founded, node, found⟩ := remains before
    obtain ⟨probe, body, seen, now⟩ := (allocate_visited found).found (sourceAt_confined depth)
      founded found
    rw [returned_of_node now, ← ih, returned_of_node found]
    exact seen
  | given before block machine ih =>
    obtain ⟨founded, node, found⟩ := remains before
    obtain ⟨probe, body, seen, now⟩ := (free_visited found).found (sourceAt_confined depth)
      founded found
    rw [returned_of_node now, List.map_cons, List.cons_append, ← ih, returned_of_node found]
    exact seen

-- An operation of a layer: either its probe fails it, or it is the layer's own.
theorem allocate_layer {users : Nat} {probe : Probe} (depth : Nat) (request : Request)
    (machine : Machine)
    (found : registry.node? number = some ⟨.layer backing layer, probe, users⟩) :
    ∃ after : Probe,
      (sourceAt (depth + 1) number).allocate request registry machine =
          .refuse (.outOfMemory request.size Probe.injected)
            (store number (after, .layer backing layer, registry)) machine ∨
        (sourceAt (depth + 1) number).allocate request registry machine =
          ((Layer.source (sourceAt depth backing)).allocate request (layer, registry) machine).mapState
            fun state => store number (after, .layer backing state.1, state.2) := by
  rw [sourceAt_allocate depth request machine found]
  have step := Probe.allocate_step (Body.source (sourceAt depth)) request probe
    (.layer backing layer, registry) machine
  generalize Probe.allocate (Body.source (sourceAt depth)) request _ machine = reply at step ⊢
  cases step with
  | injected sees => exact ⟨_, Or.inl rfl⟩
  | @passed after result left machine' sees answer =>
    refine ⟨after, Or.inr ?_⟩
    rw [Body.allocate_layer] at answer
    generalize (Layer.source (sourceAt depth backing)).allocate request (layer, registry) machine =
      reply at answer ⊢
    cases answer
    rfl

theorem free_layer {users : Nat} {probe : Probe} (depth : Nat) (block : Block) (machine : Machine)
    (found : registry.node? number = some ⟨.layer backing layer, probe, users⟩) :
    ∃ after : Probe,
      (sourceAt (depth + 1) number).free block registry machine =
          .refuse (.invalidOperation Probe.injected)
            (store number (after, .layer backing layer, registry)) machine ∨
        (sourceAt (depth + 1) number).free block registry machine =
          ((Layer.source (sourceAt depth backing)).free block (layer, registry) machine).mapState
            fun state => store number (after, .layer backing state.1, state.2) := by
  rw [sourceAt_free depth block machine found]
  have step := Probe.free_step (Body.source (sourceAt depth)) block probe
    (.layer backing layer, registry) machine
  generalize Probe.free (Body.source (sourceAt depth)) block _ machine = reply at step ⊢
  cases step with
  | injected sees => exact ⟨_, Or.inl rfl⟩
  | @passed after result left machine' sees answer =>
    refine ⟨after, Or.inr ?_⟩
    rw [Body.free_layer] at answer
    generalize (Layer.source (sourceAt depth backing)).free block (layer, registry) machine =
      reply at answer ⊢
    cases answer
    rfl

def withoutUser (registry : Registry) (number : Nat) : Registry :=
  registry.modify number fun node => { node with users := node.users - 1 }

theorem withoutUser_kept (found : registry.node? number = some node) :
    Kept (number + 1) registry (registry.withoutUser number) :=
  .modify found rfl

theorem withoutUser_found (found : registry.node? number = some node) :
    (registry.withoutUser number).node? number = some { node with users := node.users - 1 } := by
  rw [withoutUser, node?_modify, if_pos rfl, found]
  rfl

theorem setBody_kept {body : Body} (found : registry.node? number = some node)
    (stays : body.backing? = node.body.backing?) :
    Kept (number + 1) registry (registry.setBody number body) :=
  .modify found stays

theorem setBody_found (found : registry.node? number = some node) (body : Body) :
    (registry.setBody number body).node? number = some { node with body } := by
  rw [setBody, node?_modify, if_pos rfl, found]
  rfl

theorem releaseAt_shared (panicking : Bool) (machine : Machine)
    (found : registry.node? number = some node) (shared : 1 < node.users) :
    releaseAt (depth + 1) panicking number registry machine =
      (none, registry.withoutUser number, machine) := by
  simp only [releaseAt, found, if_pos shared]
  rfl

theorem releaseAt_bottom {base : Bottom} (panicking : Bool) (machine : Machine)
    (found : registry.node? number = some node) (body : node.body = .bottom base) :
    releaseAt (depth + 1) panicking number registry machine =
      (none, registry.withoutUser number, machine) := by
  simp only [releaseAt, found, body]
  split <;> rfl

theorem releaseAt_last (panicking : Bool) (machine : Machine)
    (found : registry.node? number = some node) (last : ¬ 1 < node.users)
    (body : node.body = .layer backing layer) :
    let ending := layer.close (sourceAt depth backing) panicking (registry.withoutUser number) machine
    let rest := releaseAt depth (panicking || ending.panic.isSome) backing
      (ending.beneath.setBody number (.layer backing ending.layer)) ending.machine
    releaseAt (depth + 1) panicking number registry machine = (ending.panic.or rest.1, rest.2) := by
  simp only [releaseAt, found, body, if_neg last]
  rfl

theorem ending_found {given : List Block} {left : Registry} (upper : Layer) (founded : registry.Founded)
    (found : registry.node? number = some node) (body : node.body = .layer backing layer)
    (called : (sourceAt depth backing).Called (registry.withoutUser number) given left) :
    Kept (number + 1) registry (left.setBody number (.layer backing upper)) ∧
      (left.setBody number (.layer backing upper)).node? number =
        some { node with body := .layer backing upper, users := node.users - 1 } := by
  have stands := congrArg Body.backing? body
  have lower : backing < number := founded number node backing found stands
  have lost := withoutUser_kept found
  have kept := called_kept (lost.founded founded) called
  have still := (kept.above number lower).trans (withoutUser_found found)
  refine ⟨?_, setBody_found still _⟩
  have narrow := Nat.succ_le_succ (Nat.le_of_lt lower)
  exact (lost.trans (kept.mono narrow)).trans (setBody_kept still stands.symm)

theorem releaseAt_kept (depth : Nat) (panicking : Bool) (number : Nat) {registry : Registry}
    (machine : Machine) (founded : registry.Founded) :
    Kept (number + 1) registry (releaseAt depth panicking number registry machine).2.1 ∧
      (releaseAt depth panicking number registry machine).2.1.returned number =
        registry.returned number := by
  induction depth generalizing panicking number registry machine with
  | zero => exact ⟨.refl _ _, rfl⟩
  | succ depth ih =>
    cases found : registry.node? number with
    | none =>
      simp only [releaseAt, found, and_true]
      exact .refl _ _
    | some node =>
      have alone : Kept (number + 1) registry (registry.withoutUser number) ∧
          (registry.withoutUser number).returned number = registry.returned number := by
        refine ⟨withoutUser_kept found, ?_⟩
        rw [returned_of_node found, returned_of_node (withoutUser_found found)]
      by_cases shared : 1 < node.users
      · rw [releaseAt_shared panicking machine found shared]
        exact alone
      · cases body : node.body with
        | bottom base =>
          rw [releaseAt_bottom panicking machine found body]
          exact alone
        | layer backing layer =>
          have lower : backing < number :=
            founded number node backing found (congrArg Body.backing? body)
          rw [releaseAt_last panicking machine found shared body]
          obtain ⟨given, called⟩ := layer.close_called (sourceAt depth backing) panicking
            (registry.withoutUser number) machine
          obtain ⟨kept, ended⟩ := ending_found _ founded found body called
          obtain ⟨rest, _⟩ := ih (panicking || (layer.close (sourceAt depth backing) panicking
            (registry.withoutUser number) machine).panic.isSome) backing _ (kept.founded founded)
          refine ⟨kept.trans (rest.mono (Nat.succ_le_succ (Nat.le_of_lt lower))), ?_⟩
          rw [returned_congr (rest.above number lower), returned_of_node ended, returned_of_node found]

theorem releaseAt_ends {probe : Probe} {users : Nat} (panicking : Bool) (machine : Machine)
    (founded : registry.Founded) (deep : 0 < depth)
    (found : registry.node? number = some ⟨.layer backing layer, probe, users⟩)
    (last : ¬ 1 < users) (stores : layer.Stores) :
    let after := (releaseAt (depth + 1) panicking number registry machine).2.1
    ∃ given rest left,
      (sourceAt depth backing).Offered layer.stock (registry.withoutUser number) given rest left ∧
      Kept (number + 1) registry after ∧
      after.node? number = some ⟨.layer backing layer, probe, users - 1⟩ ∧
      after.returned backing = given.map Block.address ++ registry.returned backing := by
  have lower : backing < number := founded number _ backing found rfl
  have parted := (withoutUser_kept found).founded founded
  have present := present_of_lt (Option.isSome_iff_exists.2 ⟨_, withoutUser_found found⟩) lower
  rw [releaseAt_last panicking machine found last rfl]
  obtain ⟨⟨given, rest, offered⟩, same⟩ := Layer.close_offers stores (sourceAt depth backing) panicking
    (registry.withoutUser number) machine
  generalize layer.close (sourceAt depth backing) panicking (registry.withoutUser number) machine =
    ending at offered same ⊢
  obtain ⟨kept, ended⟩ := ending_found ending.layer founded found rfl offered.freed.called
  obtain ⟨cascade, unseen⟩ := releaseAt_kept depth (panicking || ending.panic.isSome) backing
    ending.machine (kept.founded founded)
  have seen := called_returned parted deep present offered.freed.called
  refine ⟨given, rest, ending.beneath, offered, ?_, ?_, ?_⟩
  · exact kept.trans (cascade.mono (Nat.succ_le_succ (Nat.le_of_lt lower)))
  · rw [same] at ended
    exact (cascade.above number lower).trans (same ▸ ended)
  · have other := Nat.ne_of_gt lower
    rw [unseen, setBody, returned_modify other, seen, withoutUser, returned_modify other]

end Registry

end LayeredAllocation
