import LayeredAllocation.Proofs.Registry
import LayeredAllocation.Proofs.Steps.Layer

namespace LayeredAllocation

def Reply.panic? (reply : Reply σ α) : Option String :=
  match reply.result with
  | .error (.panicked message) => some message
  | _ => none

-- A source that takes no block back by a panic, nor gets to where it would.
structure Source.Calm (source : Source σ) (calm : σ → Prop) : Prop where
  free (block : Block) {state : σ} (machine : Machine) (before : calm state) :
    calm (source.free block state machine).state ∧ (source.free block state machine).panic? = none

namespace Source.Calm
variable {source : Source σ} {calm : σ → Prop} {block : Block} {s after : σ}
  {machine machine' : Machine}

theorem freed {result : Except Fault Unit} (calms : source.Calm calm) (before : calm s)
    (answer : source.free block s machine = ⟨result, after, machine'⟩) :
    calm after ∧ Reply.panic? ⟨result, after, machine'⟩ = none := by
  have outcome := calms.free block machine before
  rwa [answer] at outcome

theorem run {given : List Block} (calms : source.Calm calm) (before : calm s)
    (freed : source.GivenBack s given after) : calm after := by
  induction freed with
  | start => exact before
  | given _ block machine ih => exact (calms.free block machine ih).1

theorem complete {blocks given rest : List Block} (calms : source.Calm calm) (before : calm s)
    (offered : source.Offered blocks s given rest after) : rest = [] := by
  apply Decidable.byContradiction
  intro some
  obtain ⟨last, earlier, state, machine, message, _, freed, panicked⟩ := offered.stopped some
  have quiet := (calms.free last machine (calms.run before freed)).2
  simp [Reply.panic?, panicked] at quiet

end Source.Calm

namespace Layer
variable {below : Source σ} {calm : σ → Prop} {block : Block} {s : σ} {machine : Machine}

theorem source_calm (calms : below.Calm calm) :
    (source below).Calm fun state => state.1.Running ∧ calm state.2 where
  free := by
    rintro block ⟨layer, s⟩ machine ⟨running, before⟩
    have step := free_step below block layer s machine
    generalize (source below).free block (layer, s) machine = reply at step ⊢
    cases step with
    | taken stays runs => exact ⟨⟨runs running, before⟩, rfl⟩
    | refused stays runs same => exact ⟨⟨runs running, before⟩, rfl⟩
    | interrupted interrupted => exact absurd running interrupted
    | unpinned found => exact ⟨⟨trivial, before⟩, rfl⟩
    | handed stays runs answer =>
      obtain ⟨after, quiet⟩ := calms.freed before answer
      exact ⟨⟨runs running, after⟩, quiet⟩

end Layer

theorem Bottom.source_calm : Bottom.source.Calm fun _ => True where
  free block bottom machine _ := by
    refine ⟨trivial, ?_⟩
    cases bottom with
    | system store =>
      have step := store.free_step block machine
      change (SystemStore.source.free block store machine).panic? = none
      generalize SystemStore.source.free block store machine = reply at step ⊢
      cases step <;> rfl
    | pages store =>
      have step := store.free_step block machine
      change (PageStore.source.free block store machine).panic? = none
      generalize PageStore.source.free block store machine = reply at step ⊢
      cases step <;> rfl

def Body.Running : Body → Prop
  | .bottom _ => True
  | .layer _ upper => upper.Running

namespace Registry
variable {registry : Registry} {number depth : Nat}

-- No slab was interrupted by a panic.
def Running (registry : Registry) : Prop :=
  ∀ number node, registry.node? number = some node → node.body.Running

theorem Running.modify {change : Node → Node} (running : registry.Running)
    (goesOn : ∀ node, node.body.Running → (change node).body.Running) :
    (registry.modify number change).Running := by
  intro k node found
  rw [node?_modify] at found
  split at found
  · obtain ⟨old, there, rfl⟩ := Option.map_eq_some_iff.1 found
    exact goesOn old (running k old there)
  · exact running k node found

theorem Running.store {probe : Probe} {body : Body} (running : registry.Running)
    (goesOn : body.Running) : (store number (probe, body, registry)).Running :=
  running.modify fun _ _ => goesOn

structure Calm (number : Nat) (registry : Registry) : Prop where
  founded : registry.Founded
  running : registry.Running
  present : (registry.node? number).isSome

theorem free_running {body : Body} (block : Block) (machine : Machine)
    (beneath : ∀ backing, body.backing? = some backing →
      (sourceAt depth backing).Calm (Calm backing) ∧ Calm backing registry)
    (running : body.Running) (others : registry.Running) :
    let reply := (Body.source (sourceAt depth)).free block (body, registry) machine
    reply.state.1.Running ∧ reply.state.2.Running ∧ reply.panic? = none := by
  cases body with
  | bottom base =>
    rw [Body.free_bottom]
    exact ⟨trivial, others, (Bottom.source_calm.free block machine trivial).2⟩
  | layer backing upper =>
    obtain ⟨calms, before⟩ := beneath backing rfl
    have both : (upper, registry).1.Running ∧ Calm backing (upper, registry).2 := ⟨running, before⟩
    obtain ⟨⟨goesOn, left⟩, quiet⟩ := (Layer.source_calm calms).free block machine both
    rw [Body.free_layer]
    exact ⟨goesOn, left.running, quiet⟩

-- The induction is on the depth, as the sources beneath are called at the next smaller one.
theorem sourceAt_calm (depth number : Nat) (deep : number < depth) :
    (sourceAt depth number).Calm (Calm number) := by
  induction depth generalizing number with
  | zero => exact absurd deep (Nat.not_lt_zero number)
  | succ depth ih =>
    constructor
    intro block registry machine before
    have kept := (sourceAt_confined (depth + 1) number).free block machine before.founded
    have founded := kept.founded before.founded
    have present := kept.present before.present
    obtain ⟨node, found⟩ := Option.isSome_iff_exists.1 before.present
    have running := before.running number node found
    have beneath : ∀ backing, node.body.backing? = some backing →
        (sourceAt depth backing).Calm (Calm backing) ∧ Calm backing registry := by
      intro backing stands
      have lower := before.founded number node backing found stands
      have shallow := Nat.lt_of_lt_of_le lower (Nat.le_of_lt_succ deep)
      exact ⟨ih backing shallow, before.founded, before.running, present_of_lt before.present lower⟩
    have outcome : ((sourceAt (depth + 1) number).free block registry machine).state.Running ∧
        ((sourceAt (depth + 1) number).free block registry machine).panic? = none := by
      rw [sourceAt_free depth block machine found]
      have step := Probe.free_step (Body.source (sourceAt depth)) block node.probe
        (node.body, registry) machine
      generalize Probe.free (Body.source (sourceAt depth)) block _ machine = reply at step ⊢
      cases step with
      | injected sees => exact ⟨before.running.store running, rfl⟩
      | passed sees answer =>
        have outcome := free_running block machine beneath running before.running
        rw [answer] at outcome
        obtain ⟨goesOn, others, quiet⟩ := outcome
        exact ⟨others.store goesOn, quiet⟩
    exact ⟨⟨founded, outcome.1, present⟩, outcome.2⟩

end Registry

end LayeredAllocation
