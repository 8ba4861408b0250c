import LayeredAllocation.Proofs.Atomicity.Stack
import LayeredAllocation.Proofs.Steps.Layer

namespace LayeredAllocation

-- A view of the state that no call changes.
structure Source.Keeps (source : Source σ) (view : σ → α) : Prop where
  allocate (request : Request) (state : σ) (machine : Machine) :
    view (source.allocate request state machine).state = view state
  free (block : Block) (state : σ) (machine : Machine) :
    view (source.free block state machine).state = view state

namespace Source.Keeps
variable {source : Source σ} {view : σ → α} {request : Request} {block : Block} {s after : σ}
  {machine machine' : Machine}

theorem allocated {result : Except Fault Block} (keeps : source.Keeps view)
    (answer : source.allocate request s machine = ⟨result, after, machine'⟩) : view after = view s := by
  have same := keeps.allocate request s machine
  rwa [answer] at same

theorem freed {result : Except Fault Unit} (keeps : source.Keeps view)
    (answer : source.free block s machine = ⟨result, after, machine'⟩) : view after = view s := by
  have same := keeps.free block s machine
  rwa [answer] at same

end Source.Keeps

namespace Layer
variable {source : Source σ} {view : σ → List Make} {request : Request} {block : Block} {s : σ}
  {machine : Machine}

-- The layer on top of what is seen of the source beneath.
def seen (view : σ → List Make) (state : Layer × σ) : List Make := state.1.make :: view state.2

theorem keeps (below : source.Keeps view) : (Layer.source source).Keeps (seen view) where
  allocate := by
    rintro request ⟨layer, s⟩ machine
    have step := allocate_step source request layer s machine
    generalize (Layer.source source).allocate request (layer, s) machine = reply at step ⊢
    cases step with
    | alone stays same => exact congrArg (· :: view s) stays.make
    | pinned placed => rfl
    | asked stays proper answer same =>
      exact List.cons_eq_cons.2 ⟨stays.make, below.allocated answer⟩
    | returned proper answer freed same =>
      exact congrArg (List.cons _) ((below.freed freed).trans (below.allocated answer))
  free := by
    rintro block ⟨layer, s⟩ machine
    have step := free_step source block layer s machine
    generalize (Layer.source source).free block (layer, s) machine = reply at step ⊢
    cases step with
    | taken stays runs => exact congrArg (· :: view s) stays.make
    | refused stays runs same => exact congrArg (· :: view s) stays.make
    | interrupted interrupted => rfl
    | unpinned found => rfl
    | handed stays runs answer => exact List.cons_eq_cons.2 ⟨stays.make, below.freed answer⟩

theorem releaseAll_seen (keeps : source.Keeps view) (blocks : List Block) (first : Option Error)
    (pool : Pool) : seen view (lift .pool (Pool.releaseAll source first blocks pool s machine).state) =
      seen view (.pool pool, s) := by
  induction blocks generalizing first pool s machine with
  | nil =>
    unfold Pool.releaseAll
    split <;> rfl
  | cons block rest ih =>
    have kept := keeps.free block s machine
    unfold Pool.releaseAll
    generalize source.free block s machine = reply at kept ⊢
    obtain ⟨result, after, machine'⟩ := reply
    have same : seen view (.pool pool, after) = seen view (.pool pool, s) := congrArg (List.cons _) kept
    rcases result with (error | message) | _
    · exact (ih _ pool).trans same
    · exact same
    · exact (ih first { pool with held := _ }).trans same

theorem perform_seen (below : source.Keeps view) (call : Call) (layer : Layer) :
    seen view (perform source call (layer, s) machine).state = seen view (layer, s) := by
  cases call with
  | allocate request => exact (keeps below).allocate request (layer, s) machine
  | free block => exact (keeps below).free block (layer, s) machine
  | trim =>
    cases layer with
    | pool inner => exact releaseAll_seen below inner.idleBlocks none inner.emptied
    | arena inner | slab inner | hybrid inner | tracker inner | probe inner => rfl
  | dispose =>
    cases layer with
    | pool inner =>
      exact releaseAll_seen below inner.idleBlocks none { inner.emptied with disposed := true }
    | tracker inner =>
      obtain ⟨sink, disposed, same⟩ := inner.dispose_same machine
      change seen view (reported s (inner.dispose machine)).state = _
      generalize inner.dispose machine = outcome at same ⊢
      obtain ⟨answer, after, machine'⟩ := outcome
      cases same
      cases answer <;> rfl
    | arena inner | slab inner | hybrid inner | probe inner => rfl

-- A layer is made once and for all, whatever is seen of the source beneath.
theorem perform_make (source : Source σ) (call : Call) (state : Layer × σ) (machine : Machine) :
    (perform source call state machine).state.1.make = state.1.make := by
  have blind : source.Keeps fun _ => ([] : List Make) := ⟨fun _ _ _ => rfl, fun _ _ _ => rfl⟩
  exact (List.cons_eq_cons.1 (perform_seen blind call state.1)).1

theorem make_kept (below : Source σ) : (Layer.source below).Keeps fun state => state.1.make :=
  ⟨fun request => perform_make below (.allocate request), fun block => perform_make below (.free block)⟩

theorem run_make {rule : Rule (Layer × σ)} {start state : Layer × σ} {origin : Machine}
    {past : List Event} (run : Run (perform source) rule start origin past state machine) :
    state.1.make = start.1.make := by
  induction run with
  | start => rfl
  | @call _ call _ _ _ _ ih => exact (perform_make source call _ _).trans ih

end Layer

namespace Stack

def makes : {height : Nat} → Stack height → List Make
  | 0, _ => []
  | _ + 1, (layer, beneath) => layer.make :: makes beneath

theorem keeps_makes : (height : Nat) → (source height).Keeps makes
  | 0 => ⟨fun _ _ _ => rfl, fun _ _ _ => rfl⟩
  | height + 1 => Layer.keeps (keeps_makes height)

theorem performAt_makes : {height : Nat} → (depth : Nat) → (call : Call) → (stack : Stack height) →
    (machine : Machine) → (performAt depth call stack machine).state.makes = stack.makes
  | 0, _, _, _, _ => rfl
  | height + 1, 0, call, (layer, _), _ => Layer.perform_seen (keeps_makes height) call layer
  | _ + 1, depth + 1, call, (layer, beneath), machine =>
    congrArg (layer.make :: ·) (performAt_makes depth call beneath machine)

theorem Reached.makes {height : Nat} {start stack : Stack height} (reached : Reached start stack) :
    stack.makes = start.makes := by
  induction reached with
  | start => rfl
  | call depth call machine _ ih => exact (performAt_makes depth call _ machine).trans ih

end Stack

end LayeredAllocation
