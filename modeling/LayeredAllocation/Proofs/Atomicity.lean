import LayeredAllocation.Proofs.Contract.Bottom

namespace LayeredAllocation

abbrev Unchanged (before after : σ) : Prop := after = before

-- What a call may lead to. An invariant is kept in any case; a refusal, where there was room for
-- the source's own records, leaves the state and the memory as they were, up to `left`.
inductive Atomic (inv room : σ → Prop) (left : σ → σ → Prop) (state : σ) (machine : Machine) :
    Reply σ α → Prop where
  | done {value : α} {after : σ} {machine' : Machine} (kept : inv after) :
      Atomic inv room left state machine ⟨.ok value, after, machine'⟩
  | refused {error : Error} {after : σ} {machine' : Machine} (kept : inv after)
      (undone : room state → left state after ∧ machine.memory.Untouched machine'.memory) :
      Atomic inv room left state machine ⟨.error (.refused error), after, machine'⟩
  | panicked {message : String} {after : σ} {machine' : Machine} (kept : inv after) :
      Atomic inv room left state machine ⟨.error (.panicked message), after, machine'⟩

namespace Atomic
variable {inv room : σ → Prop} {left : σ → σ → Prop} {state : σ} {machine : Machine}
  {reply : Reply σ α}

theorem kept (outcome : Atomic inv room left state machine reply) : inv reply.state := by
  cases outcome with
  | done kept => exact kept
  | refused kept _ => exact kept
  | panicked kept => exact kept

theorem undone {error : Error} (outcome : Atomic inv room left state machine reply)
    (refused : reply.result = .error (.refused error)) (hasRoom : room state) :
    left state reply.state ∧ machine.memory.Untouched reply.machine.memory := by
  cases outcome with
  | done kept => cases refused
  | refused kept undone => exact undone hasRoom
  | panicked kept => cases refused

theorem mapState {inv' room' : τ → Prop} {left' : τ → τ → Prop} {f : σ → τ}
    (outcome : Atomic inv room left state machine reply) (carries : ∀ s, inv s → inv' (f s))
    (hasRoom : room' (f state) → room state)
    (leaves : ∀ s, left state s → left' (f state) (f s)) :
    Atomic inv' room' left' (f state) machine (reply.mapState f) := by
  cases outcome with
  | done kept => exact .done (carries _ kept)
  | refused kept undone =>
    refine .refused (carries _ kept) fun room => ?_
    obtain ⟨left, untouched⟩ := undone (hasRoom room)
    exact ⟨leaves _ left, untouched⟩
  | panicked kept => exact .panicked (carries _ kept)

end Atomic

-- A source whose refusals leave no trace but the one in `passed`, for allocations, or `same`, for
-- blocks given back.
structure Source.FailsAtomically (source : Source σ) (inv room : σ → Prop)
    (passed same : σ → σ → Prop) : Prop where
  allocate {state : σ} (request : Request) (machine : Machine) : inv state →
    Atomic inv room passed state machine (source.allocate request state machine)
  free {state : σ} (block : Block) (machine : Machine) : inv state →
    Atomic inv room same state machine (source.free block state machine)

namespace Source.FailsAtomically
variable {source : Source σ} {inv room : σ → Prop} {passed same : σ → σ → Prop} {request : Request}
  {block : Block} {s after : σ} {machine machine' : Machine}

theorem allocated {result : Except Fault Block} (fails : source.FailsAtomically inv room passed same)
    (kept : inv s) (answer : source.allocate request s machine = ⟨result, after, machine'⟩) :
    Atomic inv room passed s machine ⟨result, after, machine'⟩ := by
  have outcome := fails.allocate request machine kept
  rwa [answer] at outcome

theorem freed {result : Except Fault Unit} (fails : source.FailsAtomically inv room passed same)
    (kept : inv s) (answer : source.free block s machine = ⟨result, after, machine'⟩) :
    Atomic inv room same s machine ⟨result, after, machine'⟩ := by
  have outcome := fails.free block machine kept
  rwa [answer] at outcome

end Source.FailsAtomically

namespace SystemStore

theorem allocate_atomic (request : Request) (store : SystemStore) (machine : Machine) :
    Atomic (fun _ => True) (fun _ => True) Unchanged store machine
      (SystemStore.source.allocate request store machine) := by
  have outcome := allocate_supplied request store machine
  generalize SystemStore.source.allocate request store machine = reply at outcome ⊢
  cases outcome with
  | refused untouched => exact .refused trivial fun _ => ⟨rfl, untouched⟩
  | granted grants => exact .done trivial

theorem free_atomic (block : Block) (store : SystemStore) (machine : Machine) :
    Atomic (fun _ => True) (fun _ => True) Unchanged store machine
      (SystemStore.source.free block store machine) := by
  have step := free_step block store machine
  generalize SystemStore.source.free block store machine = reply at step ⊢
  cases step with
  | foreign cause => exact .refused trivial fun _ => ⟨rfl, rfl⟩
  | returned tag found => exact .done trivial

end SystemStore

namespace Pages.Span
variable {large : Bool} {size : Nat} {machine after : Machine} {e : String}

theorem mapKind_refused (refused : mapKind large size machine = (.error e, after)) :
    machine.memory.Untouched after.memory := by
  unfold mapKind at refused
  rcases map_cases large size machine.memory with
    ⟨e', memory, asked, untouched⟩ | ⟨base, capacity, origin, memory, asked, _⟩
  · rw [asked] at refused
    cases refused
    exact untouched
  · rw [asked] at refused
    cases refused

-- Where regular pages are the second choice, both attempts have failed.
theorem allocateWithFallback_refused (refused : allocateWithFallback size machine = (.error e, after)) :
    machine.memory.Untouched after.memory := by
  unfold allocateWithFallback at refused
  cases first : allocateLarge size machine with
  | mk answer tried =>
    rw [first] at refused
    cases answer with
    | ok span => cases refused
    | error e' =>
      have second : (tried.debug _).memory.Untouched after.memory := mapKind_refused refused
      exact (mapKind_refused first).trans second

end Pages.Span

namespace PageStore

theorem span_refused {store : PageStore} {size : Nat} {machine after : Machine} {e : String}
    (refused : store.span size machine = (.error e, after)) :
    machine.memory.Untouched after.memory := by
  unfold span at refused
  split at refused
  · exact Pages.Span.allocateWithFallback_refused refused
  · exact Pages.Span.mapKind_refused refused

theorem allocate_atomic (request : Request) (store : PageStore) (machine : Machine) :
    Atomic (fun _ => True) (fun _ => True) Unchanged store machine
      (PageStore.source.allocate request store machine) := by
  have step := allocate_step request store machine
  generalize PageStore.source.allocate request store machine = reply at step ⊢
  cases step with
  | unaligned large => exact .refused trivial fun _ => ⟨rfl, rfl⟩
  | exhausted small spanned => exact .refused trivial fun _ => ⟨rfl, span_refused spanned⟩
  | mapped small spanned => exact .done trivial

theorem free_atomic (block : Block) (store : PageStore) (machine : Machine) :
    Atomic (fun _ => True) (fun _ => True) Unchanged store machine
      (PageStore.source.free block store machine) := by
  have step := free_step block store machine
  generalize PageStore.source.free block store machine = reply at step ⊢
  cases step with
  | foreign cause => exact .refused trivial fun _ => ⟨rfl, rfl⟩
  | unmapped tag found => exact .done trivial

end PageStore

theorem Bottom.fails_atomically :
    Bottom.source.FailsAtomically (fun _ => True) (fun _ => True) Unchanged Unchanged where
  allocate {bottom} request machine _ := by
    cases bottom with
    | system store =>
      exact (store.allocate_atomic request machine).mapState (fun _ kept => kept) id
        fun _ same => congrArg Bottom.system same
    | pages store =>
      exact (store.allocate_atomic request machine).mapState (fun _ kept => kept) id
        fun _ same => congrArg Bottom.pages same
  free {bottom} block machine _ := by
    cases bottom with
    | system store =>
      exact (store.free_atomic block machine).mapState (fun _ kept => kept) id
        fun _ same => congrArg Bottom.system same
    | pages store =>
      exact (store.free_atomic block machine).mapState (fun _ kept => kept) id
        fun _ same => congrArg Bottom.pages same

end LayeredAllocation
