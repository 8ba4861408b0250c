import LayeredAllocation.Proofs.Contract.Arena
import LayeredAllocation.Proofs.Contract.Bottom
import LayeredAllocation.Proofs.Contract.Hybrid
import LayeredAllocation.Proofs.Contract.Passing
import LayeredAllocation.Proofs.Contract.Pool
import LayeredAllocation.Proofs.Contract.Slab

namespace LayeredAllocation

inductive Performed (inv : Invariant σ) (frame : List Extent) (live : List Block) :
    Call → Reply σ (Option Block) → Prop where
  | issued {request : Request} {block : Block} {state : σ} {machine : Machine} {owned : List Extent}
      (owns : machine.memory.Owns (frame ++ owned)) (size : block.size = request.size)
      (align : block.align = request.align) (kept : inv state (block :: live) owned) :
      Performed inv frame live (.allocate request) ⟨.ok (some block), state, machine⟩
  | taken {block : Block} {state : σ} {machine : Machine} {owned : List Extent}
      (owns : machine.memory.Owns (frame ++ owned)) (kept : inv state (block.others live) owned) :
      Performed inv frame live (.free block) ⟨.ok none, state, machine⟩
  | trimmed {state : σ} {machine : Machine} {owned : List Extent}
      (owns : machine.memory.Owns (frame ++ owned)) (kept : inv state live owned) :
      Performed inv frame live .trim ⟨.ok none, state, machine⟩
  | disposed {state : σ} {machine : Machine} {owned : List Extent}
      (owns : machine.memory.Owns (frame ++ owned)) (kept : inv state live owned) :
      Performed inv frame live .dispose ⟨.ok none, state, machine⟩
  | failed {call : Call} {fault : Fault} {state : σ} {machine : Machine} {owned : List Extent}
      (owns : machine.memory.Owns (frame ++ owned)) (kept : inv state live owned) :
      Performed inv frame live call ⟨.error fault, state, machine⟩

-- What a client owes the source it calls: proper requests while there is room, and no block but
-- its own.
def Owed (room : σ → Prop) (live : List Block) (state : σ) : Call → Prop
  | .allocate request => request.Proper ∧ room state
  | .free block => block ∈ live
  | .trim | .dispose => True

section
variable {inv : Invariant σ} {frame : List Extent} {live : List Block}

theorem Allocated.performed {request : Request} {reply : Reply σ Block}
    (outcome : Allocated inv frame live request reply) :
    Performed inv frame live (.allocate request) (reply.map some) := by
  cases outcome with
  | issued owns size align kept => exact .issued owns size align kept
  | failed owns kept => exact .failed owns kept

theorem Freed.performed {block : Block} {reply : Reply σ Unit}
    (outcome : Freed inv frame live (block.others live) reply) :
    Performed inv frame live (.free block) (reply.map fun _ => none) := by
  cases outcome with
  | taken owns kept => exact .taken owns kept
  | failed owns kept => exact .failed owns kept

theorem Freed.trimmed {reply : Reply σ Unit} (outcome : Freed inv frame live live reply) :
    Performed inv frame live .trim (reply.map fun _ => none) := by
  cases outcome with
  | taken owns kept => exact .trimmed owns kept
  | failed owns kept => exact .failed owns kept

theorem Freed.disposed {reply : Reply σ Unit} (outcome : Freed inv frame live live reply) :
    Performed inv frame live .dispose (reply.map fun _ => none) := by
  cases outcome with
  | taken owns kept => exact .disposed owns kept
  | failed owns kept => exact .failed owns kept

end

theorem Tracker.reportLeaks_memory (tracker : Tracker) (machine : Machine) :
    (tracker.reportLeaks machine).2.2.memory = machine.memory := by
  unfold reportLeaks
  dsimp only
  split
  · rfl
  · split
    · rfl
    · dsimp only
      generalize tracker.snapshot.leaks = leaks
      induction leaks generalizing machine with
      | nil => rfl
      | cons leak rest ih => exact (ih _).trans rfl
    · rfl

theorem Tracker.dispose_memory (tracker : Tracker) (machine : Machine) :
    (tracker.dispose machine).2.2.memory = machine.memory := by
  unfold dispose
  split
  · rfl
  · exact reportLeaks_memory _ machine

namespace Layer
variable {source : Source σ} {inv : Invariant σ} {room : σ → Prop}

def Backs (inv : Invariant σ) : Invariant (Layer × σ)
  | (.arena inner, s) => Over inv Arena.Serves (inner, s)
  | (.pool inner, s) => Over inv Pool.Serves (inner, s)
  | (.slab inner, s) => Over inv Slab.Serves (inner, s)
  | (.hybrid inner, s) => Hybrid.Backs inv (inner, s)
  | (.tracker inner, s) => Over inv Tracker.Serves (inner, s)
  | (.probe inner, s) => Over inv Probe.Serves (inner, s)

-- Slabs number their pages in 32 bits, so that is how many they have room for.
def HasRoom (room : σ → Prop) : Layer × σ → Prop
  | (.slab inner, s) => inner.pages.length < 0x1_0000_0000 ∧ room s
  | (_, s) => room s

section
variable {own : Source (α × σ)} {inv' : Invariant (α × σ)} {room' : α × σ → Prop}
  {wrap : α → Layer} {state : α × σ} {machine : Machine} {live : List Block}
  {owned frame : List Extent}

theorem lift_allocate (contract : own.Contract inv' room')
    (carries : ∀ {state live owned}, inv' state live owned → Backs inv (lift wrap state) live owned)
    (state : α × σ) {request : Request} (proper : request.Proper) (hasRoom : room' state)
    (kept : inv' state live owned) (owns : machine.memory.Owns (frame ++ owned)) :
    Allocated (Backs inv) frame live request
      ((own.allocate request state machine).mapState (lift wrap)) :=
  (contract.allocate proper hasRoom kept owns).mapState carries

theorem lift_free (contract : own.Contract inv' room')
    (carries : ∀ {state live owned}, inv' state live owned → Backs inv (lift wrap state) live owned)
    (state : α × σ) {block : Block} (member : block ∈ live) (kept : inv' state live owned)
    (owns : machine.memory.Owns (frame ++ owned)) :
    Freed (Backs inv) frame live (block.others live)
      ((own.free block state machine).mapState (lift wrap)) :=
  (contract.free member kept owns).mapState carries

end

theorem contract (below : source.Contract inv room) :
    (Layer.source source).Contract (Backs inv) (HasRoom room) where
  held {state live owned} kept := by
    obtain ⟨layer, s⟩ := state
    cases layer with
    | arena inner => exact (Arena.contract below).held kept
    | pool inner => exact (Pool.contract below).held kept
    | slab inner => exact (Slab.contract below).held kept
    | hybrid inner => exact (Hybrid.contract below).held kept
    | tracker inner => exact (Tracker.contract below).held kept
    | probe inner => exact (Probe.contract below).held kept
  covered {state live owned} kept := by
    obtain ⟨layer, s⟩ := state
    cases layer with
    | arena inner => exact (Arena.contract below).covered kept
    | pool inner => exact (Pool.contract below).covered kept
    | slab inner => exact (Slab.contract below).covered kept
    | hybrid inner => exact (Hybrid.contract below).covered kept
    | tracker inner => exact (Tracker.contract below).covered kept
    | probe inner => exact (Probe.contract below).covered kept
  allocate {request state machine live owned frame} proper hasRoom kept owns := by
    obtain ⟨layer, s⟩ := state
    cases layer with
    | arena inner => exact lift_allocate (Arena.contract below) id (inner, s) proper hasRoom kept owns
    | pool inner => exact lift_allocate (Pool.contract below) id (inner, s) proper hasRoom kept owns
    | slab inner => exact lift_allocate (Slab.contract below) id (inner, s) proper hasRoom kept owns
    | hybrid inner => exact lift_allocate (Hybrid.contract below) id (inner, s) proper hasRoom kept owns
    | tracker inner =>
      exact lift_allocate (Tracker.contract below) id (inner, s) proper hasRoom kept owns
    | probe inner => exact lift_allocate (Probe.contract below) id (inner, s) proper hasRoom kept owns
  free {block state machine live owned frame} member kept owns := by
    obtain ⟨layer, s⟩ := state
    cases layer with
    | arena inner => exact lift_free (Arena.contract below) id (inner, s) member kept owns
    | pool inner => exact lift_free (Pool.contract below) id (inner, s) member kept owns
    | slab inner => exact lift_free (Slab.contract below) id (inner, s) member kept owns
    | hybrid inner => exact lift_free (Hybrid.contract below) id (inner, s) member kept owns
    | tracker inner => exact lift_free (Tracker.contract below) id (inner, s) member kept owns
    | probe inner => exact lift_free (Probe.contract below) id (inner, s) member kept owns

section
variable {s : σ} {machine : Machine} {live : List Block} {owned frame : List Extent}

theorem pool_emptied (below : source.Contract inv room) {pool : Pool} (disposed : Bool)
    (kept : Over inv Pool.Serves (pool, s) live owned)
    (owns : machine.memory.Owns (frame ++ owned)) :
    Freed (Backs inv) frame live live
      ((Pool.releaseAll source none pool.idleBlocks { pool.emptied with disposed } s machine).mapState
        (lift .pool)) := by
  obtain ⟨beneath, kept, serves⟩ := kept
  exact (Pool.emptied_contract below disposed kept serves owns).mapState id

theorem trim_contract (below : source.Contract inv room) {state : Layer × σ}
    (kept : Backs inv state live owned) (owns : machine.memory.Owns (frame ++ owned)) :
    Freed (Backs inv) frame live live (trim source state machine) := by
  obtain ⟨layer, s⟩ := state
  cases layer with
  | pool inner => exact pool_emptied below inner.disposed kept owns
  | arena inner => exact .taken owns kept
  | slab inner => exact .taken owns kept
  | hybrid inner => exact .taken owns kept
  | tracker inner => exact .taken owns kept
  | probe inner => exact .taken owns kept

theorem dispose_contract (below : source.Contract inv room) {state : Layer × σ}
    (kept : Backs inv state live owned) (owns : machine.memory.Owns (frame ++ owned)) :
    Freed (Backs inv) frame live live (dispose source state machine) := by
  obtain ⟨layer, s⟩ := state
  cases layer with
  | pool inner => exact pool_emptied below true kept owns
  | tracker inner =>
    have same := inner.dispose_memory machine
    change Freed _ _ _ _ (reported s (inner.dispose machine))
    generalize inner.dispose machine = outcome at same ⊢
    obtain ⟨answer, after, machine'⟩ := outcome
    have owns : machine'.memory.Owns (frame ++ owned) := same ▸ owns
    cases answer with
    | ok report => exact .taken owns kept
    | error e => exact .failed owns kept
  | arena inner => exact .taken owns kept
  | slab inner => exact .taken owns kept
  | hybrid inner => exact .taken owns kept
  | probe inner => exact .taken owns kept

theorem perform_contract (below : source.Contract inv room) {state : Layer × σ} {call : Call}
    (owed : Owed (HasRoom room) live state call) (kept : Backs inv state live owned)
    (owns : machine.memory.Owns (frame ++ owned)) :
    Performed (Backs inv) frame live call (perform source call state machine) := by
  cases call with
  | allocate request => exact ((contract below).allocate owed.1 owed.2 kept owns).performed
  | free block => exact ((contract below).free owed kept owns).performed
  | trim => exact (trim_contract below kept owns).trimmed
  | dispose => exact (dispose_contract below kept owns).disposed

end

theorem Made.backs {layer : Layer} {s : σ} (made : layer.Made) (kept : inv s [] []) :
    Backs inv (layer, s) [] [] := by
  cases made with
  | arena accepted => exact ⟨[], kept, .nil, by simp, by simp, by simp⟩
  | pool accepted =>
    exact ⟨[], kept, .nil, by simp, by simp, by simp [Pool.idleBlocks], by simp [Table.find?_empty]⟩
  | largeBlock accepted =>
    refine ⟨[], kept, .nil, by simp, ?_, ?_, ?_⟩
    · simp [LargeBlockConfig.pool]
    · simp [LargeBlockConfig.pool, Pool.idleBlocks]
    · simp [LargeBlockConfig.pool, Table.find?_empty]
  | slab accepted =>
    refine ⟨[], kept, .nil, ⟨accepted, ?_, ?_, ?_, ?_⟩, ?_, ?_, by simp⟩
    · simp [Slab.slotSizes, Slab.make, Function.comp_def]
    · simp [Slab.layout, Slab.make]
    · simp [Slab.layout, Slab.make]
    · simp [Slab.layout, Slab.make]
    · simp [Slab.freeSlots_make]
    · simp [Slab.freeSlots_make]
  | hybrid =>
    exact ⟨[], [], [], rfl, kept, .nil, by simp, by simp [Table.find?_empty],
      by simp [Table.find?_empty]⟩
  | tracker => exact ⟨[], kept, .nil, by simp⟩
  | probe => exact ⟨[], kept, .nil, by simp⟩

end Layer

namespace Bottom

theorem perform_contract {bottom : Bottom} {call : Call} {machine : Machine} {live : List Block}
    {owned frame : List Extent} (owed : Owed (fun _ => True) live bottom call)
    (kept : bottom.Backs live owned) (owns : machine.memory.Owns (frame ++ owned)) :
    Performed Backs frame live call (perform call bottom machine) := by
  cases call with
  | allocate request => exact (contract.allocate owed.1 owed.2 kept owns).performed
  | free block => exact (contract.free owed kept owns).performed
  | trim => exact .trimmed owns kept
  | dispose => exact .disposed owns kept

end Bottom

namespace Stack

def Backs : {height : Nat} → Invariant (Stack height)
  | 0 => Bottom.Backs
  | _ + 1 => Layer.Backs Backs

def HasRoom : {height : Nat} → Stack height → Prop
  | 0, _ => True
  | _ + 1, stack => Layer.HasRoom HasRoom stack

theorem contract : (height : Nat) → (source height).Contract Backs HasRoom
  | 0 => Bottom.contract
  | height + 1 => Layer.contract (contract height)

theorem perform_contract : {height : Nat} → {stack : Stack height} → {call : Call} →
    {machine : Machine} → {live : List Block} → {owned frame : List Extent} →
    Owed HasRoom live stack call → Backs stack live owned → machine.memory.Owns (frame ++ owned) →
    Performed Backs frame live call (perform call stack machine)
  | 0, _, _, _, _, _, _, owed, kept, owns => Bottom.perform_contract owed kept owns
  | height + 1, _, _, _, _, _, _, owed, kept, owns =>
    Layer.perform_contract (contract height) owed kept owns

theorem Made.backs : {height : Nat} → {stack : Stack height} → stack.Made → Backs stack [] []
  | 0, _, made => Bottom.Made.backs made
  | _ + 1, _, made => Layer.Made.backs made.1 (Made.backs made.2)

-- A client that makes proper requests, as all valid ones are, while no slab has run out of page
-- numbers, and that frees only what it has.
def Lawful {height : Nat} : Rule (Stack height) := fun past stack call =>
  match call with
  | .allocate request => request.Proper ∧ stack.HasRoom
  | .free block => ∃ g ∈ grants past, g.block = block
  | .trim | .dispose => True

-- A lawful client, except that it may bring back blocks of some sort again and again.
def Forgetful {height : Nat} (sort : Block → Prop) : Rule (Stack height) := fun past stack call =>
  match call with
  | .allocate request => request.Proper ∧ stack.HasRoom
  | .free block => block.Brought sort (outstanding past)
  | .trim | .dispose => True

theorem backed_of_performed {height : Nat} {past : List Event} {call : Call}
    {reply : Reply (Stack height) (Option Block)}
    (outcome : Performed Backs [] (outstanding past) call reply) :
    ∃ owned, reply.state.Backs (outstanding (⟨call, reply.result⟩ :: past)) owned ∧
      reply.machine.memory.Owns owned := by
  cases outcome with
  | issued owns size align kept => exact ⟨_, kept, owns⟩
  | @taken block _ _ owned owns kept =>
    rw [← outstanding_free] at kept
    exact ⟨_, kept, owns⟩
  | trimmed owns kept => exact ⟨_, kept, owns⟩
  | disposed owns kept => exact ⟨_, kept, owns⟩
  | @failed _ fault _ _ owned owns kept =>
    rw [← outstanding_failed call fault past] at kept
    exact ⟨_, kept, owns⟩

structure Standing {height : Nat} (past : List Event) (stack : Stack height) (machine : Machine) :
    Prop where
  backed : ∃ owned, stack.Backs (outstanding past) owned ∧ machine.memory.Owns owned
  fits : ∀ g ∈ grants past, g.block.size = g.request.size ∧ g.block.align = g.request.align

theorem Standing.call {height : Nat} {past : List Event} {stack : Stack height} {machine : Machine}
    {call : Call} (standing : Standing past stack machine) (lawful : Lawful past stack call) :
    Standing (⟨call, (perform call stack machine).result⟩ :: past)
      (perform call stack machine).state (perform call stack machine).machine := by
  obtain ⟨⟨owned, kept, owns⟩, fits⟩ := standing
  have owed : Owed HasRoom (outstanding past) stack call := by
    cases call with
    | allocate request => exact lawful
    | free block => exact List.mem_map.2 lawful
    | trim => trivial
    | dispose => trivial
  have outcome : Performed Backs [] _ _ (perform call stack machine) :=
    perform_contract owed kept owns
  refine ⟨backed_of_performed outcome, ?_⟩
  generalize perform call stack machine = reply at outcome ⊢
  cases outcome with
  | @issued request block _ _ owned owns size align kept =>
    intro g member
    rcases List.mem_cons.1 member with rfl | old
    · exact ⟨size, align⟩
    · exact fits g old
  | taken owns kept => exact fun g member => fits g (List.mem_filter.1 member).1
  | trimmed owns kept => exact fits
  | disposed owns kept => exact fits
  | @failed _ fault _ _ owned owns kept =>
    rw [grants_failed]
    exact fits

theorem Standing.run {height : Nat} {start stack : Stack height} {origin machine : Machine}
    {past : List Event} (made : start.Made) (sound : origin.memory.platform.Sound)
    (run : Run perform Lawful start origin past stack machine) : Standing past stack machine := by
  induction run with
  | start => exact ⟨⟨[], made.backs, sound, by simp, .nil⟩, by simp [grants]⟩
  | call _ lawful ih => exact ih.call lawful

-- The contract of every stack, also when the platform or a probe fails any of the calls.
theorem grants_hold {height : Nat} {start stack : Stack height} {origin machine : Machine}
    {past : List Event} (made : start.Made) (sound : origin.memory.platform.Sound)
    (run : Run perform Lawful start origin past stack machine) :
    (∀ g ∈ grants past, g.block.size = g.request.size ∧ g.block.align = g.request.align ∧
      g.block.align ∣ g.block.address ∧
      ∃ root ∈ machine.memory.roots, root.live = true ∧ g.block.extent.Within root.extent) ∧
    (grants past).Pairwise (fun a b => a.block.extent.Disjoint b.block.extent) := by
  obtain ⟨⟨owned, kept, owns⟩, fits⟩ := Standing.run made sound run
  have held := (contract height).held kept
  refine ⟨?_, (List.pairwise_map (f := Grant.block)).1 held.apart⟩
  intro g member
  have listed : g.block ∈ outstanding past := List.mem_map.2 ⟨g, member, rfl⟩
  obtain ⟨e, own, within⟩ := (contract height).covered kept g.block listed
  obtain ⟨_, root, found, live, rfl⟩ := owns.live e own
  exact ⟨(fits g member).1, (fits g member).2, (held.proper g.block listed).aligned, root, found, live,
    within⟩

def pooledSlab : Stack 2 :=
  (.pool { owner := 2, name := "pool", config := {} }, .slab (.make 1 {}), .system {})

def pooledTwice : List Event × Stack 2 × Machine :=
  played perform pooledSlab ⟨{ platform := .ascending }, []⟩
    [.allocate ⟨24, 8, false, 1, 24, Site.internal⟩, .allocate ⟨24, 8, false, 1, 24, Site.internal⟩]

theorem grants_hold_pooledTwice :
    (grants pooledTwice.1).length = 2 ∧
    (∀ g ∈ grants pooledTwice.1, g.block.size = g.request.size ∧ g.block.align = g.request.align ∧
      g.block.align ∣ g.block.address ∧
      ∃ root ∈ pooledTwice.2.2.memory.roots, root.live = true ∧ g.block.extent.Within root.extent) ∧
    (grants pooledTwice.1).Pairwise (fun a b => a.block.extent.Disjoint b.block.extent) := by
  have made : pooledSlab.Made := ⟨.pool rfl, .slab rfl, .system⟩
  refine ⟨by decide +kernel, grants_hold made Platform.ascending_sound (.played ?_)⟩
  refine ⟨⟨trivial, ?_, ?_⟩, ?_, ?_⟩
  · decide
  · exact ⟨by decide, trivial⟩
  · decide
  · exact ⟨by decide +kernel, trivial⟩

end Stack

end LayeredAllocation
