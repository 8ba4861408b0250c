import LayeredAllocation.Proofs.Atomicity
import LayeredAllocation.Proofs.Steps.Arena
import LayeredAllocation.Proofs.Steps.Hybrid
import LayeredAllocation.Proofs.Steps.Passing
import LayeredAllocation.Proofs.Steps.Pool
import LayeredAllocation.Proofs.Steps.Slab

namespace LayeredAllocation

namespace Tracker

theorem writeReport_records (tracker : Tracker) (report : Leak.Report) :
    (tracker.writeReport report).2.records = tracker.records := by
  unfold writeReport
  split
  · rfl
  · split <;> rfl

theorem dispose_records (tracker : Tracker) (machine : Machine) :
    (tracker.dispose machine).2.1.records = tracker.records := by
  unfold dispose
  split
  · rfl
  · unfold reportLeaks
    dsimp only
    split
    · rfl
    · split
      · rfl
      · rfl
      · exact writeReport_records _ _

end Tracker

namespace Layer

def Keyed : Layer → Prop
  | .pool inner => inner.outstanding.Keyed (·.backing.address)
  | .tracker inner => inner.records.Keyed (·.address)
  | _ => True

-- An arena gives a chunk back that it cannot number, and the source beneath has changed by then.
def BelowLimit : Layer → Prop
  | .arena inner => inner.chunks.length < Arena.chunkLimit
  | _ => True

inductive Same : Layer → Layer → Prop where
  | same {layer : Layer} : Same layer layer
  | seen {probe other : Probe} : Same (.probe probe) (.probe other)

-- A layer that passed a request on which was refused beneath.
inductive Passed : Layer → Layer → Prop where
  | same {layer other : Layer} (same : Same layer other) : Passed layer other
  | missed {pool : Pool} : Passed (.pool pool) (.pool { pool with misses := pool.misses + 1 })

def Kept (inv : σ → Prop) (state : Layer × σ) : Prop := state.1.Keyed ∧ inv state.2

def Limited (room : σ → Prop) (state : Layer × σ) : Prop := state.1.BelowLimit ∧ room state.2

-- What a refusal leaves of a layer on a source. Either the layer refused and the source was not
-- asked, or the call passed through the layer and was refused beneath it.
def LeftBy (through : Layer → Layer → Prop) (beneath : σ → σ → Prop) (before after : Layer × σ) :
    Prop :=
  (Same before.1 after.1 ∧ after.2 = before.2) ∨
    (through before.1 after.1 ∧ beneath before.2 after.2)

section
variable {inv room : σ → Prop} {through : Layer → Layer → Prop} {left : σ → σ → Prop}
  {layer other : Layer} {s after : σ} {machine machine' : Machine} {error : Error}

theorem alone (keyed : layer.Keyed) (kept : inv s) (memory : machine'.memory = machine.memory) :
    Atomic (Kept inv) (Limited room) (LeftBy through left) (layer, s) machine
      (⟨.error (.refused error), (layer, s), machine'⟩ : Reply _ α) := by
  refine .refused ⟨keyed, kept⟩ fun _ => ⟨Or.inl ⟨.same, rfl⟩, ?_⟩
  rw [memory]
  rfl

theorem passedThrough {fault : Fault}
    (outcome : Atomic inv room left s machine (⟨.error fault, after, machine'⟩ : Reply _ β))
    (passed : through layer other) (keyed : other.Keyed) :
    Atomic (Kept inv) (Limited room) (LeftBy through left) (layer, s) machine
      (⟨.error fault, (other, after), machine'⟩ : Reply _ α) := by
  cases outcome with
  | refused kept undone =>
    refine .refused ⟨keyed, kept⟩ fun hasRoom => ?_
    obtain ⟨left, untouched⟩ := undone hasRoom.2
    exact ⟨Or.inr ⟨passed, left⟩, untouched⟩
  | panicked kept => exact .panicked ⟨keyed, kept⟩

end

section
variable {source : Source σ} {inv room : σ → Prop} {passed same : σ → σ → Prop} {s : σ}
  {machine : Machine}

theorem arena_allocate (below : source.FailsAtomically inv room passed same) (request : Request)
    (arena : Arena) (kept : inv s) :
    Atomic (Kept inv) (Limited room) (LeftBy Passed passed) (.arena arena, s) machine
      ((Arena.allocate source request (arena, s) machine).mapState (lift .arena)) := by
  have step := Arena.allocate_step source request arena s machine
  generalize Arena.allocate source request (arena, s) machine = reply at step ⊢
  cases step with
  | fitted fits => exact .done ⟨trivial, kept⟩
  | unaskable full asked => exact alone trivial kept rfl
  | failed grows answer =>
    exact passedThrough (below.allocated kept answer) (.same .same) trivial
  | grew grows answer few => exact .done ⟨trivial, (below.allocated kept answer).kept⟩
  | @limited chunkRequest chunk after left machine' last answered fault grows answer many freed why =>
    have acquired : inv after := (below.allocated kept answer).kept
    have kept : inv left := (below.freed acquired freed).kept
    -- The limit is reached, so there is nothing to show of a refusal.
    cases fault with
    | refused error => exact .refused ⟨trivial, kept⟩ fun hasRoom => absurd hasRoom.1 many
    | panicked message => exact .panicked ⟨trivial, kept⟩

theorem pool_allocate (below : source.FailsAtomically inv room passed same) (request : Request)
    (pool : Pool) (keyed : (Layer.pool pool).Keyed) (kept : inv s) :
    Atomic (Kept inv) (Limited room) (LeftBy Passed passed) (.pool pool, s) machine
      ((Pool.allocate source request (pool, s) machine).mapState (lift .pool)) := by
  have step := Pool.allocate_step source request pool s machine
  generalize Pool.allocate source request (pool, s) machine = reply at step ⊢
  cases step with
  | refused cause => exact alone keyed kept rfl
  | reused large rounded active found => exact .done ⟨keyed.insert ⟨_, some _⟩, kept⟩
  | @obtained asking wider bucket shape backing after machine' asks answer =>
    have kept : inv after := (below.allocated kept answer).kept
    cases asks with
    | bypass small active => exact .done ⟨keyed.insert ⟨_, none⟩, kept⟩
    | miss large rounded active absent => exact .done ⟨keyed.insert ⟨_, some _⟩, kept⟩
  | failed asks answer =>
    have outcome := below.allocated kept answer
    refine passedThrough outcome ?_ ?_
    · cases asks with
      | bypass small active => exact .same .same
      | miss large rounded active absent => exact .missed
    · rw [asks.counted]
      exact keyed

theorem pool_free (below : source.FailsAtomically inv room passed same) (block : Block) (pool : Pool)
    (keyed : (Layer.pool pool).Keyed) (kept : inv s) :
    Atomic (Kept inv) (Limited room) (LeftBy Same same) (.pool pool, s) machine
      ((Pool.free source block (pool, s) machine).mapState (lift .pool)) := by
  have erased : (pool.outstanding.erase block.address).Keyed fun issued => issued.backing.address :=
    Table.Keyed.erase keyed block.address
  have step := Pool.free_step source block pool s machine
  generalize Pool.free source block (pool, s) machine = reply at step ⊢
  cases step with
  | foreign cause => exact alone keyed kept rfl
  | retained own found filed active allowed => exact .done ⟨erased, kept⟩
  | released handsOn answer => exact .done ⟨erased, (below.freed kept answer).kept⟩
  | @restored issued error after machine' handsOn answer =>
    have restored : (pool.outstanding.erase block.address).insert issued.backing.address issued =
        pool.outstanding := Table.Keyed.restore keyed handsOn.found
    rw [restored]
    exact passedThrough (below.freed kept answer) .same keyed
  | lost handsOn answer => exact .panicked ⟨erased, (below.freed kept answer).kept⟩

theorem slab_allocate (below : source.FailsAtomically inv room passed same) (request : Request)
    (slab : Slab) (kept : inv s) :
    Atomic (Kept inv) (Limited room) (LeftBy Passed passed) (.slab slab, s) machine
      ((Slab.allocate source request (slab, s) machine).mapState (lift .slab)) := by
  have step := Slab.allocate_step source request slab s machine
  generalize Slab.allocate source request (slab, s) machine = reply at step ⊢
  cases step with
  | passed large answer => exact .done ⟨trivial, (below.allocated kept answer).kept⟩
  | passFailed large answer =>
    exact passedThrough (below.allocated kept answer) (.same .same) trivial
  | took fits running taken => exact .done ⟨trivial, kept⟩
  | grew grows asked answer usable =>
    exact .done ⟨trivial, (below.allocated kept answer).kept⟩
  | growFailed grows asked answer =>
    exact passedThrough (below.allocated kept answer) (.same .same) trivial
  | burst grows asked answer unusable =>
    exact .panicked ⟨trivial, (below.allocated kept answer).kept⟩
  | unaskable grows asked => exact alone trivial kept rfl
  | stuck fits cause => exact .panicked ⟨trivial, kept⟩

theorem slab_free (below : source.FailsAtomically inv room passed same) (block : Block) (slab : Slab)
    (kept : inv s) :
    Atomic (Kept inv) (Limited room) (LeftBy Same same) (.slab slab, s) machine
      ((Slab.free source block (slab, s) machine).mapState (lift .slab)) := by
  have step := Slab.free_step source block slab s machine
  generalize Slab.free source block (slab, s) machine = reply at step ⊢
  cases step with
  | foreign tag other => exact alone trivial kept rfl
  | interrupted tag interrupted => exact .panicked ⟨trivial, kept⟩
  | put tag running accepted => exact .done ⟨trivial, kept⟩
  | refused tag running rejected => exact alone trivial kept rfl
  | passed unsliced answer => exact .done ⟨trivial, (below.freed kept answer).kept⟩
  | passFailed unsliced answer =>
    exact passedThrough (below.freed kept answer) .same trivial

theorem hybrid_allocate (below : source.FailsAtomically inv room passed same) (request : Request)
    (hybrid : Hybrid) (kept : inv s) :
    Atomic (Kept inv) (Limited room) (LeftBy Passed passed) (.hybrid hybrid, s) machine
      ((Hybrid.allocate source request (hybrid, s) machine).mapState (lift .hybrid)) := by
  have step := Hybrid.allocate_step source request hybrid s machine
  generalize Hybrid.allocate source request (hybrid, s) machine = reply at step ⊢
  cases step with
  -- A block that cannot be pinned ends in a panic.
  | overflowed pins large => exact .panicked ⟨trivial, kept⟩
  | exhausted pins small placed => exact .panicked ⟨trivial, kept⟩
  | pinned pins small placed => exact .done ⟨trivial, kept⟩
  | passed moves answer => exact .done ⟨trivial, (below.allocated kept answer).kept⟩
  | passFailed moves answer =>
    exact passedThrough (below.allocated kept answer) (.same .same) trivial

theorem hybrid_free (below : source.FailsAtomically inv room passed same) (block : Block)
    (hybrid : Hybrid) (kept : inv s) :
    Atomic (Kept inv) (Limited room) (LeftBy Same same) (.hybrid hybrid, s) machine
      ((Hybrid.free source block (hybrid, s) machine).mapState (lift .hybrid)) := by
  have step := Hybrid.free_step source block hybrid s machine
  generalize Hybrid.free source block (hybrid, s) machine = reply at step ⊢
  cases step with
  | foreign tag other => exact alone trivial kept rfl
  | doubled tag absent => exact alone trivial kept rfl
  | misplaced tag found elsewhere => exact alone trivial kept rfl
  | unpinned tag found here => exact .done ⟨trivial, kept⟩
  | passed unpinned answer => exact .done ⟨trivial, (below.freed kept answer).kept⟩
  | passFailed unpinned answer =>
    exact passedThrough (below.freed kept answer) .same trivial

theorem tracker_allocate (below : source.FailsAtomically inv room passed same) (request : Request)
    (tracker : Tracker) (keyed : (Layer.tracker tracker).Keyed) (kept : inv s) :
    Atomic (Kept inv) (Limited room) (LeftBy Passed passed) (.tracker tracker, s) machine
      ((Tracker.allocate source request (tracker, s) machine).mapState (lift .tracker)) := by
  have step := Tracker.allocate_step source request tracker s machine
  generalize Tracker.allocate source request (tracker, s) machine = reply at step ⊢
  cases step with
  | refused disposed => exact alone keyed kept rfl
  | @recorded block after machine' active answer =>
    exact .done ⟨keyed.insert ⟨block.address, request.size, request.site, _⟩,
      (below.allocated kept answer).kept⟩
  | failed active answer =>
    exact passedThrough (below.allocated kept answer) (.same .same) keyed

theorem tracker_free (below : source.FailsAtomically inv room passed same) (block : Block)
    (tracker : Tracker) (keyed : (Layer.tracker tracker).Keyed) (kept : inv s) :
    Atomic (Kept inv) (Limited room) (LeftBy Same same) (.tracker tracker, s) machine
      ((Tracker.free source block (tracker, s) machine).mapState (lift .tracker)) := by
  have erased : (tracker.records.erase block.address).Keyed Leak.Record.address :=
    Table.Keyed.erase keyed block.address
  have step := Tracker.free_step source block tracker s machine
  generalize Tracker.free source block (tracker, s) machine = reply at step ⊢
  cases step with
  | untracked absent => exact alone keyed kept rfl
  | dropped found keeps => exact .done ⟨erased, kept⟩
  | released found releases answer =>
    exact .done ⟨erased, (below.freed kept answer).kept⟩
  | @restored record error after machine' found releases answer =>
    have restored : (tracker.records.erase block.address).insert record.address record =
        tracker.records := Table.Keyed.restore keyed found
    rw [restored]
    exact passedThrough (below.freed kept answer) .same keyed
  | lost found releases answer =>
    exact .panicked ⟨erased, (below.freed kept answer).kept⟩

theorem probe_allocate (below : source.FailsAtomically inv room passed same) (request : Request)
    (probe : Probe) (kept : inv s) :
    Atomic (Kept inv) (Limited room) (LeftBy Passed passed) (.probe probe, s) machine
      ((Probe.allocate source request (probe, s) machine).mapState (lift .probe)) := by
  have step := Probe.allocate_step source request probe s machine
  generalize Probe.allocate source request (probe, s) machine = reply at step ⊢
  cases step with
  | injected sees => exact .refused ⟨trivial, kept⟩ fun _ => ⟨Or.inl ⟨.seen, rfl⟩, rfl⟩
  | @passed after result left machine' sees answer =>
    have outcome := below.allocated kept answer
    cases result with
    | ok block => exact .done ⟨trivial, outcome.kept⟩
    | error fault => exact passedThrough outcome (.same .seen) trivial

theorem probe_free (below : source.FailsAtomically inv room passed same) (block : Block)
    (probe : Probe) (kept : inv s) :
    Atomic (Kept inv) (Limited room) (LeftBy Same same) (.probe probe, s) machine
      ((Probe.free source block (probe, s) machine).mapState (lift .probe)) := by
  have step := Probe.free_step source block probe s machine
  generalize Probe.free source block (probe, s) machine = reply at step ⊢
  cases step with
  | injected sees => exact .refused ⟨trivial, kept⟩ fun _ => ⟨Or.inl ⟨.seen, rfl⟩, rfl⟩
  | @passed after result left machine' sees answer =>
    have outcome := below.freed kept answer
    cases result with
    | ok value => exact .done ⟨trivial, outcome.kept⟩
    | error fault => exact passedThrough outcome .seen trivial

theorem fails_atomically (below : source.FailsAtomically inv room passed same) :
    (Layer.source source).FailsAtomically (Kept inv) (Limited room) (LeftBy Passed passed)
      (LeftBy Same same) where
  allocate {state} request machine kept := by
    obtain ⟨layer, s⟩ := state
    obtain ⟨keyed, kept⟩ := kept
    cases layer with
    | arena inner => exact arena_allocate below request inner kept
    | pool inner => exact pool_allocate below request inner keyed kept
    | slab inner => exact slab_allocate below request inner kept
    | hybrid inner => exact hybrid_allocate below request inner kept
    | tracker inner => exact tracker_allocate below request inner keyed kept
    | probe inner => exact probe_allocate below request inner kept
  free {state} block machine kept := by
    obtain ⟨layer, s⟩ := state
    obtain ⟨keyed, kept⟩ := kept
    cases layer with
    | arena inner => exact alone trivial kept rfl
    | pool inner => exact pool_free below block inner keyed kept
    | slab inner => exact slab_free below block inner kept
    | hybrid inner => exact hybrid_free below block inner kept
    | tracker inner => exact tracker_free below block inner keyed kept
    | probe inner => exact probe_free below block inner kept

theorem releaseAll_kept (below : source.FailsAtomically inv room passed same) (blocks : List Block)
    (first : Option Error) (pool : Pool) (keyed : (Layer.pool pool).Keyed) (kept : inv s) :
    Kept inv (lift .pool (Pool.releaseAll source first blocks pool s machine).state) := by
  induction blocks generalizing first pool s machine with
  | nil =>
    unfold Pool.releaseAll
    split
    · exact ⟨keyed, kept⟩
    · exact ⟨keyed, kept⟩
  | cons block rest ih =>
    unfold Pool.releaseAll
    have outcome := below.free block machine kept
    generalize source.free block s machine = reply at outcome ⊢
    cases outcome with
    | done kept => exact ih first { pool with held := _ } keyed kept
    | refused kept _ => exact ih _ pool keyed kept
    | panicked kept => exact ⟨keyed, kept⟩

theorem trim_kept (below : source.FailsAtomically inv room passed same) {state : Layer × σ}
    (kept : Kept inv state) : Kept inv (trim source state machine).state := by
  obtain ⟨layer, s⟩ := state
  cases layer with
  | pool inner => exact releaseAll_kept below inner.idleBlocks none inner.emptied kept.1 kept.2
  | arena inner => exact kept
  | slab inner => exact kept
  | hybrid inner => exact kept
  | tracker inner => exact kept
  | probe inner => exact kept

theorem dispose_kept (below : source.FailsAtomically inv room passed same) {state : Layer × σ}
    (kept : Kept inv state) : Kept inv (dispose source state machine).state := by
  obtain ⟨layer, s⟩ := state
  cases layer with
  | pool inner =>
    exact releaseAll_kept below inner.idleBlocks none { inner.emptied with disposed := true } kept.1
      kept.2
  | tracker inner =>
    have same := inner.dispose_records machine
    obtain ⟨keyed, kept⟩ := kept
    change Kept inv (reported s (inner.dispose machine)).state
    generalize inner.dispose machine = outcome at same ⊢
    obtain ⟨answer, after, machine'⟩ := outcome
    have keyed : after.records.Keyed Leak.Record.address := same ▸ keyed
    cases answer with
    | ok report => exact ⟨keyed, kept⟩
    | error e => exact ⟨keyed, kept⟩
  | arena inner => exact kept
  | slab inner => exact kept
  | hybrid inner => exact kept
  | probe inner => exact kept

theorem perform_kept (below : source.FailsAtomically inv room passed same) (call : Call)
    {state : Layer × σ} (kept : Kept inv state) :
    Kept inv (perform source call state machine).state := by
  cases call with
  | allocate request => exact ((fails_atomically below).allocate request machine kept).kept
  | free block => exact ((fails_atomically below).free block machine kept).kept
  | trim => exact trim_kept below kept
  | dispose => exact dispose_kept below kept

end

theorem Made.keyed {layer : Layer} (made : layer.Made) : layer.Keyed := by
  cases made with
  | pool accepted => exact Table.Keyed.empty
  | largeBlock accepted => exact Table.Keyed.empty
  | tracker => exact Table.Keyed.empty
  | arena accepted => trivial
  | slab accepted => trivial
  | hybrid => trivial
  | probe => trivial

end Layer

namespace Stack

def Keyed : {height : Nat} → Stack height → Prop
  | 0, _ => True
  | _ + 1, stack => Layer.Kept Keyed stack

def BelowLimit : {height : Nat} → Stack height → Prop
  | 0, _ => True
  | _ + 1, stack => Layer.Limited BelowLimit stack

def LeftBy (through : Layer → Layer → Prop) : {height : Nat} → Stack height → Stack height → Prop
  | 0, before, after => after = before
  | _ + 1, before, after => Layer.LeftBy through (LeftBy through) before after

def Same : {height : Nat} → Stack height → Stack height → Prop
  | 0, before, after => after = before
  | _ + 1, before, after => Layer.Same before.1 after.1 ∧ Same before.2 after.2

theorem Same.refl : {height : Nat} → (stack : Stack height) → Same stack stack
  | 0, _ => rfl
  | _ + 1, (_, beneath) => ⟨.same, Same.refl beneath⟩

theorem LeftBy.same : {height : Nat} → {before after : Stack height} →
    LeftBy Layer.Same before after → Same before after
  | 0, _, _, left => left
  | _ + 1, _, _, .inl ⟨same, unchanged⟩ => ⟨same, unchanged ▸ Same.refl _⟩
  | _ + 1, _, _, .inr ⟨same, left⟩ => ⟨same, left.same⟩

theorem fails_atomically : (height : Nat) →
    (source height).FailsAtomically Keyed BelowLimit (LeftBy Layer.Passed) (LeftBy Layer.Same)
  | 0 => Bottom.fails_atomically
  | height + 1 => Layer.fails_atomically (fails_atomically height)

def performAt : {height : Nat} → Nat → Call → Stack height → Machine →
    Reply (Stack height) (Option Block)
  | 0, _, call, stack, machine => perform call stack machine
  | _ + 1, 0, call, stack, machine => perform call stack machine
  | _ + 1, depth + 1, call, (layer, beneath), machine =>
    (performAt depth call beneath machine).mapState fun beneath => (layer, beneath)

-- The states that a stack can reach, whoever calls which of its layers, and whatever the machine
-- has gone through in between.
inductive Reached {height : Nat} (start : Stack height) : Stack height → Prop where
  | start : Reached start start
  | call {stack : Stack height} (depth : Nat) (call : Call) (machine : Machine) :
      Reached start stack → Reached start (performAt depth call stack machine).state

theorem performAt_keyed : {height : Nat} → (depth : Nat) → (call : Call) → {stack : Stack height} →
    (machine : Machine) → stack.Keyed → (performAt depth call stack machine).state.Keyed
  | 0, _, _, _, _, _ => trivial
  | height + 1, 0, call, _, _, kept => Layer.perform_kept (fails_atomically height) call kept
  | _ + 1, depth + 1, call, (_, _), machine, kept => ⟨kept.1, performAt_keyed depth call machine kept.2⟩

theorem Made.keyed : {height : Nat} → {stack : Stack height} → stack.Made → stack.Keyed
  | 0, _, _ => trivial
  | _ + 1, (_, _), made => ⟨made.1.keyed, made.2.keyed⟩

theorem Reached.keyed {height : Nat} {start stack : Stack height} (made : start.Made)
    (reached : Reached start stack) : stack.Keyed := by
  induction reached with
  | start => exact made.keyed
  | call depth call machine _ ih => exact performAt_keyed depth call machine ih

-- What a client does on top of a stack leads to such states only.
theorem reached_of_run {height : Nat} {start stack : Stack height} {origin machine : Machine}
    {past : List Event} {rule : Rule (Stack height)}
    (run : Run perform rule start origin past stack machine) : Reached start stack := by
  induction run with
  | start => exact .start
  | @call _ call _ machine _ _ ih =>
    cases height with
    | zero => exact .call 0 call machine ih
    | succ height => exact .call 0 call machine ih

-- Failure is atomic at every level of a stack.
theorem refused_calls_undone {height : Nat} {start stack : Stack height} (made : start.Made)
    (reached : Reached start stack) (limit : stack.BelowLimit) (machine : Machine) :
    (∀ request error,
      ((source height).allocate request stack machine).result = .error (.refused error) →
      LeftBy Layer.Passed stack ((source height).allocate request stack machine).state ∧
      machine.memory.Untouched ((source height).allocate request stack machine).machine.memory) ∧
    ∀ block error,
      ((source height).free block stack machine).result = .error (.refused error) →
      Same stack ((source height).free block stack machine).state ∧
      machine.memory.Untouched ((source height).free block stack machine).machine.memory := by
  have keyed := reached.keyed made
  constructor
  · intro request error refused
    exact ((fails_atomically height).allocate request machine keyed).undone refused limit
  · intro block error refused
    obtain ⟨left, untouched⟩ :=
      ((fails_atomically height).free block machine keyed).undone refused limit
    exact ⟨left.same, untouched⟩

def probedPool : Stack 2 :=
  (.pool { owner := 1, name := "pool", config := { maxRetained := some 0 } },
    .probe { freePlan := .after 0 1 }, .system (.withBudget 64))

def probedPoolInUse : List Event × Stack 2 × Machine :=
  played perform probedPool ⟨{ platform := .ascending }, []⟩
    [.allocate ⟨48, 8, false, 1, 48, Site.internal⟩]

def beyondBudget : Reply (Stack 2) Block :=
  (source 2).allocate ⟨32, 8, false, 1, 32, Site.internal⟩ probedPoolInUse.2.1 probedPoolInUse.2.2

def refusedBeneath : Reply (Stack 2) Unit :=
  (source 2).free ⟨Platform.floor, 48, 8, .pool 1 48⟩ probedPoolInUse.2.1 probedPoolInUse.2.2

theorem refused_calls_undone_probedPool :
    (beyondBudget.result = .error (.refused (.outOfMemory 32 "allocation budget exhausted")) ∧
      LeftBy Layer.Passed probedPoolInUse.2.1 beyondBudget.state ∧
      probedPoolInUse.2.2.memory.Untouched beyondBudget.machine.memory) ∧
    refusedBeneath.result = .error (.refused (.invalidOperation Probe.injected)) ∧
      Same probedPoolInUse.2.1 refusedBeneath.state ∧
      probedPoolInUse.2.2.memory.Untouched refusedBeneath.machine.memory := by
  have made : probedPool.Made := ⟨.pool rfl, .probe, .budgeted⟩
  have run : Run perform (fun _ _ _ => True) probedPool ⟨{ platform := .ascending }, []⟩
      probedPoolInUse.1 probedPoolInUse.2.1 probedPoolInUse.2.2 := .played ⟨trivial, trivial⟩
  have undone := refused_calls_undone made (reached_of_run run) ⟨trivial, trivial, trivial⟩
    probedPoolInUse.2.2
  have exhausted :
      beyondBudget.result = .error (.refused (.outOfMemory 32 "allocation budget exhausted")) := rfl
  have injected : refusedBeneath.result = .error (.refused (.invalidOperation Probe.injected)) := rfl
  exact ⟨⟨exhausted, undone.1 _ _ exhausted⟩, injected, undone.2 _ _ injected⟩

end Stack

end LayeredAllocation
