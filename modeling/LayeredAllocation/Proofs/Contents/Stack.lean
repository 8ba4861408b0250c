import LayeredAllocation.Proofs.Contents.Layers
import LayeredAllocation.Proofs.Contract.Stack

namespace LayeredAllocation

theorem Layer.lift_filled {own : Source (α × σ)} {inv : Invariant (α × σ)} {room : α × σ → Prop}
    {wrap : α → Layer} {machine : Machine} {live : List Block} {owned frame : List Extent}
    (careful : own.Careful inv room) (state : α × σ) {request : Request} (proper : request.Proper)
    (hasRoom : room state) (kept : inv state live owned) (owns : machine.memory.Owns (frame ++ owned)) :
    Filled (guarded frame live) request machine.memory
      ((own.allocate request state machine).mapState (lift wrap)) :=
  (careful.allocate proper hasRoom kept owns).mapState

theorem Layer.careful {below : Source σ} {inv : Invariant σ} {room : σ → Prop}
    (contract : below.Contract inv room) (careful : below.Careful inv room) :
    (Layer.source below).Careful (Backs inv) (HasRoom room) where
  allocate {request state machine live owned frame} proper hasRoom kept owns := by
    obtain ⟨layer, s⟩ := state
    cases layer with
    | arena inner => exact lift_filled (Arena.careful contract careful) (inner, s) proper hasRoom kept owns
    | pool inner => exact lift_filled (Pool.careful contract careful) (inner, s) proper hasRoom kept owns
    | slab inner => exact lift_filled (Slab.careful contract careful) (inner, s) proper hasRoom kept owns
    | hybrid inner =>
      exact lift_filled (Hybrid.careful contract careful) (inner, s) proper hasRoom kept owns
    | tracker inner => exact lift_filled (Tracker.careful careful) (inner, s) proper hasRoom kept owns
    | probe inner => exact lift_filled (Probe.careful careful) (inner, s) proper hasRoom kept owns
  free block state machine := by
    obtain ⟨layer, s⟩ := state
    cases layer with
    | arena inner => rfl
    | pool inner => exact (Pool.careful contract careful).free block (inner, s) machine
    | slab inner => exact (Slab.careful contract careful).free block (inner, s) machine
    | hybrid inner => exact (Hybrid.careful contract careful).free block (inner, s) machine
    | tracker inner => exact (Tracker.careful careful).free block (inner, s) machine
    | probe inner => exact (Probe.careful careful).free block (inner, s) machine

namespace Stack

theorem careful : (height : Nat) → (source height).Careful Backs HasRoom
  | 0 => Bottom.careful
  | height + 1 => Layer.careful (contract height) (careful height)

-- Histories in which memory is written to between the calls: into the blocks that are out, and,
-- since it makes no difference, anywhere else.
inductive Usage {height : Nat} (start : Stack height) (origin : Machine) :
    List Event → Stack height → Machine → Prop where
  | start : Usage start origin [] start origin
  | call {past : List Event} {stack : Stack height} {machine : Machine} {call : Call}
      (before : Usage start origin past stack machine) (lawful : Lawful past stack call) :
      Usage start origin (⟨call, (perform call stack machine).result⟩ :: past)
        (perform call stack machine).state (perform call stack machine).machine
  | write {past : List Event} {stack : Stack height} {machine : Machine}
      (before : Usage start origin past stack machine) (piece : Extent)
      (content : Nat → Option UInt8) :
      Usage start origin past stack
        { machine with memory := machine.memory.write piece.start piece.length content }

section
variable {height : Nat} {start stack : Stack height} {origin machine : Machine} {past : List Event}

theorem Usage.of_run (run : Run perform Lawful start origin past stack machine) :
    Usage start origin past stack machine := by
  induction run with
  | start => exact .start
  | call before lawful ih => exact .call ih lawful

theorem Usage.standing (made : start.Made) (sound : origin.memory.platform.Sound)
    (usage : Usage start origin past stack machine) : Standing past stack machine := by
  induction usage with
  | start => exact Standing.run made sound .start
  | call before lawful ih => exact ih.call lawful
  | write before piece content ih =>
    obtain ⟨⟨owned, kept, owns⟩, fits⟩ := ih
    exact ⟨⟨owned, kept, owns.congr rfl rfl⟩, fits⟩

theorem zeroed_and_spared (made : start.Made) (sound : origin.memory.platform.Sound)
    (usage : Usage start origin past stack machine) {request : Request} (proper : request.Proper)
    (room : stack.HasRoom) :
    let reply := (source height).allocate request stack machine
    (∀ block, reply.result = .ok block → request.zero = true →
      ∀ i < request.size, reply.machine.memory.read (block.address + i) = some 0) ∧
    ∀ other ∈ outstanding past, ∀ i < other.size,
      reply.machine.memory.read (other.address + i) = machine.memory.read (other.address + i) := by
  intro reply
  obtain ⟨⟨owned, kept, owns⟩, _⟩ := usage.standing made sound
  have filled : Filled (guarded [] (outstanding past)) request machine.memory reply :=
    (careful height).allocate proper room kept owns
  constructor
  · intro block answer zero i less
    generalize reply = reply at filled answer
    cases filled with
    | issued spares cleared =>
      cases answer
      exact cleared zero _ ⟨Nat.le_add_right _ _, Nat.add_lt_add_left less _⟩
    | failed spares => cases answer
  · intro other member i less
    refine filled.spares other.extent ?_ _ ⟨Nat.le_add_right _ _, Nat.add_lt_add_left less _⟩
    exact List.mem_append_right _ (List.mem_map_of_mem member)

end

def dirtyPool : Stack 1 := (.pool { owner := 1, name := "pool", config := {} }, .system {})

def dirtyPoolInUse : List Event × Stack 1 × Machine :=
  played perform dirtyPool ⟨{ platform := .ascending }, []⟩
    [.allocate ⟨24, 8, false, 1, 24, Site.internal⟩, .allocate ⟨24, 8, false, 1, 24, Site.internal⟩]

def dirtied : Machine :=
  let filled := dirtyPoolInUse.2.2.memory.write Platform.floor 24 fun _ => some 255
  { dirtyPoolInUse.2.2 with
    memory := filled.write (Platform.floor + Platform.pageSize) 24 fun _ => some 7 }

def dirtyReturn : Reply (Stack 1) (Option Block) :=
  perform (.free ⟨Platform.floor, 24, 8, .pool 1 24⟩) dirtyPoolInUse.2.1 dirtied

def dirtyAgain : Reply (Stack 1) Block :=
  (source 1).allocate ⟨24, 8, true, 1, 24, Site.internal⟩ dirtyReturn.state dirtyReturn.machine

theorem zeroed_and_spared_dirtyPool :
    dirtyAgain.result = .ok ⟨Platform.floor, 24, 8, .pool 1 24⟩ ∧
    dirtyReturn.machine.memory.read Platform.floor = some 255 ∧
    (∀ i < 24, dirtyAgain.machine.memory.read (Platform.floor + i) = some 0) ∧
    ∀ i < 24, dirtyAgain.machine.memory.read (Platform.floor + Platform.pageSize + i) = some 7 := by
  have made : dirtyPool.Made := ⟨.pool rfl, .system⟩
  have run : Run perform Lawful dirtyPool ⟨{ platform := .ascending }, []⟩ dirtyPoolInUse.1
      dirtyPoolInUse.2.1 dirtyPoolInUse.2.2 := by
    refine .played ⟨⟨trivial, ?_, trivial⟩, ?_, trivial⟩ <;> decide
  have written : Usage dirtyPool ⟨{ platform := .ascending }, []⟩ dirtyPoolInUse.1
      dirtyPoolInUse.2.1 dirtied :=
    ((Usage.of_run run).write ⟨Platform.floor, 24⟩ _).write ⟨Platform.floor + Platform.pageSize, 24⟩ _
  have mine : ∃ g ∈ grants dirtyPoolInUse.1, g.block = ⟨Platform.floor, 24, 8, .pool 1 24⟩ := by
    decide +kernel
  have usage : Usage dirtyPool ⟨{ platform := .ascending }, []⟩ _ dirtyReturn.state
      dirtyReturn.machine := written.call mine
  have answer : dirtyAgain.result = .ok ⟨Platform.floor, 24, 8, .pool 1 24⟩ := by rfl
  have proper : Request.Proper ⟨24, 8, true, 1, 24, Site.internal⟩ := by decide
  obtain ⟨zeroed, spared⟩ := zeroed_and_spared made Platform.ascending_sound usage proper trivial
  refine ⟨answer, by decide +kernel, zeroed _ answer rfl, fun i less => ?_⟩
  have unchanged := spared ⟨Platform.floor + Platform.pageSize, 24, 8, .pool 1 24⟩
    (by decide +kernel) i less
  refine unchanged.trans ?_
  revert i
  decide +kernel

end Stack

end LayeredAllocation
