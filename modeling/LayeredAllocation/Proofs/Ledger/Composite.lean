import LayeredAllocation.Proofs.Ledger.Carving
import LayeredAllocation.Proofs.Ledger.Hybrid
import LayeredAllocation.Proofs.Ledger.Pool
import LayeredAllocation.Proofs.Makes

namespace LayeredAllocation

-- What stays in the system when a layer that was made in some way ends after a history: the blocks
-- from there that clients have been handed on as they are, or that a pool has cut theirs from.
def Make.bytesOut (past : List Event) : Make → Nat
  | .pool _ _ config => ((inHand past).map fun g => config.backingSize g.request).sum
  | .slab _ _ | .hybrid _ _ => ((direct (outstanding past)).map Block.size).sum
  | .arena _ _ | .tracker _ _ | .probe => 0

namespace Layer
variable {layer : Layer} {state : Layer × SystemStore} {machine : Machine} {past : List Event}

def Composite : Layer → Prop
  | .arena _ | .pool _ | .slab _ | .hybrid _ => True
  | .tracker _ | .probe _ => False

def Countable : Layer → Prop
  | .slab inner => ∀ slotSize ∈ inner.config.classes, inner.config.pageSize / slotSize < 0x1_0000_0000
  | _ => True

def pinnedBytes : Layer → Nat
  | .hybrid inner => inner.pinnedBytes.read
  | _ => 0

-- A client that frees only what it was once given, and maybe frees it twice.
def Familiar : Rule (Layer × SystemStore) := fun past _ call =>
  match call with
  | .free block => block ∈ produced past
  | .allocate _ | .trim | .dispose => True

instance (past : List Event) (state : Layer × SystemStore) (call : Call) :
    Decidable (Familiar past state call) :=
  match call with
  | .free block => inferInstanceAs (Decidable (block ∈ produced past))
  | .allocate _ | .trim | .dispose => inferInstanceAs (Decidable True)

def Balanced (past : List Event) : Layer → SystemStore → Memory → Prop
  | .arena inner, store, memory => Books store memory inner.chunks []
  | .pool inner, store, memory => inner.Balanced past store memory
  | .slab inner, store, memory => inner.Balanced store memory (produced past) (outstanding past)
  | .hybrid inner, store, memory => inner.Balanced store memory (produced past) (outstanding past)
  | .tracker _, _, _ => False
  | .probe _, _, _ => False

def Settles (past : List Event) (call : Call) (reply : Reply (Layer × SystemStore) (Option Block)) :
    Prop :=
  Balanced (⟨call, reply.result⟩ :: past) reply.state.1 reply.state.2 reply.machine.memory

section
variable {balanced : α → SystemStore → Memory → List Block → List Block → Prop} {wrap : α → Layer}

theorem settles_allocate {request : Request} {reply : Reply (α × SystemStore) Block}
    (same : ∀ inner store memory later, balanced inner store memory (produced later) (outstanding later) →
      Balanced later (wrap inner) store memory)
    (outcome : Entered balanced (produced past) (outstanding past) reply) :
    Settles past (.allocate request) ((reply.mapState (lift wrap)).map some) := by
  cases outcome with
  | issued kept => exact same _ _ _ _ kept
  | @failed fault inner store machine kept =>
    have kept : balanced inner store machine.memory (produced past)
        (outstanding (⟨.allocate request, .error fault⟩ :: past)) := by rwa [outstanding_failed]
    exact same _ _ _ _ kept

theorem settles_free {block : Block} {reply : Reply (α × SystemStore) Unit}
    (same : ∀ inner store memory later, balanced inner store memory (produced later) (outstanding later) →
      Balanced later (wrap inner) store memory)
    (outcome : Cleared balanced (produced past) (outstanding past) block reply) :
    Settles past (.free block) ((reply.mapState (lift wrap)).map fun _ => none) := by
  cases outcome with
  | @taken inner store machine kept =>
    have kept : balanced inner store machine.memory (produced past)
        (outstanding (⟨.free block, .ok none⟩ :: past)) := by rwa [outstanding_free]
    exact same _ _ _ _ kept
  | @failed fault inner store machine kept =>
    have kept : balanced inner store machine.memory (produced past)
        (outstanding (⟨.free block, .error fault⟩ :: past)) := by rwa [outstanding_failed]
    exact same _ _ _ _ kept

end

theorem allocate_settles (request : Request) (balanced : Balanced past state.1 state.2 machine.memory) :
    Settles past (.allocate request) (perform SystemStore.source (.allocate request) state machine) := by
  obtain ⟨layer, store⟩ := state
  cases layer with
  | arena inner => exact Arena.allocate_books balanced
  | pool inner => exact Pool.allocate_balanced request balanced
  | slab inner => exact settles_allocate (fun _ _ _ _ => id) (Slab.allocate_entered balanced)
  | hybrid inner => exact settles_allocate (fun _ _ _ _ => id) (Hybrid.allocate_entered balanced)
  | tracker inner => exact balanced.elim
  | probe inner => exact balanced.elim

theorem free_settles {block : Block} (member : block ∈ produced past)
    (balanced : Balanced past state.1 state.2 machine.memory) :
    Settles past (.free block) (perform SystemStore.source (.free block) state machine) := by
  obtain ⟨layer, store⟩ := state
  cases layer with
  | arena inner => exact balanced
  | pool inner => exact Pool.free_balanced block balanced
  | slab inner => exact settles_free (fun _ _ _ _ => id) (Slab.free_cleared balanced member)
  | hybrid inner => exact settles_free (fun _ _ _ _ => id) (Hybrid.free_cleared balanced member)
  | tracker inner => exact balanced.elim
  | probe inner => exact balanced.elim

theorem trim_settles (balanced : Balanced past state.1 state.2 machine.memory) :
    Settles past .trim (perform SystemStore.source .trim state machine) := by
  obtain ⟨layer, store⟩ := state
  cases layer with
  | arena inner => exact balanced
  | pool inner => exact (Pool.emptied_balanced inner.disposed balanced).later rfl
  | slab inner => exact balanced
  | hybrid inner => exact balanced
  | tracker inner => exact balanced.elim
  | probe inner => exact balanced.elim

theorem dispose_settles (balanced : Balanced past state.1 state.2 machine.memory) :
    Settles past .dispose (perform SystemStore.source .dispose state machine) := by
  obtain ⟨layer, store⟩ := state
  cases layer with
  | arena inner => exact balanced
  | pool inner => exact (Pool.emptied_balanced true balanced).later rfl
  | slab inner => exact balanced
  | hybrid inner => exact balanced
  | tracker inner => exact balanced.elim
  | probe inner => exact balanced.elim

theorem Made.balanced {limit : Option Counter} {memory : Memory} (made : layer.Made)
    (composite : layer.Composite) (countable : layer.Countable) (sound : memory.platform.Sound)
    (fresh : memory.platform.Fresh) : Balanced [] layer { budget := limit } memory := by
  cases made with
  | arena accepted => exact .opened sound fresh
  | pool accepted => exact ⟨.opened sound fresh, rfl, .start _ _ _, .nil⟩
  | largeBlock accepted => exact ⟨.opened sound fresh, rfl, .start _ _ _, .nil⟩
  | slab accepted =>
    refine ⟨.opened sound fresh, rfl, ?_, Slab.usable_of_valid accepted countable⟩
    simp [Slab.slotSizes, Slab.make, Function.comp_def]
  | hybrid =>
    exact ⟨rfl, [], .opened sound fresh, rfl, by simp [Table.find?_empty], by simp [Table.find?_empty]⟩
  | tracker => exact composite.elim
  | probe => exact composite.elim

theorem run_balanced {limit : Option Counter} {origin : Machine} (made : layer.Made)
    (composite : layer.Composite) (countable : layer.Countable)
    (sound : origin.memory.platform.Sound) (fresh : origin.memory.platform.Fresh)
    (run : Run (perform SystemStore.source) Familiar (layer, { budget := limit }) origin past state
      machine) :
    Balanced past state.1 state.2 machine.memory := by
  induction run with
  | start => exact made.balanced composite countable sound fresh
  | @call _ call _ _ _ familiar ih =>
    cases call with
    | allocate request => exact allocate_settles request ih
    | free block => exact free_settles familiar ih
    | trim => exact trim_settles ih
    | dispose => exact dispose_settles ih

theorem held_of_balanced (balanced : Balanced past state.1 state.2 machine.memory) :
    SystemStore.source.held state.2 + state.1.pinnedBytes =
      (Layer.source SystemStore.source).held state := by
  obtain ⟨layer, store⟩ := state
  cases layer with
  | arena inner =>
    have total : inner.held = (inner.chunks.map Block.size).sum % Word.range := by
      rw [Arena.held, List.sum_eq_foldr, List.foldr_map]
    obtain ⟨exact, bound⟩ := Books.read balanced
    change store.allocated.read + 0 = inner.held
    rw [total, exact, Nat.mod_eq_of_lt (Nat.lt_of_le_of_lt (Nat.le_add_right _ _) bound), Nat.add_zero]
  | pool inner => exact congrArg Counter.read balanced.held.symm
  | slab inner => exact congrArg Counter.read balanced.held.symm
  | hybrid inner =>
    obtain ⟨backing, pins, accounts, pinned⟩ := balanced
    obtain ⟨exact, bound⟩ := accounts.books.read
    have pinnedRead : inner.pinnedBytes.read = Extent.total pins := by
      rw [pinned.counted, Counter.read_ofNat (Nat.lt_of_le_of_lt (Nat.le_add_left _ _) bound)]
    change store.allocated.read + inner.pinnedBytes.read =
      (inner.pinnedBytes.read + inner.backingBytes.read) % Word.range
    rw [backing, Nat.add_comm, Nat.mod_eq_of_lt]
    rw [exact, pinnedRead, Nat.add_comm]
    exact bound
  | tracker inner => exact balanced.elim
  | probe inner => exact balanced.elim

theorem close_of_balanced (panicking : Bool) (balanced : Balanced past state.1 state.2 machine.memory) :
    SystemStore.source.held (close SystemStore.source panicking state.1 state.2 machine).beneath =
      state.1.make.bytesOut past := by
  obtain ⟨layer, store⟩ := state
  cases layer with
  | arena inner =>
    obtain ⟨left, books⟩ := Arena.close_books balanced
    exact (congrArg SystemStore.source.held (ofReply_beneath _ _)).trans books.read.1
  | pool inner =>
    obtain ⟨left, books⟩ := Pool.close_books balanced
    exact (congrArg SystemStore.source.held (ofReply_beneath _ _)).trans
      (books.read.1.trans balanced.outstanding_sum)
  | slab inner =>
    obtain ⟨left, books⟩ := Slab.close_books balanced
    exact (congrArg SystemStore.source.held (ofReply_beneath _ _)).trans books.read.1
  | hybrid inner =>
    obtain ⟨_, _, accounts, _⟩ := balanced
    exact accounts.books.read.1
  | tracker inner => exact balanced.elim
  | probe inner => exact balanced.elim

-- The two totals agree at all times, apart from what is pinned, and the end of the layer leaves
-- nothing in the system but what is still out, going by the history alone.
theorem accounts_agree {limit : Option Counter} {origin : Machine} (made : layer.Made)
    (composite : layer.Composite) (countable : layer.Countable)
    (sound : origin.memory.platform.Sound) (fresh : origin.memory.platform.Fresh)
    (run : Run (perform SystemStore.source) Familiar (layer, { budget := limit }) origin past state
      machine) :
    SystemStore.source.held state.2 + state.1.pinnedBytes =
      (Layer.source SystemStore.source).held state ∧
    ∀ panicking,
      SystemStore.source.held (close SystemStore.source panicking state.1 state.2 machine).beneath =
        layer.make.bytesOut past := by
  have balanced := run_balanced made composite countable sound fresh run
  have same : state.1.make = layer.make := run_make run
  exact ⟨held_of_balanced balanced, fun panicking => same ▸ close_of_balanced panicking balanced⟩

def overSystem (layer : Layer) (calls : List Call) : List Event × (Layer × SystemStore) × Machine :=
  played (perform SystemStore.source) (layer, {}) ⟨{ platform := .ascending }, []⟩ calls

def slabHistory : List Event × (Layer × SystemStore) × Machine :=
  overSystem (.slab (.make 1 {}))
    [.free ⟨0x4000_0001_1000, 70000, 8, .system⟩, .free ⟨0x4000_0001_1000, 70000, 8, .system⟩,
      .allocate ⟨70000, 8, false, 1, 70000, Site.internal⟩,
      .allocate ⟨24, 8, false, 1, 24, Site.internal⟩]

def cappedPool : PoolConfig := { granularity := 16, maxRetained := some 64, minBlockSize := 32 }

-- A pool with four blocks out, of which one bypassed it. One comes back and is kept; another would
-- exceed the cap and is passed on, and refused when it is brought again. The block that was kept goes
-- out for another size, and is brought back as it was before.
def poolHistory : List Event × (Layer × SystemStore) × Machine :=
  overSystem (.pool { owner := 1, name := "pool", config := cappedPool })
    [.free ⟨0x4000_0000_1000, 40, 8, .pool 1 48⟩, .allocate ⟨45, 8, false, 1, 45, Site.internal⟩,
      .free ⟨0x4000_0000_2000, 50, 8, .pool 1 64⟩, .free ⟨0x4000_0000_2000, 50, 8, .pool 1 64⟩,
      .free ⟨0x4000_0000_1000, 40, 8, .pool 1 48⟩, .allocate ⟨33, 8, false, 1, 33, Site.internal⟩,
      .allocate ⟨50, 8, false, 1, 50, Site.internal⟩, .allocate ⟨40, 8, false, 1, 40, Site.internal⟩,
      .allocate ⟨20, 8, false, 1, 20, Site.internal⟩]

def hybridHistory : List Event × (Layer × SystemStore) × Machine :=
  overSystem (.hybrid { owner := 1, thresholds := {} })
    [.allocate ⟨1500, 8, false, 1, 1500, Site.internal⟩, .free ⟨0x4000_0000_1000, 2000, 8, .system⟩,
      .free ⟨0x4000_0000_0000, 100, 8, .pinned 1 1⟩, .allocate ⟨30, 8, false, 1, 30, Site.internal⟩,
      .allocate ⟨2000, 8, false, 1, 2000, Site.internal⟩,
      .allocate ⟨100, 8, false, 1, 100, Site.internal⟩]

def Accounted (history : List Event × (Layer × SystemStore) × Machine) (total left : Nat) : Prop :=
  (Layer.source SystemStore.source).held history.2.1 = total ∧
    SystemStore.source.held history.2.1.2 + history.2.1.1.pinnedBytes = total ∧
    ∀ panicking, SystemStore.source.held
      (close SystemStore.source panicking history.2.1.1 history.2.1.2 history.2.2).beneath = left

theorem accounts_agree_histories :
    Accounted slabHistory 65536 0 ∧ Accounted poolHistory 116 68 ∧ Accounted hybridHistory 1564 1500 := by
  refine ⟨?slab, ?pool, ?hybrid⟩
  case slab =>
    have countable : Countable (.slab (.make 1 {})) := by
      change ∀ slotSize ∈ ({} : SlabConfig).classes, _
      decide
    have run : Run (perform SystemStore.source) Familiar (.slab (.make 1 {}), {})
        ⟨{ platform := .ascending }, []⟩ slabHistory.1 slabHistory.2.1 slabHistory.2.2 := .played (by decide +kernel)
    obtain ⟨agree, ends⟩ := accounts_agree (.slab rfl) trivial countable Platform.ascending_sound
      Platform.ascending_fresh run
    refine ⟨by decide +kernel, agree.trans (by decide +kernel), fun panicking => ?_⟩
    exact (ends panicking).trans (by decide +kernel)
  case pool =>
    have run : Run (perform SystemStore.source) Familiar (.pool { owner := 1, name := "pool", config := cappedPool }, {})
        ⟨{ platform := .ascending }, []⟩ poolHistory.1 poolHistory.2.1 poolHistory.2.2 := .played (by decide +kernel)
    obtain ⟨agree, ends⟩ := accounts_agree (.pool rfl) trivial trivial Platform.ascending_sound
      Platform.ascending_fresh run
    refine ⟨by decide +kernel, agree.trans (by decide +kernel), fun panicking => ?_⟩
    exact (ends panicking).trans (by decide +kernel)
  case hybrid =>
    have run : Run (perform SystemStore.source) Familiar (.hybrid { owner := 1, thresholds := {} }, {})
        ⟨{ platform := .ascending }, []⟩ hybridHistory.1 hybridHistory.2.1 hybridHistory.2.2 := .played (by decide +kernel)
    obtain ⟨agree, ends⟩ := accounts_agree .hybrid trivial trivial Platform.ascending_sound
      Platform.ascending_fresh run
    refine ⟨by decide +kernel, agree.trans (by decide +kernel), fun panicking => ?_⟩
    exact (ends panicking).trans (by decide +kernel)

end Layer

end LayeredAllocation
