import LayeredAllocation.Proofs.Follows

namespace LayeredAllocation

structure Lending (σ : Type) where
  beneath : σ
  ours : List Grant := []
  theirs : List Block := []

namespace Lending

def addresses (lending : Lending σ) : List Nat :=
  lending.ours.map (·.block.address) ++ lending.theirs.map Block.address

def lend (lending : Lending σ) (request : Request) (block : Block) (beneath : σ) : Lending σ :=
  { lending with beneath, ours := ⟨request, block⟩ :: lending.ours }

-- The memory at an address was taken back, whoever had it.
def settle (lending : Lending σ) (address : Nat) (beneath : σ) : Lending σ where
  beneath
  ours := lending.ours.filter (·.block.address ≠ address)
  theirs := lending.theirs.filter (·.address ≠ address)

-- What may be relied on: blocks are as they were asked for, and no address is lent twice.
structure Fits (lending : Lending σ) : Prop where
  asked : ∀ g ∈ lending.ours, g.block.size = g.request.size ∧ g.block.align = g.request.align
  fresh : lending.addresses.Nodup

instance (lending : Lending σ) : Decidable lending.Fits :=
  decidable_of_iff
    ((∀ g ∈ lending.ours, g.block.size = g.request.size ∧ g.block.align = g.request.align) ∧
      lending.addresses.Nodup)
    ⟨fun both => ⟨both.1, both.2⟩, fun fits => ⟨fits.asked, fits.fresh⟩⟩

namespace Fits
variable {lending : Lending σ}

theorem distinct (fits : lending.Fits) : (lending.ours.map (·.block.address)).Nodup :=
  (List.nodup_append.1 fits.fresh).1

theorem move (fits : lending.Fits) (beneath : σ) : Fits { lending with beneath } :=
  ⟨fits.asked, fits.fresh⟩

theorem settle (fits : lending.Fits) (address : Nat) (beneath : σ) :
    (lending.settle address beneath).Fits where
  asked g member := fits.asked g (List.mem_filter.1 member).1
  fresh := by
    refine List.Nodup.sublist ?_ fits.fresh
    apply List.Sublist.append
    · exact List.filter_sublist.map _
    · exact List.filter_sublist.map _

theorem elsewhere (fits : lending.Fits) {block : Block} (theirs : block ∈ lending.theirs) :
    ∀ g ∈ lending.ours, g.block.address ≠ block.address := by
  obtain ⟨_, _, across⟩ := List.nodup_append.1 fits.fresh
  intro g member
  exact across _ (List.mem_map_of_mem member) _ (List.mem_map_of_mem theirs)

end Fits

end Lending

def Source.watched (below : Source σ) : Source (Lending σ) where
  name lending := below.name lending.beneath
  releases lending := below.releases lending.beneath
  held lending := below.held lending.beneath
  allocate request lending machine :=
    match below.allocate request lending.beneath machine with
    | ⟨.ok block, beneath, machine⟩ => .done block (lending.lend request block beneath) machine
    | ⟨.error fault, beneath, machine⟩ => ⟨.error fault, { lending with beneath }, machine⟩
  free block lending machine :=
    match below.free block lending.beneath machine with
    | ⟨.ok (), beneath, machine⟩ => .done () (lending.settle block.address beneath) machine
    | ⟨.error fault, beneath, machine⟩ => ⟨.error fault, { lending with beneath }, machine⟩

theorem Source.watched_follows (below : Source σ) : below.watched.Follows below Lending.beneath where
  name _ := rfl
  releases _ := rfl
  held _ := rfl
  allocate request lending machine := by
    unfold watched
    dsimp only
    generalize below.allocate request lending.beneath machine = reply
    obtain ⟨result, after, machine'⟩ := reply
    cases result <;> rfl
  free block lending machine := by
    unfold watched
    dsimp only
    generalize below.free block lending.beneath machine = reply
    obtain ⟨result, after, machine'⟩ := reply
    cases result <;> rfl

theorem Layer.played_watched (below : Source σ) (layer : Layer) (base : σ) (origin : Machine)
    (calls : List Call) :
    let (past, state, left) := played (perform below.watched) (layer, { beneath := base }) origin calls
    played (perform below) (layer, base) origin calls = (past, (state.1, state.2.beneath), left) :=
  played_follows (t := { beneath := base }) below.watched_follows layer calls

section
variable {below : Source σ} {lending after : Lending σ} {request : Request} {block : Block}
  {fault : Fault} {machine machine' : Machine}

theorem Source.watched_lent
    (answer : below.watched.allocate request lending machine = ⟨.ok block, after, machine'⟩) :
    after = lending.lend request block after.beneath := by
  unfold watched at answer
  dsimp only at answer
  split at answer
  · cases answer
    rfl
  · cases answer

theorem Source.watched_refused
    (answer : below.watched.allocate request lending machine = ⟨.error fault, after, machine'⟩) :
    after = { lending with beneath := after.beneath } := by
  unfold watched at answer
  dsimp only at answer
  split at answer
  · cases answer
  · cases answer
    rfl

theorem Source.watched_settled
    (answer : below.watched.free block lending machine = ⟨.ok (), after, machine'⟩) :
    after = lending.settle block.address after.beneath := by
  unfold watched at answer
  dsimp only at answer
  split at answer
  · cases answer
    rfl
  · cases answer

theorem Source.watched_kept
    (answer : below.watched.free block lending machine = ⟨.error fault, after, machine'⟩) :
    after = { lending with beneath := after.beneath } := by
  unfold watched at answer
  dsimp only at answer
  split at answer
  · cases answer
  · cases answer
    rfl

end

-- Histories of a layer whose source has other clients, too. Between two calls of the layer these do
-- whatever they like with the source and the platform, but they give back nothing of the layer's.
inductive Sharing (below : Source σ) (first : Layer) (base : σ) (origin : Machine) :
    List Event → Layer × Lending σ → Machine → Prop where
  | start : Sharing below first base origin [] (first, { beneath := base }) origin
  | call {call : Call} (before : Sharing below first base origin past state machine)
      (fits : (Layer.perform below.watched call state machine).state.2.Fits) :
      Sharing below first base origin
        (⟨call, (Layer.perform below.watched call state machine).result⟩ :: past)
        (Layer.perform below.watched call state machine).state
        (Layer.perform below.watched call state machine).machine
  | beside {layer : Layer} {lending : Lending σ}
      (before : Sharing below first base origin past (layer, lending) machine)
      (after : Lending σ) (left : Machine) (untouched : after.ours = lending.ours)
      (fits : after.Fits) : Sharing below first base origin past (layer, after) left

-- What the source lends fits after each of the calls.
def Supplied (below : Source σ) (first : Layer) (base : σ) (origin : Machine) : List Call → Prop
  | [] => True
  | call :: earlier =>
    Supplied below first base origin earlier ∧
      (played (Layer.perform below.watched) (first, { beneath := base }) origin
        (call :: earlier)).2.1.2.Fits

instance Supplied.decidable (below : Source σ) (first : Layer) (base : σ) (origin : Machine) :
    (calls : List Call) → Decidable (Supplied below first base origin calls)
  | [] => inferInstanceAs (Decidable True)
  | _ :: earlier =>
    have := decidable below first base origin earlier
    inferInstanceAs (Decidable (_ ∧ _))

namespace Sharing
variable {below : Source σ} {first : Layer} {base : σ} {origin machine : Machine} {past : List Event}
  {state : Layer × Lending σ}

theorem fits (sharing : Sharing below first base origin past state machine) : state.2.Fits := by
  cases sharing with
  | start => exact ⟨by simp, List.nodup_nil⟩
  | call before fits => exact fits
  | beside before after left untouched fits => exact fits

theorem played {calls : List Call} (supplied : Supplied below first base origin calls) :
    let (past, state, machine) :=
      played (Layer.perform below.watched) (first, { beneath := base }) origin calls
    Sharing below first base origin past state machine := by
  induction calls with
  | nil => exact .start
  | cons call earlier ih => exact .call (ih supplied.1) supplied.2

end Sharing

end LayeredAllocation
