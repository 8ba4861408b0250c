import LayeredAllocation.Proofs.Makes
import LayeredAllocation.Proofs.Follows

namespace LayeredAllocation

namespace Word

theorem isPowerOfTwo_pos {n : Nat} (power : isPowerOfTwo n = true) : 0 < n :=
  Nat.pos_of_isPowerOfTwo (isPowerOfTwo_iff.1 power)

theorem half_power : isPowerOfTwo (longest + 1) = true := by decide

-- Half the range is a multiple of the step and of the alignment alike, so what is left beside a
-- multiple of the larger of them is at least as large as the smaller.
theorem roundUp_fits {n step align : Nat} (stepPower : isPowerOfTwo step = true)
    (alignPower : isPowerOfTwo align = true) (positive : 0 < n) (fits : n ≤ longest - (align - 1))
    (small : roundUp n step ≤ longest) : roundUp n step ≤ longest - (align - 1) := by
  have stepPositive := isPowerOfTwo_pos stepPower
  have alignPositive := isPowerOfTwo_pos alignPower
  have above := le_roundUp (n := n) stepPositive
  have alignSmall : align ≤ longest + 1 := by omega
  rcases Nat.le_total step align with le | ge
  · have divides : step ∣ longest + 1 - align :=
      Nat.dvd_sub (dvd_of_le stepPower half_power (Nat.le_trans le alignSmall))
        (dvd_of_le stepPower alignPower le)
    have bound := roundUp_le_of_dvd (n := n) stepPositive divides (by omega)
    omega
  · have stepSmall : step ≤ roundUp n step :=
      Nat.le_of_dvd (by omega) (dvd_roundUp n step)
    have divides : step ∣ longest + 1 - roundUp n step :=
      Nat.dvd_sub (dvd_of_le stepPower half_power (by omega)) (dvd_roundUp n step)
    have beside := Nat.le_of_dvd (by omega) divides
    omega

end Word

def Request.Built (request : Request) : Prop :=
  (∃ size align zero site, bytes? size align zero site = .ok request) ∨
    ∃ elementSize elementAlign count zero site,
      elements? elementSize elementAlign count zero site = .ok request

theorem Request.Built.valid {request : Request} (built : request.Built) : request.Valid := by
  rcases built with ⟨_, _, _, _, accepted⟩ | ⟨_, _, _, _, _, accepted⟩
  · exact (bytes?_eq_ok.1 accepted).2
  · exact (elements?_valid accepted).1

theorem Request.bytes?_error {size align : Nat} {zero : Bool} {site : Site} {error : Error}
    (refused : bytes? size align zero site = .error error) :
    (∃ name condition, error = .invalidArgument name condition) ∧
      ¬ Valid ⟨size, align, zero, 1, size, site⟩ := by
  refine ⟨?_, fun valid => ?_⟩
  · unfold bytes? at refused
    split at refused
    · cases refused
      exact ⟨_, _, rfl⟩
    · split at refused
      · cases refused
        exact ⟨_, _, rfl⟩
      · split at refused
        · cases refused
          exact ⟨_, _, rfl⟩
        · cases refused
  · cases refused.symm.trans (bytes?_eq_ok.2 ⟨rfl, valid⟩)

theorem Layout.make?_of_valid {request : Request} (valid : request.Valid) :
    Layout.make? request.size request.align = .ok ⟨request.size, request.align⟩ := by
  unfold make?
  rw [if_pos ⟨valid.2.1, valid.2.2⟩]

namespace Pool

def rounded (pool : Pool) (request : Request) : Request :=
  request.withSize (Word.roundUp request.size pool.config.granularity)

def idleFor? (pool : Pool) (request : Request) : Option (Block × List IdleBlock) :=
  takeIdle ⟨(pool.rounded request).size, request.align⟩ pool.idle

theorem sizeClass?_eq_ok {pool : Pool} {request : Request} {sizeClass : Nat}
    (power : Word.isPowerOfTwo pool.config.granularity = true) (valid : request.Valid)
    (found : pool.config.sizeClass? request.size = .ok sizeClass) :
    request.withSize sizeClass = pool.rounded request ∧ (pool.rounded request).Valid := by
  obtain ⟨round, small⟩ := PoolConfig.sizeClass?_ok found
  obtain ⟨positive, rfl, _⟩ := Word.roundUp?_eq_some.1 round
  obtain ⟨some, align, fits⟩ := valid
  refine ⟨rfl, Nat.lt_of_lt_of_le some (Word.le_roundUp positive), align, ?_⟩
  exact Word.roundUp_fits power align some fits small

theorem sizeClass?_eq_error {pool : Pool} {request : Request} {error : Error}
    (power : Word.isPowerOfTwo pool.config.granularity = true)
    (refused : pool.config.sizeClass? request.size = .error error) :
    (∃ name condition, error = .invalidArgument name condition) ∧ ¬ (pool.rounded request).Valid := by
  unfold PoolConfig.sizeClass? at refused
  split at refused
  · cases refused
  · next none =>
    cases refused
    refine ⟨⟨_, _, rfl⟩, fun valid => ?_⟩
    have fits : Word.roundUp request.size pool.config.granularity ≤ Word.longest :=
      Nat.le_trans valid.2.2 (Nat.sub_le _ _)
    have small : Word.longest < Word.range := by decide
    have round := Word.roundUp?_eq_some.2
      ⟨Word.isPowerOfTwo_pos power, rfl, Nat.lt_of_le_of_lt fits small⟩
    rw [round, Option.filter_some, if_pos (decide_eq_true fits)] at none
    cases none

-- A pool looks at the size before it looks whether it is still in service.
theorem unfit_or_fits {request : Request} (pool : Pool)
    (power : Word.isPowerOfTwo pool.config.granularity = true) (valid : request.Valid) :
    (pool.config.minBlockSize ≤ request.size ∧ ¬ (pool.rounded request).Valid ∧
      ∀ {σ : Type} (below : Source σ) (s : σ) (machine : Machine), ∃ name condition,
        Pool.allocate below request (pool, s) machine =
          .refuse (.invalidArgument name condition) (pool, s) machine) ∨
      (pool.config.minBlockSize ≤ request.size → (pool.rounded request).Valid) := by
  by_cases large : pool.config.minBlockSize ≤ request.size
  · cases found : pool.config.sizeClass? request.size with
    | ok sizeClass => exact .inr fun _ => (sizeClass?_eq_ok power valid found).2
    | error error =>
      obtain ⟨⟨name, condition, rfl⟩, unfit⟩ := sizeClass?_eq_error power found
      refine .inl ⟨large, unfit, fun below s machine => ⟨name, condition, ?_⟩⟩
      simp only [Pool.allocate, if_neg (Nat.not_lt.2 large), found]
  · exact .inr fun large' => absurd large' large

end Pool

def Arena.chunkRequest (arena : Arena) (request : Request) : Request :=
  ⟨max request.size arena.config.chunkSize, max request.align ArenaConfig.chunkAlign, false, 1,
    max request.size arena.config.chunkSize, Site.internal⟩

def Slab.pageRequest (slab : Slab) (slotSize : Nat) : Request :=
  ⟨slab.config.pageSize, slotSize, false, 1, slab.config.pageSize, Site.internal⟩

def Make.Accepted : Make → Prop
  | .pool _ _ config => config.validate = .ok ()
  | .arena .. | .slab .. | .hybrid .. | .tracker .. | .probe => True

namespace Layer
variable {below : Source σ} {request : Request} {block : Block} {s : σ} {machine : Machine}

-- What a layer needs from beneath for a request, valid or not; nothing if it has that in stock or
-- will not serve the request at all.
def need? (layer : Layer) (request : Request) : Option Request :=
  match layer with
  | .arena inner => if (inner.fit? request).isSome then none else some (inner.chunkRequest request)
  | .pool inner =>
    if request.size < inner.config.minBlockSize then
      if inner.disposed then none else some request
    else if (inner.rounded request).Valid ∧ (inner.disposed ∨ (inner.idleFor? request).isSome) then none
    else some (inner.rounded request)
  | .slab inner =>
    match inner.config.classFor? (max request.size request.align) with
    | none => some request
    | some index =>
      if inner.interrupted ∨ (inner.takeSlot? index request).isSome then none
      else inner.classes[index]?.map fun sizeClass => inner.pageRequest sizeClass.slotSize
  | .hybrid inner => if inner.pins request then none else some request
  | .tracker inner => if inner.disposed then none else some request
  | .probe inner => if (inner.seeRequest request).1 then none else some request

-- How a layer turns to the source beneath for a request: not at all, in vain, or with what it
-- needs, in which case it may also give back what it got.
inductive Turns (below : Source σ) (request : Request) (layer : Layer) (s : σ) (machine : Machine)
    (reply : Reply (Layer × σ) Block) : Prop where
  | alone (stocked : layer.need? request = none) (same : reply.state.2 = s)
  | unfit {needed : Request} {name condition : String} (needs : layer.need? request = some needed)
      (unfit : ¬ needed.Valid)
      (refused : reply = .refuse (.invalidArgument name condition) (layer, s) machine)
  | asked {needed : Request} (needs : layer.need? request = some needed) (valid : needed.Valid)
      (left : reply.state.2 = (below.allocate needed s machine).state ∨ ∃ chunk machine',
        reply.state.2 = (below.free chunk (below.allocate needed s machine).state machine').state)

theorem Turns.answered {layer : Layer} {needed : Request} {result : Except Fault Block} {after : σ}
    {machine' : Machine} {reply : Reply (Layer × σ) Block} (needs : layer.need? request = some needed)
    (valid : needed.Valid) (answer : below.allocate needed s machine = ⟨result, after, machine'⟩)
    (left : reply.state.2 = after) : Turns below request layer s machine reply :=
  .asked needs valid (.inl (by rw [left, answer]))

theorem arena_turns (inner : Arena) :
    Turns below request (.arena inner) s machine
      ((Arena.allocate below request (inner, s) machine).mapState (lift .arena)) := by
  have step := Arena.allocate_step below request inner s machine
  generalize Arena.allocate below request (inner, s) machine = reply at step ⊢
  have needs (full : inner.fit? request = none) :
      (arena inner).need? request = some (inner.chunkRequest request) := by
    simp only [need?, full, Option.isSome_none, Bool.false_eq_true, if_false]
  have valid {chunkRequest : Request} (asked : inner.chunkRequest? request = .ok chunkRequest) :
      chunkRequest = inner.chunkRequest request ∧ chunkRequest.Valid := Request.bytes?_eq_ok.1 asked
  cases step with
  | fitted fits =>
    exact .alone (by simp only [need?, fits, Option.isSome_some, if_true]) rfl
  | unaskable full asked =>
    obtain ⟨⟨name, condition, rfl⟩, unfit⟩ := Request.bytes?_error asked
    exact .unfit (needs full) unfit rfl
  | failed grows answer =>
    obtain ⟨rfl, fits⟩ := valid grows.asked
    exact .answered (needs grows.full) fits answer rfl
  | grew grows answer few =>
    obtain ⟨rfl, fits⟩ := valid grows.asked
    exact .answered (needs grows.full) fits answer rfl
  | limited grows answer many freed why =>
    obtain ⟨rfl, fits⟩ := valid grows.asked
    exact .asked (needs grows.full) fits (.inr ⟨_, _, by rw [answer, freed]; rfl⟩)

theorem pool_turns (inner : Pool) (power : Word.isPowerOfTwo inner.config.granularity = true)
    (valid : request.Valid) :
    Turns below request (.pool inner) s machine
      ((Pool.allocate below request (inner, s) machine).mapState (lift .pool)) := by
  rcases inner.unfit_or_fits power valid with ⟨large, unfit, error⟩ | fits
  · obtain ⟨name, condition, refused⟩ := error below s machine
    rw [refused]
    refine .unfit ?_ unfit rfl
    simp only [need?, if_neg (Nat.not_lt.2 large), unfit, false_and, if_false]
  have step := Pool.allocate_step below request inner s machine
  generalize Pool.allocate below request (inner, s) machine = reply at step ⊢
  have needs {asking : Pool} {wider : Request} {bucket : Option Bucket} {shape : Block → Block}
      (asks : inner.Asks request asking wider bucket shape) :
      (pool inner).need? request = some wider ∧ wider.Valid := by
    cases asks with
    | bypass small active =>
      refine ⟨?_, valid⟩
      simp only [need?, if_pos small, active, Bool.false_eq_true, if_false]
      rfl
    | miss large rounded active absent =>
      obtain ⟨same, fits⟩ := Pool.sizeClass?_eq_ok power valid rounded
      have none : inner.idleFor? request = none := by
        rwa [Pool.idleFor?, ← same]
      rw [same]
      refine ⟨?_, fits⟩
      simp only [need?, if_neg (Nat.not_lt.2 large), active, none, Option.isSome_none,
        Bool.false_eq_true, or_self, and_false, if_false]
  cases step with
  | refused cause =>
    refine .alone ?_ rfl
    rcases cause with ⟨disposed, rfl⟩ | ⟨large, refused⟩
    · rcases Nat.lt_or_ge request.size inner.config.minBlockSize with small | large
      · simp only [need?, if_pos small, disposed, if_true]
      · simp only [need?, if_neg (Nat.not_lt.2 large), fits large, disposed, true_or, and_self, if_true]
    · exact absurd (fits large) (Pool.sizeClass?_eq_error power refused).2
  | reused large rounded active found =>
    obtain ⟨same, _⟩ := Pool.sizeClass?_eq_ok power valid rounded
    have some : (inner.idleFor? request).isSome := by
      rw [Pool.idleFor?, ← same]
      exact found ▸ rfl
    refine .alone ?_ rfl
    simp only [need?, if_neg (Nat.not_lt.2 large), fits large, some, or_true, and_self, if_true]
  | obtained asks answer => exact .answered (needs asks).1 (needs asks).2 answer rfl
  | failed asks answer => exact .answered (needs asks).1 (needs asks).2 answer rfl

theorem slab_turns (inner : Slab) (valid : request.Valid) :
    Turns below request (.slab inner) s machine
      ((Slab.allocate below request (inner, s) machine).mapState (lift .slab)) := by
  have step := Slab.allocate_step below request inner s machine
  generalize Slab.allocate below request (inner, s) machine = reply at step ⊢
  have passes (large : inner.config.classFor? (max request.size request.align) = none) :
      (slab inner).need? request = some request := by
    simp only [need?, large]
  have grown {index : Nat} {sizeClass : SizeClass} (grows : inner.Grows request index sizeClass) :
      (slab inner).need? request = some (inner.pageRequest sizeClass.slotSize) := by
    simp only [need?, grows.fits, grows.running, grows.full, grows.classed, Option.isSome_none,
      Bool.false_eq_true, or_self, if_false, Option.map_some]
  cases step with
  | passed large answer => exact .answered (passes large) valid answer rfl
  | passFailed large answer => exact .answered (passes large) valid answer rfl
  | took fits running taken =>
    refine .alone ?_ rfl
    simp only [need?, fits, taken, Option.isSome_some, or_true, if_true]
  | grew grows asked answer usable =>
    obtain ⟨rfl, fits⟩ := Request.bytes?_eq_ok.1 asked
    exact .answered (grown grows) fits answer rfl
  | growFailed grows asked answer =>
    obtain ⟨rfl, fits⟩ := Request.bytes?_eq_ok.1 asked
    exact .answered (grown grows) fits answer rfl
  | burst grows asked answer unusable =>
    obtain ⟨rfl, fits⟩ := Request.bytes?_eq_ok.1 asked
    exact .answered (grown grows) fits answer rfl
  | unaskable grows asked =>
    obtain ⟨⟨name, condition, rfl⟩, unfit⟩ := Request.bytes?_error asked
    exact .unfit (grown grows) unfit rfl
  | stuck fits cause =>
    refine .alone ?_ rfl
    rcases cause with ⟨interrupted, _⟩ | ⟨absent, _⟩
    · simp only [need?, fits, interrupted, true_or, if_true]
    · simp only [need?, fits, absent, Option.map_none, ite_self]

theorem hybrid_turns (inner : Hybrid) (valid : request.Valid) :
    Turns below request (.hybrid inner) s machine
      ((Hybrid.allocate below request (inner, s) machine).mapState (lift .hybrid)) := by
  have step := Hybrid.allocate_step below request inner s machine
  generalize Hybrid.allocate below request (inner, s) machine = reply at step ⊢
  have moved (moves : inner.pins request = false) : (hybrid inner).need? request = some request := by
    simp only [need?, moves, Bool.false_eq_true, if_false]
  cases step with
  | overflowed pins large => exact .alone (if_pos pins) rfl
  | exhausted pins small placed => exact .alone (if_pos pins) rfl
  | pinned pins small placed => exact .alone (if_pos pins) rfl
  | passed moves answer => exact .answered (moved moves) valid answer rfl
  | passFailed moves answer => exact .answered (moved moves) valid answer rfl

theorem tracker_turns (inner : Tracker) (valid : request.Valid) :
    Turns below request (.tracker inner) s machine
      ((Tracker.allocate below request (inner, s) machine).mapState (lift .tracker)) := by
  have step := Tracker.allocate_step below request inner s machine
  generalize Tracker.allocate below request (inner, s) machine = reply at step ⊢
  have passes (active : inner.disposed = false) : (tracker inner).need? request = some request := by
    simp only [need?, active, Bool.false_eq_true, if_false]
  cases step with
  | refused disposed => exact .alone (if_pos disposed) rfl
  | recorded active answer => exact .answered (passes active) valid answer rfl
  | failed active answer => exact .answered (passes active) valid answer rfl

theorem probe_turns (inner : Probe) (valid : request.Valid) :
    Turns below request (.probe inner) s machine
      ((Probe.allocate below request (inner, s) machine).mapState (lift .probe)) := by
  have step := Probe.allocate_step below request inner s machine
  generalize Probe.allocate below request (inner, s) machine = reply at step ⊢
  cases step with
  | injected sees => exact .alone (by simp only [need?, sees, if_true]) rfl
  | passed sees answer =>
    have needs : (probe inner).need? request = some request := by
      simp only [need?, sees, Bool.false_eq_true, if_false]
    exact .answered needs valid answer rfl

theorem turns {layer : Layer} (accepted : layer.make.Accepted) (valid : request.Valid) :
    Turns below request layer s machine ((source below).allocate request (layer, s) machine) := by
  cases layer with
  | arena inner => exact arena_turns inner
  | pool inner => exact pool_turns inner (Error.verify_eq_ok_iff.1 accepted) valid
  | slab inner => exact slab_turns inner valid
  | hybrid inner => exact hybrid_turns inner valid
  | tracker inner => exact tracker_turns inner valid
  | probe inner => exact probe_turns inner valid

end Layer

end LayeredAllocation
