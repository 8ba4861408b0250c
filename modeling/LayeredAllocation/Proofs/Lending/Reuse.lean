import Mathlib.Algebra.BigOperators.Finprod
import LayeredAllocation.Proofs.Lending.Pool
import LayeredAllocation.Proofs.Follows

namespace LayeredAllocation

namespace PoolConfig
variable {config : PoolConfig} {request : Request} {bucket : Bucket}

def bucketOf (config : PoolConfig) (request : Request) : Bucket :=
  ⟨Word.roundUp request.size config.granularity, request.align⟩

def inUse (config : PoolConfig) (bucket : Bucket) (past : List Event) : Nat :=
  ((inHand past).map fun g => config.bucketOf g.request).count bucket

def peak (config : PoolConfig) (bucket : Bucket) : List Event → Nat
  | [] => 0
  | e :: past => max (config.peak bucket past) (config.inUse bucket (e :: past))

theorem bucketOf_eq {sizeClass : Nat} (rounded : config.sizeClass? request.size = .ok sizeClass) :
    config.bucketOf request = ⟨sizeClass, request.align⟩ := by
  obtain ⟨_, rfl, _⟩ := Word.roundUp?_eq_some.1 (sizeClass?_ok rounded).1
  rfl

theorem bucketOf_of_whole (whole : config.minBlockSize = 0) (request : Request) :
    config.bucketOf request = ⟨config.backingSize request, request.align⟩ := by
  rw [bucketOf, backingSize, whole, if_neg (Nat.not_lt_zero _)]

end PoolConfig

def Noted.obtained (noted : Noted σ) (bucket : Bucket) : Nat :=
  (noted.issued.map Block.bucket).count bucket

section
variable {below : Source σ} {noted after : Noted σ} {request : Request} {result : Except Fault Block}
  {machine machine' : Machine}

theorem Source.noted_heard
    (answer : below.noted.allocate request noted machine = ⟨result, after, machine'⟩) :
    below.allocate request noted.beneath machine = ⟨result, after.beneath, machine'⟩ ∧
      after = noted.hear request result after.beneath := by
  cases answer
  exact ⟨rfl, rfl⟩

end

-- Histories of a layer over a source with other clients, where all calls of the layer are noted.
inductive Serving (below : Source σ) (first : Layer) (base : σ) (origin : Machine) :
    List Event → Layer × Noted (Lending σ) → Machine → Prop where
  | start : Serving below first base origin [] (first, { beneath := { beneath := base } }) origin
  | call {call : Call} (before : Serving below first base origin past state machine)
      (fits : (Layer.perform below.watched.noted call state machine).state.2.beneath.Fits) :
      Serving below first base origin
        (⟨call, (Layer.perform below.watched.noted call state machine).result⟩ :: past)
        (Layer.perform below.watched.noted call state machine).state
        (Layer.perform below.watched.noted call state machine).machine
  | beside {layer : Layer} {noted : Noted (Lending σ)}
      (before : Serving below first base origin past (layer, noted) machine)
      (after : Lending σ) (left : Machine) (untouched : after.ours = noted.beneath.ours)
      (fits : after.Fits) :
      Serving below first base origin past (layer, { noted with beneath := after }) left

namespace Serving
variable {below : Source σ} {first : Layer} {base : σ} {origin machine : Machine} {past : List Event}
  {state : Layer × Noted (Lending σ)}

theorem fits (serving : Serving below first base origin past state machine) :
    state.2.beneath.Fits := by
  cases serving with
  | start => exact ⟨by simp, List.nodup_nil⟩
  | call before fits => exact fits
  | beside before after left untouched fits => exact fits

theorem played {calls : List Call} (supplied : Supplied below first base origin calls) :
    let (past, state, machine) := played (Layer.perform below.watched.noted)
      (first, { beneath := { beneath := base } }) origin calls
    Serving below first base origin past state machine := by
  induction calls with
  | nil => exact .start
  | cons call earlier ih =>
    refine .call (ih supplied.1) ?_
    have alike : LayeredAllocation.played (Layer.perform below.watched) (first, { beneath := base })
        origin (call :: earlier) = _ :=
      Layer.played_follows (t := { beneath := { beneath := base } }) below.watched.noted_follows first
        (call :: earlier)
    have fits := supplied.2
    rw [alike] at fits
    exact fits

end Serving

namespace Pool
variable {below : Source σ} {config : PoolConfig} {past : List Event} {pool after : Pool}
  {noted : Noted (Lending σ)} {request : Request} {machine : Machine} {bucket : Bucket}

theorem takeIdle_eq_none {idle : List IdleBlock} (absent : takeIdle bucket idle = none) :
    ∀ i ∈ idle, i.bucket ≠ bucket := by
  induction idle with
  | nil => simp
  | cons first rest ih =>
    unfold takeIdle at absent
    split at absent
    · cases absent
    · next other =>
      rw [Option.map_eq_none_iff] at absent
      exact List.forall_mem_cons.2 ⟨other, ih absent⟩

theorem Asks.missed {asking : Pool} {wider : Request} {filed : Option Bucket} {shape : Block → Block}
    (asks : Asks pool request asking wider filed shape) (whole : pool.config.minBlockSize = 0) :
    ∃ sizeClass, pool.config.sizeClass? request.size = .ok sizeClass ∧
      (∀ i ∈ pool.idle, i.bucket ≠ pool.config.bucketOf request) ∧
      asking = { pool with misses := pool.misses + 1 } ∧ wider = request.withSize sizeClass ∧
      filed = some ⟨sizeClass, request.align⟩ ∧
      shape = fun backing => pool.issue backing request sizeClass := by
  cases asks with
  | bypass small _ =>
    rw [whole] at small
    exact absurd small (Nat.not_lt_zero _)
  | miss large rounded _ absent =>
    refine ⟨_, rounded, ?_, rfl, rfl, rfl, rfl⟩
    rw [PoolConfig.bucketOf_eq rounded]
    exact takeIdle_eq_none absent

-- A pool that has kept everything: what it ever obtained, it still has from beneath, and what of this
-- is not idle is what its clients have.
structure Shelved (config : PoolConfig) (past : List Event) (pool : Pool)
    (noted : Noted (Lending σ)) : Prop where
  same : pool.config = config
  whole : config.minBlockSize = 0
  active : pool.disposed = false
  stocked : pool.Stocked noted.beneath.ours []
  lent : noted.issued = noted.beneath.ours.map Grant.block
  pooled : ∀ a issued, pool.outstanding.find? a = some issued → issued.bucket.isSome
  listed : config.Lists past pool.outstanding

namespace Shelved

theorem start (base : σ) (owner : Nat) (name : String) (whole : config.minBlockSize = 0) :
    Shelved config [] { owner, name, config } { beneath := { beneath := base } } :=
  ⟨rfl, whole, rfl, .start owner name config, rfl, by simp [Table.find?_empty], .nil⟩

theorem bucket_idle (shelved : Shelved config past pool noted) {i : IdleBlock} (idle : i ∈ pool.idle) :
    i.backing.bucket = i.bucket := by
  obtain ⟨size, align⟩ := shelved.stocked.tidy.filed i idle
  rw [Block.bucket, size, align]

theorem count (shelved : Shelved config past pool noted) (bucket : Bucket) :
    noted.obtained bucket =
      (pool.idle.map (·.backing.bucket)).count bucket + config.inUse bucket past := by
  have split := (shelved.stocked.split.map Block.bucket).count_eq bucket
  have listed := (shelved.listed.map Prod.snd).count_eq bucket
  simp only [List.map_map, Function.comp_def, PoolConfig.entryOf,
    ← PoolConfig.bucketOf_of_whole shelved.whole] at listed
  rw [Noted.obtained, shelved.lent, split, List.append_nil, kept, List.map_append, List.count_append,
    List.map_map, List.map_map]
  exact congrArg _ listed

theorem in_use_le (shelved : Shelved config past pool noted) (bucket : Bucket) :
    config.inUse bucket past ≤ noted.obtained bucket := by
  rw [shelved.count]
  exact Nat.le_add_left _ _

theorem none_idle (shelved : Shelved config past pool noted)
    (exhausted : ∀ i ∈ pool.idle, i.bucket ≠ bucket) :
    noted.obtained bucket = config.inUse bucket past := by
  rw [shelved.count, List.count_eq_zero.2, Nat.zero_add]
  intro member
  obtain ⟨i, inside, same⟩ := List.mem_map.1 member
  exact exhausted i inside ((shelved.bucket_idle inside).symm.trans same)

theorem exhausted_iff (shelved : Shelved config past pool noted) (fits : noted.beneath.Fits) :
    (∀ i ∈ pool.idle, i.bucket ≠ bucket) ↔
      ∀ block ∈ noted.issued, block.bucket = bucket →
        ∃ g ∈ inHand past, g.block.address = block.address := by
  have obtained (block : Block) : block ∈ noted.issued ↔ block ∈ pool.kept := by
    rw [shelved.lent, shelved.stocked.split.mem_iff, List.append_nil]
  constructor
  · intro exhausted block member same
    rcases List.mem_append.1 ((obtained block).1 member) with idle | outstanding
    · obtain ⟨i, inside, rfl⟩ := List.mem_map.1 idle
      exact absurd ((shelved.bucket_idle inside).symm.trans same) (exhausted i inside)
    · obtain ⟨issued, inside, rfl⟩ := List.mem_map.1 outstanding
      have entry := shelved.listed.mem_iff.1 (List.mem_map_of_mem inside)
      obtain ⟨g, held, same⟩ := List.mem_map.1 entry
      exact ⟨g, held, congrArg Prod.fst same⟩
  · intro all i idle same
    have kept : i.backing ∈ pool.kept := List.mem_append_left _ (List.mem_map_of_mem idle)
    obtain ⟨g, held, here⟩ :=
      all i.backing ((obtained _).2 kept) ((shelved.bucket_idle idle).trans same)
    have entry := shelved.listed.mem_iff.2 (List.mem_map_of_mem held)
    obtain ⟨issued, member, equal⟩ := List.mem_map.1 entry
    have distinct := shelved.stocked.distinct fits
    rw [List.append_nil, Pool.kept, List.map_append] at distinct
    have apart := (List.nodup_append.1 distinct).2.2
    exact apart _ (List.mem_map_of_mem (List.mem_map_of_mem idle)) _
      (List.mem_map_of_mem (List.mem_map_of_mem member))
      (here.symm.trans (congrArg Prod.fst equal).symm)

theorem never_hands_on (shelved : Shelved config past pool noted) (uncapped : config.maxRetained = none)
    {block : Block} {issued : IssuedBlock} : ¬ pool.HandsOn block issued := by
  rintro ⟨_, found, spare⟩
  obtain ⟨bucket, filed⟩ := Option.isSome_iff_exists.1 (shelved.pooled _ _ found)
  have full := spare bucket filed shelved.active
  simp only [PoolConfig.allows, shelved.same, uncapped] at full
  cases full

end Shelved

-- What the source beneath issues over a call for a block: nothing, or a block of the size class that
-- is asked for, and this only while no such block is idle.
inductive Draws (config : PoolConfig) (request : Request) (pool after : Pool)
    (noted left : Noted (Lending σ)) : Prop where
  | nothing (issued : left.issued = noted.issued)
  | obtained {backing : Block} (exhausted : ∀ i ∈ pool.idle, i.bucket ≠ config.bucketOf request)
      (issued : left.issued = backing :: noted.issued)
      (shelf : backing.bucket = config.bucketOf request) (idle : after.idle = pool.idle)

theorem pooled_insert {table : Table IssuedBlock} {address : Nat} {backing : Block}
    (pooled : ∀ a issued, table.find? a = some issued → issued.bucket.isSome) :
    ∀ a issued, (table.insert address ⟨backing, some bucket⟩).find? a = some issued →
      issued.bucket.isSome := by
  intro a issued recorded
  rw [Table.find?_insert] at recorded
  split at recorded
  · cases recorded
    rfl
  · exact pooled a issued recorded

theorem allocate_shelved (shelved : Shelved config past pool noted)
    (fits : noted.beneath.Fits)
    (supplied :
      (Pool.allocate below.watched.noted request (pool, noted) machine).state.2.beneath.Fits) :
    let reply := Pool.allocate below.watched.noted request (pool, noted) machine
    Shelved config (⟨.allocate request, reply.result.map some⟩ :: past) reply.state.1 reply.state.2 ∧
      Draws config request pool reply.state.1 noted reply.state.2 := by
  obtain ⟨rfl, whole, active, stocked, lent, pooled, listed⟩ := shelved
  have shelf := PoolConfig.bucketOf_of_whole whole request
  have follows : _ = Pool.allocate below.watched request (pool, noted.beneath) machine :=
    allocate_follows below.watched.noted_follows pool
  have beneath : (Pool.allocate below.watched request (pool, noted.beneath) machine).state.2.Fits := by
    rw [← follows]
    exact supplied
  have upheld := allocate_stocked stocked fits beneath
  rw [← follows] at upheld
  obtain ⟨restocked, _, _⟩ := upheld
  have step := allocate_step below.watched.noted request pool noted machine
  generalize Pool.allocate below.watched.noted request (pool, noted) machine = reply
    at step supplied restocked ⊢
  cases step with
  | refused cause => exact ⟨⟨rfl, whole, active, stocked, lent, pooled, listed⟩, .nothing rfl⟩
  | @reused sizeClass backing others large rounded _ found =>
    have cut := stocked.tidy.cut_of_idle large rounded found
    refine ⟨⟨rfl, whole, active, restocked, lent, pooled_insert pooled, ?_⟩, .nothing rfl⟩
    exact listed_insert listed (stocked.vacant_of_idle fits found) cut rfl
  | @obtained asking wider target shape backing after machine' asks answer =>
    obtain ⟨answer, heard⟩ := Source.noted_heard answer
    have ours : after.beneath.ours = ⟨wider, backing⟩ :: noted.beneath.ours :=
      congrArg Lending.ours (Source.watched_lent answer)
    have issued : after.issued = backing :: noted.issued := congrArg Noted.issued heard
    obtain ⟨size, align⟩ := supplied.asked ⟨wider, backing⟩ (ours ▸ List.mem_cons_self)
    have cut := asks.cut size align
    have vacant := stocked.vacant_of_lent (ours ▸ supplied.distinct)
    obtain ⟨sizeClass, rounded, exhausted, rfl, rfl, rfl, rfl⟩ := asks.missed whole
    refine ⟨⟨rfl, whole, active, restocked, ?_, pooled_insert pooled, ?_⟩,
      .obtained exhausted issued (cut.trans shelf.symm) rfl⟩
    · rw [issued, ours, lent]
      rfl
    · exact listed_insert listed vacant cut rfl
  | @failed asking wider target shape fault after machine' asks answer =>
    obtain ⟨answer, heard⟩ := Source.noted_heard answer
    have refuses := Source.watched_refused answer
    obtain ⟨sizeClass, rounded, exhausted, rfl, rfl, rfl, rfl⟩ := asks.missed whole
    have ours : after.beneath.ours = noted.beneath.ours := by rw [refuses]
    have issued : after.issued = noted.issued := by rw [heard]; rfl
    refine ⟨⟨rfl, whole, active, restocked, ?_, pooled, listed⟩, .nothing issued⟩
    rw [issued, ours, lent]

theorem Asks.heard {asking : Pool} {wider : Request} {filed : Option Bucket} {shape : Block → Block}
    {result : Except Fault Block} {left : Noted (Lending σ)} {machine' : Machine}
    (asks : Asks pool request asking wider filed shape) (whole : pool.config.minBlockSize = 0)
    (answer : below.watched.noted.allocate wider noted machine = ⟨result, left, machine'⟩) :
    left.asked ≠ noted.asked ↔
      (∃ sizeClass, pool.config.sizeClass? request.size = .ok sizeClass) ∧
        ∀ i ∈ pool.idle, i.bucket ≠ pool.config.bucketOf request := by
  obtain ⟨sizeClass, rounded, exhausted, _⟩ := asks.missed whole
  refine iff_of_true ?_ ⟨⟨sizeClass, rounded⟩, exhausted⟩
  rw [(Source.noted_heard answer).2]
  exact List.cons_ne_self _ _

theorem allocate_asks (shelved : Shelved config past pool noted)
    (below : Source σ) (request : Request) (machine : Machine) :
    (Pool.allocate below.watched.noted request (pool, noted) machine).state.2.asked ≠ noted.asked ↔
      (∃ sizeClass, config.sizeClass? request.size = .ok sizeClass) ∧
        ∀ i ∈ pool.idle, i.bucket ≠ config.bucketOf request := by
  obtain ⟨rfl, whole, active, _, _, _, _⟩ := shelved
  have step := allocate_step below.watched.noted request pool noted machine
  generalize Pool.allocate below.watched.noted request (pool, noted) machine = reply at step ⊢
  cases step with
  | refused cause =>
    refine iff_of_false (fun other => other rfl) ?_
    rintro ⟨⟨sizeClass, rounded⟩, _⟩
    rcases cause with ⟨disposed, _⟩ | ⟨_, unfit⟩
    · exact Bool.noConfusion (disposed.symm.trans active)
    · rw [rounded] at unfit
      cases unfit
  | reused large rounded _ found =>
    refine iff_of_false (fun other => other rfl) ?_
    rintro ⟨_, exhausted⟩
    exact exhausted _ ((takeIdle_perm found).mem_iff.2 List.mem_cons_self)
      (PoolConfig.bucketOf_eq rounded).symm
  | obtained asks answer => exact asks.heard whole answer
  | failed asks answer => exact asks.heard whole answer

theorem free_shelved (uncapped : config.maxRetained = none) (block : Block)
    (shelved : Shelved config past pool noted) :
    let reply := Pool.free below.watched.noted block (pool, noted) machine
    Shelved config (⟨.free block, reply.result.map fun _ => none⟩ :: past) reply.state.1
        reply.state.2 ∧
      reply.state.2 = noted := by
  have step := free_step below.watched.noted block pool noted machine
  generalize Pool.free below.watched.noted block (pool, noted) machine = reply at step ⊢
  cases step with
  | foreign cause =>
    exact ⟨⟨shelved.same, shelved.whole, shelved.active, shelved.stocked, shelved.lent,
      shelved.pooled, shelved.listed⟩, rfl⟩
  | @retained issued bucket own found filed active allowed =>
    obtain ⟨rfl, whole, _, stocked, lent, pooled, listed⟩ := shelved
    refine ⟨⟨rfl, whole, active, ?_, lent, ?_, ?_⟩, rfl⟩
    · exact stocked.shift (stocked.tidy.retain found filed active allowed)
        ((kept_without found).append_right []) rfl
    · intro a other recorded
      simp only [Pool.retain, Table.find?_erase] at recorded
      split at recorded
      · cases recorded
      · exact pooled a other recorded
    · exact listed_erase stocked.tidy.keyed listed
  | released handsOn answer => exact absurd handsOn (shelved.never_hands_on uncapped)
  | restored handsOn answer => exact absurd handsOn (shelved.never_hands_on uncapped)
  | lost handsOn answer => exact absurd handsOn (shelved.never_hands_on uncapped)

theorem Shelved.obtained_of_same {e : Event} {left : Noted (Lending σ)}
    (shelved : Shelved config (e :: past) after left) (issued : left.issued = noted.issued)
    (bucket : Bucket) :
    left.obtained bucket = max (noted.obtained bucket) (config.inUse bucket (e :: past)) := by
  have bound := shelved.in_use_le bucket
  have same : left.obtained bucket = noted.obtained bucket := by
    rw [Noted.obtained, issued, Noted.obtained]
  rw [← same, Nat.max_eq_left bound]

theorem Draws.obtained_eq {e : Event} {left : Noted (Lending σ)}
    (draws : Draws config request pool after noted left)
    (shelved : Shelved config (e :: past) after left) (bucket : Bucket) :
    left.obtained bucket = max (noted.obtained bucket) (config.inUse bucket (e :: past)) := by
  cases draws with
  | nothing issued => exact shelved.obtained_of_same issued bucket
  | @obtained backing exhausted issued shelf idle =>
    have counted : left.obtained bucket =
        noted.obtained bucket + if backing.bucket = bucket then 1 else 0 := by
      simp only [Noted.obtained, issued, List.map_cons, List.count_cons, beq_iff_eq]
    have bound := shelved.in_use_le bucket
    by_cases here : backing.bucket = bucket
    · subst here
      have all : left.obtained backing.bucket = config.inUse backing.bucket (e :: past) := by
        apply shelved.none_idle
        rw [idle, shelf]
        exact exhausted
      omega
    · rw [if_neg here] at counted
      omega

end Pool

def Call.Exchanges : Call → Prop
  | .allocate _ | .free _ => True
  | .trim | .dispose => False

instance : DecidablePred Call.Exchanges
  | .allocate _ | .free _ => .isTrue trivial
  | .trim | .dispose => .isFalse id

namespace Pool
variable {σ : Type} {below : Source σ} {config : PoolConfig} {owner : Nat} {name : String} {base : σ}
  {origin machine : Machine} {past : List Event} {state : Layer × Noted (Lending σ)}

theorem serving_shelved (whole : config.minBlockSize = 0) (uncapped : config.maxRetained = none)
    (serving : Serving below (.pool { owner, name, config }) base origin past state machine)
    (exchanges : ∀ e ∈ past, e.call.Exchanges) :
    ∃ pool, state.1 = .pool pool ∧ Shelved config past pool state.2 ∧
      ∀ bucket, state.2.obtained bucket = config.peak bucket past := by
  induction serving with
  | start => exact ⟨_, rfl, .start base owner name whole, fun _ => rfl⟩
  | @call past state machine call before supplied ih =>
    obtain ⟨exchange, earlier⟩ := List.forall_mem_cons.1 exchanges
    obtain ⟨layer, noted⟩ := state
    obtain ⟨pool, rfl, shelved, peaks⟩ := ih earlier
    cases call with
    | allocate request =>
      obtain ⟨shelved, draws⟩ := allocate_shelved shelved before.fits supplied
      refine ⟨_, rfl, shelved, fun bucket => ?_⟩
      rw [PoolConfig.peak, ← peaks bucket]
      exact draws.obtained_eq shelved bucket
    | free block =>
      obtain ⟨shelved, same⟩ := free_shelved uncapped block shelved
      refine ⟨_, rfl, shelved, fun bucket => ?_⟩
      rw [PoolConfig.peak, ← peaks bucket]
      exact shelved.obtained_of_same (congrArg Noted.issued same) bucket
    | trim | dispose => cases exchange
  | beside before after left untouched fits ih =>
    obtain ⟨pool, same, shelved, peaks⟩ := ih exchanges
    exact ⟨pool, same, { shelved with
      stocked := untouched ▸ shelved.stocked
      lent := untouched ▸ shelved.lent }, peaks⟩

theorem sum_sizes (blocks : List Block) : (blocks.map Block.size).sum =
    ∑ᶠ bucket : Bucket, bucket.sizeClass * (blocks.map Block.bucket).count bucket := by
  have sizes : blocks.map Block.size = (blocks.map Block.bucket).map Bucket.sizeClass := by
    rw [List.map_map]
    rfl
  have within : Function.support
      (fun bucket : Bucket => bucket.sizeClass * (blocks.map Block.bucket).count bucket) ⊆
        ↑(blocks.map Block.bucket).toFinset := by
    intro bucket some
    rw [Finset.mem_coe, List.mem_toFinset]
    by_contra absent
    apply some
    dsimp only
    rw [List.count_eq_zero.2 absent, Nat.mul_zero]
  rw [sizes, Finset.sum_list_map_count, finsum_eq_sum_of_support_subset _ within]
  apply Finset.sum_congr rfl
  intro bucket _
  rw [smul_eq_mul, Nat.mul_comm]

theorem Shelved.held {pool : Pool} {noted : Noted (Lending σ)}
    (shelved : Shelved config past pool noted) :
    pool.held.read = (noted.issued.map Block.size).sum % Word.range := by
  have sizes := (shelved.stocked.split.map Block.size).sum_nat
  rw [shelved.stocked.held, Counter.read_ofNat_mod, shelved.lent, sizes]

-- Whatever clients take and give back, also in vain, and however often the source beneath refuses:
-- the blocks obtained are of every kind as many as were ever in use at once, the pool's total is made
-- up of them (of blocks that overlap it is that modulo a word), and a call asks for another exactly if
-- there is a size class for it and every block of that kind is in use.
theorem obtains_only_at_peak (whole : config.minBlockSize = 0) (uncapped : config.maxRetained = none)
    (serving : Serving below (.pool { owner, name, config }) base origin past state machine)
    (exchanges : ∀ e ∈ past, e.call.Exchanges) :
    (∀ bucket, state.2.obtained bucket = config.peak bucket past) ∧
      (Layer.source below.watched.noted).held state =
        (∑ᶠ bucket : Bucket, bucket.sizeClass * config.peak bucket past) % Word.range ∧
      (Block.Coexist state.2.issued →
        (Layer.source below.watched.noted).held state =
          ∑ᶠ bucket : Bucket, bucket.sizeClass * config.peak bucket past) ∧
      ∀ request,
        (Layer.perform below.watched.noted (.allocate request) state machine).state.2.asked ≠
            state.2.asked ↔
          (∃ sizeClass, config.sizeClass? request.size = .ok sizeClass) ∧
            ∀ block ∈ state.2.issued, block.bucket = config.bucketOf request →
              ∃ g ∈ inHand past, g.block.address = block.address := by
  obtain ⟨pool, same, shelved, peaks⟩ := serving_shelved whole uncapped serving exchanges
  obtain ⟨layer, noted⟩ := state
  cases same
  have sizes : (noted.issued.map Block.size).sum =
      ∑ᶠ bucket : Bucket, bucket.sizeClass * config.peak bucket past := by
    rw [sum_sizes]
    apply finsum_congr
    intro bucket
    rw [← peaks]
    rfl
  have held : (Layer.source below.watched.noted).held (.pool pool, noted) =
      (∑ᶠ bucket : Bucket, bucket.sizeClass * config.peak bucket past) % Word.range := by
    rw [← sizes]
    exact shelved.held
  refine ⟨peaks, held, fun coexist => ?_, fun request => ?_⟩
  · have fits := coexist.sum_lt
    rw [sizes] at fits
    rw [held, Nat.mod_eq_of_lt fits]
  · rw [← shelved.exhausted_iff serving.fits]
    exact allocate_asks shelved below request machine

-- A pool with sizes in steps of sixteen bytes, over a source that fails from the third request on. Two
-- blocks of one size class are taken, the first is given back, once in vain, and taken again for
-- another size. Then the source fails, and the first block is given back once more.
def sharedClass : List Event × (Layer × Noted (Lending (Layer × SystemStore))) × Machine :=
  played (Layer.perform (Layer.source SystemStore.source).watched.noted)
    (.pool { owner := 1, name := "pool", config := { granularity := 16 } },
      { beneath := { beneath := (.probe { allocatePlan := .after 2 9 }, {}) } })
    ⟨{ platform := .ascending }, []⟩
    [.free ⟨0x4000_0000_0000, 25, 8, .pool 1 32⟩, .allocate ⟨40, 8, false, 1, 40, Site.internal⟩,
      .allocate ⟨25, 8, false, 1, 25, Site.internal⟩, .free ⟨0x4000_0000_0000, 20, 8, .pool 1 32⟩,
      .free ⟨0x4000_0000_0000, 20, 8, .pool 2 32⟩, .allocate ⟨30, 8, false, 1, 30, Site.internal⟩,
      .allocate ⟨20, 8, false, 1, 20, Site.internal⟩]

theorem obtains_only_at_peak_sharedClass :
    sharedClass.2.1.2.obtained ⟨32, 8⟩ = 2 ∧
      (Layer.source (Layer.source SystemStore.source).watched.noted).held sharedClass.2.1 =
        ∑ᶠ bucket : Bucket, bucket.sizeClass *
          ({ granularity := 16 } : PoolConfig).peak bucket sharedClass.1 ∧
      (Layer.perform (Layer.source SystemStore.source).watched.noted
        (.allocate ⟨32, 8, false, 1, 32, Site.internal⟩) sharedClass.2.1
          sharedClass.2.2).state.2.asked = sharedClass.2.1.2.asked := by
  have serving : Serving (Layer.source SystemStore.source)
      (.pool { owner := 1, name := "pool", config := { granularity := 16 } })
      (.probe { allocatePlan := .after 2 9 }, {}) ⟨{ platform := .ascending }, []⟩ sharedClass.1
      sharedClass.2.1 sharedClass.2.2 := by
    apply Serving.played
    decide +kernel
  have exchanges : ∀ e ∈ sharedClass.1, e.call.Exchanges := by decide +kernel
  obtain ⟨peaks, _, total, asks⟩ := obtains_only_at_peak rfl rfl serving exchanges
  refine ⟨?_, total (by decide +kernel), ?_⟩
  · rw [peaks]
    decide +kernel
  · -- The block that was given back last is idle.
    by_contra other
    obtain ⟨_, all⟩ := (asks _).1 other
    have issued : ⟨0x4000_0000_0000, 32, 8, .system⟩ ∈ sharedClass.2.1.2.issued := by decide +kernel
    obtain ⟨g, held, here⟩ := all _ issued (by decide +kernel)
    have returned : ∀ g ∈ inHand sharedClass.1, g.block.address ≠ 0x4000_0000_0000 := by decide +kernel
    exact returned g held here

end Pool

end LayeredAllocation
