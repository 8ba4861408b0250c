import LayeredAllocation.Proofs.Ledger
import LayeredAllocation.Proofs.Lending
import LayeredAllocation.Proofs.Shelves

namespace LayeredAllocation

namespace Lending
variable {lending : Lending σ} {block : Block} {rest : List Block}

theorem settle_perm (fits : lending.Fits) (beneath : σ)
    (split : (lending.ours.map Grant.block).Perm (block :: rest)) :
    ((lending.settle block.address beneath).ours.map Grant.block).Perm rest := by
  have distinct : ((block :: rest).map Block.address).Nodup := by
    apply (split.map Block.address).nodup_iff.1
    rw [List.map_map]
    exact fits.distinct
  obtain ⟨absent, _⟩ := List.nodup_cons.1 distinct
  have others : rest.filter (·.address ≠ block.address) = rest := by
    apply List.filter_eq_self.2
    intro other member
    apply decide_eq_true
    intro same
    exact absent (same ▸ List.mem_map_of_mem member)
  have kept := split.filter (·.address ≠ block.address)
  rw [List.filter_cons_of_neg (by simp), others] at kept
  rw [List.filter_map] at kept
  exact kept

end Lending

namespace Pool
variable {pool after : Pool} {backing : Block} {issued : IssuedBlock} {a : Nat} {bucket : Bucket}
  {lost left : List Block} {ours : List Grant}

structure Stocked (pool : Pool) (ours : List Grant) (lost : List Block) : Prop where
  tidy : pool.Tidy
  split : (ours.map Grant.block).Perm (pool.kept ++ lost)
  held : pool.held = Counter.ofNat ((pool.kept ++ lost).map Block.size).sum

namespace Stocked

theorem shift (stocked : pool.Stocked ours lost) (tidy : after.Tidy)
    (shuffled : (pool.kept ++ lost).Perm (after.kept ++ left)) (held : after.held = pool.held) :
    after.Stocked ours left := by
  refine ⟨tidy, stocked.split.trans shuffled, ?_⟩
  rw [held, stocked.held, (shuffled.map Block.size).sum_nat]

theorem lend (stocked : pool.Stocked ours lost) (tidy : after.Tidy) (request : Request)
    (shuffled : after.kept.Perm (backing :: pool.kept)) (held : after.held = pool.held.add backing.size) :
    after.Stocked (⟨request, backing⟩ :: ours) lost := by
  have wider : (after.kept ++ lost).Perm (backing :: (pool.kept ++ lost)) := shuffled.append_right lost
  refine ⟨tidy, (stocked.split.cons backing).trans wider.symm, ?_⟩
  rw [held, stocked.held, Counter.ofNat_add, (wider.map Block.size).sum_nat, List.map_cons,
    List.sum_cons, Nat.add_comm]

theorem settle {lending : Lending σ} (stocked : pool.Stocked lending.ours lost)
    (fits : lending.Fits) (beneath : σ) (tidy : after.Tidy)
    (shuffled : (pool.kept ++ lost).Perm (backing :: (after.kept ++ left)))
    (held : after.held = pool.held.sub backing.size) :
    after.Stocked (lending.settle backing.address beneath).ours left := by
  refine ⟨tidy, Lending.settle_perm fits beneath (stocked.split.trans shuffled), ?_⟩
  rw [held, stocked.held, (shuffled.map Block.size).sum_nat, List.map_cons, List.sum_cons,
    Nat.add_comm, ← Counter.ofNat_add, Counter.add_sub]

theorem distinct {lending : Lending σ} (stocked : pool.Stocked lending.ours lost)
    (fits : lending.Fits) : ((pool.kept ++ lost).map Block.address).Nodup := by
  apply (stocked.split.map Block.address).nodup_iff.1
  rw [List.map_map]
  exact fits.distinct

theorem absent (stocked : pool.Stocked ours lost) (elsewhere : ∀ g ∈ ours, g.block.address ≠ a) :
    pool.outstanding.find? a = none := by
  apply stocked.tidy.keyed.absent
  intro issued member here
  have kept : issued.backing ∈ pool.kept ++ lost :=
    List.mem_append_left _ (List.mem_append_right _ (List.mem_map_of_mem member))
  obtain ⟨g, held, same⟩ := List.mem_map.1 (stocked.split.mem_iff.2 kept)
  exact elsewhere g held (same ▸ here)

end Stocked

theorem Stocked.vacant_of_idle {lending : Lending σ} {others : List IdleBlock}
    (stocked : pool.Stocked lending.ours lost) (fits : lending.Fits)
    (found : takeIdle bucket pool.idle = some (backing, others)) :
    pool.outstanding.find? backing.address = none := by
  have kept := (List.sublist_append_left pool.kept lost).map Block.address
  exact Pool.vacant_of_idle stocked.tidy.keyed ((stocked.distinct fits).sublist kept) found

theorem Stocked.vacant_of_lent {wider : Request} (stocked : pool.Stocked ours lost)
    (distinct : (((⟨wider, backing⟩ : Grant) :: ours).map (·.block.address)).Nodup) :
    pool.outstanding.find? backing.address = none := by
  apply stocked.absent
  intro g member same
  have elsewhere : backing.address ∉ ours.map (·.block.address) := (List.nodup_cons.1 distinct).1
  exact elsewhere (same ▸ List.mem_map_of_mem member)

section
variable {below : Source σ} {lending : Lending σ} {request : Request} {block : Block}
  {machine : Machine}

theorem Asks.stocked {asking : Pool} {wider : Request} {target : Option Bucket} {shape : Block → Block}
    (asks : Asks pool request asking wider target shape) (stocked : pool.Stocked ours lost) :
    asking.Stocked ours lost := by
  have tidy := asks.tidy stocked.tidy
  rw [asks.counted] at tidy ⊢
  exact ⟨tidy, stocked.split, stocked.held⟩

theorem allocate_stocked (stocked : pool.Stocked lending.ours lost) (fits : lending.Fits)
    (supplied : (Pool.allocate below.watched request (pool, lending) machine).state.2.Fits) :
    let reply := Pool.allocate below.watched request (pool, lending) machine
    reply.state.1.Stocked reply.state.2.ours lost ∧ reply.state.1.config = pool.config ∧
      reply.state.1.disposed = pool.disposed := by
  have step := allocate_step below.watched request pool lending machine
  generalize Pool.allocate below.watched request (pool, lending) machine = reply at step supplied ⊢
  cases step with
  | refused cause => exact ⟨stocked, rfl, rfl⟩
  | @reused sizeClass backing others large rounded active found =>
    refine ⟨?_, rfl, rfl⟩
    exact stocked.shift (stocked.tidy.reuse active found)
      ((kept_reuse found (stocked.vacant_of_idle fits found)).append_right lost) rfl
  | @obtained asking wider target shape backing after machine' asks answer =>
    have lent := Source.watched_lent answer
    rw [lent] at supplied ⊢
    obtain ⟨size, align⟩ := supplied.asked ⟨wider, backing⟩ List.mem_cons_self
    have stocked := asks.stocked stocked
    have absent := stocked.vacant_of_lent supplied.distinct
    have tidy := stocked.tidy.adopt (asks.filed size align)
    refine ⟨stocked.lend tidy wider (kept_adopt absent) rfl, ?_, ?_⟩
    · rw [asks.counted]
      rfl
    · rw [asks.counted]
      rfl
  | @failed asking wider target shape fault after machine' asks answer =>
    rw [Source.watched_refused answer]
    refine ⟨asks.stocked stocked, ?_, ?_⟩
    · rw [asks.counted]
    · rw [asks.counted]

-- Only a panic beneath makes the pool forget a block that it was to give back.
theorem free_stocked (block : Block) (stocked : pool.Stocked lending.ours lost)
    (fits : lending.Fits) :
    let reply := Pool.free below.watched block (pool, lending) machine
    ∃ gone, reply.state.1.Stocked reply.state.2.ours (gone ++ lost) ∧
      (gone = [] ↔ ∀ message, reply.result ≠ .error (.panicked message)) ∧
      reply.state.1.config = pool.config ∧ reply.state.1.disposed = pool.disposed := by
  have step := free_step below.watched block pool lending machine
  generalize Pool.free below.watched block (pool, lending) machine = reply at step ⊢
  cases step with
  | foreign cause =>
    refine ⟨[], stocked, ?_, rfl, rfl⟩
    simp
  | @retained issued bucket own found filed active allowed =>
    refine ⟨[], ?_, ?_, rfl, rfl⟩
    · exact stocked.shift (stocked.tidy.retain found filed active allowed)
        ((kept_without found).append_right lost) rfl
    · simp
  | @released issued after machine' handsOn answer =>
    rw [Source.watched_settled answer]
    refine ⟨[], ?_, ?_, rfl, rfl⟩
    · exact stocked.settle fits _ (stocked.tidy.erase block.address _)
        ((kept_without handsOn.found).append_right lost) rfl
    · simp
  | @restored issued error after machine' handsOn answer =>
    rw [Source.watched_kept answer, stocked.tidy.keyed.restore handsOn.found]
    refine ⟨[], stocked, ?_, rfl, rfl⟩
    simp
  | @lost issued message after machine' handsOn answer =>
    rw [Source.watched_kept answer]
    refine ⟨[issued.backing], ?_, ?_, rfl, rfl⟩
    · refine stocked.shift (stocked.tidy.erase block.address pool.held) ?_ rfl
      exact ((kept_without handsOn.found).append_right lost).trans List.perm_middle.symm
    · simp

-- The induction is on the blocks still to be offered. Until they are, they count as lost.
theorem releaseAll_stocked (below : Source σ) (machine : Machine) (parked : List Block)
    (first : Option Error) (fits : lending.Fits)
    (stocked : pool.Stocked lending.ours (parked ++ lost)) :
    let reply := releaseAll below.watched first parked pool lending machine
    ∃ gone, reply.state.1.Stocked reply.state.2.ours (gone ++ lost) ∧
      (reply.result = .ok () ↔ first = none ∧ gone = []) := by
  induction parked generalizing pool lending machine first lost with
  | nil =>
    refine ⟨[], ?_⟩
    cases first with
    | none => exact ⟨stocked, by simp [releaseAll, Reply.done]⟩
    | some e => exact ⟨stocked, by simp [releaseAll, Reply.refuse]⟩
  | cons offered rest ih =>
    unfold releaseAll
    generalize answer : below.watched.free offered lending machine = reply
    obtain ⟨result, after, machine'⟩ := reply
    rcases result with (e | message) | _
    · have same := Source.watched_kept answer
      have kept : after.ours = lending.ours := by rw [same]
      have fits : after.Fits := same ▸ fits.move after.beneath
      have moved : pool.Stocked after.ours (rest ++ offered :: lost) := by
        rw [kept]
        exact stocked.shift stocked.tidy (List.perm_middle.symm.append_left pool.kept) rfl
      obtain ⟨gone, stocked, answered⟩ := ih _ (first.or (some e)) fits moved
      refine ⟨offered :: gone, ?_, ?_⟩
      · exact stocked.shift stocked.tidy (List.perm_middle.append_left _) rfl
      · rw [answered]
        cases first <;> simp
    · have kept : after.ours = lending.ours := by rw [Source.watched_kept answer]
      refine ⟨offered :: rest, kept ▸ stocked, ?_⟩
      simp [Reply.panic]
    · have same := Source.watched_settled answer
      have settled : Stocked { pool with held := pool.held.sub offered.size } after.ours (rest ++ lost) := by
        rw [same]
        exact stocked.settle fits _ (stocked.tidy.congr rfl rfl rfl rfl rfl rfl) List.perm_middle rfl
      have fits : after.Fits := same ▸ fits.settle offered.address after.beneath
      exact ih _ first fits settled

theorem emptied_stocked (below : Source σ) (machine : Machine) (disposed : Bool)
    (fits : lending.Fits) (stocked : pool.Stocked lending.ours lost) :
    let reply := releaseAll below.watched none pool.idleBlocks { pool.emptied with disposed } lending
      machine
    ∃ gone, reply.state.1.Stocked reply.state.2.ours (gone ++ lost) ∧
      (reply.result = .ok () ↔ gone = []) ∧
      reply.state.1.config = pool.config ∧ reply.state.1.disposed = disposed := by
  have shuffled : (pool.kept ++ lost).Perm
      (kept { pool.emptied with disposed } ++ (pool.idleBlocks ++ lost)) := by
    have reversed := (List.reverse_perm (pool.idle.map IdleBlock.backing)).symm
    have parted := reversed.append_right (pool.outstanding.values.map IssuedBlock.backing)
    rw [← List.append_assoc]
    exact (parted.trans List.perm_append_comm).append_right lost
  have parked := stocked.shift (stocked.tidy.emptied disposed) shuffled rfl
  obtain ⟨gone, stocked, answered⟩ :=
    releaseAll_stocked below machine pool.idleBlocks none fits parked
  obtain ⟨_, same⟩ := releaseAll_held below.watched pool.idleBlocks none
    { pool.emptied with disposed } lending machine
  exact ⟨gone, stocked, answered.trans (by simp), by rw [same]; rfl, by rw [same]⟩

end

end Pool

-- A call in which a pool loses blocks: idle ones are to be given back, and beneath this fails, or
-- the source beneath panics over a block that is given back.
def Event.Loses : Event → Prop
  | ⟨.trim, .error _⟩ | ⟨.dispose, .error _⟩ | ⟨.free _, .error (.panicked _)⟩ => True
  | _ => False

namespace Pool
variable {below : Source σ} {lending : Lending σ} {machine : Machine} {pool : Pool} {lost : List Block}

theorem emptied_loses {reply : Reply (Layer × Lending σ) Unit} {gone : List Block} {call : Call}
    (empties : call = .trim ∨ call = .dispose) (answered : reply.result = .ok () ↔ gone = []) :
    gone = [] ↔ ¬ Event.Loses ⟨call, (reply.map fun _ => (none : Option Block)).result⟩ := by
  obtain ⟨result, state, machine⟩ := reply
  rw [← answered]
  rcases empties with rfl | rfl
  · cases result with
    | ok value => simp [Reply.map, Except.map, Event.Loses]
    | error fault => simp [Reply.map, Except.map, Event.Loses]
  · cases result with
    | ok value => simp [Reply.map, Except.map, Event.Loses]
    | error fault => simp [Reply.map, Except.map, Event.Loses]

theorem free_loses {block : Block} {result : Except Fault Unit} :
    (∀ message, result ≠ .error (.panicked message)) ↔
      ¬ Event.Loses ⟨.free block, result.map fun _ => none⟩ := by
  rcases result with (error | message) | _
  · simp [Except.map, Event.Loses]
  · simp [Except.map, Event.Loses]
  · simp [Except.map, Event.Loses]

theorem perform_stocked (call : Call) (stocked : pool.Stocked lending.ours lost) (fits : lending.Fits)
    (supplied : (Layer.perform below.watched call (.pool pool, lending) machine).state.2.Fits) :
    let reply := Layer.perform below.watched call (.pool pool, lending) machine
    ∃ after gone, reply.state.1 = .pool after ∧
      after.Stocked reply.state.2.ours (gone ++ lost) ∧
      (gone = [] ↔ ¬ Event.Loses ⟨call, reply.result⟩) ∧ after.config = pool.config ∧
      (pool.disposed = true ∨ call = .dispose → after.disposed = true) := by
  cases call with
  | allocate request =>
    obtain ⟨stocked, config, disposed⟩ := allocate_stocked stocked fits supplied
    refine ⟨_, [], rfl, stocked, by simp [Event.Loses], config, ?_⟩
    rintro (closed | same)
    · exact disposed.trans closed
    · cases same
  | free block =>
    obtain ⟨gone, stocked, answered, config, disposed⟩ := free_stocked block stocked fits
    refine ⟨_, gone, rfl, stocked, answered.trans free_loses, config, ?_⟩
    rintro (closed | same)
    · exact disposed.trans closed
    · cases same
  | trim =>
    obtain ⟨gone, stocked, answered, config, disposed⟩ :=
      emptied_stocked below machine pool.disposed fits stocked
    refine ⟨_, gone, rfl, stocked, emptied_loses (Or.inl rfl) answered, config, ?_⟩
    rintro (closed | same)
    · exact disposed.trans closed
    · cases same
  | dispose =>
    obtain ⟨gone, stocked, answered, config, disposed⟩ := emptied_stocked below machine true fits stocked
    exact ⟨_, gone, rfl, stocked, emptied_loses (Or.inr rfl) answered, config, fun _ => disposed⟩

theorem Stocked.start (owner : Nat) (name : String) (config : PoolConfig) :
    Stocked { owner, name, config } [] [] := ⟨.start owner name config, .nil, rfl⟩

structure Upheld (config : PoolConfig) (past : List Event) (pool : Pool) (ours : List Grant)
    (lost : List Block) : Prop where
  config : pool.config = config
  stocked : pool.Stocked ours lost
  loses : lost = [] ↔ ∀ e ∈ past, ¬ e.Loses
  closed : (∃ e ∈ past, e.call = .dispose) → pool.disposed = true

theorem sharing_upheld {owner : Nat} {name : String} {config : PoolConfig} {base : σ}
    {origin : Machine} {past : List Event} {state : Layer × Lending σ}
    (sharing : Sharing below (.pool { owner, name, config }) base origin past state machine) :
    ∃ pool lost, state.1 = .pool pool ∧ pool.Upheld config past state.2.ours lost := by
  induction sharing with
  | start => exact ⟨_, [], rfl, rfl, .start owner name config, by simp, by simp⟩
  | @call past state machine call before supplied ih =>
    obtain ⟨layer, lending⟩ := state
    obtain ⟨pool, lost, rfl, upheld⟩ := ih
    obtain ⟨after, gone, same, stocked, loses, config, closed⟩ :=
      perform_stocked call upheld.stocked before.fits supplied
    refine ⟨after, gone ++ lost, same, config.trans upheld.config, stocked, ?_, ?_⟩
    · rw [List.append_eq_nil_iff, loses, upheld.loses, List.forall_mem_cons]
    · rintro ⟨e, member, disposes⟩
      rcases List.mem_cons.1 member with rfl | old
      · exact closed (Or.inr disposes)
      · exact closed (Or.inl (upheld.closed ⟨e, old, disposes⟩))
  | beside before after left untouched fits ih =>
    obtain ⟨pool, lost, same, upheld⟩ := ih
    exact ⟨pool, lost, same, untouched ▸ upheld⟩

section
variable {owner : Nat} {name : String} {config : PoolConfig} {base : σ} {origin : Machine}
  {past : List Event} {state : Layer × Lending σ}

-- What is in the buckets, what is on record and what is counted agree, whatever fails beneath.
theorem shelves_in_order
    (sharing : Sharing below (.pool { owner, name, config }) base origin past state machine) :
    ∃ pool, state.1 = .pool pool ∧ pool.config = config ∧ pool.Tidy ∧
      (pool.idle.map (·.backing.address) ++
        pool.outstanding.values.map (·.backing.address)).Nodup ∧
      ((∃ e ∈ past, e.call = .dispose) → pool.idle = []) := by
  obtain ⟨pool, lost, same, upheld⟩ := sharing_upheld sharing
  have distinct := (upheld.stocked.distinct sharing.fits).sublist
    ((List.sublist_append_left pool.kept lost).map Block.address)
  rw [kept, List.map_append, List.map_map, List.map_map] at distinct
  refine ⟨pool, same, upheld.config, upheld.stocked.tidy, distinct, fun disposed => ?_⟩
  exact upheld.stocked.tidy.closed (upheld.closed disposed)

-- A pool that keeps at most a hundred bytes, over a source that refuses the first block it is given
-- back. Of two blocks one is kept and one is refused; then the pool is disposed of.
def cappedOnce : List Event × (Layer × Lending (Layer × SystemStore)) × Machine :=
  played (Layer.perform (Layer.source SystemStore.source).watched)
    (.pool { owner := 1, name := "pool", config := { maxRetained := some 100 } },
      { beneath := (.probe { freePlan := .after 0 1 }, {}) }) ⟨{ platform := .ascending }, []⟩
    [.dispose, .free ⟨0x4000_0000_1000, 64, 8, .pool 1 64⟩,
      .free ⟨0x4000_0000_0000, 64, 8, .pool 1 64⟩, .allocate ⟨64, 8, false, 1, 64, Site.internal⟩,
      .allocate ⟨64, 8, false, 1, 64, Site.internal⟩]

theorem shelves_in_order_cappedOnce :
    ∃ pool, cappedOnce.2.1.1 = .pool pool ∧ pool.config = { maxRetained := some 100 } ∧
      pool.Tidy ∧
      (pool.idle.map (·.backing.address) ++
        pool.outstanding.values.map (·.backing.address)).Nodup ∧
      ((∃ e ∈ cappedOnce.1, e.call = .dispose) → pool.idle = []) := by
  apply shelves_in_order
  apply Sharing.played
  decide +kernel

theorem perform_keeps_lost {call : Call} (stocked : pool.Stocked lending.ours lost)
    (fits : lending.Fits)
    (supplied : (Layer.perform below.watched call (.pool pool, lending) machine).state.2.Fits) :
    lost ⊆ (Layer.perform below.watched call (.pool pool, lending) machine).state.2.ours.map
      Grant.block := by
  obtain ⟨after, gone, _, stocked, _⟩ := perform_stocked call stocked fits supplied
  intro block member
  apply stocked.split.mem_iff.2
  simp [member]

theorem close_keeps_lost (stocked : pool.Stocked lending.ours lost) (fits : lending.Fits) :
    lost ⊆ (pool.close below.watched lending machine).state.ours.map Grant.block := by
  intro block member
  unfold Pool.close
  dsimp only
  generalize (if pool.outstanding.isEmpty then machine else _) = noted
  have outcome : let reply := releaseAll below.watched none pool.idleBlocks pool.emptied lending noted
      ∃ gone, reply.state.1.Stocked reply.state.2.ours (gone ++ lost) ∧ _ :=
    emptied_stocked below noted pool.disposed fits stocked
  generalize releaseAll below.watched none pool.idleBlocks pool.emptied lending noted = reply at outcome ⊢
  obtain ⟨result, ⟨after, left⟩, machine'⟩ := reply
  obtain ⟨gone, stocked, _⟩ := outcome
  have kept : block ∈ left.ours.map Grant.block := by
    apply stocked.split.mem_iff.2
    simp [member]
  rcases result with (e | message) | _
  · exact kept
  · exact kept
  · exact kept

-- Every block from beneath is idle, outstanding or lost. Blocks get lost just when a call fails that
-- is to give them back, and what is lost is not offered again, not even when the pool ends.
theorem lost_iff_release_failed
    (sharing : Sharing below (.pool { owner, name, config }) base origin past state machine) :
    ∃ pool lost, state.1 = .pool pool ∧
      (state.2.ours.map Grant.block).Perm (pool.idle.map IdleBlock.backing ++
        pool.outstanding.values.map IssuedBlock.backing ++ lost) ∧
      (Layer.source below.watched).held state =
        ((pool.outstanding.values.map (·.backing.size)).sum + pool.residentBytes +
          (lost.map Block.size).sum) % Word.range ∧
      (lost = [] ↔ ∀ e ∈ past, ¬ e.Loses) ∧
      (∀ call, (Layer.perform below.watched call state machine).state.2.Fits →
        lost ⊆ (Layer.perform below.watched call state machine).state.2.ours.map Grant.block) ∧
      ∀ panicking, lost ⊆
        (Layer.close below.watched panicking state.1 state.2 machine).beneath.ours.map Grant.block := by
  obtain ⟨pool, lost, same, upheld⟩ := sharing_upheld sharing
  obtain ⟨layer, lending⟩ := state
  cases same
  obtain ⟨_, stocked, loses, _⟩ := upheld
  refine ⟨pool, lost, rfl, stocked.split, ?_, loses, ?_, ?_⟩
  · change pool.held.read = _
    rw [stocked.held, Counter.read_ofNat_mod, stocked.tidy.bytes]
    simp only [kept, List.map_append, List.map_map, List.sum_append]
    congr 2
    exact Nat.add_comm _ _
  · intro call supplied
    exact perform_keeps_lost stocked sharing.fits supplied
  · intro panicking
    rw [Layer.close, Layer.ofReply_beneath]
    exact close_keeps_lost stocked sharing.fits

def trimmedTwice : List Event × (Layer × Lending (Layer × SystemStore)) × Machine :=
  played (Layer.perform (Layer.source SystemStore.source).watched)
    (.pool { owner := 1, name := "pool", config := {} },
      { beneath := (.probe { freePlan := .after 0 1 }, {}) }) ⟨{ platform := .ascending }, []⟩
    [.trim, .trim, .free ⟨0x4000_0000_0000, 64, 8, .pool 1 64⟩,
      .allocate ⟨64, 8, false, 1, 64, Site.internal⟩]

theorem lost_iff_release_failed_trimmedTwice :
    ∃ pool lost, trimmedTwice.2.1.1 = .pool pool ∧
      (trimmedTwice.2.1.2.ours.map Grant.block).Perm (pool.idle.map IdleBlock.backing ++
        pool.outstanding.values.map IssuedBlock.backing ++ lost) ∧
      (Layer.source (Layer.source SystemStore.source).watched).held trimmedTwice.2.1 =
        ((pool.outstanding.values.map (·.backing.size)).sum + pool.residentBytes +
          (lost.map Block.size).sum) % Word.range ∧
      (lost = [] ↔ ∀ e ∈ trimmedTwice.1, ¬ e.Loses) ∧
      (∀ call, (Layer.perform (Layer.source SystemStore.source).watched call trimmedTwice.2.1
          trimmedTwice.2.2).state.2.Fits →
        lost ⊆ (Layer.perform (Layer.source SystemStore.source).watched call trimmedTwice.2.1
          trimmedTwice.2.2).state.2.ours.map Grant.block) ∧
      ∀ panicking, lost ⊆
        (Layer.close (Layer.source SystemStore.source).watched panicking trimmedTwice.2.1.1
          trimmedTwice.2.1.2 trimmedTwice.2.2).beneath.ours.map Grant.block := by
  apply lost_iff_release_failed
  apply Sharing.played
  decide +kernel

-- The first time the block is refused, the second time it is not offered: the source beneath still
-- lends it to the pool, which counts its bytes but has it neither on record nor in a bucket.
theorem refused_block_forgotten :
    ∃ pool, trimmedTwice.2.1.1 = .pool pool ∧
      trimmedTwice.1.head?.map Event.answer = some (.ok none) ∧
      trimmedTwice.2.1.2.ours.map Grant.block = [⟨0x4000_0000_0000, 64, 8, .system⟩] ∧
      pool.outstanding.values = [] ∧ pool.idle = [] ∧ pool.residentBytes = 0 ∧
      (Layer.source (Layer.source SystemStore.source).watched).held trimmedTwice.2.1 = 64 :=
  ⟨_, rfl, rfl, by decide +kernel⟩

end

end Pool
end LayeredAllocation
