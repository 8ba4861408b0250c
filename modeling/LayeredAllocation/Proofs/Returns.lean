import LayeredAllocation.Proofs.Contract.Stack

namespace LayeredAllocation.Pool
variable {σ : Type} {pool other : Pool} {live beneath out lost : List Block} {block backing : Block}
  {issued : IssuedBlock} {s : σ} {machine : Machine} {a : Nat}

structure IssuedAs (pool : Pool) (block : Block) (issued : IssuedBlock) : Prop where
  recorded : pool.outstanding.find? block.address = some issued
  tagged : (pool.config.minBlockSize ≤ block.size ∧ ∃ sizeClass, block.tag = .pool pool.owner sizeClass) ∨
    (block.size < pool.config.minBlockSize ∧ block.tag = issued.backing.tag)

structure Answerable (pool : Pool) (out lost : List Block) : Prop where
  known : ∀ b ∈ out, ∃ issued, pool.IssuedAs b issued
  forgotten : ∀ b ∈ lost, pool.outstanding.find? b.address = none

structure Same (pool other : Pool) : Prop where
  owner : other.owner = pool.owner
  config : other.config = pool.config

theorem IssuedAs.congr (issuedAs : pool.IssuedAs block issued) (same : Same pool other)
    (recorded : other.outstanding.find? block.address = some issued) : other.IssuedAs block issued := by
  refine ⟨recorded, ?_⟩
  rw [same.owner, same.config]
  exact issuedAs.tagged

namespace Answerable

theorem congr (answerable : pool.Answerable out lost) (same : Same pool other)
    (table : other.outstanding = pool.outstanding) : other.Answerable out lost := by
  refine ⟨?_, table ▸ answerable.forgotten⟩
  intro b member
  obtain ⟨issued, issuedAs⟩ := answerable.known b member
  exact ⟨issued, issuedAs.congr same (table ▸ issuedAs.recorded)⟩

theorem insert (answerable : pool.Answerable out lost) (same : Same pool other)
    (table : other.outstanding = pool.outstanding.insert block.address issued)
    (absent : pool.outstanding.find? block.address = none)
    (elsewhere : ∀ b ∈ lost, b.address ≠ block.address)
    (tagged : (pool.config.minBlockSize ≤ block.size ∧
      ∃ sizeClass, block.tag = .pool pool.owner sizeClass) ∨
      (block.size < pool.config.minBlockSize ∧ block.tag = issued.backing.tag)) :
    other.Answerable (block :: out) lost := by
  refine ⟨?_, ?_⟩
  · intro b member
    rcases List.mem_cons.1 member with rfl | old
    · refine ⟨issued, ?_, ?_⟩
      · rw [table, Table.find?_insert, if_pos rfl]
      · rw [same.owner, same.config]
        exact tagged
    · obtain ⟨entry, issuedAs⟩ := answerable.known b old
      refine ⟨entry, issuedAs.congr same ?_⟩
      rw [table, Table.find?_insert, if_neg, issuedAs.recorded]
      intro equal
      have found := issuedAs.recorded
      rw [equal, absent] at found
      cases found
  · intro b member
    rw [table, Table.find?_insert, if_neg (elsewhere b member), answerable.forgotten b member]

theorem erase (answerable : pool.Answerable out lost) (same : Same pool other)
    (table : other.outstanding = pool.outstanding.erase a) :
    other.Answerable (Block.elsewhere a out) lost := by
  refine ⟨?_, ?_⟩
  · intro b member
    obtain ⟨old, different⟩ := Block.mem_elsewhere.1 member
    obtain ⟨issued, issuedAs⟩ := answerable.known b old
    refine ⟨issued, issuedAs.congr same ?_⟩
    rw [table, Table.find?_erase, if_neg different, issuedAs.recorded]
  · intro b member
    rw [table, Table.find?_erase, answerable.forgotten b member, ite_self]

theorem lose (answerable : pool.Answerable out lost) (same : Same pool other)
    (table : other.outstanding = pool.outstanding.erase a) :
    other.Answerable (Block.elsewhere a out) (out.filter (·.address = a) ++ lost) := by
  have erased := answerable.erase same table
  refine ⟨erased.known, ?_⟩
  intro b member
  rcases List.mem_append.1 member with here | old
  · have here := of_decide_eq_true (List.mem_filter.1 here).2
    rw [table, Table.find?_erase, if_pos here]
  · exact erased.forgotten b old

end Answerable

structure Vacant (pool : Pool) (live : List Block) (address : Nat) : Prop where
  absent : pool.outstanding.find? address = none
  elsewhere : ∀ b ∈ live, b.address ≠ address

theorem Serves.vacant_of_idle (serves : pool.Serves live beneath) (held : Held beneath)
    (member : backing ∈ beneath) (idle : backing ∈ pool.idleBlocks) :
    pool.Vacant live backing.address := by
  constructor
  · cases found : pool.outstanding.find? backing.address with
    | none => rfl
    | some issued =>
      obtain ⟨below, here, out, _⟩ := serves.outstanding _ issued found
      exact absurd (held.eq_of_address below member here ▸ idle) out
  · intro b old same
    obtain ⟨k, below, here, _, out⟩ := serves.backed b old
    exact out (held.eq_of_address below member (here.trans same) ▸ idle)

theorem Serves.vacant_of_fresh (serves : pool.Serves live beneath)
    (fresh : Held (backing :: beneath)) : pool.Vacant live backing.address := by
  have new : ∀ k ∈ beneath, k.address ≠ backing.address := fun k below here =>
    fresh.ne_of_cons below (fresh.eq_of_address (List.mem_cons_of_mem _ below) List.mem_cons_self here)
  constructor
  · cases found : pool.outstanding.find? backing.address with
    | none => rfl
    | some issued =>
      obtain ⟨below, here, _, _⟩ := serves.outstanding _ issued found
      exact absurd here (new _ below)
  · intro b old same
    obtain ⟨k, below, here, _⟩ := serves.backed b old
    exact new k below (here.trans same)

inductive Answered (out lost : List Block) : Reply (Pool × σ) Block → Prop where
  | issued {block : Block} {pool : Pool} {s : σ} {machine : Machine}
      (kept : pool.Answerable (block :: out) lost) : Answered out lost ⟨.ok block, (pool, s), machine⟩
  | failed {fault : Fault} {pool : Pool} {s : σ} {machine : Machine}
      (kept : pool.Answerable out lost) : Answered out lost ⟨.error fault, (pool, s), machine⟩

-- What giving back a block at an address does to them. A panic beneath loses the block.
inductive Returned (a : Nat) (out lost : List Block) : Reply (Pool × σ) Unit → Prop where
  | taken {pool : Pool} {s : σ} {machine : Machine} (elsewhere : ∀ b ∈ lost, b.address ≠ a)
      (kept : pool.Answerable (Block.elsewhere a out) lost) :
      Returned a out lost ⟨.ok (), (pool, s), machine⟩
  | refused {error : Error} {pool : Pool} {s : σ} {machine : Machine}
      (kept : pool.Answerable out lost) :
      Returned a out lost ⟨.error (.refused error), (pool, s), machine⟩
  | lost {message : String} {pool : Pool} {s : σ} {machine : Machine}
      (kept : pool.Answerable (Block.elsewhere a out) (out.filter (·.address = a) ++ lost)) :
      Returned a out lost ⟨.error (.panicked message), (pool, s), machine⟩

section
variable {source : Source σ} {inv : Invariant σ} {room : σ → Prop} {owned frame : List Extent}
  {request : Request}

theorem allocate_answered (below : source.Contract inv room) (proper : request.Proper)
    (hasRoom : room s) (kept : inv s beneath owned) (serves : pool.Serves live beneath)
    (owns : machine.memory.Owns (frame ++ owned)) (answerable : pool.Answerable out lost)
    (within : ∀ b ∈ lost, b ∈ live) :
    Answered out lost (Pool.allocate source request (pool, s) machine) := by
  have step := allocate_step source request pool s machine
  generalize Pool.allocate source request (pool, s) machine = reply at step ⊢
  cases step with
  | refused cause => exact .failed answerable
  | reused large rounded active found =>
    have taken := (takeIdle_perm found).mem_iff.2 List.mem_cons_self
    obtain ⟨member, _⟩ := serves.idle _ taken
    have vacant := serves.vacant_of_idle (below.held kept) member (mem_idleBlocks.2 ⟨_, taken, rfl⟩)
    exact .issued (answerable.insert ⟨rfl, rfl⟩ rfl vacant.absent
      (fun b member => vacant.elsewhere b (within b member)) (Or.inl ⟨large, _, rfl⟩))
  | @obtained asking wider bucket shape backing after machine' asks answer =>
    have outcome := below.allocate (asks.proper proper) hasRoom kept owns
    rw [answer] at outcome
    cases outcome with
    | issued _ _ _ kept =>
      have vacant := serves.vacant_of_fresh (below.held kept)
      have elsewhere : ∀ b ∈ lost, b.address ≠ backing.address :=
        fun b member => vacant.elsewhere b (within b member)
      cases asks with
      | bypass small active =>
        exact .issued (answerable.insert ⟨rfl, rfl⟩ rfl vacant.absent elsewhere (Or.inr ⟨small, rfl⟩))
      | miss large rounded active absent =>
        exact .issued (answerable.insert ⟨rfl, rfl⟩ rfl vacant.absent elsewhere
          (Or.inl ⟨large, _, rfl⟩))
  | failed asks answer =>
    rw [asks.counted]
    exact .failed (answerable.congr ⟨rfl, rfl⟩ rfl)

theorem Answerable.elsewhere_of_recorded (answerable : pool.Answerable out lost)
    (found : pool.outstanding.find? a = some issued) : ∀ b ∈ lost, b.address ≠ a := by
  rintro b member rfl
  rw [answerable.forgotten b member] at found
  cases found

theorem free_returned (block : Block) (serves : pool.Serves live beneath)
    (answerable : pool.Answerable out lost) :
    Returned block.address out lost (Pool.free source block (pool, s) machine) := by
  have step := free_step source block pool s machine
  generalize Pool.free source block (pool, s) machine = reply at step ⊢
  cases step with
  | foreign cause => exact .refused answerable
  | retained own found filed active allowed =>
    exact .taken (answerable.elsewhere_of_recorded found) (answerable.erase ⟨rfl, rfl⟩ rfl)
  | released handsOn answer =>
    exact .taken (answerable.elsewhere_of_recorded handsOn.found) (answerable.erase ⟨rfl, rfl⟩ rfl)
  | restored handsOn answer =>
    obtain ⟨_, here, _⟩ := serves.outstanding _ _ handsOn.found
    refine .refused (answerable.congr ⟨rfl, rfl⟩ ?_)
    dsimp only
    rw [here, Table.insert_erase handsOn.found]
  | lost handsOn answer => exact .lost (answerable.lose ⟨rfl, rfl⟩ rfl)

end

-- The pool takes the block if the source beneath takes the one behind it, and every failure is
-- that of the source.
structure TakesBack (source : Source σ) (pool : Pool) (s : σ) (machine : Machine) (block : Block)
    (issued : IssuedBlock) : Prop where
  accepts : (source.free issued.backing s machine).result = .ok () →
    (Pool.free source block (pool, s) machine).result = .ok ()
  fails : ∀ fault, (Pool.free source block (pool, s) machine).result = .error fault →
    (source.free issued.backing s machine).result = .error fault

theorem takesBack_of_own (source : Source σ) (s : σ) (machine : Machine)
    (recorded : pool.outstanding.find? block.address = some issued)
    (own : pool.isOthers block.tag = false) : TakesBack source pool s machine block issued := by
  have known : ∀ other, pool.HandsOn block other → other = issued := fun other handsOn =>
    Option.some.inj (handsOn.found.symm.trans recorded)
  have passed : (Pool.free source block (pool, s) machine).result = .ok () ∨
      (Pool.free source block (pool, s) machine).result =
        (source.free issued.backing s machine).result := by
    have step := free_step source block pool s machine
    generalize Pool.free source block (pool, s) machine = reply at step ⊢
    cases step with
    | foreign cause =>
      rcases cause with others | absent
      · rw [own] at others
        cases others
      · rw [absent] at recorded
        cases recorded
    | retained own found filed active allowed => exact Or.inl rfl
    | released handsOn answer => exact Or.inl rfl
    | restored handsOn answer =>
      rw [known _ handsOn] at answer
      exact Or.inr (congrArg Reply.result answer).symm
    | lost handsOn answer =>
      rw [known _ handsOn] at answer
      exact Or.inr (congrArg Reply.result answer).symm
  rcases passed with kept | passed
  · exact ⟨fun _ => kept, fun fault failed => by rw [kept] at failed; cases failed⟩
  · exact ⟨fun accepted => passed.trans accepted, fun fault failed => passed.symm.trans failed⟩

theorem free_of_unknown (source : Source σ) (s : σ) (machine : Machine)
    (unknown : pool.isOthers block.tag = true ∨ pool.outstanding.find? block.address = none) :
    Pool.free source block (pool, s) machine =
      .refuse (.foreignBlock pool.name block.address) (pool, s) machine := by
  unfold Pool.free
  dsimp only
  rcases unknown with others | absent
  · rw [others]
    rfl
  · rw [absent]
    split <;> rfl

theorem IssuedAs.isOthers_iff (issuedAs : pool.IssuedAs block issued) :
    pool.isOthers block.tag = true ↔
      block.size < pool.config.minBlockSize ∧ pool.isOthers issued.backing.tag = true := by
  rcases issuedAs.tagged with ⟨large, sizeClass, own⟩ | ⟨small, passed⟩
  · have mine : pool.isOthers block.tag = false := by simp [own, isOthers]
    rw [mine]
    constructor
    · intro wrong
      cases wrong
    · rintro ⟨small, _⟩
      exact absurd large (Nat.not_le_of_lt small)
  · rw [passed]
    exact ⟨fun others => ⟨small, others⟩, And.right⟩

-- The blocks issued and not yet taken back, but for those that were lost. A pool goes by the
-- address, and a panic beneath loses the block that was given back.
def stillOut : List Event → List Block
  | [] => []
  | ⟨.allocate _, .ok (some block)⟩ :: past => block :: stillOut past
  | ⟨.free block, .ok _⟩ :: past => Block.elsewhere block.address (stillOut past)
  | ⟨.free block, .error (.panicked _)⟩ :: past => Block.elsewhere block.address (stillOut past)
  | _ :: past => stillOut past

def lostBlocks : List Event → List Block
  | [] => []
  | ⟨.free block, .error (.panicked _)⟩ :: past =>
    (stillOut past).filter (·.address = block.address) ++ lostBlocks past
  | _ :: past => lostBlocks past

def Asking {height : Nat} : Rule (Stack height) := fun _ stack call =>
  match call with
  | .allocate request => request.Proper ∧ stack.HasRoom
  | .free _ | .trim | .dispose => True

structure Standing {height : Nat} (past : List Event) (pool : Pool) (beneath : Stack height)
    (machine : Machine) : Prop where
  backed : ∃ live owned, Over Stack.Backs Serves (pool, beneath) live owned ∧
    machine.memory.Owns ([] ++ owned) ∧ ∀ b ∈ stillOut past ++ lostBlocks past, b ∈ live
  answerable : pool.Answerable (stillOut past) (lostBlocks past)

section
variable {height : Nat} {past : List Event} {base : Stack height}

theorem Standing.allocate {request : Request} (standing : Standing past pool base machine)
    (proper : request.Proper) (hasRoom : base.HasRoom) :
    ∃ after left, (Pool.allocate (Stack.source height) request (pool, base) machine).state =
        (after, left) ∧
      Standing (⟨.allocate request, ((Pool.allocate (Stack.source height) request (pool, base)
          machine).map some).result⟩ :: past) after left
        (Pool.allocate (Stack.source height) request (pool, base) machine).machine := by
  obtain ⟨⟨live, owned, ⟨beneath, kept, serves⟩, owns, within⟩, answerable⟩ := standing
  have below := Stack.contract height
  have outcome := allocate_contract below proper hasRoom kept serves owns
  have answered := allocate_answered below proper hasRoom kept serves owns answerable
    fun b member => within b (List.mem_append_right _ member)
  generalize Pool.allocate (Stack.source height) request (pool, base) machine = reply at outcome answered ⊢
  cases answered with
  | issued answerable =>
    cases outcome with
    | issued owns _ _ kept =>
      refine ⟨_, _, rfl, ⟨_, _, kept, owns, ?_⟩, answerable⟩
      intro b member
      rcases List.mem_cons.1 member with rfl | old
      · exact List.mem_cons_self
      · exact List.mem_cons_of_mem _ (within b old)
  | failed answerable =>
    cases outcome with
    | failed owns kept => exact ⟨_, _, rfl, ⟨_, _, kept, owns, within⟩, answerable⟩

theorem Standing.free (block : Block) (standing : Standing past pool base machine) :
    ∃ after left, (Pool.free (Stack.source height) block (pool, base) machine).state =
        (after, left) ∧
      Standing (⟨.free block, ((Pool.free (Stack.source height) block (pool, base)
          machine).map fun _ => none).result⟩ :: past) after left
        (Pool.free (Stack.source height) block (pool, base) machine).machine := by
  obtain ⟨⟨live, owned, ⟨beneath, kept, serves⟩, owns, within⟩, answerable⟩ := standing
  have outcome := free_contract (Stack.contract height) block kept serves owns
  have returned : Returned block.address (stillOut past) (lostBlocks past)
      (Pool.free (Stack.source height) block (pool, base) machine) :=
    free_returned block serves answerable
  generalize Pool.free (Stack.source height) block (pool, base) machine = reply at outcome returned ⊢
  cases returned with
  | taken elsewhere answerable =>
    cases outcome with
    | taken owns kept =>
      refine ⟨_, _, rfl, ⟨_, _, kept, owns, ?_⟩, answerable⟩
      intro b member
      rcases List.mem_append.1 member with out | lost
      · obtain ⟨old, other⟩ := Block.mem_elsewhere.1 out
        exact Block.mem_elsewhere.2 ⟨within b (List.mem_append_left _ old), other⟩
      · exact Block.mem_elsewhere.2 ⟨within b (List.mem_append_right _ lost), elsewhere b lost⟩
  | refused answerable =>
    cases outcome with
    | failed owns kept => exact ⟨_, _, rfl, ⟨_, _, kept, owns, within⟩, answerable⟩
  | lost answerable =>
    cases outcome with
    | failed owns kept =>
      refine ⟨_, _, rfl, ⟨_, _, kept, owns, ?_⟩, answerable⟩
      intro b member
      rcases List.mem_append.1 member with out | lost
      · exact within b (List.mem_append_left _ (Block.mem_elsewhere.1 out).1)
      · rcases List.mem_append.1 lost with here | old
        · exact within b (List.mem_append_left _ (List.mem_filter.1 here).1)
        · exact within b (List.mem_append_right _ old)

theorem Standing.emptied {call : Call} {answer : Except Fault (Option Block)} (disposed : Bool)
    (standing : Standing past pool base machine)
    (sameOut : stillOut (⟨call, answer⟩ :: past) = stillOut past)
    (sameLost : lostBlocks (⟨call, answer⟩ :: past) = lostBlocks past) :
    let reply := releaseAll (Stack.source height) none pool.idleBlocks { pool.emptied with disposed }
      base machine
    Standing (⟨call, answer⟩ :: past) reply.state.1 reply.state.2 reply.machine := by
  obtain ⟨⟨live, owned, ⟨beneath, kept, serves⟩, owns, within⟩, answerable⟩ := standing
  have outcome := emptied_contract (Stack.contract height) disposed kept serves owns
  obtain ⟨_, kept⟩ := releaseAll_held (Stack.source height) pool.idleBlocks none
    { pool.emptied with disposed } base machine
  have answerable : Answerable (releaseAll (Stack.source height) none pool.idleBlocks
      { pool.emptied with disposed } base machine).state.1 (stillOut past) (lostBlocks past) := by
    rw [kept]
    exact answerable.congr ⟨rfl, rfl⟩ rfl
  rw [← sameOut, ← sameLost] at within answerable
  generalize releaseAll (Stack.source height) none pool.idleBlocks { pool.emptied with disposed }
    base machine = reply at outcome answerable ⊢
  cases outcome with
  | taken owns kept => exact ⟨⟨_, _, kept, owns, within⟩, answerable⟩
  | failed owns kept => exact ⟨⟨_, _, kept, owns, within⟩, answerable⟩

theorem Standing.run {first : Pool} {start : Stack height} {origin : Machine}
    {stack : Stack (height + 1)} (made : Layer.Made (.pool first)) (beneath : start.Made)
    (sound : origin.memory.platform.Sound)
    (run : @Run (Stack (height + 1)) Stack.perform Asking (.pool first, start) origin past stack
      machine) :
    ∃ pool base, stack = (.pool pool, base) ∧ Standing past pool base machine := by
  induction run with
  | start =>
    have kept : Over Stack.Backs Serves (first, start) [] [] := made.backs beneath.backs
    refine ⟨first, start, rfl, ⟨[], [], kept, ⟨sound, by simp, .nil⟩, ?_⟩, ?_, ?_⟩
    · simp [stillOut, lostBlocks]
    · simp [stillOut]
    · simp [lostBlocks]
  | @call _ call _ _ _ asking ih =>
    obtain ⟨pool, base, rfl, standing⟩ := ih
    cases call with
    | allocate request =>
      obtain ⟨after, left, state, standing⟩ := standing.allocate asking.1 asking.2
      exact ⟨after, left, congrArg (Layer.lift .pool) state, standing⟩
    | free block =>
      obtain ⟨after, left, state, standing⟩ := standing.free block
      exact ⟨after, left, congrArg (Layer.lift .pool) state, standing⟩
    | trim => exact ⟨_, _, rfl, standing.emptied pool.disposed rfl rfl⟩
    | dispose => exact ⟨_, _, rfl, standing.emptied true rfl rfl⟩

-- The exact condition under which a pool disowns a block of its own: the block was small enough to
-- bypass it and came from another pool, or it was lost in a panic. All other blocks are taken back
-- if the source beneath takes what is behind them.
theorem takes_back_iff_not_bypassed {first : Pool} {start : Stack height} {origin : Machine}
    {stack : Stack (height + 1)} (made : Layer.Made (.pool first)) (beneath : start.Made)
    (sound : origin.memory.platform.Sound)
    (run : @Run (Stack (height + 1)) Stack.perform Asking (.pool first, start) origin past stack
      machine) :
    ∃ pool base, stack = (.pool pool, base) ∧
      (∀ b ∈ stillOut past, ∃ issued, pool.outstanding.find? b.address = some issued ∧
        (b.size < pool.config.minBlockSize ∧ pool.isOthers issued.backing.tag = true →
          Pool.free (Stack.source height) b (pool, base) machine =
            .refuse (.foreignBlock pool.name b.address) (pool, base) machine) ∧
        (¬ (b.size < pool.config.minBlockSize ∧ pool.isOthers issued.backing.tag = true) →
          TakesBack (Stack.source height) pool base machine b issued)) ∧
      ∀ b ∈ lostBlocks past, Pool.free (Stack.source height) b (pool, base) machine =
        .refuse (.foreignBlock pool.name b.address) (pool, base) machine := by
  obtain ⟨pool, base, rfl, standing⟩ := Standing.run made beneath sound run
  refine ⟨pool, base, rfl, ?_, ?_⟩
  · intro b member
    obtain ⟨issued, issuedAs⟩ := standing.answerable.known b member
    refine ⟨issued, issuedAs.recorded, ?_, ?_⟩
    · intro bypassed
      exact free_of_unknown _ _ _ (Or.inl (issuedAs.isOthers_iff.2 bypassed))
    · intro own
      refine takesBack_of_own _ _ _ issuedAs.recorded ?_
      exact Bool.eq_false_iff.2 fun others => own (issuedAs.isOthers_iff.1 others)
  · intro b member
    exact free_of_unknown _ _ _ (Or.inr (standing.answerable.forgotten b member))

end

def outerPool : Pool := { owner := 2, name := "pool", config := { minBlockSize := 4096 } }

def innerPool : Pool := { owner := 1, name := "pool", config := {} }

def pooledPool : List Event × Stack 2 × Machine :=
  played Stack.perform (.pool outerPool, .pool innerPool, .system {})
    ⟨{ platform := .ascending }, []⟩
    [.allocate ⟨8192, 8, false, 1, 8192, Site.internal⟩, .allocate ⟨64, 8, false, 1, 64, Site.internal⟩]

theorem takes_back_iff_not_bypassed_pooledPool :
    (stillOut pooledPool.1).length = 2 ∧
    ∃ pool base, pooledPool.2.1 = (.pool pool, base) ∧
      (∀ b ∈ stillOut pooledPool.1, ∃ issued, pool.outstanding.find? b.address = some issued ∧
        (b.size < pool.config.minBlockSize ∧ pool.isOthers issued.backing.tag = true →
          Pool.free (Stack.source 1) b (pool, base) pooledPool.2.2 =
            .refuse (.foreignBlock pool.name b.address) (pool, base) pooledPool.2.2) ∧
        (¬ (b.size < pool.config.minBlockSize ∧ pool.isOthers issued.backing.tag = true) →
          TakesBack (Stack.source 1) pool base pooledPool.2.2 b issued)) ∧
      ∀ b ∈ lostBlocks pooledPool.1, Pool.free (Stack.source 1) b (pool, base) pooledPool.2.2 =
        .refuse (.foreignBlock pool.name b.address) (pool, base) pooledPool.2.2 := by
  have made : @Stack.Made 1 (.pool innerPool, .system {}) := ⟨.pool rfl, .system⟩
  refine ⟨by decide +kernel, takes_back_iff_not_bypassed (.pool rfl) made Platform.ascending_sound
    (.played ?_)⟩
  refine ⟨⟨trivial, ?_, trivial⟩, ?_, trivial⟩
  · decide
  · decide

-- The block that bypassed the upper pool is refused, though the lower pool takes it.
theorem bypassed_block_disowned :
    (⟨Platform.floor, 64, 8, .pool 1 64⟩ : Block) ∈ stillOut pooledPool.1 ∧
    ((Stack.source 1).free ⟨Platform.floor, 64, 8, .pool 1 64⟩ pooledPool.2.1.2
      pooledPool.2.2).result = .ok () ∧
    ((Stack.source 2).free ⟨Platform.floor, 64, 8, .pool 1 64⟩ pooledPool.2.1
      pooledPool.2.2).result = .error (.refused (.foreignBlock "pool" Platform.floor)) := by
  refine ⟨by decide +kernel, ?_, ?_⟩
  · rfl
  · rfl

end LayeredAllocation.Pool
