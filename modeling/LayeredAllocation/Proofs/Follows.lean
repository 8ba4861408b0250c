import LayeredAllocation.Proofs.Calls

namespace LayeredAllocation

variable {σ τ α : Type}

-- One source does what another does, with something more in its state.
structure Source.Follows (upper : Source τ) (below : Source σ) (f : τ → σ) : Prop where
  name : ∀ t, upper.name t = below.name (f t)
  releases : ∀ t, upper.releases t = below.releases (f t)
  held : ∀ t, upper.held t = below.held (f t)
  allocate : ∀ request t machine,
    (upper.allocate request t machine).mapState f = below.allocate request (f t) machine
  free : ∀ block t machine,
    (upper.free block t machine).mapState f = below.free block (f t) machine

section
variable {upper : Source τ} {below : Source σ} {f : τ → σ} {t : τ} {request : Request}
  {block : Block} {machine : Machine}

theorem Arena.grow_follows (follows : upper.Follows below f) (arena : Arena) :
    (grow upper request arena t machine).mapState (Prod.map id f) =
      grow below request arena (f t) machine := by
  unfold grow
  cases arena.chunkRequest? request with
  | error e => rfl
  | ok asked =>
    dsimp only
    rw [← follows.allocate]
    generalize upper.allocate asked t machine = reply
    obtain ⟨result, after, machine'⟩ := reply
    cases result with
    | error fault => rfl
    | ok chunk =>
      dsimp only [Reply.mapState]
      rw [follows.name]
      split
      · rfl
      · rw [← follows.free]
        generalize upper.free chunk after _ = reply
        obtain ⟨result, last, machine''⟩ := reply
        cases result <;> rfl

theorem Arena.allocate_follows (follows : upper.Follows below f) (arena : Arena) :
    (allocate upper request (arena, t) machine).mapState (Prod.map id f) =
      allocate below request (arena, f t) machine := by
  unfold allocate
  cases fits : arena.fit? request with
  | some place => simp only [fits]; rfl
  | none => simp only [fits]; exact grow_follows follows arena

namespace Pool

theorem bypass_follows (follows : upper.Follows below f) (pool : Pool) :
    (bypass upper request pool t machine).mapState (Prod.map id f) =
      bypass below request pool (f t) machine := by
  unfold bypass
  rw [← follows.allocate]
  generalize upper.allocate _ t machine = reply
  obtain ⟨result, after, machine'⟩ := reply
  cases result <;> rfl

theorem miss_follows (follows : upper.Follows below f) (pool : Pool) (sizeClass : Nat) :
    (miss upper request sizeClass pool t machine).mapState (Prod.map id f) =
      miss below request sizeClass pool (f t) machine := by
  unfold miss
  rw [← follows.allocate]
  generalize upper.allocate _ t machine = reply
  obtain ⟨result, after, machine'⟩ := reply
  cases result <;> rfl

theorem allocate_follows (follows : upper.Follows below f) (pool : Pool) :
    (allocate upper request (pool, t) machine).mapState (Prod.map id f) =
      allocate below request (pool, f t) machine := by
  unfold allocate
  dsimp only
  split
  · split
    · rfl
    · exact bypass_follows follows pool
  · cases pool.config.sizeClass? request.size with
    | error e => rfl
    | ok sizeClass =>
      dsimp only
      split
      · rfl
      · cases takeIdle ⟨sizeClass, request.align⟩ pool.idle with
        | some found => rfl
        | none => exact miss_follows follows _ sizeClass

theorem passOn_follows (follows : upper.Follows below f) (pool : Pool) (address : Nat)
    (issued : IssuedBlock) :
    (passOn upper address issued pool t machine).mapState (Prod.map id f) =
      passOn below address issued pool (f t) machine := by
  unfold passOn
  rw [← follows.free]
  generalize upper.free issued.backing t machine = reply
  obtain ⟨result, after, machine'⟩ := reply
  rcases result with (fault | _) | _ <;> rfl

theorem free_follows (follows : upper.Follows below f) (pool : Pool) :
    (free upper block (pool, t) machine).mapState (Prod.map id f) =
      free below block (pool, f t) machine := by
  unfold free
  dsimp only
  split
  · rfl
  · cases pool.outstanding.find? block.address with
    | none => rfl
    | some issued =>
      dsimp only
      cases issued.bucket with
      | none => exact passOn_follows follows pool block.address issued
      | some bucket =>
        dsimp only
        split
        · rfl
        · exact passOn_follows follows pool block.address issued

theorem releaseAll_follows (follows : upper.Follows below f) (blocks : List Block) (pool : Pool)
    (first : Option Error) :
    (releaseAll upper first blocks pool t machine).mapState (Prod.map id f) =
      releaseAll below first blocks pool (f t) machine := by
  induction blocks generalizing first pool t machine with
  | nil => cases first <;> rfl
  | cons block rest ih =>
    unfold releaseAll
    rw [← follows.free]
    generalize upper.free block t machine = reply
    obtain ⟨result, after, machine'⟩ := reply
    rcases result with (fault | _) | _
    · exact ih _ _
    · rfl
    · exact ih _ _

end Pool

namespace Slab

theorem grow_follows (follows : upper.Follows below f) (slab : Slab) (index : Nat)
    (sizeClass : SizeClass) :
    (grow upper index sizeClass request slab t machine).mapState (Prod.map id f) =
      grow below index sizeClass request slab (f t) machine := by
  unfold grow
  cases Request.bytes? slab.config.pageSize sizeClass.slotSize false Site.internal with
  | error e => rfl
  | ok asked =>
    dsimp only
    rw [← follows.allocate]
    generalize upper.allocate asked t machine = reply
    obtain ⟨result, after, machine'⟩ := reply
    cases result with
    | error fault => rfl
    | ok page =>
      dsimp only [Reply.mapState]
      split <;> rfl

theorem allocate_follows (follows : upper.Follows below f) (slab : Slab) :
    (allocate upper request (slab, t) machine).mapState (Prod.map id f) =
      allocate below request (slab, f t) machine := by
  unfold allocate
  dsimp only
  cases slab.config.classFor? (max request.size request.align) with
  | none =>
    dsimp only
    unfold passThrough
    rw [← follows.allocate]
    generalize upper.allocate request t machine = reply
    obtain ⟨result, after, machine'⟩ := reply
    cases result <;> rfl
  | some index =>
    have slots : (allocateSlot upper index request slab t machine).mapState (Prod.map id f) =
        allocateSlot below index request slab (f t) machine := by
      unfold allocateSlot
      split
      · rfl
      · cases slab.takeSlot? index request with
        | some found => rfl
        | none =>
          cases slab.classes[index]? with
          | none => rfl
          | some sizeClass => exact grow_follows follows slab index sizeClass
    dsimp only
    rw [← slots]
    generalize allocateSlot upper index request slab t machine = reply
    obtain ⟨result, after, machine'⟩ := reply
    cases result <;> rfl

theorem free_follows (follows : upper.Follows below f) (slab : Slab) :
    (free upper block (slab, t) machine).mapState (Prod.map id f) =
      free below block (slab, f t) machine := by
  unfold free
  dsimp only
  split
  · split
    · rfl
    · split
      · rfl
      · split <;> rfl
  · unfold passBack
    rw [← follows.free]
    generalize upper.free block t machine = reply
    obtain ⟨result, after, machine'⟩ := reply
    cases result <;> rfl

end Slab

namespace Hybrid

theorem allocate_follows (follows : upper.Follows below f) (hybrid : Hybrid) :
    (allocate upper request (hybrid, t) machine).mapState (Prod.map id f) =
      allocate below request (hybrid, f t) machine := by
  unfold allocate
  dsimp only
  split
  · unfold pin
    dsimp only
    split
    · rfl
    · split <;> rfl
  · rw [← follows.allocate]
    generalize upper.allocate request t machine = reply
    obtain ⟨result, after, machine'⟩ := reply
    cases result <;> rfl

theorem free_follows (follows : upper.Follows below f) (hybrid : Hybrid) :
    (free upper block (hybrid, t) machine).mapState (Prod.map id f) =
      free below block (hybrid, f t) machine := by
  unfold free
  dsimp only
  split
  · split
    · rfl
    · unfold unpin
      split
      · rfl
      · split <;> rfl
  · unfold passBack
    rw [← follows.free]
    generalize upper.free block t machine = reply
    obtain ⟨result, after, machine'⟩ := reply
    cases result <;> rfl

end Hybrid

namespace Tracker

theorem allocate_follows (follows : upper.Follows below f) (tracker : Tracker) :
    (allocate upper request (tracker, t) machine).mapState (Prod.map id f) =
      allocate below request (tracker, f t) machine := by
  unfold allocate
  dsimp only
  split
  · rfl
  · rw [← follows.allocate]
    generalize upper.allocate request t machine = reply
    obtain ⟨result, after, machine'⟩ := reply
    cases result <;> rfl

theorem free_follows (follows : upper.Follows below f) (tracker : Tracker) :
    (free upper block (tracker, t) machine).mapState (Prod.map id f) =
      free below block (tracker, f t) machine := by
  unfold free
  dsimp only
  cases tracker.records.find? block.address with
  | none => rfl
  | some record =>
    dsimp only
    rw [← follows.releases, ← follows.free]
    split
    · generalize upper.free block t machine = reply
      obtain ⟨result, after, machine'⟩ := reply
      rcases result with (fault | _) | _ <;> rfl
    · rfl

end Tracker

namespace Probe

theorem allocate_follows (follows : upper.Follows below f) (probe : Probe) :
    (allocate upper request (probe, t) machine).mapState (Prod.map id f) =
      allocate below request (probe, f t) machine := by
  unfold allocate
  dsimp only [Prod.map]
  obtain ⟨fails, after⟩ := probe.seeRequest request
  cases fails with
  | true => rfl
  | false =>
    exact congrArg (fun reply : Reply σ Block =>
      (⟨reply.result, (after, reply.state), reply.machine⟩ : Reply (Probe × σ) Block))
      (follows.allocate request t machine)

theorem free_follows (follows : upper.Follows below f) (probe : Probe) :
    (free upper block (probe, t) machine).mapState (Prod.map id f) =
      free below block (probe, f t) machine := by
  unfold free
  dsimp only [Prod.map]
  obtain ⟨fails, after⟩ := probe.seeFree block
  cases fails with
  | true => rfl
  | false =>
    exact congrArg (fun reply : Reply σ Unit =>
      (⟨reply.result, (after, reply.state), reply.machine⟩ : Reply (Probe × σ) Unit))
      (follows.free block t machine)

end Probe

namespace Layer

theorem allocate_follows (follows : upper.Follows below f) (layer : Layer) :
    ((source upper).allocate request (layer, t) machine).mapState (Prod.map id f) =
      (source below).allocate request (layer, f t) machine := by
  cases layer with
  | arena inner => exact congrArg (Reply.mapState (lift .arena)) (Arena.allocate_follows follows inner)
  | pool inner => exact congrArg (Reply.mapState (lift .pool)) (Pool.allocate_follows follows inner)
  | slab inner => exact congrArg (Reply.mapState (lift .slab)) (Slab.allocate_follows follows inner)
  | hybrid inner => exact congrArg (Reply.mapState (lift .hybrid)) (Hybrid.allocate_follows follows inner)
  | tracker inner =>
    exact congrArg (Reply.mapState (lift .tracker)) (Tracker.allocate_follows follows inner)
  | probe inner => exact congrArg (Reply.mapState (lift .probe)) (Probe.allocate_follows follows inner)

theorem free_follows (follows : upper.Follows below f) (layer : Layer) :
    ((source upper).free block (layer, t) machine).mapState (Prod.map id f) =
      (source below).free block (layer, f t) machine := by
  cases layer with
  | arena inner => rfl
  | pool inner => exact congrArg (Reply.mapState (lift .pool)) (Pool.free_follows follows inner)
  | slab inner => exact congrArg (Reply.mapState (lift .slab)) (Slab.free_follows follows inner)
  | hybrid inner => exact congrArg (Reply.mapState (lift .hybrid)) (Hybrid.free_follows follows inner)
  | tracker inner => exact congrArg (Reply.mapState (lift .tracker)) (Tracker.free_follows follows inner)
  | probe inner => exact congrArg (Reply.mapState (lift .probe)) (Probe.free_follows follows inner)

-- So layers can be piled on two such sources, one on the other.
theorem follows (follows : upper.Follows below f) :
    (source upper).Follows (source below) (Prod.map id f) where
  name := by
    rintro ⟨layer, t⟩
    cases layer with
    | probe inner => exact follows.name t
    | arena inner | pool inner | slab inner | hybrid inner | tracker inner => rfl
  releases := by
    rintro ⟨layer, t⟩
    cases layer with
    | probe inner => exact follows.releases t
    | arena inner | pool inner | slab inner | hybrid inner | tracker inner => rfl
  held := by
    rintro ⟨layer, t⟩
    cases layer with
    | tracker inner => exact follows.held t
    | probe inner => exact follows.held t
    | arena inner | pool inner | slab inner | hybrid inner => rfl
  allocate := by
    rintro request ⟨layer, t⟩ machine
    exact allocate_follows follows layer
  free := by
    rintro block ⟨layer, t⟩ machine
    exact free_follows follows layer

theorem trim_follows (follows : upper.Follows below f) (layer : Layer) :
    (trim upper (layer, t) machine).mapState (Prod.map id f) = trim below (layer, f t) machine := by
  cases layer with
  | pool inner =>
    exact congrArg (Reply.mapState (lift .pool))
      (Pool.releaseAll_follows follows inner.idleBlocks inner.emptied none)
  | arena inner | slab inner | hybrid inner | tracker inner | probe inner => rfl

theorem dispose_follows (follows : upper.Follows below f) (layer : Layer) :
    (dispose upper (layer, t) machine).mapState (Prod.map id f) =
      dispose below (layer, f t) machine := by
  cases layer with
  | pool inner =>
    exact congrArg (Reply.mapState (lift .pool))
      (Pool.releaseAll_follows follows inner.idleBlocks { inner.emptied with disposed := true } none)
  | tracker inner =>
    change (reported t (inner.dispose machine)).mapState (Prod.map id f) =
      reported (f t) (inner.dispose machine)
    obtain ⟨answer, after, machine'⟩ := inner.dispose machine
    cases answer <;> rfl
  | arena inner | slab inner | hybrid inner | probe inner => rfl

-- A layer does not tell two sources apart that give the same answers.
theorem perform_follows (follows : upper.Follows below f) (call : Call) (layer : Layer) :
    (perform upper call (layer, t) machine).mapState (Prod.map id f) =
      perform below call (layer, f t) machine := by
  cases call with
  | allocate request => exact congrArg (Reply.map some) (allocate_follows follows layer)
  | free block => exact congrArg (Reply.map fun _ => none) (free_follows follows layer)
  | trim => exact congrArg (Reply.map fun _ => none) (trim_follows follows layer)
  | dispose => exact congrArg (Reply.map fun _ => none) (dispose_follows follows layer)

-- What is more in the state makes no difference for what comes of some calls.
theorem played_follows (follows : upper.Follows below f) (layer : Layer) (calls : List Call) :
    let alike := played (perform below) (layer, f t) machine calls
    let (past, state, left) := played (perform upper) (layer, t) machine calls
    alike = (past, (state.1, f state.2), left) := by
  induction calls with
  | nil => rfl
  | cons call earlier ih =>
    unfold played
    dsimp only at ih ⊢
    rw [ih]
    generalize played (perform upper) (layer, t) machine earlier = before
    obtain ⟨past, ⟨inner, s⟩, machine'⟩ := before
    have alike : _ = perform below call (inner, f s) machine' := perform_follows follows call inner
    dsimp only
    rw [← alike]
    rfl

end Layer

end

-- The state of a source, with what it was asked for, what it issued and what was given back to it,
-- taken or not. Newest first.
structure Noted (σ : Type) where
  beneath : σ
  asked : List Request := []
  issued : List Block := []
  returned : List Block := []

namespace Noted

def hear (noted : Noted σ) (request : Request) (result : Except Fault Block) (beneath : σ) :
    Noted σ where
  beneath
  asked := request :: noted.asked
  issued :=
    match result with
    | .ok block => block :: noted.issued
    | .error _ => noted.issued
  returned := noted.returned

def takeBack (noted : Noted σ) (block : Block) (beneath : σ) : Noted σ :=
  { noted with beneath, returned := block :: noted.returned }

end Noted

def Source.noted (below : Source σ) : Source (Noted σ) where
  name noted := below.name noted.beneath
  releases noted := below.releases noted.beneath
  held noted := below.held noted.beneath
  allocate request noted machine :=
    let reply := below.allocate request noted.beneath machine
    ⟨reply.result, noted.hear request reply.result reply.state, reply.machine⟩
  free block noted machine :=
    (below.free block noted.beneath machine).mapState (noted.takeBack block)

theorem Source.noted_follows (below : Source σ) : below.noted.Follows below Noted.beneath where
  name _ := rfl
  releases _ := rfl
  held _ := rfl
  allocate _ _ _ := rfl
  free _ _ _ := rfl

theorem Source.Follows.trans {upper : Source τ} {middle : Source σ} {below : Source ρ} {f : τ → σ}
    {g : σ → ρ} (first : upper.Follows middle f) (second : middle.Follows below g) :
    upper.Follows below (g ∘ f) where
  name t := (first.name t).trans (second.name (f t))
  releases t := (first.releases t).trans (second.releases (f t))
  held t := (first.held t).trans (second.held (f t))
  allocate request t machine := by
    have same := congrArg (Reply.mapState g) (first.allocate request t machine)
    exact same.trans (second.allocate request (f t) machine)
  free block t machine := by
    have same := congrArg (Reply.mapState g) (first.free block t machine)
    exact same.trans (second.free block (f t) machine)

end LayeredAllocation
