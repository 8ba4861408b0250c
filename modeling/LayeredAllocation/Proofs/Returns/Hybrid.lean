import LayeredAllocation.Proofs.Contract.Stack

namespace LayeredAllocation.Hybrid
variable {σ : Type} {hybrid first : Hybrid} {out : List Grant} {beneath : List Block}
  {pins : List Extent} {block : Block} {request : Request} {s : σ} {machine : Machine}

def Registered (hybrid : Hybrid) (block : Block) : Prop :=
  ∃ id, block.tag = .pinned hybrid.owner id ∧
    hybrid.pinned.find? id = some ⟨block.address, PinnedBlock.chunksFor block.size⟩

-- The pins on record are those of the grants that the hybrid pinned, and of no others.
structure Logged (hybrid : Hybrid) (out : List Grant) : Prop where
  registered : ∀ g ∈ out, hybrid.pins g.request = true → hybrid.Registered g.block
  occupied : ∀ id pinned, hybrid.pinned.find? id = some pinned →
    ∃ g ∈ out, hybrid.pins g.request = true ∧ g.block.address = pinned.address

structure Without (hybrid : Hybrid) (pinned passed : Nat) (after : Hybrid) : Prop where
  pinnedBytes : after.pinnedBytes = hybrid.pinnedBytes.sub pinned
  held : (after.held + (pinned + passed)) % Word.range = hybrid.held

theorem held_sub (hybrid : Hybrid) (pinned passed : Nat) :
    ((hybrid.pinnedBytes.sub pinned).read + (hybrid.backingBytes.sub passed).read + (pinned + passed)) %
      Word.range = hybrid.held := by
  have first := Counter.read_add (hybrid.pinnedBytes.sub pinned) pinned
  have second := Counter.read_add (hybrid.backingBytes.sub passed) passed
  rw [Counter.sub_add] at first second
  rw [held, first, second, ← Nat.add_mod]
  congr 1
  omega

namespace Logged

theorem pinned {base : Nat} (logged : hybrid.Logged out)
    (chosen : hybrid.pins request = true)
    (unused : hybrid.pinned.find? hybrid.nextPin = none) :
    (hybrid.register ⟨base, PinnedBlock.chunksFor request.size⟩).Logged
      (⟨request, ⟨base, request.size, request.align, .pinned hybrid.owner hybrid.nextPin⟩⟩ :: out) := by
  refine ⟨?_, ?_⟩
  · intro g member pins
    rcases List.mem_cons.1 member with rfl | old
    · refine ⟨hybrid.nextPin, rfl, ?_⟩
      simp only [register, Table.find?_insert, if_pos]
    · obtain ⟨id, tag, found⟩ := logged.registered g old pins
      refine ⟨id, tag, ?_⟩
      have other : id ≠ hybrid.nextPin := by
        rintro rfl
        rw [unused] at found
        cases found
      simp only [register, Table.find?_insert, if_neg other, found]
  · intro id pinned found
    simp only [register, Table.find?_insert] at found
    split at found
    · cases found
      exact ⟨_, List.mem_cons_self, chosen, rfl⟩
    · obtain ⟨g, member, rest⟩ := logged.occupied id pinned found
      exact ⟨g, List.mem_cons_of_mem _ member, rest⟩

theorem passed {backingBytes : Counter} (logged : hybrid.Logged out)
    (moves : hybrid.pins request = false) (block : Block) :
    Logged { hybrid with backingBytes } (⟨request, block⟩ :: out) := by
  refine ⟨?_, ?_⟩
  · intro g member pins
    rcases List.mem_cons.1 member with rfl | old
    · exact absurd (moves.symm.trans pins) Bool.false_ne_true
    · exact logged.registered g old pins
  · intro id pinned found
    obtain ⟨g, member, rest⟩ := logged.occupied id pinned found
    exact ⟨g, List.mem_cons_of_mem _ member, rest⟩

theorem unpinned {id : Nat} {pinned : PinnedBlock} {pinnedBytes : Counter}
    (logged : hybrid.Logged out) (found : hybrid.pinned.find? id = some pinned)
    (here : pinned.address = block.address)
    (lone : ∀ g ∈ out, g.block.address = block.address → g.block = block)
    (separate : ∀ n other, hybrid.pinned.find? n = some other → n ≠ id →
      other.address ≠ pinned.address) :
    Logged { hybrid with pinned := hybrid.pinned.erase id, pinnedBytes }
      (out.filter (·.block ≠ block)) := by
  refine ⟨?_, ?_⟩
  · intro g member pins
    obtain ⟨old, different⟩ := List.mem_filter.1 member
    obtain ⟨n, tag, listed⟩ := logged.registered g old pins
    refine ⟨n, tag, ?_⟩
    rw [Table.find?_erase, if_neg, listed]
    rintro rfl
    cases listed.symm.trans found
    exact of_decide_eq_true different (lone g old here)
  · intro n other listed
    rw [Table.find?_erase] at listed
    split at listed
    · cases listed
    · next different =>
      obtain ⟨g, member, pins, address⟩ := logged.occupied n other listed
      refine ⟨g, List.mem_filter.2 ⟨member, decide_eq_true ?_⟩, pins, address⟩
      intro same
      apply separate n other listed different
      rw [here, ← address, same]

theorem passedBack {backingBytes : Counter} (logged : hybrid.Logged out)
    (unpinned : ∀ owner id, block.tag ≠ .pinned owner id) :
    Logged { hybrid with backingBytes } (out.filter (·.block ≠ block)) := by
  refine ⟨?_, ?_⟩
  · intro g member pins
    exact logged.registered g (List.mem_filter.1 member).1 pins
  · intro id pinned found
    obtain ⟨g, member, pins, address⟩ := logged.occupied id pinned found
    obtain ⟨n, tag, _⟩ := logged.registered g member pins
    refine ⟨g, List.mem_filter.2 ⟨member, decide_eq_true ?_⟩, pins, address⟩
    intro same
    exact unpinned _ _ (same ▸ tag)

end Logged

-- The hybrid hands the block on, and what it holds follows the answer.
structure HandsBack (source : Source σ) (hybrid : Hybrid) (s : σ) (machine : Machine) (block : Block) :
    Prop where
  accepts : ∀ left machine', source.free block s machine = ⟨.ok (), left, machine'⟩ →
    ∃ after, Hybrid.free source block (hybrid, s) machine = ⟨.ok (), (after, left), machine'⟩ ∧
      hybrid.Without 0 block.size after
  fails : ∀ fault left machine', source.free block s machine = ⟨.error fault, left, machine'⟩ →
    Hybrid.free source block (hybrid, s) machine = ⟨.error fault, (hybrid, left), machine'⟩

theorem handsBack_of_unpinned (source : Source σ) (hybrid : Hybrid) (s : σ) (machine : Machine)
    (unpinned : ¬ block.Pinned) : HandsBack source hybrid s machine block := by
  have handed : Hybrid.free source block (hybrid, s) machine =
      passBack source block hybrid s machine := by
    unfold Hybrid.free
    dsimp only
    split
    · next owner id tag => exact absurd ⟨owner, id, tag⟩ unpinned
    · rfl
  constructor
  · intro left machine' answer
    refine ⟨{ hybrid with backingBytes := hybrid.backingBytes.sub block.size }, ?_, ?_, ?_⟩
    · rw [handed, passBack, answer]
      rfl
    · simp [Counter.sub]
    · have total := held_sub hybrid 0 block.size
      simpa [held, Counter.sub] using total
  · intro fault left machine' answer
    rw [handed, passBack, answer]

theorem free_of_registered (source : Source σ) (s : σ) (machine : Machine)
    (registered : hybrid.Registered block) :
    ∃ after, Hybrid.free source block (hybrid, s) machine = ⟨.ok (), (after, s), machine.giveBack
        block.address (PinnedBlock.chunksFor block.size * PinnedBlock.chunkSize)⟩ ∧
      hybrid.Without (PinnedBlock.chunksFor block.size * PinnedBlock.chunkSize) 0 after := by
  obtain ⟨id, tag, found⟩ := registered
  refine ⟨{ hybrid with
    pinned := hybrid.pinned.erase id
    pinnedBytes := hybrid.pinnedBytes.sub
      (PinnedBlock.chunksFor block.size * PinnedBlock.chunkSize) }, ?_, rfl, ?_⟩
  · unfold Hybrid.free unpin
    simp only [tag, found, ne_eq, not_true_eq_false, if_false]
    rfl
  · have total := held_sub hybrid (PinnedBlock.chunksFor block.size * PinnedBlock.chunkSize) 0
    simpa [held, Counter.sub] using total

-- A block of another hybrid, or of one that goes by the same number: nothing of that is on record.
theorem free_of_unregistered (source : Source σ) (s : σ) (machine : Machine) {owner id : Nat}
    (tag : block.tag = .pinned owner id)
    (unknown : ∀ n pinned, hybrid.pinned.find? n = some pinned → pinned.address ≠ block.address) :
    (owner ≠ hybrid.owner → Hybrid.free source block (hybrid, s) machine =
      .refuse (.foreignBlock name block.address) (hybrid, s) machine) ∧
    (Hybrid.free source block (hybrid, s) machine).result ≠ .ok () := by
  unfold Hybrid.free
  simp only [tag]
  split
  · exact ⟨fun _ => rfl, by simp [Reply.refuse]⟩
  · next own =>
    refine ⟨fun other => absurd other own, ?_⟩
    unfold unpin
    split
    · simp [Reply.refuse]
    · next pinned found =>
      rw [if_pos (unknown id pinned found)]
      simp [Reply.refuse]

-- A client that is forgetful, as long as the number for the next pin is not in use.
def Numbered {height : Nat} : Rule (Stack (height + 1)) := fun past stack call =>
  Stack.Forgetful Block.Pinned past stack call ∧
  match stack, call with
  | (.hybrid hybrid, _), .allocate _ => hybrid.pinned.find? hybrid.nextPin = none
  | _, _ => True

section
variable {past : List Event}

theorem Logged.allocate (source : Source σ) (request : Request) (s : σ) (machine : Machine)
    (logged : hybrid.Logged (grants past)) (unused : hybrid.pinned.find? hybrid.nextPin = none) :
    let reply := Hybrid.allocate source request (hybrid, s) machine
    reply.state.1.Logged (grants (⟨.allocate request, (reply.map some).result⟩ :: past)) ∧
      reply.state.1.thresholds = hybrid.thresholds := by
  have step := allocate_step source request hybrid s machine
  generalize Hybrid.allocate source request (hybrid, s) machine = reply at step ⊢
  cases step with
  | overflowed chosen large => exact ⟨logged, rfl⟩
  | exhausted chosen small placed => exact ⟨logged, rfl⟩
  | pinned chosen small placed => exact ⟨logged.pinned chosen unused, rfl⟩
  | passed moves answer => exact ⟨logged.passed moves _, rfl⟩
  | passFailed moves answer => exact ⟨logged, rfl⟩

theorem Logged.free (source : Source σ) (s : σ) (machine : Machine)
    (logged : hybrid.Logged (grants past)) (serves : hybrid.Serves (outstanding past) beneath pins)
    (brought : block.Brought Block.Pinned (outstanding past)) :
    let reply := Hybrid.free source block (hybrid, s) machine
    reply.state.1.Logged (grants (⟨.free block, (reply.map fun _ => none).result⟩ :: past)) ∧
      reply.state.1.thresholds = hybrid.thresholds := by
  have step := free_step source block hybrid s machine
  generalize Hybrid.free source block (hybrid, s) machine = reply at step ⊢
  cases step with
  | foreign tag other => exact ⟨logged, rfl⟩
  | doubled tag absent => exact ⟨logged, rfl⟩
  | misplaced tag found elsewhere => exact ⟨logged, rfl⟩
  | @unpinned id pinned tag found here =>
    refine ⟨logged.unpinned found here ?_ ?_, rfl⟩
    · intro g member same
      exact serves.held.lone brought g.block (List.mem_map.2 ⟨g, member, rfl⟩) same
    · intro n other listed different
      exact serves.separate n id other pinned listed found different
  | passed unpinned answer => exact ⟨logged.passedBack unpinned, rfl⟩
  | passFailed unpinned answer => exact ⟨logged, rfl⟩

end

structure Standing {height : Nat} (first : Hybrid) (past : List Event) (hybrid : Hybrid)
    (beneath : Stack height) (machine : Machine) : Prop where
  backed : ∃ owned, @Stack.Backs (height + 1) (.hybrid hybrid, beneath) (outstanding past) owned ∧
    machine.memory.Owns owned
  logged : hybrid.Logged (grants past)
  thresholds : hybrid.thresholds = first.thresholds

section
variable {height : Nat} {past : List Event} {base : Stack height}

theorem Standing.call {call : Call} (standing : Standing first past hybrid base machine)
    (allowed : Numbered past (.hybrid hybrid, base) call) :
    let reply := @Stack.perform (height + 1) call (.hybrid hybrid, base) machine
    ∃ after left, reply.state = (.hybrid after, left) ∧
      Standing first (⟨call, reply.result⟩ :: past) after left reply.machine := by
  obtain ⟨⟨owned, backs, owns⟩, logged, thresholds⟩ := standing
  cases call with
  | allocate request =>
    obtain ⟨⟨proper, hasRoom⟩, unused⟩ := allowed
    have outcome : Performed (@Stack.Backs (height + 1)) [] (outstanding past) (.allocate request)
        (Stack.perform (.allocate request) (.hybrid hybrid, base) machine) :=
      Stack.perform_contract ⟨proper, hasRoom⟩ backs owns
    obtain ⟨logged, same⟩ := logged.allocate (Stack.source height) request base machine unused
    exact ⟨_, _, rfl, Stack.backed_of_performed outcome, logged, same.trans thresholds⟩
  | free block =>
    obtain ⟨brought, _⟩ := allowed
    have stacked : Backs Stack.Backs (hybrid, base) (outstanding past) owned := backs
    obtain ⟨lent, pins, rest, rfl, kept, serves⟩ := stacked
    have outcome : Freed (Backs Stack.Backs) [] (outstanding past) (block.others (outstanding past))
        (Hybrid.free (Stack.source height) block (hybrid, base) machine) :=
      free_contract (Stack.contract height) brought kept serves owns
    have outcome : Freed (@Stack.Backs (height + 1)) [] (outstanding past)
        (block.others (outstanding past))
        ((Stack.source (height + 1)).free block (.hybrid hybrid, base) machine) := outcome.mapState id
    obtain ⟨logged, same⟩ := logged.free (Stack.source height) base machine serves brought
    exact ⟨_, _, rfl, Stack.backed_of_performed outcome.performed, logged, same.trans thresholds⟩
  | trim => exact ⟨hybrid, base, rfl, ⟨owned, backs, owns⟩, logged, thresholds⟩
  | dispose => exact ⟨hybrid, base, rfl, ⟨owned, backs, owns⟩, logged, thresholds⟩

theorem Standing.run {start : Stack height} {origin : Machine} {stack : Stack (height + 1)}
    (made : Layer.Made (.hybrid first)) (beneath : start.Made)
    (sound : origin.memory.platform.Sound)
    (run : @Run (Stack (height + 1)) Stack.perform Numbered (.hybrid first, start) origin past stack
      machine) :
    ∃ hybrid base, stack = (.hybrid hybrid, base) ∧ Standing first past hybrid base machine := by
  induction run with
  | start =>
    have backs : @Stack.Backs (height + 1) (.hybrid first, start) [] [] := made.backs beneath.backs
    refine ⟨first, start, rfl, ⟨[], backs, sound, by simp, .nil⟩, ?_, rfl⟩
    cases made with
    | hybrid => exact ⟨by simp [grants], by simp [Table.find?_empty]⟩
  | call _ allowed ih =>
    obtain ⟨hybrid, base, rfl, standing⟩ := ih
    exact standing.call allowed

theorem Logged.elsewhere (logged : hybrid.Logged (grants past)) (held : Held (outstanding past))
    {g : Grant} (member : g ∈ grants past) (moves : hybrid.pins g.request = false) (id : Nat)
    (pinned : PinnedBlock) (found : hybrid.pinned.find? id = some pinned) :
    pinned.address ≠ g.block.address := by
  obtain ⟨other, listed, pins, address⟩ := logged.occupied id pinned found
  have different : other ≠ g := by
    rintro rfl
    exact Bool.false_ne_true (moves.symm.trans pins)
  have pairwise := (List.pairwise_map (f := Grant.block)).1 held.apart
  have apart : other.block.extent.Disjoint g.block.extent :=
    Extent.Disjoint.of_pairwise (f := fun g : Grant => g.block.extent) pairwise listed member different
  rw [← address]
  exact apart.start_ne (held.proper _ (List.mem_map.2 ⟨other, listed, rfl⟩)).positive
    (held.proper _ (List.mem_map.2 ⟨g, member, rfl⟩)).positive

-- The exact condition under which a hybrid disowns a block of its own: another hybrid pinned it, and
-- it came past this one. All others are taken back, if the source beneath takes those that came from
-- there, and what the hybrid then shows is what it showed but for the block.
theorem takes_back_unless_pinned_beneath {start : Stack height} {origin : Machine}
    {stack : Stack (height + 1)} (made : Layer.Made (.hybrid first)) (beneath : start.Made)
    (sound : origin.memory.platform.Sound)
    (run : @Run (Stack (height + 1)) Stack.perform Numbered (.hybrid first, start) origin past stack
      machine) :
    ∃ hybrid base, stack = (.hybrid hybrid, base) ∧ ∀ g ∈ grants past,
      (first.pins g.request = true →
        ∃ after, Hybrid.free (Stack.source height) g.block (hybrid, base) machine =
          ⟨.ok (), (after, base), machine.giveBack g.block.address
            (PinnedBlock.chunksFor g.block.size * PinnedBlock.chunkSize)⟩ ∧
          hybrid.Without (PinnedBlock.chunksFor g.block.size * PinnedBlock.chunkSize) 0 after) ∧
      (first.pins g.request = false → ¬ g.block.Pinned →
        HandsBack (Stack.source height) hybrid base machine g.block) ∧
      (first.pins g.request = false → ∀ owner id, g.block.tag = .pinned owner id →
        (owner ≠ hybrid.owner → Hybrid.free (Stack.source height) g.block (hybrid, base) machine =
          .refuse (.foreignBlock name g.block.address) (hybrid, base) machine) ∧
        (Hybrid.free (Stack.source height) g.block (hybrid, base) machine).result ≠ .ok ()) := by
  obtain ⟨hybrid, base, rfl, standing⟩ := Standing.run made beneath sound run
  obtain ⟨⟨owned, backs, owns⟩, logged, thresholds⟩ := standing
  have same : ∀ request, first.pins request = hybrid.pins request := by
    intro request
    rw [Hybrid.pins, Hybrid.pins, thresholds]
  refine ⟨hybrid, base, rfl, ?_⟩
  intro g member
  rw [same]
  refine ⟨?_, ?_, ?_⟩
  · intro pins
    exact free_of_registered _ _ _ (logged.registered g member pins)
  · intro _ unpinned
    exact handsBack_of_unpinned _ _ _ _ unpinned
  · intro moves owner id tag
    apply free_of_unregistered _ _ _ tag
    exact logged.elsewhere ((Stack.contract (height + 1)).held backs) member moves

end

def outerHybrid : Hybrid := { owner := 2, thresholds := ⟨2, 0, 0, 0⟩ }

def innerHybrid : Hybrid := { owner := 1, thresholds := {} }

def pinnedTwice : List Event × Stack 2 × Machine :=
  played Stack.perform (.hybrid outerHybrid, .hybrid innerHybrid, .system {})
    ⟨{ platform := .ascending }, []⟩
    [.allocate ⟨4096, 8, false, 1, 4096, Site.internal⟩, .allocate ⟨1, 1, false, 1, 1, Site.internal⟩,
      .allocate ⟨64, 8, false, 1, 64, Site.internal⟩]

theorem takes_back_unless_pinned_beneath_pinnedTwice :
    (outstanding pinnedTwice.1).map Block.tag = [.system, .pinned 2 1, .pinned 1 1] ∧
    ∃ hybrid base, pinnedTwice.2.1 = (.hybrid hybrid, base) ∧ ∀ g ∈ grants pinnedTwice.1,
      (outerHybrid.pins g.request = true →
        ∃ after, Hybrid.free (Stack.source 1) g.block (hybrid, base) pinnedTwice.2.2 =
          ⟨.ok (), (after, base), pinnedTwice.2.2.giveBack g.block.address
            (PinnedBlock.chunksFor g.block.size * PinnedBlock.chunkSize)⟩ ∧
          hybrid.Without (PinnedBlock.chunksFor g.block.size * PinnedBlock.chunkSize) 0 after) ∧
      (outerHybrid.pins g.request = false → ¬ g.block.Pinned →
        HandsBack (Stack.source 1) hybrid base pinnedTwice.2.2 g.block) ∧
      (outerHybrid.pins g.request = false → ∀ owner id, g.block.tag = .pinned owner id →
        (owner ≠ hybrid.owner → Hybrid.free (Stack.source 1) g.block (hybrid, base) pinnedTwice.2.2 =
          .refuse (.foreignBlock name g.block.address) (hybrid, base) pinnedTwice.2.2) ∧
        (Hybrid.free (Stack.source 1) g.block (hybrid, base) pinnedTwice.2.2).result ≠ .ok ()) := by
  have made : @Stack.Made 1 (.hybrid innerHybrid, .system {}) := ⟨.hybrid, .system⟩
  refine ⟨by decide +kernel, takes_back_unless_pinned_beneath .hybrid made Platform.ascending_sound
    (.played ?_)⟩
  refine ⟨⟨⟨trivial, ⟨?_, trivial⟩, ?_⟩, ⟨?_, trivial⟩, ?_⟩, ⟨?_, trivial⟩, ?_⟩
  · decide
  · rfl
  · decide
  · rfl
  · decide
  · rfl

-- The lower hybrid pinned the block past the upper one, which refuses it, though the lower takes it.
theorem pinned_block_disowned :
    (⟨Platform.floor, 64, 8, .pinned 1 1⟩ : Block) ∈ outstanding pinnedTwice.1 ∧
    ((Stack.source 1).free ⟨Platform.floor, 64, 8, .pinned 1 1⟩ pinnedTwice.2.1.2
      pinnedTwice.2.2).result = .ok () ∧
    ((Stack.source 2).free ⟨Platform.floor, 64, 8, .pinned 1 1⟩ pinnedTwice.2.1
      pinnedTwice.2.2).result = .error (.refused (.foreignBlock "hybrid" Platform.floor)) := by
  refine ⟨by decide +kernel, ?_, ?_⟩
  · rfl
  · rfl

end LayeredAllocation.Hybrid
