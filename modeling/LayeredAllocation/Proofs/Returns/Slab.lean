import LayeredAllocation.Proofs.Census.Run
import LayeredAllocation.Session.Answer

namespace LayeredAllocation.Slab
variable {σ : Type} {slab after first : Slab} {live beneath : List Block} {block page : Block}
  {slot : Slot} {index slotSize : Nat} {s : σ} {machine : Machine}

def CutFrom (slab : Slab) (index : Nat) (block : Block) : Prop :=
  ∃ slot page slotSize, slab.Sits block slot page index slotSize

theorem CutFrom.sliced (cut : slab.CutFrom index block) : block.Sliced := by
  obtain ⟨slot, page, slotSize, sits⟩ := cut
  exact ⟨_, _, _, _, sits.tag⟩

def figures (slab : Slab) : List Session.ClassFigures := slab.classes.map .ofClass

structure Without (slab : Slab) (index : Nat) (after : Slab) : Prop where
  held : after.held = slab.held
  figures : ∃ row, slab.figures[index]? = some row ∧ 0 < row.liveSlots ∧
    after.figures = slab.figures.set index
      { row with liveSlots := row.liveSlots - 1, freeSlots := row.freeSlots + 1 }

theorem Sits.freeSlot (sits : slab.Sits block slot page index slotSize) :
    ∃ after, slab.freeSlot block.address index slot = .ok after := by
  have listed := sits.cut.listed
  have sized := sits.cut.sized
  rw [layout, List.getElem?_map] at listed
  rw [slotSizes, List.getElem?_map] at sized
  obtain ⟨found, paged, same⟩ := Option.map_eq_some_iff.1 listed
  obtain ⟨sizeClass, classed, rfl⟩ := Option.map_eq_some_iff.1 sized
  cases same
  have marked : found.taken.has slot.slot = true := (taken_of_page paged slot.slot).symm.trans sits.taken
  have numbered := sits.cut.numbered
  refine ⟨slab.swapped found.sizeClass slot
    { sizeClass with free := sizeClass.free.push slot, live := sizeClass.live - 1 }
    { found with taken := found.taken.unmark slot.slot }, ?_⟩
  unfold Slab.freeSlot swapped
  simp only [paged, classed]
  rw [if_neg, if_pos marked]
  simp only [not_or, Decidable.not_not, Nat.not_le]
  exact ⟨trivial, numbered, sits.start.symm⟩

theorem Census.without (census : slab.Census)
    (accepted : slab.freeSlot block.address index slot = .ok after) : slab.Without index after := by
  obtain ⟨sizeClass, page, classed, listed, rfl, numbered, _, set, rfl⟩ := freeSlot_parts accepted
  have cut : slab.Cut slot page.block page.sizeClass sizeClass.slotSize :=
    ⟨layout_of_page listed, slotSizes_of_class classed, numbered⟩
  have counted := Bitmap.population_unmark (census.covered listed cut) set
  have marked := population_le_marks (List.mem_of_getElem? listed)
  rw [← (census.counted _ sizeClass classed).live] at marked
  refine ⟨rfl, .ofClass sizeClass, ?_, ?_, ?_⟩
  · simp [Slab.figures, classed]
  · simp only [Session.ClassFigures.ofClass]
    omega
  · simp only [Slab.figures, swapped, List.map_set, Session.ClassFigures.ofClass]
    rw [← FreeList.length_toList, ← FreeList.length_toList, FreeList.toList_push, List.length_cons]

-- No page is where a block was passed through, so no slot is either.
theorem Serves.freeSlot_passed (serves : slab.Serves live beneath) (held : Held beneath)
    (passed : slab.Passed beneath block) (index : Nat) (slot : Slot) :
    slab.freeSlot block.address index slot = .error (.foreignBlock name block.address) := by
  unfold freeSlot
  split
  · rfl
  · next page listed =>
    split
    · rfl
    · next sizeClass classed =>
      split
      · rfl
      · next placed =>
        simp only [not_or, Decidable.not_not, Nat.not_le] at placed
        obtain ⟨_, numbered, here⟩ := placed
        have cut : slab.Cut slot page.block page.sizeClass sizeClass.slotSize :=
          ⟨layout_of_page listed, slotSizes_of_class classed, numbered⟩
        have apart := passed.apart serves.paged held cut
        obtain ⟨large, _⟩ := serves.paged.size_valid cut.sized
        have positive := (held.proper block passed.1).positive
        exact absurd here.symm (apart.start_ne positive (by dsimp only [slotExtent]; omega))

-- The slab hands the block on, and what it holds follows the answer.
structure HandsBack (source : Source σ) (slab : Slab) (s : σ) (machine : Machine) (block : Block) :
    Prop where
  accepts : ∀ after left, source.free block s machine = ⟨.ok (), after, left⟩ →
    Slab.free source block (slab, s) machine =
      ⟨.ok (), ({ slab with held := slab.held.sub block.size }, after), left⟩
  fails : ∀ fault after left, source.free block s machine = ⟨.error fault, after, left⟩ →
    Slab.free source block (slab, s) machine = ⟨.error fault, (slab, after), left⟩

theorem handsBack_of_unsliced (source : Source σ) (slab : Slab) (s : σ) (machine : Machine)
    (unsliced : ¬ block.Sliced) : HandsBack source slab s machine block := by
  have handed : Slab.free source block (slab, s) machine = passBack source block slab s machine := by
    unfold Slab.free
    dsimp only
    split
    · next owner sizeClass page slot tag => exact absurd ⟨owner, sizeClass, page, slot, tag⟩ unsliced
    · rfl
  constructor
  · intro after left answer
    rw [handed, passBack, answer]
    rfl
  · intro fault after left answer
    rw [handed, passBack, answer]

theorem free_of_cut (source : Source σ) (s : σ) (machine : Machine) (census : slab.Census)
    (running : slab.interrupted = false) (cut : slab.CutFrom index block) :
    ∃ after, Slab.free source block (slab, s) machine = ⟨.ok (), (after, s), machine⟩ ∧
      slab.Without index after := by
  obtain ⟨slot, page, slotSize, sits⟩ := cut
  obtain ⟨after, accepted⟩ := sits.freeSlot
  refine ⟨after, ?_, census.without accepted⟩
  unfold Slab.free
  simp only [sits.tag, ne_eq, not_true_eq_false, if_false, running, Bool.false_eq_true, accepted]
  rfl

theorem free_of_sliced (source : Source σ) (s : σ) (machine : Machine)
    (serves : slab.Serves live beneath) (held : Held beneath) (running : slab.interrupted = false)
    (passed : slab.Passed beneath block) (sliced : block.Sliced) :
    Slab.free source block (slab, s) machine =
      .refuse (.foreignBlock name block.address) (slab, s) machine := by
  obtain ⟨owner, sizeClass, page, slot, tag⟩ := sliced
  unfold Slab.free
  simp only [tag, running, Bool.false_eq_true, if_false,
    serves.freeSlot_passed held passed sizeClass ⟨page, slot⟩]
  split <;> rfl

theorem free_of_interrupted (source : Source σ) (s : σ) (machine : Machine)
    (interrupted : slab.interrupted = true) (sliced : block.Sliced) :
    (Slab.free source block (slab, s) machine).result ≠ .ok () := by
  obtain ⟨owner, sizeClass, page, slot, tag⟩ := sliced
  unfold Slab.free
  simp only [tag, interrupted, if_true]
  split <;> simp [Reply.refuse, Reply.panic]

structure Steady (first slab : Slab) : Prop where
  config : slab.config = first.config
  census : slab.Census
  running : (∀ slotSize ∈ first.config.classes, 0 < first.config.slotsPerPage slotSize) →
    slab.interrupted = false

namespace Steady

theorem allocate {source : Source σ} {request : Request} (steady : Steady first slab)
    (serves : slab.Serves live beneath) (few : slab.pages.length < 0x1_0000_0000) :
    Steady first (Slab.allocate source request (slab, s) machine).state.1 := by
  have step := allocate_step source request slab s machine
  generalize Slab.allocate source request (slab, s) machine = reply at step ⊢
  obtain ⟨config, census, running⟩ := steady
  cases step with
  | passed large answer => exact ⟨config, census.congr rfl rfl rfl, running⟩
  | passFailed large answer => exact ⟨config, census, running⟩
  | took fits active taken =>
    obtain ⟨_, _, _, _, _, _, _, _, change⟩ := takeSlot?_eq_some taken
    refine ⟨change.config.trans config, census.takeSlot taken, ?_⟩
    obtain ⟨_, _, _, _, _, _, _, _, rfl⟩ := takeSlot?_parts taken
    exact running
  | @grew index sizeClass pageRequest page after machine' grows asked answer usable =>
    have counted : Slab.Census { slab with held := slab.held.add page.size } :=
      census.congr rfl rfl rfl
    have some := Bitmap.slots_pos_of_covers usable
    exact ⟨config, counted.adopt grows.classed few some rfl, running⟩
  | growFailed grows asked answer => exact ⟨config, census, running⟩
  | @burst index sizeClass pageRequest page after machine' grows asked answer unusable =>
    refine ⟨config, census.congr rfl rfl rfl, fun usable => ?_⟩
    -- A page that has slots has a first one.
    have sized := slotSizes_of_class grows.classed
    rw [serves.paged.sizes] at sized
    rw [← config] at usable
    rw [Bitmap.covers_forSlots (usable _ (List.mem_of_getElem? sized))] at unusable
    cases unusable
  | unaskable grows asked => exact ⟨config, census, running⟩
  | stuck fits cause => exact ⟨config, census, running⟩

theorem free {source : Source σ} (steady : Steady first slab) :
    Steady first (Slab.free source block (slab, s) machine).state.1 := by
  have step := free_step source block slab s machine
  generalize Slab.free source block (slab, s) machine = reply at step ⊢
  obtain ⟨config, census, running⟩ := steady
  cases step with
  | foreign tag other => exact ⟨config, census, running⟩
  | interrupted tag interrupted => exact ⟨config, census, running⟩
  | put tag active accepted =>
    obtain ⟨_, _, _, _, _, _, _, change⟩ := freeSlot_ok accepted
    refine ⟨change.config.trans config, census.freeSlot accepted, ?_⟩
    obtain ⟨_, _, _, _, _, _, _, _, rfl⟩ := freeSlot_parts accepted
    exact running
  | refused tag active rejected => exact ⟨config, census, running⟩
  | passed unsliced answer => exact ⟨config, census.congr rfl rfl rfl, running⟩
  | passFailed unsliced answer => exact ⟨config, census, running⟩

end Steady

structure Standing {height : Nat} (first : Slab) (past : List Event) (slab : Slab)
    (beneath : Stack height) (machine : Machine) : Prop where
  backed : ∃ owned, @Stack.Backs (height + 1) (.slab slab, beneath) (outstanding past) owned ∧
    machine.memory.Owns owned
  steady : Steady first slab

section
variable {height : Nat} {past : List Event} {base : Stack height}

theorem Standing.call {call : Call} (standing : Standing first past slab base machine)
    (allowed : @Stack.Forgetful (height + 1) Block.Sliced past (.slab slab, base) call) :
    let reply := @Stack.perform (height + 1) call (.slab slab, base) machine
    ∃ after left, reply.state = (.slab after, left) ∧
      Standing first (⟨call, reply.result⟩ :: past) after left reply.machine := by
  obtain ⟨⟨owned, backs, owns⟩, steady⟩ := standing
  have stacked : Over Stack.Backs Serves (slab, base) (outstanding past) owned := backs
  obtain ⟨beneath, kept, serves⟩ := stacked
  cases call with
  | allocate request =>
    obtain ⟨proper, few, hasRoom⟩ := allowed
    have outcome : Performed (@Stack.Backs (height + 1)) [] (outstanding past) (.allocate request)
        (Stack.perform (.allocate request) (.slab slab, base) machine) :=
      Stack.perform_contract ⟨proper, few, hasRoom⟩ backs owns
    exact ⟨_, _, rfl, Stack.backed_of_performed outcome, steady.allocate serves few⟩
  | free block =>
    have outcome : Freed (Over Stack.Backs Serves) [] (outstanding past)
        (block.others (outstanding past)) (Slab.free (Stack.source height) block (slab, base) machine) :=
      free_contract (Stack.contract height) allowed kept serves owns
    have outcome : Freed (@Stack.Backs (height + 1)) [] (outstanding past)
        (block.others (outstanding past))
        ((Stack.source (height + 1)).free block (.slab slab, base) machine) := outcome.mapState id
    exact ⟨_, _, rfl, Stack.backed_of_performed outcome.performed, steady.free⟩
  | trim => exact ⟨slab, base, rfl, ⟨owned, backs, owns⟩, steady⟩
  | dispose => exact ⟨slab, base, rfl, ⟨owned, backs, owns⟩, steady⟩

theorem Standing.run {start : Stack height} {origin : Machine} {stack : Stack (height + 1)}
    (made : Layer.Made (.slab first)) (beneath : start.Made) (sound : origin.memory.platform.Sound)
    (run : @Run (Stack (height + 1)) Stack.perform (Stack.Forgetful Block.Sliced)
      (.slab first, start) origin past stack machine) :
    ∃ slab base, stack = (.slab slab, base) ∧ Standing first past slab base machine := by
  induction run with
  | start =>
    have backs : @Stack.Backs (height + 1) (.slab first, start) [] [] := made.backs beneath.backs
    refine ⟨first, start, rfl, ⟨[], backs, sound, by simp, .nil⟩, ?_⟩
    cases made with
    | slab accepted => exact ⟨rfl, .make _ _, fun _ => rfl⟩
  | call _ allowed ih =>
    obtain ⟨slab, base, rfl, standing⟩ := ih
    exact standing.call allowed

-- The exact condition under which a slab disowns a block of its own: another slab cut it, and it
-- came past this one. All others are taken back, if the source beneath takes those that came from
-- there, and what the slab then shows is what it showed but for the block.
theorem takes_back_unless_sliced_beneath {start : Stack height} {origin : Machine}
    {stack : Stack (height + 1)} (made : Layer.Made (.slab first)) (beneath : start.Made)
    (sound : origin.memory.platform.Sound)
    (run : @Run (Stack (height + 1)) Stack.perform (Stack.Forgetful Block.Sliced)
      (.slab first, start) origin past stack machine) :
    ∃ slab base, stack = (.slab slab, base) ∧
      ((∀ slotSize ∈ first.config.classes, first.config.pageSize / slotSize < 0x1_0000_0000) →
        slab.interrupted = false) ∧
      ∀ b ∈ outstanding past,
        (∀ index, slab.CutFrom index b → slab.interrupted = false →
          ∃ after, Slab.free (Stack.source height) b (slab, base) machine =
            ⟨.ok (), (after, base), machine⟩ ∧ slab.Without index after) ∧
        ((∀ index, ¬ slab.CutFrom index b) → ¬ b.Sliced →
          HandsBack (Stack.source height) slab base machine b) ∧
        ((∀ index, ¬ slab.CutFrom index b) → b.Sliced → slab.interrupted = false →
          Slab.free (Stack.source height) b (slab, base) machine =
            .refuse (.foreignBlock name b.address) (slab, base) machine) ∧
        (b.Sliced → slab.interrupted = true →
          (Slab.free (Stack.source height) b (slab, base) machine).result ≠ .ok ()) := by
  obtain ⟨slab, base, rfl, standing⟩ := Standing.run made beneath sound run
  obtain ⟨⟨owned, ⟨lent, kept, serves⟩, owns⟩, steady⟩ := standing
  refine ⟨slab, base, rfl, ?_, ?_⟩
  · intro few
    cases made with
    | slab accepted => exact steady.running (usable_of_valid accepted few)
  · intro b member
    refine ⟨?_, ?_, ?_, ?_⟩
    · intro index cut running
      exact free_of_cut _ _ _ steady.census running cut
    · intro _ unsliced
      exact handsBack_of_unsliced _ _ _ _ unsliced
    · intro uncut sliced running
      rcases serves.issued b member with passed | ⟨slot, page, index, slotSize, sits⟩
      · exact free_of_sliced _ _ _ serves ((Stack.contract height).held kept) running passed sliced
      · exact absurd ⟨slot, page, slotSize, sits⟩ (uncut index)
    · intro sliced interrupted
      exact free_of_interrupted _ _ _ interrupted sliced

end

def outerSlab : Slab := .make 2 { classes := [16] }

def innerSlab : Slab := .make 1 {}

def slicedTwice : List Event × Stack 2 × Machine :=
  played Stack.perform (.slab outerSlab, .slab innerSlab, .system {})
    ⟨{ platform := .ascending }, []⟩
    [.allocate ⟨4096, 8, false, 1, 4096, Site.internal⟩, .allocate ⟨8, 8, false, 1, 8, Site.internal⟩,
      .allocate ⟨64, 8, false, 1, 64, Site.internal⟩]

theorem takes_back_unless_sliced_beneath_slicedTwice :
    (outstanding slicedTwice.1).length = 3 ∧
    ∃ slab base, slicedTwice.2.1 = (.slab slab, base) ∧
      ((∀ slotSize ∈ outerSlab.config.classes,
        outerSlab.config.pageSize / slotSize < 0x1_0000_0000) → slab.interrupted = false) ∧
      ∀ b ∈ outstanding slicedTwice.1,
        (∀ index, slab.CutFrom index b → slab.interrupted = false →
          ∃ after, Slab.free (Stack.source 1) b (slab, base) slicedTwice.2.2 =
            ⟨.ok (), (after, base), slicedTwice.2.2⟩ ∧ slab.Without index after) ∧
        ((∀ index, ¬ slab.CutFrom index b) → ¬ b.Sliced →
          HandsBack (Stack.source 1) slab base slicedTwice.2.2 b) ∧
        ((∀ index, ¬ slab.CutFrom index b) → b.Sliced → slab.interrupted = false →
          Slab.free (Stack.source 1) b (slab, base) slicedTwice.2.2 =
            .refuse (.foreignBlock name b.address) (slab, base) slicedTwice.2.2) ∧
        (b.Sliced → slab.interrupted = true →
          (Slab.free (Stack.source 1) b (slab, base) slicedTwice.2.2).result ≠ .ok ()) := by
  have made : @Stack.Made 1 (.slab innerSlab, .system {}) := ⟨.slab rfl, .system⟩
  refine ⟨by decide +kernel, takes_back_unless_sliced_beneath (.slab rfl) made
    Platform.ascending_sound (.played ?_)⟩
  refine ⟨⟨⟨trivial, ?_, ?_⟩, ?_, ?_⟩, ?_, ?_⟩
  · decide
  · exact ⟨by decide, by decide, trivial⟩
  · decide
  · exact ⟨by decide +kernel, by decide +kernel, trivial⟩
  · decide
  · exact ⟨by decide +kernel, by decide +kernel, trivial⟩

-- The block of the lower slab came past the upper one, which refuses it, though the lower takes it.
theorem sliced_block_disowned :
    (⟨Platform.floor, 64, 8, .slab 1 2 0 0⟩ : Block) ∈ outstanding slicedTwice.1 ∧
    ((Stack.source 1).free ⟨Platform.floor, 64, 8, .slab 1 2 0 0⟩ slicedTwice.2.1.2
      slicedTwice.2.2).result = .ok () ∧
    ((Stack.source 2).free ⟨Platform.floor, 64, 8, .slab 1 2 0 0⟩ slicedTwice.2.1
      slicedTwice.2.2).result = .error (.refused (.foreignBlock "slab" Platform.floor)) := by
  refine ⟨by decide +kernel, ?_, ?_⟩
  · decide +kernel
  · decide +kernel

end LayeredAllocation.Slab
