import LayeredAllocation.Proofs.Atomicity.Stack
import LayeredAllocation.Proofs.Lending.Pool
import LayeredAllocation.Proofs.Returns

namespace LayeredAllocation

namespace Tracker
variable {tracker : Tracker} {ours : List Grant} {below : Source σ} {lending : Lending σ}
  {machine : Machine}

structure Tracks (tracker : Tracker) (ours : List Grant) : Prop where
  keyed : tracker.records.Keyed (·.address)
  lent : ∀ a record, tracker.records.find? a = some record → ∃ g ∈ ours, g.block.address = a

theorem Tracks.erase (tracks : tracker.Tracks ours) (a : Nat) :
    Tracks { tracker with records := tracker.records.erase a } ours := by
  refine ⟨tracks.keyed.erase a, ?_⟩
  intro key record found
  rw [Table.find?_erase] at found
  split at found
  · cases found
  · exact tracks.lent key record found

theorem allocate_tracks {request : Request} (tracks : tracker.Tracks lending.ours) :
    let reply := Tracker.allocate below.watched request (tracker, lending) machine
    reply.state.1.Tracks reply.state.2.ours := by
  have step := allocate_step below.watched request tracker lending machine
  generalize Tracker.allocate below.watched request (tracker, lending) machine = reply at step ⊢
  cases step with
  | refused disposed => exact tracks
  | @recorded block after machine' active answer =>
    rw [Source.watched_lent answer]
    refine ⟨tracks.keyed.insert ⟨block.address, request.size, request.site, tracker.nextSequence⟩, ?_⟩
    intro a record found
    simp only [Tracker.record, Table.find?_insert] at found
    split at found
    · next here => exact ⟨_, List.mem_cons_self, here.symm⟩
    · obtain ⟨g, member, same⟩ := tracks.lent a record found
      exact ⟨g, List.mem_cons_of_mem _ member, same⟩
  | failed active answer =>
    rw [Source.watched_refused answer]
    exact tracks

theorem free_tracks {block : Block} (tracks : tracker.Tracks lending.ours) :
    let reply := Tracker.free below.watched block (tracker, lending) machine
    reply.state.1.Tracks reply.state.2.ours := by
  have step := free_step below.watched block tracker lending machine
  generalize Tracker.free below.watched block (tracker, lending) machine = reply at step ⊢
  cases step with
  | untracked absent => exact tracks
  | dropped found keeps => exact tracks.erase block.address
  | released found releases answer =>
    rw [Source.watched_settled answer]
    refine ⟨tracks.keyed.erase block.address, ?_⟩
    intro a record found
    rw [Table.find?_erase] at found
    split at found
    · cases found
    · next other =>
      obtain ⟨g, member, same⟩ := tracks.lent a record found
      exact ⟨g, List.mem_filter.2 ⟨member, decide_eq_true (same ▸ other)⟩, same⟩
  | restored found releases answer =>
    rw [Source.watched_kept answer, tracks.keyed.restore found]
    exact tracks
  | lost found releases answer =>
    rw [Source.watched_kept answer]
    exact tracks.erase block.address

theorem free_untracked (source : Source σ) (s : σ) (machine : Machine) {block : Block}
    (absent : tracker.records.find? block.address = none) :
    Tracker.free source block (tracker, s) machine =
      .refuse (.foreignBlock tracker.name block.address) (tracker, s)
        (machine.warning (tracker.name ++ ": free of untracked block at " ++
          Text.Numeral.hexadecimal block.address)) := by
  unfold Tracker.free
  dsimp only
  rw [absent]

end Tracker

theorem Tracker.Tracks.absent {tracker : Tracker} {ours : List Grant} {address : Nat}
    (tracks : tracker.Tracks ours) (elsewhere : ∀ g ∈ ours, g.block.address ≠ address) :
    tracker.records.find? address = none := by
  cases found : tracker.records.find? address with
  | none => rfl
  | some record =>
    obtain ⟨g, member, same⟩ := tracks.lent address record found
    exact absurd same (elsewhere g member)

theorem Slab.free_of_sibling {source : Source σ} {slab : Slab} {s : σ} {block : Block}
    {machine : Machine} {owner sizeClass page slot : Nat}
    (tag : block.tag = .slab owner sizeClass page slot) (other : owner ≠ slab.owner) :
    Slab.free source block (slab, s) machine =
      .refuse (.foreignBlock Slab.name block.address) (slab, s) machine := by
  unfold Slab.free
  simp only [tag]
  rw [if_pos other]

theorem Hybrid.free_of_sibling {source : Source σ} {hybrid : Hybrid} {s : σ} {block : Block}
    {machine : Machine} {owner id : Nat} (tag : block.tag = .pinned owner id)
    (other : owner ≠ hybrid.owner) :
    Hybrid.free source block (hybrid, s) machine =
      .refuse (.foreignBlock Hybrid.name block.address) (hybrid, s) machine := by
  unfold Hybrid.free
  simp only [tag]
  rw [if_pos other]

namespace Layer
variable {below : Source σ} {layer : Layer} {lending : Lending σ} {machine : Machine} {block : Block}

def Guards : Layer → Prop
  | .arena _ | .probe _ => False
  | .pool _ | .slab _ | .hybrid _ | .tracker _ => True

def Recorded : Layer → List Grant → Prop
  | .pool inner, ours => ∃ lost, inner.Stocked ours lost
  | .tracker inner, ours => inner.Tracks ours
  | .slab _, _ | .hybrid _, _ => True
  | .arena _, _ | .probe _, _ => False

-- Tags that a layer marks its own blocks with, and trusts.
def signs : Layer → ReleaseTag → Bool
  | .slab inner, .slab owner _ _ _ => owner = inner.owner
  | .hybrid inner, .pinned owner _ => owner = inner.owner
  | _, _ => false

-- Tags with which a block is handed on unseen.
def handsOn : Layer → ReleaseTag → Bool
  | .slab _, .slab .. => false
  | .hybrid _, .pinned .. => false
  | .slab _, _ | .hybrid _, _ => true
  | _, _ => false

theorem Made.recorded (made : layer.Made) (guards : layer.Guards) : layer.Recorded [] := by
  cases made with
  | arena accepted => exact guards.elim
  | pool accepted => exact ⟨[], .start _ _ _⟩
  | largeBlock accepted => exact ⟨[], .start _ _ _⟩
  | slab accepted => trivial
  | hybrid => trivial
  | tracker =>
    refine ⟨.empty, ?_⟩
    intro a record found
    rw [Table.find?_empty] at found
    cases found
  | probe => exact guards.elim

theorem perform_recorded (call : Call) (recorded : layer.Recorded lending.ours) (fits : lending.Fits)
    (supplied : (perform below.watched call (layer, lending) machine).state.2.Fits) :
    let reply := perform below.watched call (layer, lending) machine
    reply.state.1.Recorded reply.state.2.ours := by
  cases layer with
  | pool inner =>
    obtain ⟨lost, stocked⟩ := recorded
    obtain ⟨after, gone, same, stocked, _⟩ := Pool.perform_stocked call stocked fits supplied
    dsimp only
    rw [same]
    exact ⟨_, stocked⟩
  | tracker inner =>
    cases call with
    | allocate request => exact Tracker.allocate_tracks recorded
    | free block => exact Tracker.free_tracks recorded
    | trim => exact recorded
    | dispose =>
      have same := inner.dispose_records machine
      change let reply := reported lending (inner.dispose machine)
        reply.state.1.Recorded reply.state.2.ours
      generalize inner.dispose machine = outcome at same ⊢
      obtain ⟨answer, after, machine'⟩ := outcome
      have tracks : after.Tracks lending.ours := ⟨same ▸ recorded.keyed, same ▸ recorded.lent⟩
      cases answer with
      | ok report => exact tracks
      | error e => exact tracks
  | slab inner => cases call <;> trivial
  | hybrid inner => cases call <;> trivial
  | arena inner => exact recorded.elim
  | probe inner => exact recorded.elim

theorem sharing_recorded {first : Layer} {base : σ} {origin : Machine} {past : List Event}
    {state : Layer × Lending σ} (made : first.Made) (guards : first.Guards)
    (sharing : Sharing below first base origin past state machine) :
    state.1.Recorded state.2.ours := by
  induction sharing with
  | start => exact made.recorded guards
  | call before supplied ih => exact perform_recorded _ ih before.fits supplied
  | beside before after left untouched fits ih => exact untouched ▸ ih

theorem free_refused (below : Source σ) (machine : Machine) (recorded : layer.Recorded lending.ours)
    (elsewhere : ∀ g ∈ lending.ours, g.block.address ≠ block.address)
    (unsigned : layer.signs block.tag = false) (refused : layer.handsOn block.tag = false) :
    ∃ left, left.memory = machine.memory ∧
      (source below.watched).free block (layer, lending) machine =
        ⟨.error (.refused (.foreignBlock ((source below.watched).name (layer, lending)) block.address)),
          (layer, lending), left⟩ := by
  cases layer with
  | pool inner =>
    obtain ⟨lost, stocked⟩ := recorded
    have outcome := Pool.free_of_unknown below.watched lending machine
      (Or.inr (stocked.absent elsewhere))
    exact ⟨machine, rfl, congrArg (Reply.mapState (lift .pool)) outcome⟩
  | tracker inner =>
    have outcome := Tracker.free_untracked below.watched lending machine (recorded.absent elsewhere)
    refine ⟨machine.warning _, ?_, congrArg (Reply.mapState (lift .tracker)) outcome⟩
    rfl
  | slab inner =>
    cases tag : block.tag with
    | slab owner sizeClass page slot =>
      have other : owner ≠ inner.owner := by simpa [signs, tag] using unsigned
      exact ⟨machine, rfl, congrArg (Reply.mapState (lift .slab)) (Slab.free_of_sibling tag other)⟩
    | system | pages | borrowed | arena | pool | pinned => simp [handsOn, tag] at refused
  | hybrid inner =>
    cases tag : block.tag with
    | pinned owner id =>
      have other : owner ≠ inner.owner := by simpa [signs, tag] using unsigned
      exact ⟨machine, rfl, congrArg (Reply.mapState (lift .hybrid)) (Hybrid.free_of_sibling tag other)⟩
    | system | pages | borrowed | arena | pool | slab => simp [handsOn, tag] at refused
  | arena inner => exact recorded.elim
  | probe inner => exact recorded.elim

def strikeOff (bytes : Nat) : Layer → Layer
  | .slab inner => .slab { inner with held := inner.held.sub bytes }
  | .hybrid inner => .hybrid { inner with backingBytes := inner.backingBytes.sub bytes }
  | other => other

theorem free_handedOn (source : Source σ) (s : σ) (machine : Machine)
    (handed : layer.handsOn block.tag = true) :
    (Layer.source source).free block (layer, s) machine =
      let answer := source.free block s machine
      let left := match answer.result with
        | .ok () => layer.strikeOff block.size
        | .error _ => layer
      ⟨answer.result, (left, answer.state), answer.machine⟩ := by
  cases layer with
  | slab inner =>
    have passes : Slab.free source block (inner, s) machine =
        Slab.passBack source block inner s machine := by
      unfold Slab.free
      cases tag : block.tag with
      | slab owner sizeClass page slot => simp [handsOn, tag] at handed
      | system | pages | borrowed | arena | pool | pinned => rfl
    apply (congrArg (Reply.mapState (lift .slab)) passes).trans
    unfold Slab.passBack
    generalize source.free block s machine = answer
    obtain ⟨result, after, machine'⟩ := answer
    cases result <;> rfl
  | hybrid inner =>
    have passes : Hybrid.free source block (inner, s) machine =
        Hybrid.passBack source block inner s machine := by
      unfold Hybrid.free
      cases tag : block.tag with
      | pinned owner id => simp [handsOn, tag] at handed
      | system | pages | borrowed | arena | pool | slab => rfl
    apply (congrArg (Reply.mapState (lift .hybrid)) passes).trans
    unfold Hybrid.passBack
    generalize source.free block s machine = answer
    obtain ⟨result, after, machine'⟩ := answer
    cases result <;> rfl
  | pool inner | tracker inner | arena inner | probe inner => cases handed

-- Bytes that were never counted are struck off all the same; the count wraps where it must.
theorem held_strikeOff (source : Source σ) (s after : σ) {tag : ReleaseTag} (bytes : Nat)
    (handed : layer.handsOn tag = true) :
    ((Layer.source source).held (layer.strikeOff bytes, after) + bytes) % Word.range =
      (Layer.source source).held (layer, s) := by
  have restored : ∀ counter : Counter, ((counter.sub bytes).read + bytes) % Word.range = counter.read := by
    intro counter
    rw [← Counter.read_add, Counter.sub_add]
  cases layer with
  | slab inner => exact restored inner.held
  | hybrid inner =>
    have counted := restored inner.backingBytes
    change ((inner.pinnedBytes.read + (inner.backingBytes.sub bytes).read) % Word.range + bytes) %
      Word.range = (inner.pinnedBytes.read + inner.backingBytes.read) % Word.range
    rw [← counted, Nat.mod_add_mod, Nat.add_mod_mod, Nat.add_assoc]
  | pool inner | tracker inner | arena inner | probe inner => cases handed

section
variable {first : Layer} {base : σ} {origin : Machine} {past : List Event}

-- A block of someone else's is refused, and nothing changes, but for one case: a slab or a hybrid
-- hands it on and the source beneath takes it. Then its owner has lost it, and the layer has struck
-- bytes off its account that it never had.
theorem foreign_block_taken_iff (made : first.Made) (guards : first.Guards)
    (sharing : Sharing below first base origin past (layer, lending) machine)
    (elsewhere : ∀ g ∈ lending.ours, g.block.address ≠ block.address)
    (unsigned : layer.signs block.tag = false) :
    let reply := (source below.watched).free block (layer, lending) machine
    (reply.result = .ok () ↔
      layer.handsOn block.tag = true ∧ (below.free block lending.beneath machine).result = .ok ()) ∧
    (reply.result = .ok () →
      reply.state.2.ours = lending.ours ∧
      reply.state.2.theirs = lending.theirs.filter (·.address ≠ block.address) ∧
      ((source below.watched).held reply.state + block.size) % Word.range =
        (source below.watched).held (layer, lending)) ∧
    (reply.result ≠ .ok () →
      reply.state.1 = layer ∧ reply.state.2.ours = lending.ours ∧
      reply.state.2.theirs = lending.theirs) ∧
    (layer.handsOn block.tag = false →
      reply.result = .error (.refused
        (.foreignBlock ((source below.watched).name (layer, lending)) block.address)) ∧
      reply.state = (layer, lending) ∧ reply.machine.memory = machine.memory) := by
  cases handed : layer.handsOn block.tag with
  | false =>
    obtain ⟨left, same, refused⟩ := free_refused below machine
      (sharing_recorded made guards sharing) elsewhere unsigned handed
    rw [refused]
    refine ⟨by simp, by simp, fun _ => ⟨rfl, rfl, rfl⟩, fun _ => ⟨rfl, rfl, same⟩⟩
  | true =>
    rw [free_handedOn below.watched lending machine handed]
    have answered := congrArg Reply.result (below.watched_follows.free block lending machine)
    generalize answer : below.watched.free block lending machine = reply at answered ⊢
    obtain ⟨result, after, left⟩ := reply
    refine ⟨?_, ?_, ?_, by simp⟩
    · rw [← answered]
      simp [Reply.mapState]
    · rintro ⟨⟩
      have settled := Source.watched_settled answer
      refine ⟨?_, by rw [settled]; rfl, held_strikeOff below.watched lending after block.size handed⟩
      rw [settled]
      exact List.filter_eq_self.2 fun g member => decide_eq_true (elsewhere g member)
    · intro failed
      cases result with
      | ok value => exact absurd rfl failed
      | error fault =>
        have kept := Source.watched_kept answer
        refine ⟨rfl, ?_, ?_⟩
        · dsimp only
          rw [kept]
        · dsimp only
          rw [kept]

end

def neighbour : Reply SystemStore Block :=
  SystemStore.source.allocate ⟨64, 8, false, 1, 64, Site.internal⟩ {} ⟨{ platform := .ascending }, []⟩

def neighbourBlock : Block := ⟨0x4000_0000_0000, 64, 8, .system⟩

def besideNeighbour : Reply (Layer × Lending SystemStore) (Option Block) :=
  perform SystemStore.source.watched (.allocate ⟨16, 8, false, 1, 16, Site.internal⟩)
    (.slab (.make 1 {}), { beneath := neighbour.state, theirs := [neighbourBlock] }) neighbour.machine

theorem foreign_block_taken_iff_besideNeighbour :
    let layer := besideNeighbour.state.1
    let lending := besideNeighbour.state.2
    let below := SystemStore.source
    let reply := (source below.watched).free neighbourBlock (layer, lending) besideNeighbour.machine
    (reply.result = .ok () ↔ layer.handsOn neighbourBlock.tag = true ∧
      (below.free neighbourBlock lending.beneath besideNeighbour.machine).result = .ok ()) ∧
    (reply.result = .ok () →
      reply.state.2.ours = lending.ours ∧
      reply.state.2.theirs = lending.theirs.filter (·.address ≠ neighbourBlock.address) ∧
      ((source below.watched).held reply.state + neighbourBlock.size) % Word.range =
        (source below.watched).held (layer, lending)) ∧
    (reply.result ≠ .ok () →
      reply.state.1 = layer ∧ reply.state.2.ours = lending.ours ∧
      reply.state.2.theirs = lending.theirs) ∧
    (layer.handsOn neighbourBlock.tag = false →
      reply.result = .error (.refused (.foreignBlock
        ((source below.watched).name (layer, lending)) neighbourBlock.address)) ∧
      reply.state = (layer, lending) ∧
      reply.machine.memory = besideNeighbour.machine.memory) := by
  have made : Made (.slab (.make 1 {})) := .slab rfl
  have lent : Sharing SystemStore.source (.slab (.make 1 {})) {} ⟨{ platform := .ascending }, []⟩ []
      (.slab (.make 1 {}), { beneath := neighbour.state, theirs := [neighbourBlock] })
      neighbour.machine :=
    .beside .start _ neighbour.machine rfl (by decide +kernel)
  have fits : besideNeighbour.state.2.Fits := by decide +kernel
  unfold besideNeighbour at fits
  have sharing := lent.call fits
  have theirs : neighbourBlock ∈ besideNeighbour.state.2.theirs := by decide +kernel
  exact foreign_block_taken_iff made trivial sharing (sharing.fits.elsewhere theirs) (by decide +kernel)

-- The slab takes the neighbour's block, the system has it back, and the slab's account is short.
theorem neighbours_block_taken :
    let reply := (source SystemStore.source.watched).free neighbourBlock besideNeighbour.state
      besideNeighbour.machine
    besideNeighbour.state.2.theirs = [neighbourBlock] ∧
      (source SystemStore.source.watched).held besideNeighbour.state = 65536 ∧
      SystemStore.source.held besideNeighbour.state.2.beneath = 65600 ∧
      reply.result = .ok () ∧ reply.state.2.theirs = [] ∧
      (source SystemStore.source.watched).held reply.state = 65472 ∧
      SystemStore.source.held reply.state.2.beneath = 65536 := by
  refine ⟨by decide +kernel, by decide +kernel, by decide +kernel, rfl, by decide +kernel,
    by decide +kernel, by decide +kernel⟩

end Layer
end LayeredAllocation
