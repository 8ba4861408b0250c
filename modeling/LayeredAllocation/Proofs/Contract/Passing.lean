import LayeredAllocation.Proofs.Contract
import LayeredAllocation.Proofs.Steps.Passing

namespace LayeredAllocation
variable {source : Source σ} {inv : Invariant σ} {room : σ → Prop} {s : σ} {machine : Machine}
  {live beneath : List Block} {owned frame : List Extent} {request : Request} {block : Block}

-- Every block out is out beneath as well. Blocks may stay out beneath that nobody has here.
structure Shared (live beneath : List Block) : Prop where
  held : Held live
  passed : ∀ b ∈ live, b ∈ beneath

namespace Shared

theorem inside (shared : Shared live beneath) : ∀ b ∈ live, ∃ k ∈ beneath, b.extent.Within k.extent :=
  fun b member => ⟨b, shared.passed b member, Extent.Within.refl _⟩

theorem issue (shared : Shared live beneath) (fresh : Held (block :: beneath)) :
    Shared (block :: live) (block :: beneath) := by
  refine ⟨shared.held.cons (fresh.proper block List.mem_cons_self) ?_, ?_⟩
  · exact fun b member => (fresh.apart_of_cons b (shared.passed b member)).symm
  · intro b member
    rcases List.mem_cons.1 member with rfl | old
    · exact List.mem_cons_self
    · exact List.mem_cons_of_mem _ (shared.passed b old)

theorem drop (shared : Shared live beneath) (block : Block) : Shared (block.others live) beneath :=
  ⟨shared.held.others block, fun b member => shared.passed b (Block.mem_others.1 member).1⟩

theorem takeBack (shared : Shared live beneath) (block : Block) :
    Shared (block.others live) (block.others beneath) := by
  refine ⟨shared.held.others block, fun b member => ?_⟩
  obtain ⟨old, different⟩ := Block.mem_others.1 member
  exact Block.mem_others.2 ⟨shared.passed b old, different⟩

end Shared

namespace Tracker

def Serves (_ : Tracker) : List Block → List Block → Prop := Shared

theorem allocate_contract {tracker : Tracker} (below : source.Contract inv room)
    (proper : request.Proper) (hasRoom : room s) (kept : inv s beneath owned)
    (shared : Shared live beneath) (owns : machine.memory.Owns (frame ++ owned)) :
    Allocated (Over inv Serves) frame live request
      (Tracker.allocate source request (tracker, s) machine) := by
  have step := allocate_step source request tracker s machine
  generalize Tracker.allocate source request (tracker, s) machine = reply at step ⊢
  cases step with
  | refused disposed => exact .failed owns ⟨beneath, kept, shared⟩
  | recorded active answer =>
    obtain ⟨_, owns, size, align, kept⟩ := below.issued proper hasRoom kept owns answer
    exact .issued owns size align ⟨_, kept, shared.issue (below.held kept)⟩
  | failed active answer =>
    obtain ⟨_, owns, kept⟩ := below.refused proper hasRoom kept owns answer
    exact .failed owns ⟨beneath, kept, shared⟩

theorem free_contract {tracker : Tracker} (below : source.Contract inv room) (member : block ∈ live)
    (kept : inv s beneath owned) (shared : Shared live beneath)
    (owns : machine.memory.Owns (frame ++ owned)) :
    Freed (Over inv Serves) frame live (block.others live)
      (Tracker.free source block (tracker, s) machine) := by
  have passed := shared.passed block member
  have step := free_step source block tracker s machine
  generalize Tracker.free source block (tracker, s) machine = reply at step ⊢
  cases step with
  | untracked absent => exact .failed (owns.congr rfl rfl) ⟨beneath, kept, shared⟩
  | dropped found keeps => exact .taken owns ⟨beneath, kept, shared.drop block⟩
  | released found releases answer =>
    obtain ⟨_, owns, kept⟩ := below.taken passed kept owns answer
    exact .taken owns ⟨_, kept, shared.takeBack block⟩
  | restored found releases answer | lost found releases answer =>
    obtain ⟨_, owns, kept⟩ := below.declined passed kept owns answer
    exact .failed owns ⟨_, kept, shared⟩

theorem contract (below : source.Contract inv room) :
    (Tracker.source source).Contract (Over inv Serves) (fun state => room state.2) :=
  below.over Shared.held Shared.inside (allocate_contract below) (free_contract below)

end Tracker

namespace Probe

def Serves (_ : Probe) : List Block → List Block → Prop := Shared

theorem allocate_contract {probe : Probe} (below : source.Contract inv room)
    (proper : request.Proper) (hasRoom : room s) (kept : inv s beneath owned)
    (shared : Shared live beneath) (owns : machine.memory.Owns (frame ++ owned)) :
    Allocated (Over inv Serves) frame live request
      (Probe.allocate source request (probe, s) machine) := by
  have step := allocate_step source request probe s machine
  generalize Probe.allocate source request (probe, s) machine = reply at step ⊢
  cases step with
  | injected sees => exact .failed owns ⟨beneath, kept, shared⟩
  | @passed _ result _ _ sees answer =>
    cases result with
    | ok block =>
      obtain ⟨_, owns, size, align, kept⟩ := below.issued proper hasRoom kept owns answer
      exact .issued owns size align ⟨_, kept, shared.issue (below.held kept)⟩
    | error fault =>
      obtain ⟨_, owns, kept⟩ := below.refused proper hasRoom kept owns answer
      exact .failed owns ⟨beneath, kept, shared⟩

theorem free_contract {probe : Probe} (below : source.Contract inv room) (member : block ∈ live)
    (kept : inv s beneath owned) (shared : Shared live beneath)
    (owns : machine.memory.Owns (frame ++ owned)) :
    Freed (Over inv Serves) frame live (block.others live)
      (Probe.free source block (probe, s) machine) := by
  have step := free_step source block probe s machine
  generalize Probe.free source block (probe, s) machine = reply at step ⊢
  cases step with
  | injected sees => exact .failed owns ⟨beneath, kept, shared⟩
  | @passed _ result _ _ sees answer =>
    cases result with
    | ok value =>
      obtain ⟨_, owns, kept⟩ := below.taken (shared.passed block member) kept owns answer
      exact .taken owns ⟨_, kept, shared.takeBack block⟩
    | error fault =>
      obtain ⟨_, owns, kept⟩ := below.declined (shared.passed block member) kept owns answer
      exact .failed owns ⟨_, kept, shared⟩

theorem contract (below : source.Contract inv room) :
    (Probe.source source).Contract (Over inv Serves) (fun state => room state.2) :=
  below.over Shared.held Shared.inside (allocate_contract below) (free_contract below)

end Probe

end LayeredAllocation
