import LayeredAllocation.Proofs.Pins

namespace LayeredAllocation.Hybrid
variable {σ : Type} {hybrid : Hybrid} {request : Request} {memory : Memory} {size : Nat}

-- No pin of that size can be made: in whole chunks it is longer than any run of bytes, or the platform
-- has no place for it.
def Short (memory : Memory) (size : Nat) : Prop :=
  Word.longest < Word.roundUp size 64 ∨
    (PinnedBlock.place (PinnedBlock.chunksFor size) memory).1 = none

instance : Decidable (Short memory size) := inferInstanceAs (Decidable (_ ∨ _))

def complaint (size : Nat) : String :=
  if Word.longest < Word.roundUp size 64 then "capacity overflow"
  else "memory allocation of " ++ Text.Numeral.decimal (Word.roundUp size 64) ++ " bytes failed"

theorem allocate_short (below : Source σ) (s : σ) (machine : Machine)
    (pins : hybrid.pins request = true) (short : Short machine.memory request.size) :
    ∃ left, Hybrid.allocate below request (hybrid, s) machine =
      .panic (complaint request.size) (hybrid, s) left := by
  have step := allocate_step below request hybrid s machine
  generalize Hybrid.allocate below request (hybrid, s) machine = reply at step ⊢
  unfold complaint
  cases step with
  | overflowed _ large =>
    rw [if_pos (show Word.longest < Word.roundUp request.size 64 from large)]
    exact ⟨_, rfl⟩
  | exhausted _ small placed =>
    rw [if_neg (show ¬ Word.longest < Word.roundUp request.size 64 from small)]
    exact ⟨_, rfl⟩
  | pinned _ small placed =>
    rcases short with large | refused
    · exact absurd large small
    · rw [placed] at refused
      cases refused
  | passed moves answer | passFailed moves answer => exact absurd (moves.symm.trans pins) Bool.false_ne_true

theorem allocate_roomy (below : Source σ) (s : σ) (machine : Machine)
    (pins : hybrid.pins request = true) (roomy : ¬ Short machine.memory request.size) :
    ∃ block, (Hybrid.allocate below request (hybrid, s) machine).result = .ok block := by
  have step := allocate_step below request hybrid s machine
  generalize Hybrid.allocate below request (hybrid, s) machine = reply at step ⊢
  cases step with
  | overflowed _ large => exact absurd (.inl large) roomy
  | exhausted _ small placed => exact absurd (.inr (congrArg Prod.fst placed)) roomy
  | pinned _ small placed => exact ⟨_, rfl⟩
  | passed moves answer | passFailed moves answer => exact absurd (moves.symm.trans pins) Bool.false_ne_true

theorem allocate_passed (below : Source σ) (s : σ) (machine : Machine)
    (moves : hybrid.pins request = false) :
    (Hybrid.allocate below request (hybrid, s) machine).result =
      (below.allocate request s machine).result := by
  have step := allocate_step below request hybrid s machine
  generalize Hybrid.allocate below request (hybrid, s) machine = reply at step ⊢
  cases step with
  | overflowed pins _ | exhausted pins _ _ | pinned pins _ _ =>
    exact absurd (moves.symm.trans pins) Bool.false_ne_true
  | passed _ answer | passFailed _ answer => rw [answer]

theorem pins_withSize (hybrid : Hybrid) (request : Request) (size : Nat) :
    hybrid.pins (request.withSize size) = hybrid.pins request := rfl

-- The exact conditions under which a request is not served, whatever size it has been given on its
-- way. One that is to be pinned is never refused: it gets its pin, or it panics.
theorem shortage_panics_iff_pinned (below : Source σ) (hybrid : Hybrid) (request : Request)
    (size : Nat) (s : σ) (machine : Machine) :
    let beneath := (below.allocate (request.withSize size) s machine).result
    let reply := Hybrid.allocate below (request.withSize size) (hybrid, s) machine
    (∀ message, reply.result = .error (.panicked message) ↔
      if hybrid.pins request = true then Short machine.memory size ∧ message = complaint size
      else beneath = .error (.panicked message)) ∧
    (∀ e, reply.result = .error (.refused e) ↔
      hybrid.pins request = false ∧ beneath = .error (.refused e)) ∧
    ∀ fault, reply.result = .error fault →
      reply.state.1 = hybrid ∧ (hybrid.pins request = true → reply.state.2 = s) := by
  intro beneath reply
  rw [← hybrid.pins_withSize request size]
  cases pins : hybrid.pins (request.withSize size) with
  | false =>
    have same : reply.result = beneath := allocate_passed below s machine pins
    rw [same]
    refine ⟨fun message => by simp, fun e => by simp, ?_⟩
    intro fault failed
    exact ⟨allocate_failed below _ hybrid s machine (same.trans failed), nofun⟩
  | true =>
    by_cases short : Short machine.memory size
    · obtain ⟨left, same⟩ : ∃ left, reply = .panic (complaint size) (hybrid, s) left :=
        allocate_short below s machine pins short
      rw [same]
      refine ⟨?_, ?_, fun _ _ => ⟨rfl, fun _ => rfl⟩⟩
      · intro message
        simp [Reply.panic, short, eq_comm]
      · intro e
        simp [Reply.panic]
    · obtain ⟨block, served⟩ : ∃ block, reply.result = .ok block :=
        allocate_roomy below s machine pins short
      rw [served]
      refine ⟨?_, ?_, nofun⟩
      · intro message
        simp [short]
      · intro e
        simp

def greedyHybrid : Hybrid := { owner := 1, thresholds := { byte := 0xffff_ffff_ffff_ffff } }

def modestHybrid : Hybrid := { owner := 1, thresholds := {} }

theorem pinned_shortage_panics :
    (∃ request, Request.bytes? Word.longest 1 false Site.internal = .ok request ∧
      (Hybrid.allocate SystemStore.source request (greedyHybrid, {})
        ⟨{ platform := .ascending }, []⟩).result = .error (.panicked "capacity overflow") ∧
      (Hybrid.allocate SystemStore.source request (modestHybrid, {})
        ⟨{ platform := .ascending }, []⟩).result =
          .error (.refused (.outOfMemory Word.longest "system allocator returned null"))) ∧
    ∃ request, Request.bytes? 1 1 false Site.internal = .ok request ∧
      (@Stack.perform 2 (.allocate request)
        (.pool { owner := 2, name := "pool", config := { granularity := 0x4000_0000_0000_0000 } },
          .hybrid modestHybrid, .system {})
        ⟨{ platform := .ascending }, []⟩).result =
          .error (.panicked "memory allocation of 4611686018427387904 bytes failed") := by
  refine ⟨⟨⟨Word.longest, 1, false, 1, Word.longest, Site.internal⟩, rfl, ?_, ?_⟩,
    ⟨1, 1, false, 1, 1, Site.internal⟩, rfl, ?_⟩
  · decide +kernel
  · decide +kernel
  · decide +kernel

end LayeredAllocation.Hybrid
