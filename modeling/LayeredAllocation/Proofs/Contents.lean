import LayeredAllocation.Proofs.Contract.Bottom

namespace LayeredAllocation

namespace Memory
variable {memory before middle after : Memory} {pieces fewer : List Extent} {inner outer : Extent}
  {start length : Nat} {content : Nat → Option UInt8}

def ChangedIn (before after : Memory) (piece : Extent) : Prop :=
  ∀ address, ¬ piece.Contains address → after.read address = before.read address

def Spares (before after : Memory) (pieces : List Extent) : Prop :=
  ∀ e ∈ pieces, ∀ address, e.Contains address → after.read address = before.read address

def Cleared (memory : Memory) (piece : Extent) : Prop :=
  ∀ address, piece.Contains address → memory.read address = some 0

theorem changedIn_write (memory : Memory) (start length : Nat) (content : Nat → Option UInt8) :
    memory.ChangedIn (memory.write start length content) ⟨start, length⟩ :=
  fun _ outside => read_write_outside outside

theorem read_of_patches (same : after.patches = before.patches) (address : Nat) :
    after.read address = before.read address := by
  unfold read
  rw [same]

theorem Spares.of_patches (same : after.patches = before.patches) : before.Spares after pieces :=
  fun _ _ address _ => read_of_patches same address

theorem Spares.trans (first : before.Spares middle pieces) (second : middle.Spares after pieces) :
    before.Spares after pieces := by
  intro e member address inside
  exact (second e member address inside).trans (first e member address inside)

theorem Spares.within (spares : before.Spares after pieces)
    (inside : ∀ e ∈ fewer, ∃ k ∈ pieces, e.Within k) : before.Spares after fewer := by
  intro e member address contained
  obtain ⟨k, found, within⟩ := inside e member
  exact spares k found address (contained.within within)

theorem ChangedIn.spares (changed : before.ChangedIn after outer)
    (apart : ∀ e ∈ pieces, e.Disjoint outer) : before.Spares after pieces := by
  intro e member address contained
  exact changed address ((apart e member).not_contains contained)

theorem Cleared.within (cleared : memory.Cleared outer) (within : inner.Within outer) :
    memory.Cleared inner := fun address contained => cleared address (contained.within within)

theorem patches_of_obtain {origin : Origin} {size align : Nat}
    (asked : memory.obtain origin size align = (none, after)) : after.patches = memory.patches := by
  rw [untouched_of_obtain asked]

theorem fresh_of_obtain {origin : Origin} {size align base : Nat}
    (asked : memory.obtain origin size align = (some base, after)) :
    memory.ChangedIn after ⟨base, size⟩ ∧
      ∀ address, Extent.Contains ⟨base, size⟩ address → after.read address = freshContent origin := by
  unfold obtain at asked
  split at asked
  · cases asked
  · cases asked
    constructor
    · intro address outside
      exact (read_write_outside outside).trans (read_of_patches rfl address)
    · intro address inside
      exact read_write_inside inside

end Memory

namespace Machine
variable {machine : Machine} {pieces : List Extent} {wanted : Bool} {start length : Nat}

theorem zeroIf_spares (apart : ∀ e ∈ pieces, e.Disjoint ⟨start, length⟩) :
    machine.memory.Spares (machine.zeroIf wanted start length).memory pieces := by
  unfold zeroIf
  split
  · exact (machine.memory.changedIn_write start length _).spares apart
  · exact .of_patches rfl

theorem zeroIf_cleared (asked : wanted = true) :
    (machine.zeroIf wanted start length).memory.Cleared ⟨start, length⟩ := by
  unfold zeroIf
  rw [if_pos asked]
  exact fun _ inside => Memory.read_zero_inside inside

end Machine

-- What an allocation may do to contents while some pieces are not to be touched.
inductive Filled (pieces : List Extent) (request : Request) (before : Memory) :
    Reply σ Block → Prop where
  | issued {block : Block} {state : σ} {machine : Machine}
      (spares : before.Spares machine.memory pieces)
      (cleared : request.zero = true → machine.memory.Cleared ⟨block.address, request.size⟩) :
      Filled pieces request before ⟨.ok block, state, machine⟩
  | failed {fault : Fault} {state : σ} {machine : Machine}
      (spares : before.Spares machine.memory pieces) :
      Filled pieces request before ⟨.error fault, state, machine⟩

-- What is not to be touched: the pieces of others, and the blocks that are out.
def guarded (frame : List Extent) (live : List Block) : List Extent :=
  frame ++ live.map Block.extent

section
variable {frame pins owned : List Extent} {live beneath : List Block} {piece : Extent}

theorem forall_mem_guarded {p : Extent → Prop} :
    (∀ e ∈ guarded frame live, p e) ↔ (∀ e ∈ frame, p e) ∧ ∀ b ∈ live, p b.extent := by
  simp only [guarded, List.forall_mem_append, List.forall_mem_map]

theorem guarded_within (frame : List Extent) (inside : ∀ b ∈ live, ∃ k ∈ beneath, b.extent.Within k.extent) :
    ∀ e ∈ guarded frame live, ∃ k ∈ guarded frame beneath, e.Within k := by
  refine forall_mem_guarded.2 ⟨?_, ?_⟩
  · exact fun e member => ⟨e, List.mem_append_left _ member, Extent.Within.refl e⟩
  · intro b member
    obtain ⟨k, found, within⟩ := inside b member
    exact ⟨k.extent, List.mem_append_right _ (List.mem_map_of_mem found), within⟩

theorem guarded_apart {memory : Memory} (covered : ∀ b ∈ live, ∃ e ∈ owned, b.extent.Within e)
    (owns : memory.Owns (piece :: (frame ++ owned))) : ∀ e ∈ guarded frame live, e.Disjoint piece := by
  obtain ⟨apart, _⟩ := List.pairwise_cons.1 owns.apart
  refine forall_mem_guarded.2 ⟨?_, ?_⟩
  · exact fun e member => (apart e (List.mem_append_left _ member)).symm
  · intro b member
    obtain ⟨e, own, within⟩ := covered b member
    exact Extent.Disjoint.of_within within (apart e (List.mem_append_right _ own)).symm

end

-- Sources that fill memory as they should. Giving a block back changes no contents at all.
structure Source.Careful (source : Source σ) (inv : Invariant σ) (room : σ → Prop) : Prop where
  allocate {request : Request} {state : σ} {machine : Machine} {live : List Block}
    {owned frame : List Extent} : request.Proper → room state → inv state live owned →
    machine.memory.Owns (frame ++ owned) →
    Filled (guarded frame live) request machine.memory (source.allocate request state machine)
  free (block : Block) (state : σ) (machine : Machine) :
    (source.free block state machine).machine.memory.patches = machine.memory.patches

namespace Source.Careful
variable {source : Source σ} {inv : Invariant σ} {room : σ → Prop} {request : Request} {block : Block}
  {s after : σ} {machine machine' : Machine} {live : List Block} {owned frame : List Extent}

theorem allocated {result : Except Fault Block} (careful : source.Careful inv room)
    (proper : request.Proper) (hasRoom : room s) (kept : inv s live owned)
    (owns : machine.memory.Owns (frame ++ owned))
    (answer : source.allocate request s machine = ⟨result, after, machine'⟩) :
    Filled (guarded frame live) request machine.memory ⟨result, after, machine'⟩ := by
  have filled := careful.allocate proper hasRoom kept owns
  rwa [answer] at filled

theorem freed {result : Except Fault Unit} (careful : source.Careful inv room)
    (answer : source.free block s machine = ⟨result, after, machine'⟩) :
    machine'.memory.patches = machine.memory.patches := by
  have same := careful.free block s machine
  rwa [answer] at same

end Source.Careful

namespace SystemStore

theorem careful : SystemStore.source.Careful Backs (fun _ => True) where
  allocate {request store machine live owned frame} proper _ backs owns := by
    have step : AllocateStep request store machine _ := allocate_step request store machine
    change Filled _ _ _ (SystemStore.allocate request store machine)
    generalize SystemStore.allocate request store machine = reply at step ⊢
    cases step with
    | unshaped made => exact .failed (.of_patches rfl)
    | overdrawn made short => exact .failed (.of_patches rfl)
    | exhausted made accepted asked => exact .failed (.of_patches (Memory.patches_of_obtain asked))
    | granted made accepted asked =>
      obtain ⟨changed, _⟩ := Memory.fresh_of_obtain asked
      have owns' := owns.obtained proper.1 (Memory.placed_of_obtain asked)
      have apart := guarded_apart (contract.covered backs) owns'
      exact .issued ((changed.spares apart).trans (Machine.zeroIf_spares apart))
        Machine.zeroIf_cleared
  free block store machine := by
    have step := free_step block store machine
    generalize SystemStore.source.free block store machine = reply at step ⊢
    cases step with
    | foreign cause => rfl
    | returned tag found => rfl

end SystemStore

namespace Pages

theorem patches_unmap (claimed : Extent) (memory : Memory) :
    (unmap .kernel claimed memory).2.patches = memory.patches := by
  rcases unmap_cases claimed memory with ⟨e, kept⟩ | given
  · rw [kept]
  · rw [given]
    rfl

namespace Span

-- What mapping pages does to contents: nothing, or a new piece reads zero.
inductive Blank (before : Memory) : Except String Span × Machine → Prop where
  | refused {e : String} {machine : Machine} (same : machine.memory.patches = before.patches) :
      Blank before (.error e, machine)
  | gained {span : Span} {machine : Machine}
      (changed : before.ChangedIn machine.memory ⟨span.address, span.capacity⟩)
      (cleared : machine.memory.Cleared ⟨span.address, span.capacity⟩) :
      Blank before (.ok span, machine)

theorem mapKind_blank (large : Bool) (size : Nat) (machine : Machine) :
    Blank machine.memory (mapKind large size machine) := by
  unfold mapKind Pages.map
  cases capacity? large size with
  | none => exact .refused rfl
  | some capacity =>
    dsimp only
    generalize asked : machine.memory.obtain (if large then .largePages else .pages) capacity
      pageSize = reply
    match reply, asked with
    | (none, after), asked => exact .refused (Memory.patches_of_obtain asked)
    | (some base, after), asked =>
      obtain ⟨changed, filled⟩ := Memory.fresh_of_obtain asked
      refine .gained changed fun address inside => (filled address inside).trans ?_
      cases large <;> rfl

theorem orRegular_blank {before : Memory} {size : Nat} {outcome : Except String Span × Machine}
    (blank : Blank before outcome) : Blank before (orRegular size outcome) := by
  cases blank with
  | gained changed cleared => exact .gained changed cleared
  | @refused e machine same =>
    have retried := mapKind_blank false size
      (machine.debug ("large pages unavailable (" ++ e ++ "), using regular pages"))
    change Blank before (mapKind false size _)
    generalize mapKind false size _ = outcome at retried ⊢
    cases retried with
    | refused same' => exact .refused (same'.trans same)
    | gained changed cleared =>
      refine .gained (fun address outside => ?_) cleared
      exact (changed address outside).trans (Memory.read_of_patches same address)

theorem drop_patches (span : Span) (machine : Machine) :
    (drop span machine).memory.patches = machine.memory.patches := by
  have same := patches_unmap ⟨span.address, span.capacity⟩ machine.memory
  unfold drop
  generalize unmap .kernel ⟨span.address, span.capacity⟩ machine.memory = outcome at same ⊢
  obtain ⟨answer, memory⟩ := outcome
  cases answer <;> exact same

end Span

end Pages

namespace PageStore

theorem span_blank (store : PageStore) (size : Nat) (machine : Machine) :
    Pages.Span.Blank machine.memory (store.span size machine) := by
  unfold span
  split
  · exact Pages.Span.orRegular_blank (Pages.Span.mapKind_blank true size machine)
  · exact Pages.Span.mapKind_blank false size machine

-- Fresh pages read zero, so nothing is left to be done for a request.
theorem careful : PageStore.source.Careful Backs (fun _ => True) where
  allocate {request store machine live owned frame} proper _ backs owns := by
    have blank := store.span_blank request.size machine
    have mapped := span_mapped store request.size owns
    have step := allocate_step request store machine
    generalize PageStore.source.allocate request store machine = reply at step ⊢
    cases step with
    | unaligned large => exact .failed (.of_patches rfl)
    | exhausted small spanned =>
      rw [spanned] at blank
      cases blank with
      | refused same => exact .failed (.of_patches same)
    | mapped small spanned =>
      rw [spanned] at blank mapped
      cases blank with
      | gained changed cleared =>
        cases mapped with
        | gained owns _ fits =>
          refine .issued (changed.spares (guarded_apart backs.covered owns)) fun _ => ?_
          exact cleared.within ⟨Nat.le_refl _, Nat.add_le_add_left fits _⟩
  free block store machine := by
    have step := free_step block store machine
    generalize PageStore.source.free block store machine = reply at step ⊢
    cases step with
    | foreign cause => rfl
    | unmapped tag found => exact Pages.Span.drop_patches _ machine

end PageStore

theorem Filled.mapState {f : σ → τ} {pieces : List Extent} {request : Request} {before : Memory}
    {reply : Reply σ Block} (filled : Filled pieces request before reply) :
    Filled pieces request before (reply.mapState f) := by
  cases filled with
  | issued spares cleared => exact .issued spares cleared
  | failed spares => exact .failed spares

theorem Bottom.careful : Bottom.source.Careful Backs (fun _ => True) where
  allocate {request bottom machine live owned frame} proper room backs owns := by
    cases bottom with
    | system store => exact (SystemStore.careful.allocate proper room backs owns).mapState
    | pages store => exact (PageStore.careful.allocate proper room backs owns).mapState
  free block bottom machine := by
    cases bottom with
    | system store => exact SystemStore.careful.free block store machine
    | pages store => exact PageStore.careful.free block store machine

end LayeredAllocation
