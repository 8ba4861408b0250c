import LayeredAllocation.Proofs.Contract
import LayeredAllocation.Proofs.Steps.Bottom

namespace LayeredAllocation

namespace SystemStore

def Backs (store : SystemStore) (live : List Block) (owned : List Extent) : Prop :=
  Held live ∧ ∀ b ∈ live, b.tag = .system ∧ store.issued.find? b.address = some ⟨b.size, b.align⟩ ∧
    b.extent ∈ owned

-- A piece that touches nothing owned may be handed out.
theorem Backs.record {store paid : SystemStore} {live : List Block} {owned : List Extent}
    {base size align : Nat} {memory : Memory} (backs : store.Backs live owned)
    (issued : paid.issued = store.issued.insert base ⟨size, align⟩)
    (owns : memory.Owns (⟨base, size⟩ :: (frame ++ owned))) (power : Word.isPowerOfTwo align = true)
    (aligned : align ∣ base) :
    paid.Backs (⟨base, size, align, .system⟩ :: live) (⟨base, size⟩ :: owned) := by
  have positive := (owns.live _ List.mem_cons_self).1
  have apart : ∀ a ∈ live, a.extent.Disjoint ⟨base, size⟩ := fun a member =>
    ((List.pairwise_cons.1 owns.apart).1 _ (List.mem_append_right _ (backs.2 a member).2.2)).symm
  refine ⟨backs.1.cons ⟨positive, power, aligned⟩ apart, ?_⟩
  intro b member
  rw [issued, Table.find?_insert]
  rcases List.mem_cons.1 member with rfl | old
  · exact ⟨rfl, if_pos rfl, List.mem_cons_self⟩
  · obtain ⟨tag, found, own⟩ := backs.2 b old
    have other : b.address ≠ base :=
      (apart b old).start_ne (backs.1.proper b old).positive positive
    exact ⟨tag, by rw [if_neg other, found], List.mem_cons_of_mem _ own⟩

theorem Backs.forget {store : SystemStore} {live : List Block} {owned : List Extent} {block : Block}
    (backs : store.Backs live owned) (member : block ∈ live) (layout : Layout) :
    ((store.forget block.address layout).refund layout.size).Backs (block.others live)
      (owned.filter (· ≠ block.extent)) := by
  refine ⟨backs.1.others block, ?_⟩
  intro b inside
  obtain ⟨old, different⟩ := Block.mem_others.1 inside
  obtain ⟨tag, found, own⟩ := backs.2 b old
  have apart := backs.1.apart_of_ne old member different
  have other : b.address ≠ block.address :=
    apart.start_ne (backs.1.proper b old).positive (backs.1.proper block member).positive
  refine ⟨tag, ?_, List.mem_filter.2 ⟨own, ?_⟩⟩
  · simp only [SystemStore.refund, SystemStore.forget, Table.find?_erase]
    rw [if_neg other, found]
  · simp only [ne_eq, decide_eq_true_eq]
    exact fun equal => other (congrArg Extent.start equal)

theorem contract : SystemStore.source.Contract Backs (fun _ => True) where
  held backs := backs.1
  covered backs b member := ⟨b.extent, (backs.2 b member).2.2, Extent.Within.refl _⟩
  allocate {request store machine live owned frame} proper _ backs owns := by
    have outcome := allocate_supplied request store machine
    generalize SystemStore.source.allocate request store machine = reply at outcome ⊢
    cases outcome with
    | refused untouched => exact .failed (owns.congr untouched.platform untouched.roots) backs
    | granted grants =>
      have owns' := owns.obtained proper.1 grants.placed
      have aligned := (owns.sound _ _ _ _ _ _ grants.placed.placed).2.1 proper.2
      exact .issued (owns'.perm List.perm_middle.symm) rfl rfl
        (backs.record grants.issued owns' proper.2 aligned)
  free {block store machine live owned frame} member backs owns := by
    obtain ⟨tag, found, own⟩ := backs.2 block member
    rw [free_of_issued tag found]
    exact .taken (owns.giveBack block.size own) (backs.forget member _)

end SystemStore

namespace Pages

theorem pageSize_power : Word.isPowerOfTwo pageSize = true := Word.isPowerOfTwo_iff.2 ⟨12, rfl⟩

theorem capacity?_eq_some {large : Bool} {size capacity : Nat}
    (rounded : capacity? large size = some capacity) : 0 < capacity ∧ size ≤ capacity := by
  unfold capacity? at rounded
  obtain ⟨positive, rfl, _⟩ := Word.roundUp?_eq_some.1 rounded
  have above := Word.le_roundUp (n := max size 1) positive
  omega

namespace Span

-- What mapping pages leads to: nothing gained, or a new piece that is large enough.
inductive Mapped (size : Nat) (owned : List Extent) : Except String Span × Machine → Prop where
  | refused (owns : machine.memory.Owns owned) : Mapped size owned (.error e, machine)
  | gained (owns : machine.memory.Owns (⟨span.address, span.capacity⟩ :: owned))
      (aligned : pageSize ∣ span.address) (fits : size ≤ span.capacity) :
      Mapped size owned (.ok span, machine)

theorem mapKind_mapped {size : Nat} {machine : Machine} {owned : List Extent} (large : Bool)
    (owns : machine.memory.Owns owned) : Mapped size owned (mapKind large size machine) := by
  unfold mapKind
  rcases map_cases large size machine.memory with
    ⟨e, after, asked, untouched⟩ |
    ⟨base, capacity, origin, after, asked, rounded, placed⟩
  · rw [asked]
    exact .refused (owns.congr untouched.platform untouched.roots)
  · rw [asked]
    obtain ⟨positive, fits⟩ := capacity?_eq_some rounded
    exact .gained (owns.obtained positive placed)
      ((owns.sound _ _ _ _ _ _ placed.placed).2.1 pageSize_power) fits

theorem orRegular_mapped {size : Nat} {owned : List Extent} {outcome : Except String Span × Machine}
    (mapped : Mapped size owned outcome) : Mapped size owned (orRegular size outcome) := by
  cases mapped with
  | refused owns => exact mapKind_mapped false owns
  | gained owns aligned fits => exact .gained owns aligned fits

-- A span whose pages cannot be unmapped is given up all the same.
theorem drop_owns {address capacity : Nat} {machine : Machine} {frame owned : List Extent}
    (large : Bool) (owns : machine.memory.Owns (frame ++ owned)) (own : ⟨address, capacity⟩ ∈ owned) :
    (drop ⟨address, capacity, large⟩ machine).memory.Owns
      (frame ++ owned.filter (· ≠ ⟨address, capacity⟩)) := by
  unfold drop
  rcases unmap_cases ⟨address, capacity⟩ machine.memory with ⟨e, kept⟩ | given
  · rw [kept]
    exact (owns.sublist (List.filter_sublist.append_left frame)).congr rfl rfl
  · rw [given]
    exact owns.giveBack capacity own

end Span

end Pages

namespace PageStore

def Backs (store : PageStore) (live : List Block) (owned : List Extent) : Prop :=
  Held live ∧ ∀ b ∈ live, b.tag = .pages ∧ ∃ mapping, store.mappings.find? b.address = some mapping ∧
    b.size ≤ mapping.capacity ∧ ⟨b.address, mapping.capacity⟩ ∈ owned

theorem span_mapped (store : PageStore) (size : Nat) {machine : Machine} {owned : List Extent}
    (owns : machine.memory.Owns owned) : Pages.Span.Mapped size owned (store.span size machine) := by
  unfold span
  split
  · exact Pages.Span.orRegular_mapped (Pages.Span.mapKind_mapped true owns)
  · exact Pages.Span.mapKind_mapped false owns

theorem Backs.covered {store : PageStore} {live : List Block} {owned : List Extent}
    (backs : store.Backs live owned) : ∀ b ∈ live, ∃ e ∈ owned, b.extent.Within e := by
  intro b member
  obtain ⟨_, mapping, _, fits, own⟩ := backs.2 b member
  exact ⟨_, own, Nat.le_refl _, Nat.add_le_add_left fits _⟩

-- A span that touches nothing owned may be handed out.
theorem Backs.record {store : PageStore} {request : Request} {live : List Block}
    {frame owned : List Extent} {span : Pages.Span} {memory : Memory} {mapped : Counter}
    (backs : store.Backs live owned) (proper : request.Proper)
    (owns : memory.Owns (⟨span.address, span.capacity⟩ :: (frame ++ owned)))
    (aligned : request.align ∣ span.address) (fits : request.size ≤ span.capacity) :
    PageStore.Backs
      { store with
        mappings := store.mappings.insert span.address ⟨span.capacity, span.large⟩
        mapped }
      (⟨span.address, request.size, request.align, .pages⟩ :: live)
      (⟨span.address, span.capacity⟩ :: owned) := by
  have apart : ∀ a ∈ live, a.extent.Disjoint ⟨span.address, request.size⟩ := by
    intro a member
    obtain ⟨e, own, within⟩ := backs.covered a member
    have touches := (List.pairwise_cons.1 owns.apart).1 e (List.mem_append_right _ own)
    have inside : Extent.Within ⟨span.address, request.size⟩ ⟨span.address, span.capacity⟩ :=
      ⟨Nat.le_refl _, Nat.add_le_add_left fits _⟩
    exact (touches.within inside within).symm
  refine ⟨backs.1.cons ⟨proper.1, proper.2, aligned⟩ apart, ?_⟩
  intro b member
  simp only [Table.find?_insert]
  rcases List.mem_cons.1 member with rfl | old
  · exact ⟨rfl, _, if_pos rfl, fits, List.mem_cons_self⟩
  · obtain ⟨tag, mapping, found, fits, own⟩ := backs.2 b old
    have other : b.address ≠ span.address :=
      (apart b old).start_ne (backs.1.proper b old).positive proper.1
    exact ⟨tag, mapping, by rw [if_neg other, found], fits, List.mem_cons_of_mem _ own⟩

theorem Backs.forget {store : PageStore} {live : List Block} {owned : List Extent} {block : Block}
    (backs : store.Backs live owned) (member : block ∈ live) (mapping : MappingRecord) :
    PageStore.Backs
      { store with
        mappings := store.mappings.erase block.address
        mapped := store.mapped.sub mapping.capacity }
      (block.others live) (owned.filter (· ≠ ⟨block.address, mapping.capacity⟩)) := by
  refine ⟨backs.1.others block, ?_⟩
  intro b inside
  obtain ⟨old, different⟩ := Block.mem_others.1 inside
  obtain ⟨tag, mapping', found', fits, own⟩ := backs.2 b old
  have apart := backs.1.apart_of_ne old member different
  have other : b.address ≠ block.address :=
    apart.start_ne (backs.1.proper b old).positive (backs.1.proper block member).positive
  refine ⟨tag, mapping', ?_, fits, List.mem_filter.2 ⟨own, ?_⟩⟩
  · simp only [Table.find?_erase]
    rw [if_neg other, found']
  · simp only [ne_eq, decide_eq_true_eq]
    exact fun equal => other (congrArg Extent.start equal)

theorem contract : PageStore.source.Contract Backs (fun _ => True) where
  held backs := backs.1
  covered backs := backs.covered
  allocate {request store machine live owned frame} proper _ backs owns := by
    have step := allocate_step request store machine
    generalize PageStore.source.allocate request store machine = reply at step ⊢
    cases step with
    | unaligned _ => exact .failed owns backs
    | exhausted small spanned =>
      have mapped := span_mapped store request.size owns
      rw [spanned] at mapped
      cases mapped with
      | refused owns => exact .failed owns backs
    | mapped small spanned =>
      have mapped := span_mapped store request.size owns
      rw [spanned] at mapped
      cases mapped with
      | gained owns aligned fits =>
        have aligned := Nat.dvd_trans (Word.dvd_of_le proper.2 Pages.pageSize_power small) aligned
        exact .issued (owns.perm List.perm_middle.symm) rfl rfl
          (backs.record proper owns aligned fits)
  free {block store machine live owned frame} member backs owns := by
    obtain ⟨tag, mapping, found, fits, own⟩ := backs.2 block member
    have step := free_step block store machine
    generalize PageStore.source.free block store machine = reply at step ⊢
    cases step with
    | foreign cause => exact .failed owns backs
    | unmapped _ found' =>
      cases found.symm.trans found'
      exact .taken (Pages.Span.drop_owns mapping.large owns own) (backs.forget member mapping)

end PageStore

namespace Bottom

def Backs : Bottom → List Block → List Extent → Prop
  | .system store => store.Backs
  | .pages store => store.Backs

theorem contract : Bottom.source.Contract Backs (fun _ => True) where
  held {bottom live owned} backs := by
    cases bottom with
    | system store => exact SystemStore.contract.held backs
    | pages store => exact PageStore.contract.held backs
  covered {bottom live owned} backs := by
    cases bottom with
    | system store => exact SystemStore.contract.covered backs
    | pages store => exact PageStore.contract.covered backs
  allocate {request bottom machine live owned frame} proper room backs owns := by
    cases bottom with
    | system store =>
      have outcome := SystemStore.contract.allocate proper room backs owns
      exact outcome.mapState fun kept => kept
    | pages store =>
      have outcome := PageStore.contract.allocate proper room backs owns
      exact outcome.mapState fun kept => kept
  free {block bottom machine live owned frame} member backs owns := by
    cases bottom with
    | system store =>
      have outcome := SystemStore.contract.free member backs owns
      exact outcome.mapState fun kept => kept
    | pages store =>
      have outcome := PageStore.contract.free member backs owns
      exact outcome.mapState fun kept => kept

theorem Made.backs {bottom : Bottom} (made : bottom.Made) : bottom.Backs [] [] := by
  cases made <;> exact ⟨.nil, by simp⟩

end Bottom

end LayeredAllocation
