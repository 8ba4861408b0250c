import LayeredAllocation.Proofs.Contract.Bottom
import LayeredAllocation.Proofs.Contract.Hybrid
import LayeredAllocation.Proofs.Steps.Layer

namespace LayeredAllocation
variable {σ : Type}

-- The pieces that a source has on record stay live and apart, and so do those of others.
structure Source.Tenant (source : Source σ) (pieces : σ → List Extent) : Prop where
  allocate {request : Request} {s : σ} {machine : Machine} {frame : List Extent} :
    request.Proper → machine.memory.Owns (frame ++ pieces s) →
    (source.allocate request s machine).machine.memory.Owns
      (frame ++ pieces (source.allocate request s machine).state)
  free {block : Block} {s : σ} {machine : Machine} {frame : List Extent} :
    machine.memory.Owns (frame ++ pieces s) →
    (source.free block s machine).machine.memory.Owns
      (frame ++ pieces (source.free block s machine).state)

namespace Source.Tenant
variable {source : Source σ} {pieces : σ → List Extent} {request : Request} {block : Block}
  {s after : σ} {machine machine' : Machine} {frame : List Extent}

theorem allocated {result : Except Fault Block} (tenant : source.Tenant pieces)
    (proper : request.Proper) (owns : machine.memory.Owns (frame ++ pieces s))
    (answer : source.allocate request s machine = ⟨result, after, machine'⟩) :
    machine'.memory.Owns (frame ++ pieces after) := by
  have kept := tenant.allocate proper owns
  rwa [answer] at kept

theorem freed {result : Except Fault Unit} (tenant : source.Tenant pieces)
    (owns : machine.memory.Owns (frame ++ pieces s))
    (answer : source.free block s machine = ⟨result, after, machine'⟩) :
    machine'.memory.Owns (frame ++ pieces after) := by
  have kept : (source.free block s machine).machine.memory.Owns
      (frame ++ pieces (source.free block s machine).state) := tenant.free owns
  rwa [answer] at kept

end Source.Tenant

namespace Memory.Owns
variable {memory : Memory} {owned frame : List Extent} {e : Extent}

theorem release (owns : memory.Owns (e :: owned)) (length : Nat) :
    (memory.giveBack e.start length).Owns owned := by
  have last : memory.Owns (owned ++ [e]) := owns.perm (List.perm_append_singleton e owned).symm
  have kept := last.giveBack length List.mem_cons_self
  exact kept.sublist (List.sublist_append_left _ _)

theorem first_ne (owns : memory.Owns (e :: owned)) : ∀ other ∈ owned, other.start ≠ e.start := by
  intro other member
  have apart := (List.pairwise_cons.1 owns.apart).1 other member
  exact (apart.start_ne (owns.live e List.mem_cons_self).1
    (owns.live other (List.mem_cons_of_mem e member)).1).symm

end Memory.Owns

namespace Table
variable {α : Type} {length : α → Nat} {table : Table α} {key : Nat} {value : α} {memory : Memory}
  {frame : List Extent}

-- Pieces of memory on record by their addresses.
def extents (length : α → Nat) (table : Table α) : List Extent :=
  table.entries.map fun entry => ⟨entry.1, length entry.2⟩

theorem extents_insert_perm (length : α → Nat) (absent : table.find? key = none) (value : α) :
    ((table.insert key value).extents length).Perm (⟨key, length value⟩ :: table.extents length) :=
  (entries_insert absent value).map _

theorem extents_erase_perm (found : table.find? key = some value) :
    (table.extents length).Perm (⟨key, length value⟩ :: (table.erase key).extents length) :=
  (entries_erase found).map _

-- What is live already is not on record under the address of a new piece.
theorem absent_of_owns {size : Nat} {owned : List Extent} (owns : memory.Owns (⟨key, size⟩ :: owned))
    (listed : ∀ e ∈ table.extents length, e ∈ owned) : table.find? key = none := by
  cases found : table.find? key with
  | none => rfl
  | some other =>
    have piece : ⟨key, length other⟩ ∈ table.extents length :=
      List.mem_map.2 ⟨_, find?_eq_some_iff.1 found, rfl⟩
    exact absurd rfl (owns.first_ne ⟨key, length other⟩ (listed _ piece))

theorem extents_insert (length : α → Nat) (value : α)
    (owns : memory.Owns (⟨key, length value⟩ :: (frame ++ table.extents length))) :
    memory.Owns (frame ++ (table.insert key value).extents length) := by
  have absent : table.find? key = none := absent_of_owns owns fun _ => List.mem_append_right frame
  have grown := extents_insert_perm length absent value
  exact owns.perm (List.perm_middle.symm.trans (grown.symm.append_left frame))

theorem extents_erase (owns : memory.Owns (frame ++ table.extents length))
    (found : table.find? key = some value) :
    memory.Owns (⟨key, length value⟩ :: (frame ++ (table.erase key).extents length)) := by
  exact owns.perm (((extents_erase_perm found).append_left frame).trans List.perm_middle)

end Table

namespace SystemStore

def pieces (store : SystemStore) : List Extent := store.issued.extents Layout.size

theorem tenant : source.Tenant pieces where
  allocate {request store machine frame} proper owns := by
    have outcome := allocate_supplied request store machine
    generalize source.allocate request store machine = reply at outcome ⊢
    cases outcome with
    | refused untouched => exact owns.congr untouched.platform untouched.roots
    | @granted base paid after grants =>
      have grown := Table.extents_insert Layout.size ⟨request.size, request.align⟩
        (owns.obtained proper.1 grants.placed)
      rwa [← grants.issued] at grown
  free {block store machine frame} owns := by
    have step := free_step block store machine
    generalize source.free block store machine = reply at step ⊢
    cases step with
    | foreign cause => exact owns
    | @returned layout tag found => exact (Table.extents_erase owns found).release layout.size

end SystemStore

namespace PageStore

def pieces (store : PageStore) : List Extent := store.mappings.extents MappingRecord.capacity

theorem tenant : source.Tenant pieces where
  allocate {request store machine frame} proper owns := by
    have step := allocate_step request store machine
    generalize source.allocate request store machine = reply at step ⊢
    have mapped := span_mapped store request.size owns
    cases step with
    | unaligned large => exact owns
    | exhausted small spanned =>
      rw [spanned] at mapped
      cases mapped with
      | refused owns => exact owns
    | mapped small spanned =>
      rw [spanned] at mapped
      cases mapped with
      | gained owns aligned fits => exact Table.extents_insert _ _ owns
  free {block store machine frame} owns := by
    have step := free_step block store machine
    generalize source.free block store machine = reply at step ⊢
    cases step with
    | foreign cause => exact owns
    | @unmapped mapping tag found =>
      have own := (Table.extents_erase owns found).perm (List.perm_append_singleton _ _).symm
      have kept := Pages.Span.drop_owns mapping.large own List.mem_cons_self
      exact kept.sublist (List.sublist_append_left _ _)

end PageStore

namespace Bottom

def pieces : Bottom → List Extent
  | .system store => store.pieces
  | .pages store => store.pieces

theorem tenant : source.Tenant pieces where
  allocate {request bottom machine frame} proper owns := by
    cases bottom with
    | system store => exact SystemStore.tenant.allocate proper owns
    | pages store => exact PageStore.tenant.allocate proper owns
  free {block bottom machine frame} owns := by
    cases bottom with
    | system store => exact SystemStore.tenant.free owns
    | pages store => exact PageStore.tenant.free owns

end Bottom

namespace Table
variable {α : Type} {table : Table α} {key : Nat}

-- Whatever was on record under the key is not any longer.
theorem values_insert_erase (table : Table α) (key : Nat) (value : α) :
    (table.insert key value).values.Perm (value :: (table.erase key).values) := by
  have absent : (table.erase key).find? key = none := by rw [find?_erase, if_pos rfl]
  have same : (table.erase key).insert key value = table.insert key value := by
    apply ext_find?
    intro other
    rw [find?_insert, find?_insert, find?_erase]
    by_cases here : other = key
    · rw [if_pos here, if_pos here]
    · rw [if_neg here, if_neg here, if_neg here]
  rw [← same]
  exact values_insert absent value

theorem values_erase_sublist (table : Table α) (key : Nat) :
    (table.erase key).values.Sublist table.values :=
  List.filter_sublist.map Prod.snd

end Table

namespace Hybrid
variable {frame rest : List Extent} {hybrid : Hybrid} {memory : Memory}

def pinnedPieces (hybrid : Hybrid) : List Extent := hybrid.pinned.values.map extentOf

theorem register_owns {base chunks : Nat}
    (owns : memory.Owns (⟨base, chunks * PinnedBlock.chunkSize⟩ :: (frame ++ (hybrid.pinnedPieces ++ rest)))) :
    memory.Owns (frame ++ ((hybrid.register ⟨base, chunks⟩).pinnedPieces ++ rest)) := by
  have grown := (Table.values_insert_erase hybrid.pinned hybrid.nextPin ⟨base, chunks⟩).map extentOf
  have fewer := (Table.values_erase_sublist hybrid.pinned hybrid.nextPin).map extentOf
  have kept := owns.sublist (((fewer.append_right rest).append_left frame).cons_cons _)
  refine kept.perm (List.perm_middle.symm.trans ?_)
  exact (grown.symm.append_right rest).append_left frame

theorem unpin_owns {id : Nat} {pinned : PinnedBlock} (found : hybrid.pinned.find? id = some pinned)
    (owns : memory.Owns (frame ++ (hybrid.pinnedPieces ++ rest))) :
    memory.Owns (extentOf pinned :: (frame ++ ((hybrid.pinned.erase id).values.map extentOf ++ rest))) := by
  have less := (Table.values_erase found).map extentOf
  exact owns.perm (((less.append_right rest).append_left frame).trans List.perm_middle)

end Hybrid

namespace Layer

-- Only a hybrid has pieces of its own beside those beneath it.
def pieces (beneath : σ → List Extent) : Layer × σ → List Extent
  | (.hybrid inner, s) => inner.pinnedPieces ++ beneath s
  | (.arena _, s) | (.pool _, s) | (.slab _, s) | (.tracker _, s) | (.probe _, s) => beneath s

theorem pieces_eq (beneath : σ → List Extent) (layer : Layer) (s : σ) :
    pieces beneath (layer, s) = layer.pins.values.map Hybrid.extentOf ++ beneath s := by
  cases layer <;> rfl

-- The own pieces of a layer that stays as it was are like those of others to the source beneath.
theorem owns_of_stays {beneath : σ → List Extent} {layer after : Layer} {memory memory' : Memory}
    {frame : List Extent} {s : σ} (stays : layer.Stays after)
    (owns : memory.Owns ((frame ++ layer.pins.values.map Hybrid.extentOf) ++ beneath s))
    (same : memory.SameRoots memory') : memory'.Owns (frame ++ pieces beneath (after, s)) := by
  rw [pieces_eq, stays.pins, ← List.append_assoc]
  exact owns.congr same.platform same.roots

theorem tenant {below : Source σ} {beneath : σ → List Extent} (tenant : below.Tenant beneath) :
    (source below).Tenant (pieces beneath) where
  allocate := by
    rintro request ⟨layer, s⟩ machine frame proper owns
    have outer := owns
    rw [pieces_eq, ← List.append_assoc] at outer
    have step := allocate_step below request layer s machine
    generalize (source below).allocate request (layer, s) machine = reply at step ⊢
    cases step with
    | alone stays same => exact owns_of_stays stays outer same
    | pinned placed =>
      obtain ⟨positive, fits⟩ := Hybrid.chunksFor_covers proper.1
      have placed := Hybrid.placed_of_place positive placed
      exact Hybrid.register_owns (owns.obtained (Nat.lt_of_lt_of_le proper.1 fits) placed)
    | asked stays proper' answer same =>
      exact owns_of_stays stays (tenant.allocated (proper' proper) outer answer) same
    | returned proper' answer freed same =>
      have owns := tenant.allocated (proper' proper) outer answer
      rw [← same] at owns
      exact owns_of_stays ⟨rfl, rfl⟩ (tenant.freed owns freed) (.refl _)
  free := by
    rintro block ⟨layer, s⟩ machine frame owns
    have outer := owns
    rw [pieces_eq, ← List.append_assoc] at outer
    have step := free_step below block layer s machine
    generalize (source below).free block (layer, s) machine = reply at step ⊢
    cases step with
    | taken stays runs => exact owns_of_stays stays outer (.refl _)
    | refused stays runs same => exact owns_of_stays stays outer (same ▸ .refl _)
    | interrupted interrupted => exact owns
    | unpinned found => exact (Hybrid.unpin_owns found owns).release _
    | handed stays runs answer => exact owns_of_stays stays (tenant.freed outer answer) (.refl _)

end Layer

namespace Stack

def pieces : {height : Nat} → Stack height → List Extent
  | 0 => Bottom.pieces
  | _ + 1 => Layer.pieces pieces

theorem tenant : (height : Nat) → (source height).Tenant pieces
  | 0 => Bottom.tenant
  | height + 1 => Layer.tenant (tenant height)

theorem Made.pieces : {height : Nat} → {stack : Stack height} → stack.Made → stack.pieces = []
  | 0, _, made => by cases made <;> rfl
  | _ + 1, (_, _), ⟨made, beneath⟩ => by
    cases made <;> exact beneath.pieces

end Stack

end LayeredAllocation
