import LayeredAllocation.Platform
import LayeredAllocation.Lanes

namespace LayeredAllocation.Lanes
inductive Tiles : Nat → List Lane → Nat → Prop where
  | nil {start : Nat} : Tiles start [] start
  | cons {lane : Lane} {group : List Lane} {stop : Nat} :
    Tiles (lane.offset + lane.width) group stop → Tiles lane.offset (lane :: group) stop

inductive Covers : Nat → List (List Lane) → Nat → Prop where
  | nil {start : Nat} : Covers start [] start
  | cons {start middle stop : Nat} {group : List Lane} {groups : List (List Lane)} :
    Tiles start group middle → Covers middle groups stop → Covers start (group :: groups) stop

variable {image : Image} {start middle stop length target origin offset : Nat} {lane : Lane}
  {group : List Lane} {groups later : List (List Lane)} {content other : Nat → UInt8}
  {stride : Stride} {strides : List Stride}

-- The image with the bytes from `start` up to `stop`, counted from the target, written anew.
def Image.overwrite (image : Image) (target start stop : Nat) (content : Nat → UInt8) : Image :=
  ⟨fun a => if target + start ≤ a ∧ a < target + stop then content (a - target) else image.read a⟩

theorem read_overwrite_outside {a : Nat} (outside : a < target + start ∨ target + stop ≤ a) :
    (image.overwrite target start stop content).read a = image.read a := by
  unfold Image.overwrite
  apply if_neg
  omega

theorem read_overwrite_inside {i : Nat} (inside : i < stop) :
    (image.overwrite target 0 stop content).read (target + i) = content i := by
  unfold Image.overwrite
  dsimp only
  rw [if_pos (by omega), Nat.add_sub_cancel_left]

theorem overwrite_nothing : image.overwrite target start start content = image := by
  apply Image.ext
  funext a
  apply read_overwrite_outside
  omega

theorem overwrite_overwrite (first : start ≤ middle) (second : middle ≤ stop) :
    (image.overwrite target start middle content).overwrite target middle stop content =
      image.overwrite target start stop content := by
  apply Image.ext
  funext a
  simp only [Image.overwrite]
  by_cases before : a < target + middle
  · rw [if_neg (by omega)]
    by_cases inside : target + start ≤ a
    · rw [if_pos (by omega), if_pos (by omega)]
    · rw [if_neg (by omega), if_neg (by omega)]
  · by_cases inside : a < target + stop
    · rw [if_pos (by omega), if_pos (by omega)]
    · rw [if_neg (by omega), if_neg (by omega), if_neg (by omega)]

theorem overwrite_congr (same : ∀ i, start ≤ i → i < stop → content i = other i) :
    image.overwrite target start stop content = image.overwrite target start stop other := by
  apply Image.ext
  funext a
  simp only [Image.overwrite]
  split
  · next inside =>
    apply same
    · omega
    · omega
  · rfl

theorem store_eq_overwrite (image : Image) (target offset : Nat) (content : Nat → UInt8)
    (bytes : List UInt8) (same : ∀ i, (inside : i < bytes.length) → bytes[i] = content (offset + i)) :
    store image (target + offset) bytes =
      image.overwrite target offset (offset + bytes.length) content := by
  apply Image.ext
  funext a
  by_cases inside : target + offset ≤ a ∧ a < target + (offset + bytes.length)
  · obtain ⟨i, rfl⟩ := Nat.exists_eq_add_of_le inside.1
    have small : i < bytes.length := by omega
    have place : target + offset + i - target = offset + i := by omega
    simp only [Image.overwrite]
    rw [read_store_of_inside small, if_pos inside, same i small, place]
  · rw [read_overwrite_outside (by omega), read_store_of_outside (by omega)]

namespace Tiles

theorem concat (lane : Lane) (tiles : Tiles start group lane.offset) :
    Tiles start (group ++ [lane]) (lane.offset + lane.width) := by
  generalize reached : lane.offset = stop at tiles
  induction tiles with
  | nil =>
    subst reached
    exact .cons .nil
  | cons _ ih => exact .cons (ih reached)

theorem le (tiles : Tiles start group stop) : start ≤ stop := by
  induction tiles with
  | nil => exact Nat.le_refl _
  | cons _ ih => exact Nat.le_trans (Nat.le_add_right _ _) ih

theorem lane_le (tiles : Tiles start group stop) : ∀ lane ∈ group, lane.offset + lane.width ≤ stop := by
  induction tiles with
  | nil =>
    intro lane absent
    cases absent
  | cons tiles ih =>
    intro lane present
    rcases List.mem_cons.mp present with rfl | later
    · exact tiles.le
    · exact ih lane later

end Tiles

namespace Covers

theorem append (first : Covers start groups middle) (second : Covers middle later stop) :
    Covers start (groups ++ later) stop := by
  induction first with
  | nil => exact second
  | cons tiles _ ih => exact .cons tiles (ih second)

theorem le (covers : Covers start groups stop) : start ≤ stop := by
  induction covers with
  | nil => exact Nat.le_refl _
  | cons tiles _ ih => exact Nat.le_trans tiles.le ih

theorem lane_le (covers : Covers start groups stop) :
    ∀ group ∈ groups, ∀ lane ∈ group, lane.offset + lane.width ≤ stop := by
  induction covers with
  | nil =>
    intro group absent
    cases absent
  | cons tiles covers ih =>
    intro group present lane inside
    rcases List.mem_cons.mp present with rfl | later
    · exact Nat.le_trans (tiles.lane_le lane inside) covers.le
    · exact ih group later lane inside

end Covers

theorem group_tiles (stride : Stride) (offset : Nat) :
    Tiles offset (stride.group offset) (offset + stride.length) := by
  obtain ⟨lanes, width⟩ := stride
  unfold Stride.group Stride.length
  induction lanes with
  | zero =>
    rw [Nat.zero_mul]
    exact .nil
  | succ lanes ih =>
    have next := ih.concat ⟨offset + lanes * width, width⟩
    rwa [Nat.succ_mul, ← Nat.add_assoc, List.range_succ, List.map_append]

theorem rounds_cover (stride : Stride) (offset rounds : Nat) :
    Covers offset ((List.range rounds).map fun round => stride.group (offset + round * stride.length))
      (offset + rounds * stride.length) := by
  induction rounds with
  | zero =>
    rw [Nat.zero_mul]
    exact .nil
  | succ rounds ih =>
    rw [Nat.succ_mul, ← Nat.add_assoc, List.range_succ, List.map_append]
    exact ih.append (.cons (group_tiles stride _) .nil)

-- Whatever the wider strides leave over, single bytes at the end of the cascade take up.
theorem schedule_covers (single : strides.getLast? = some ⟨1, 1⟩) (inside : offset ≤ length) :
    Covers offset (schedule strides offset length) length := by
  induction strides generalizing offset with
  | nil => cases single
  | cons stride rest ih =>
    have rounds := rounds_cover stride offset ((length - offset) / stride.length)
    have reached := Nat.div_mul_le_self (length - offset) stride.length
    unfold schedule
    refine rounds.append ?_
    cases rest with
    | nil =>
      cases Option.some.inj single
      have last : offset + (length - offset) / Stride.length ⟨1, 1⟩ * Stride.length ⟨1, 1⟩ = length := by
        simp only [Stride.length, Nat.mul_one, Nat.div_one]
        omega
      rw [last]
      exact .nil
    | cons next more =>
      rw [List.getLast?_cons_cons] at single
      apply ih single
      omega

theorem strides_end (level : Level) : level.strides.getLast? = some ⟨1, 1⟩ := by
  cases level <;> rfl

theorem level_covers (level : Level) (length : Nat) :
    Covers 0 (schedule level.strides 0 length) length :=
  schedule_covers (strides_end level) (Nat.zero_le _)

section
variable (image : Image) (target origin : Nat)

theorem zeroGroup_eq (tiles : Tiles start group stop) :
    zeroGroup target image group = image.overwrite target start stop fun _ => 0 := by
  unfold zeroGroup
  induction tiles generalizing image with
  | nil => exact overwrite_nothing.symm
  | @cons lane group stop tiles ih =>
    have stored := store_eq_overwrite image target lane.offset (fun _ => 0)
      (List.replicate lane.width 0) fun i _ => List.getElem_replicate _
    rw [List.length_replicate] at stored
    rw [List.foldl_cons, stored, ih]
    exact overwrite_overwrite (Nat.le_add_right _ _) tiles.le

theorem load_length (address width : Nat) : (load image address width).length = width := by
  rw [load, List.length_map, List.length_range]

-- What was loaded before the first lane is stored stays what it was.
theorem store_loaded (source : Image) (tiles : Tiles start group stop) :
    (group.map fun lane => (lane, load source (origin + lane.offset) lane.width)).foldl
        (fun image (lane, bytes) => store image (target + lane.offset) bytes) image =
      image.overwrite target start stop fun i => source.read (origin + i) := by
  induction tiles generalizing image with
  | nil => exact overwrite_nothing.symm
  | @cons lane group stop tiles ih =>
    have stored := store_eq_overwrite image target lane.offset (fun i => source.read (origin + i))
      (load source (origin + lane.offset) lane.width) fun i inside => by
        simp only [load, List.getElem_map, List.getElem_range, Nat.add_assoc]
    rw [load_length] at stored
    rw [List.map_cons, List.foldl_cons]
    dsimp only
    rw [stored, ih]
    exact overwrite_overwrite (Nat.le_add_right _ _) tiles.le

theorem zero_covered (covers : Covers start groups stop) :
    groups.foldl (zeroGroup target) image = image.overwrite target start stop fun _ => 0 := by
  induction covers generalizing image with
  | nil => exact overwrite_nothing.symm
  | cons tiles covers ih =>
    rw [List.foldl_cons, zeroGroup_eq image target tiles, ih]
    exact overwrite_overwrite tiles.le covers.le

-- The groups done so far have written into the target only, so the rest of the origin is as it was.
theorem copy_covered (covers : Covers start groups stop) (inside : stop ≤ length)
    (apart : Extent.Disjoint ⟨target, length⟩ ⟨origin, length⟩) :
    groups.foldl (copyGroup target origin) image =
      image.overwrite target start stop fun i => image.read (origin + i) := by
  unfold Extent.Disjoint Extent.stop at apart
  induction covers generalizing image with
  | nil => exact overwrite_nothing.symm
  | @cons start middle stop group groups tiles covers ih =>
    have first : copyGroup target origin image group =
        image.overwrite target start middle fun i => image.read (origin + i) :=
      store_loaded image target origin image tiles
    have kept : ∀ i, middle ≤ i → i < stop →
        (copyGroup target origin image group).read (origin + i) = image.read (origin + i) := by
      intro i _ small
      rw [first]
      apply read_overwrite_outside
      have := covers.le
      dsimp only at apart
      omega
    rw [List.foldl_cons, ih _ inside, overwrite_congr kept, first]
    exact overwrite_overwrite tiles.le covers.le

end

-- A load that is refused unless all of its bytes are in the run.
def guardedLoad (run : Extent) (image : Image) (address width : Nat) : Option (List UInt8) :=
  if Extent.Within ⟨address, width⟩ run then some (load image address width) else none

def guardedStore (run : Extent) (image : Image) (address : Nat) (bytes : List UInt8) : Option Image :=
  if Extent.Within ⟨address, bytes.length⟩ run then some (store image address bytes) else none

def guardedZeroGroup (run : Extent) (target : Nat) (image : Image) (group : List Lane) : Option Image :=
  group.foldlM
    (fun image lane => guardedStore run image (target + lane.offset) (List.replicate lane.width 0)) image

def guardedCopyGroup (run source : Extent) (target origin : Nat) (image : Image) (group : List Lane) :
    Option Image := do
  let loaded ← group.mapM fun lane =>
    (guardedLoad source image (origin + lane.offset) lane.width).map fun bytes => (lane, bytes)
  loaded.foldlM (fun image (lane, bytes) => guardedStore run image (target + lane.offset) bytes) image

def guardedZero (level : Level) (target length : Nat) (image : Image) : Option Image :=
  (schedule level.strides 0 length).foldlM (guardedZeroGroup ⟨target, length⟩ target) image

def guardedCopy (level : Level) (target origin length : Nat) (image : Image) : Option Image :=
  (schedule level.strides 0 length).foldlM
    (guardedCopyGroup ⟨target, length⟩ ⟨origin, length⟩ target origin) image

theorem foldlM_some {α β : Type} {step : β → α → Option β} {plain : β → α → β} {list : List α}
    (same : ∀ a ∈ list, ∀ b, step b a = some (plain b a)) (start : β) :
    list.foldlM step start = some (list.foldl plain start) := by
  induction list generalizing start with
  | nil => rfl
  | cons a rest ih =>
    rw [List.foldlM_cons, same a List.mem_cons_self start, List.foldl_cons]
    exact ih (fun b later => same b (List.mem_cons_of_mem a later)) _

theorem mapM_some {α β : Type} {step : α → Option β} {plain : α → β} {list : List α}
    (same : ∀ a ∈ list, step a = some (plain a)) : list.mapM step = some (list.map plain) := by
  induction list with
  | nil => rfl
  | cons a rest ih =>
    rw [List.mapM_cons, same a List.mem_cons_self, ih fun b later => same b (List.mem_cons_of_mem a later)]
    rfl

section
variable (image : Image) (target origin length : Nat)

theorem guardedStore_some {bytes : List UInt8} (fits : offset + bytes.length ≤ length) :
    guardedStore ⟨target, length⟩ image (target + offset) bytes =
      some (store image (target + offset) bytes) := by
  unfold guardedStore Extent.Within Extent.stop
  apply if_pos
  dsimp only
  omega

theorem guardedZeroGroup_some (fits : ∀ lane ∈ group, lane.offset + lane.width ≤ length) :
    guardedZeroGroup ⟨target, length⟩ target image group = some (zeroGroup target image group) := by
  apply foldlM_some
  intro lane present image
  apply guardedStore_some
  rw [List.length_replicate]
  exact fits lane present

theorem guardedLoad_some (fits : lane.offset + lane.width ≤ length) :
    guardedLoad ⟨origin, length⟩ image (origin + lane.offset) lane.width =
      some (load image (origin + lane.offset) lane.width) := by
  unfold guardedLoad Extent.Within Extent.stop
  apply if_pos
  dsimp only
  omega

theorem guardedCopyGroup_some (fits : ∀ lane ∈ group, lane.offset + lane.width ≤ length) :
    guardedCopyGroup ⟨target, length⟩ ⟨origin, length⟩ target origin image group =
      some (copyGroup target origin image group) := by
  have loaded :
      (group.mapM fun lane =>
        (guardedLoad ⟨origin, length⟩ image (origin + lane.offset) lane.width).map fun bytes =>
          (lane, bytes)) =
        some (group.map fun lane => (lane, load image (origin + lane.offset) lane.width)) := by
    apply mapM_some
    intro lane present
    rw [guardedLoad_some image origin length (fits lane present)]
    rfl
  unfold guardedCopyGroup
  rw [loaded]
  refine foldlM_some ?_ image
  rintro ⟨lane, bytes⟩ present image
  apply guardedStore_some
  obtain ⟨one, inside, same⟩ := List.mem_map.mp present
  cases same
  rw [load_length]
  exact fits lane inside

theorem guardedZero_some (level : Level) :
    guardedZero level target length image = some (zeroWith level target length image) := by
  apply foldlM_some
  intro group present image
  apply guardedZeroGroup_some
  exact (level_covers level length).lane_le group present

theorem guardedCopy_some (level : Level) :
    guardedCopy level target origin length image = some (copyWith level target origin length image) := by
  apply foldlM_some
  intro group present image
  apply guardedCopyGroup_some
  exact (level_covers level length).lane_le group present

end

-- Zeroing leaves the target zero and copying leaves there what the origin held, byte for byte; no
-- other byte changes. Nothing is lost if every load and store outside of the two runs is refused.
theorem lanes_match_bytes (level : Level) (image : Image) (target length : Nat) :
    ((∀ i, i < length → (zeroWith level target length image).read (target + i) = 0) ∧
      (∀ a, ¬ Extent.Contains ⟨target, length⟩ a →
        (zeroWith level target length image).read a = image.read a) ∧
      guardedZero level target length image = some (zeroWith level target length image)) ∧
    ∀ origin, Extent.Disjoint ⟨target, length⟩ ⟨origin, length⟩ →
      ∃ copied, copyRuns level target length origin length image = .ok copied ∧
        (∀ i, i < length → copied.read (target + i) = image.read (origin + i)) ∧
        (∀ a, ¬ Extent.Contains ⟨target, length⟩ a → copied.read a = image.read a) ∧
        guardedCopy level target origin length image = some copied := by
  have covers := level_covers level length
  have outside : ∀ {content : Nat → UInt8} a, ¬ Extent.Contains ⟨target, length⟩ a →
      (image.overwrite target 0 length content).read a = image.read a := by
    intro content a away
    apply read_overwrite_outside
    unfold Extent.Contains Extent.stop at away
    dsimp only at away
    omega
  constructor
  · have zeroed : zeroWith level target length image = image.overwrite target 0 length fun _ => 0 :=
      zero_covered image target covers
    refine ⟨?_, ?_, guardedZero_some image target length level⟩
    · intro i small
      rw [zeroed, read_overwrite_inside small]
    · intro a away
      rw [zeroed, outside a away]
  · intro origin apart
    have copied : copyWith level target origin length image =
        image.overwrite target 0 length fun i => image.read (origin + i) :=
      copy_covered image target origin covers (Nat.le_refl _) apart
    refine ⟨_, if_pos rfl, ?_, ?_, guardedCopy_some image target origin length level⟩
    · intro i small
      rw [copied, read_overwrite_inside small]
    · intro a away
      rw [copied, outside a away]

theorem lanes_match_bytes_adjacent :
    Extent.Disjoint ⟨3, 171⟩ ⟨174, 171⟩ ∧
      ∃ copied, copyRuns .avx2 3 171 174 171 ⟨UInt8.ofNat⟩ = .ok copied ∧
        (∀ i, i < 171 → copied.read (3 + i) = UInt8.ofNat (174 + i)) ∧ copied.read 174 = 174 := by
  have apart : Extent.Disjoint ⟨3, 171⟩ ⟨174, 171⟩ := by decide
  obtain ⟨copied, done, inside, outside, _⟩ :=
    (lanes_match_bytes .avx2 ⟨UInt8.ofNat⟩ 3 171).2 174 apart
  exact ⟨apart, copied, done, inside, outside 174 (by decide)⟩

end LayeredAllocation.Lanes
