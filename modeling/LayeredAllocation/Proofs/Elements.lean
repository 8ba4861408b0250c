import LayeredAllocation.Proofs.Contents
import LayeredAllocation.Proofs.Lanes
import LayeredAllocation.View

namespace LayeredAllocation

inductive Edit (size : Nat) where
  | set (index : Nat) (value : Vector UInt8 size)
  | fill (value : Vector UInt8 size)
  | clear
  | copyFrom (values : List (Vector UInt8 size))

namespace Edit
open Text.Numeral (decimal)
variable {size : Nat}

-- What an edit makes of a list. A refusal calls by a noun what has the wrong length.
def on (noun : String) (edit : Edit size) (list : List (List UInt8)) :
    Except Error (List (List UInt8)) :=
  match edit with
  | .set index value =>
    if index < list.length then .ok (list.set index value.toList)
    else .error (.indexOutOfBounds index list.length)
  | .fill value => .ok (List.replicate list.length value.toList)
  | .clear => .ok (List.replicate list.length (List.replicate size 0))
  | .copyFrom values =>
    if values.length = list.length then .ok (values.map Vector.toList)
    else
      .error (.invalidArgument "src"
        ("length " ++ decimal values.length ++ (" does not match " ++ noun ++ " length ") ++
          decimal list.length))

end Edit

namespace IndexRange
variable {α : Type}

def of (range : IndexRange) (list : List α) : Except Error (List α) :=
  match range.resolve list.length with
  | .error e => .error e
  | .ok (start, stop) => .ok ((list.drop start).take (stop - start))

def exchange (range : IndexRange) (act : List α → Except Error (List α)) (list : List α) :
    Except Error (List α) :=
  match range.resolve list.length with
  | .error e => .error e
  | .ok (start, stop) =>
    (act ((list.drop start).take (stop - start))).map fun inner =>
      list.take start ++ inner ++ list.drop stop

-- Each range is of what the range before it denotes.
def ofAll : List IndexRange → List α → Except Error (List α)
  | [], list => .ok list
  | range :: rest, list =>
    match range.of list with
    | .error e => .error e
    | .ok inner => ofAll rest inner

def exchangeAll (act : List α → Except Error (List α)) :
    List IndexRange → List α → Except Error (List α)
  | [] => act
  | range :: rest => range.exchange (exchangeAll act rest)

end IndexRange

namespace Memory
variable {before after : Memory} {inner outer : Extent} {start length : Nat}

theorem ChangedIn.within (changed : before.ChangedIn after inner) (within : inner.Within outer) :
    before.ChangedIn after outer :=
  fun address outside => changed address fun contained => outside (contained.within within)

theorem bytes_of_reads (same : ∀ i < length, after.read (start + i) = before.read (start + i)) :
    after.bytes start length = before.bytes start length := by
  unfold bytes
  apply List.map_congr_left
  intro i member
  rw [same i (List.mem_range.mp member)]

theorem bytes_add (memory : Memory) (start first second : Nat) :
    memory.bytes start (first + second) =
      memory.bytes start first ++ memory.bytes (start + first) second := by
  unfold bytes
  rw [List.range_add, List.map_append, List.map_map]
  simp only [Function.comp_def, Nat.add_assoc]

theorem bytes_of_values {data : List UInt8} (long : data.length = length)
    (reads : ∀ i < length, after.read (start + i) = data[i]?) : after.bytes start length = data := by
  apply List.ext_getElem
  · rw [length_bytes, long]
  · intro i _ small
    simp only [bytes, List.getElem_map, List.getElem_range]
    rw [reads i (long ▸ small), List.getElem?_eq_getElem small, Option.getD_some]

-- Memory as the lanes see it: a byte that was never written counts as zero.
def image (memory : Memory) : Lanes.Image := ⟨fun address => (memory.read address).getD 0⟩

theorem image_write (memory : Memory) (start length : Nat) (content : Nat → Option UInt8) :
    (memory.write start length content).image =
      memory.image.overwrite start 0 length fun i => (content i).getD 0 := by
  apply Lanes.Image.ext
  funext address
  simp only [image, Lanes.Image.overwrite]
  by_cases inside : Extent.Contains ⟨start, length⟩ address
  · rw [read_write_inside inside]
    exact (if_pos inside).symm
  · rw [read_write_outside inside]
    exact (if_neg inside).symm

end Memory

namespace ElementRun
variable {run : ElementRun} {memory before after : Memory} {start stop : Nat}

theorem length_toList (run : ElementRun) (memory : Memory) : (run.toList memory).length = run.count := by
  rw [toList, List.length_map, List.length_range]

theorem part_stop (ordered : start ≤ stop) :
    (run.part start stop).extent.stop = run.address + stop * run.element.size := by
  show run.address + start * run.element.size + (stop - start) * run.element.size = _
  rw [Nat.add_assoc, ← Nat.add_mul, Nat.add_sub_cancel' ordered]

theorem part_within (ordered : start ≤ stop) (inside : stop ≤ run.count) :
    (run.part start stop).extent.Within run.extent := by
  constructor
  · exact Nat.le_add_right _ _
  · rw [part_stop ordered]
    exact Nat.add_le_add_left (Nat.mul_le_mul_right _ inside) _

theorem parts_apart {middle : Nat} (first : start ≤ middle) :
    (run.part start middle).extent.Disjoint (run.part middle stop).extent := by
  left
  exact Nat.le_of_eq (part_stop first)

theorem toList_part (inside : stop ≤ run.count) :
    (run.part start stop).toList memory = ((run.toList memory).drop start).take (stop - start) := by
  apply List.ext_getElem
  · rw [length_toList, List.length_take, List.length_drop, length_toList]
    exact (Nat.min_eq_left (Nat.sub_le_sub_right inside start)).symm
  · intro i small _
    rw [length_toList] at small
    simp only [toList, List.getElem_map, List.getElem_range, List.getElem_take, List.getElem_drop]
    simp only [get, part, addressOf, Nat.add_mul, Nat.add_assoc]

theorem toList_front (inside : stop ≤ run.count) :
    (run.part 0 stop).toList memory = (run.toList memory).take stop := toList_part inside

theorem toList_back :
    (run.part start run.count).toList memory = (run.toList memory).drop start := by
  rw [toList_part (Nat.le_refl _)]
  apply List.take_of_length_le
  exact Nat.le_of_eq (by rw [List.length_drop, length_toList])

theorem byte_inside {i k : Nat} (small : i < run.count) (inside : k < run.element.size) :
    run.extent.Contains (run.address + (i * run.element.size + k)) := by
  have cell : (i + 1) * run.element.size ≤ run.count * run.element.size :=
    Nat.mul_le_mul_right _ small
  rw [Nat.add_mul, Nat.one_mul] at cell
  constructor
  · exact Nat.le_add_right _ _
  · apply Nat.add_lt_add_left
    show _ < run.count * run.element.size
    omega

-- A run whose bytes have been left alone still has the same elements.
theorem toList_of_reads (run : ElementRun)
    (same : ∀ address, run.extent.Contains address → after.read address = before.read address) :
    run.toList after = run.toList before := by
  unfold toList
  apply List.map_congr_left
  intro i member
  apply Memory.bytes_of_reads
  intro k inside
  rw [addressOf, Nat.add_assoc]
  exact same _ (byte_inside (List.mem_range.mp member) inside)

theorem split_list (list : List α) (ordered : start ≤ stop) :
    list = list.take start ++ (list.drop start).take (stop - start) ++ list.drop stop := by
  have rest : list.drop start = (list.drop start).take (stop - start) ++ list.drop stop := by
    have cut := List.take_append_drop (stop - start) (list.drop start)
    rw [List.drop_drop, Nat.add_sub_cancel' ordered] at cut
    exact cut.symm
  rw [List.append_assoc, ← rest, List.take_append_drop]

theorem toList_of_part (ordered : start ≤ stop) (inside : stop ≤ run.count)
    (changed : before.ChangedIn after (run.part start stop).extent) :
    run.toList after =
      (run.toList before).take start ++ (run.part start stop).toList after ++
        (run.toList before).drop stop := by
  have first : (run.toList after).take start = (run.toList before).take start := by
    rw [← toList_front (Nat.le_trans ordered inside), ← toList_front (Nat.le_trans ordered inside)]
    apply toList_of_reads
    intro address contained
    exact changed address ((parts_apart (Nat.zero_le _)).not_contains contained)
  have last : (run.toList after).drop stop = (run.toList before).drop stop := by
    rw [← toList_back, ← toList_back]
    apply toList_of_reads
    intro address contained
    exact changed address ((parts_apart ordered).symm.not_contains contained)
  rw [← first, ← last, toList_part inside]
  exact split_list _ ordered

theorem toList_of_values {values : List (List UInt8)} (long : values.length = run.count)
    (sized : ∀ value ∈ values, value.length = run.element.size)
    (reads : ∀ i, (small : i < values.length) → ∀ k < run.element.size,
      after.read (run.address + (i * run.element.size + k)) = values[i][k]?) :
    run.toList after = values := by
  apply List.ext_getElem
  · rw [length_toList, long]
  · intro i _ small
    simp only [toList, List.getElem_map, List.getElem_range]
    apply Memory.bytes_of_values
    · exact sized _ (List.getElem_mem small)
    · intro k inside
      rw [addressOf, Nat.add_assoc]
      exact reads i small k inside

theorem toList_fill {value : List UInt8} (sized : value.length = run.element.size) :
    run.toList (run.fill memory value) = List.replicate run.count value := by
  apply toList_of_values (List.length_replicate ..)
  · intro other member
    rw [(List.mem_replicate.mp member).2, sized]
  · intro i small k inside
    rw [List.length_replicate] at small
    unfold fill
    rw [Memory.read_write_inside (byte_inside small inside), Nat.add_sub_cancel_left,
      List.getElem_replicate, List.size_toArray, List.getElem?_toArray, sized,
      Nat.mul_comm, Nat.mul_add_mod, Nat.mod_eq_of_lt inside]

theorem toList_clear :
    run.toList (run.clear memory) =
      List.replicate run.count (List.replicate run.element.size 0) := by
  apply toList_of_values (List.length_replicate ..)
  · intro other member
    rw [(List.mem_replicate.mp member).2, List.length_replicate]
  · intro i small k inside
    rw [List.length_replicate] at small
    unfold clear
    rw [Memory.read_zero_inside (byte_inside small inside), List.getElem_replicate,
      List.getElem?_replicate_of_lt inside]

theorem length_flatten {values : List (List UInt8)} {size : Nat}
    (sized : ∀ value ∈ values, value.length = size) :
    values.flatten.length = values.length * size := by
  rw [List.length_flatten, List.map_congr_left sized, List.map_const', List.sum_replicate_nat]

theorem getElem?_flatten {values : List (List UInt8)} {size i k : Nat}
    (sized : ∀ value ∈ values, value.length = size) (small : i < values.length)
    (inside : k < size) : values.flatten[i * size + k]? = values[i][k]? := by
  induction values generalizing i with
  | nil => exact absurd small (Nat.not_lt_zero _)
  | cons first rest ih =>
    have long := sized first (List.mem_cons_self ..)
    rw [List.flatten_cons]
    cases i with
    | zero =>
      rw [Nat.zero_mul, Nat.zero_add, List.getElem?_append_left (long ▸ inside),
        List.getElem_cons_zero]
    | succ i =>
      have later : (i + 1) * size + k = first.length + (i * size + k) := by
        rw [long, Nat.add_mul, Nat.one_mul]
        omega
      rw [later, List.getElem?_append_right (Nat.le_add_right _ _), Nat.add_sub_cancel_left,
        List.getElem_cons_succ]
      exact ih (fun value member => sized value (List.mem_cons_of_mem _ member))
        (Nat.lt_of_succ_lt_succ small)

theorem toList_copyFrom {values : List (List UInt8)} (long : values.length = run.count)
    (sized : ∀ value ∈ values, value.length = run.element.size) :
    run.toList (run.copyFrom memory values) = values := by
  apply toList_of_values long sized
  intro i small k inside
  unfold copyFrom
  rw [Memory.read_writeBytes_inside, getElem?_flatten sized small inside]
  have contained := byte_inside (long ▸ small) inside
  rw [length_flatten sized, long]
  exact Nat.lt_of_add_lt_add_left contained.2

theorem changedIn_copyFrom {values : List (List UInt8)} (long : values.length = run.count)
    (sized : ∀ value ∈ values, value.length = run.element.size) :
    memory.ChangedIn (run.copyFrom memory values) run.extent := by
  have whole : run.extent = ⟨run.address, values.flatten.toArray.size⟩ := by
    rw [List.size_toArray, length_flatten sized, long]
    rfl
  rw [whole]
  exact Memory.changedIn_write memory run.address _ _

-- To set one element is to copy it into the part that holds it.
theorem set_eq_copyFrom (run : ElementRun) (memory : Memory) (index : Nat) (value : List UInt8) :
    run.set memory index value = (run.part index (index + 1)).copyFrom memory [value] := by
  rw [copyFrom, List.flatten_singleton]
  rfl

theorem set_settles (memory : Memory) {index : Nat} {value : List UInt8} (small : index < run.count)
    (sized : value.length = run.element.size) :
    memory.ChangedIn (run.set memory index value) run.extent ∧
      run.toList (run.set memory index value) = (run.toList memory).set index value := by
  have ordered : index ≤ index + 1 := Nat.le_succ index
  have long : [value].length = (run.part index (index + 1)).count :=
    (Nat.add_sub_cancel_left ..).symm
  have fits : ∀ other ∈ [value], other.length = run.element.size := by
    intro other member
    rw [List.mem_singleton.mp member, sized]
  have changed : memory.ChangedIn ((run.part index (index + 1)).copyFrom memory [value])
      (run.part index (index + 1)).extent := changedIn_copyFrom long fits
  rw [set_eq_copyFrom]
  refine ⟨changed.within (part_within ordered small), ?_⟩
  rw [toList_of_part ordered small changed, toList_copyFrom long fits,
    List.set_eq_take_append_cons_drop, if_pos (by rwa [length_toList]), List.append_assoc,
    List.singleton_append]

theorem flatten_toList (run : ElementRun) (memory : Memory) :
    (run.toList memory).flatten = run.bytes memory := by
  obtain ⟨address, count, element⟩ := run
  unfold bytes byteLength toList
  dsimp only
  induction count with
  | zero =>
    rw [Nat.zero_mul]
    rfl
  | succ count ih =>
    rw [List.range_succ, List.map_append, List.flatten_append, Nat.add_mul, Nat.one_mul,
      Memory.bytes_add, ← ih, List.map_singleton, List.flatten_singleton]
    rfl

-- Clearing and copying come to the same whether done at once or in lanes of whatever level.
theorem clear_in_lanes (run : ElementRun) (memory : Memory) (level : Lanes.Level) :
    (run.clear memory).image = Lanes.zeroWith level run.address run.byteLength memory.image := by
  rw [Lanes.zeroWith, Lanes.zero_covered _ _ (Lanes.level_covers level run.byteLength)]
  exact Memory.image_write memory run.address run.byteLength _

theorem copyFrom_in_lanes (run source : ElementRun) (memory : Memory) (level : Lanes.Level)
    (long : source.byteLength = run.byteLength) (apart : run.extent.Disjoint source.extent) :
    (run.copyFrom memory (source.toList memory)).image =
      Lanes.copyWith level run.address source.address run.byteLength memory.image := by
  rw [extent, extent, long] at apart
  rw [Lanes.copyWith, Lanes.copy_covered _ _ _ (Lanes.level_covers level run.byteLength)
    (Nat.le_refl _) apart, copyFrom, flatten_toList, Memory.writeBytes, Memory.image_write,
    List.size_toArray, bytes, Memory.length_bytes, long]
  apply Lanes.overwrite_congr
  intro i _ small
  rw [List.getElem?_toArray, Memory.bytes, List.getElem?_map, List.getElem?_range small]
  rfl

def edited (run : ElementRun) (noun : String) (memory : Memory) (edit : Edit size) :
    Except Error Memory :=
  match edit with
  | .set index value =>
    if index < run.count then .ok (run.set memory index value.toList)
    else .error (.indexOutOfBounds index run.count)
  | .fill value => .ok (run.fill memory value.toList)
  | .clear => .ok (run.clear memory)
  | .copyFrom values =>
    if values.length = run.count then .ok (run.copyFrom memory (values.map Vector.toList))
    else
      .error (.invalidArgument "src"
        ("length " ++ Text.Numeral.decimal values.length ++ (" does not match " ++ noun ++ " length ") ++
          Text.Numeral.decimal run.count))

-- Memory answers for a run as a list answers for the elements that the run had.
inductive Mirrors (run : ElementRun) (memory : Memory) :
    Except Error Memory → Except Error (List (List UInt8)) → Prop where
  | refused (e : Error) : Mirrors run memory (.error e) (.error e)
  | written {after : Memory} {list : List (List UInt8)} (changed : memory.ChangedIn after run.extent)
      (same : run.toList after = list) : Mirrors run memory (.ok after) (.ok list)

theorem mirrors_edited (noun : String) (memory : Memory) (edit : Edit run.element.size) :
    Mirrors run memory (run.edited noun memory edit) (edit.on noun (run.toList memory)) := by
  cases edit with
  | set index value =>
    simp only [edited, Edit.on, length_toList]
    split
    · next small =>
      obtain ⟨changed, same⟩ := set_settles memory small value.length_toList
      exact .written changed same
    · exact .refused _
  | fill value =>
    refine .written (Memory.changedIn_write memory run.address run.byteLength _) ?_
    rw [toList_fill value.length_toList, length_toList]
  | clear =>
    refine .written (Memory.changedIn_write memory run.address run.byteLength _) ?_
    rw [toList_clear, length_toList]
  | copyFrom values =>
    simp only [edited, Edit.on, length_toList]
    split
    · next long =>
      have fits : ∀ value ∈ values.map Vector.toList, value.length = run.element.size := by
        intro value member
        obtain ⟨original, _, rfl⟩ := List.mem_map.mp member
        exact original.length_toList
      have long : (values.map Vector.toList).length = run.count := by rwa [List.length_map]
      exact .written (changedIn_copyFrom long fits) (toList_copyFrom long fits)
    · exact .refused _

-- An answer for the elements of a part, told of the whole run.
theorem Mirrors.of_part {answer : Except Error Memory} {expected : Except Error (List (List UInt8))}
    (ordered : start ≤ stop) (inside : stop ≤ run.count)
    (mirrors : Mirrors (run.part start stop) memory answer expected) :
    Mirrors run memory answer
      (expected.map fun inner =>
        (run.toList memory).take start ++ inner ++ (run.toList memory).drop stop) := by
  cases mirrors with
  | refused e => exact .refused e
  | written changed same =>
    refine .written (changed.within (part_within ordered inside)) ?_
    rw [toList_of_part ordered inside changed, same]

end ElementRun

def elementAt (list : List α) (index : Nat) : Except Error α :=
  match list[index]? with
  | some value => .ok value
  | none => .error (.indexOutOfBounds index list.length)

theorem elementAt_toList (run : ElementRun) (memory : Memory) (index : Nat) :
    elementAt (run.toList memory) index =
      if index < run.count then .ok (run.get memory index)
      else .error (.indexOutOfBounds index run.count) := by
  unfold elementAt
  by_cases small : index < run.count
  · rw [List.getElem?_eq_getElem (by rwa [ElementRun.length_toList]), if_pos small]
    simp only [ElementRun.toList, List.getElem_map, List.getElem_range]
  · rw [List.getElem?_eq_none (by rw [ElementRun.length_toList]; exact Nat.le_of_not_lt small),
      if_neg small, ElementRun.length_toList]

namespace View

def edit (view : View) (memory : Memory) (edit : Edit size) : Except Error Memory :=
  match edit with
  | .set index value => view.set memory index value.toList
  | .fill value => .ok (view.run.fill memory value.toList)
  | .clear => .ok (view.run.clear memory)
  | .copyFrom values => view.copyFrom memory (values.map Vector.toList)

theorem edit_eq (view : View) (memory : Memory) (edit : Edit size) :
    view.edit memory edit = view.run.edited "slice" memory edit := by
  cases edit with
  | copyFrom values =>
    have wording : " does not match " ++ "slice" ++ " length " = " does not match slice length " := rfl
    simp only [View.edit, View.copyFrom, ElementRun.edited, View.length, List.length_map, wording]
  | _ => rfl

def editOf (view : View) (path : List IndexRange) (memory : Memory) (edit : Edit size) :
    Except Error Memory :=
  match view.slices path with
  | .error e => .error e
  | .ok inner => inner.edit memory edit

theorem slices_toList (view : View) (path : List IndexRange) (memory : Memory) :
    (view.slices path).map (fun inner => inner.run.toList memory) =
      IndexRange.ofAll path (view.run.toList memory) := by
  induction path generalizing view with
  | nil => rfl
  | cons range rest ih =>
    simp only [slices, slice, length, IndexRange.ofAll, IndexRange.of, ElementRun.length_toList]
    cases resolved : range.resolve view.run.count with
    | error e => rfl
    | ok bounds =>
      obtain ⟨start, stop⟩ := bounds
      obtain ⟨_, inside⟩ := IndexRange.resolve_bounds resolved
      dsimp only
      rw [ih, ElementRun.toList_part inside]

-- Every range narrows a view to a part of it, so that the innermost edit is told outwards.
theorem mirrors_editOf (view : View) (path : List IndexRange) (memory : Memory)
    (edit : Edit view.run.element.size) :
    ElementRun.Mirrors view.run memory (view.editOf path memory edit)
      (IndexRange.exchangeAll (edit.on "slice") path (view.run.toList memory)) := by
  induction path generalizing view with
  | nil =>
    rw [editOf, slices]
    dsimp only
    rw [edit_eq]
    exact ElementRun.mirrors_edited "slice" memory edit
  | cons range rest ih =>
    simp only [editOf, slices, slice, length, IndexRange.exchangeAll, IndexRange.exchange,
      ElementRun.length_toList]
    cases resolved : range.resolve view.run.count with
    | error e => exact .refused e
    | ok bounds =>
      obtain ⟨start, stop⟩ := bounds
      obtain ⟨ordered, inside⟩ := IndexRange.resolve_bounds resolved
      have inner := ih ⟨view.run.part start stop⟩ edit
      dsimp only at inner ⊢
      rw [ElementRun.toList_part inside] at inner
      exact inner.of_part ordered inside

end View

end LayeredAllocation
