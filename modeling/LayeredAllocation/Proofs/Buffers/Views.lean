import Mathlib.Algebra.GroupWithZero.Nat
import LayeredAllocation.Proofs.Buffers.Elements

namespace LayeredAllocation

namespace LowerBound

def first : LowerBound → Nat
  | .included index => index
  | .excluded index => index + 1
  | .unbounded => 0

def Admits : LowerBound → Nat → Prop
  | .included index, i => index ≤ i
  | .excluded index, i => index < i
  | .unbounded, _ => True

theorem admits_iff (bound : LowerBound) (i : Nat) : bound.Admits i ↔ bound.first ≤ i := by
  cases bound with
  | included index | excluded index => exact Iff.rfl
  | unbounded => exact iff_of_true trivial (Nat.zero_le i)

end LowerBound

namespace UpperBound

def behind (length : Nat) : UpperBound → Nat
  | .included index => index + 1
  | .excluded index => index
  | .unbounded => length

def Admits (length : Nat) : UpperBound → Nat → Prop
  | .included index, i => i ≤ index
  | .excluded index, i => i < index
  | .unbounded, i => i < length

theorem admits_iff (bound : UpperBound) (length i : Nat) :
    bound.Admits length i ↔ i < bound.behind length := by
  cases bound with
  | included index => exact Nat.lt_succ_iff.symm
  | excluded index | unbounded => exact Iff.rfl

end UpperBound

namespace IndexRange

structure Denotes (range : IndexRange) (length start stop : Nat) : Prop where
  first : range.lower.first = start
  behind : range.upper.behind length = stop
  ordered : start ≤ stop
  inside : stop ≤ length

-- Ranges one within the other, with the start of each in what the one before has left, and the number
-- of indexes that the last of them leaves.
inductive Nested : List IndexRange → Nat → List Nat → Nat → Prop where
  | done : Nested [] length [] length
  | within {range : IndexRange} {length start stop : Nat} (denotes : range.Denotes length start stop)
      (rest : Nested path (stop - start) starts count) :
      Nested (range :: path) length (start :: starts) count

variable {range : IndexRange} {path : List IndexRange} {length start stop count : Nat}
  {starts : List Nat}

theorem Denotes.admits_iff (denotes : range.Denotes length start stop) (i : Nat) :
    range.lower.Admits i ∧ range.upper.Admits length i ↔ start ≤ i ∧ i < stop := by
  rw [range.lower.admits_iff, range.upper.admits_iff, denotes.first, denotes.behind]

theorem start_eq_ok (small : range.lower.first < Word.range) :
    range.start length = .ok range.lower.first := by
  unfold start
  cases bound : range.lower with
  | included index | unbounded => rfl
  | excluded index =>
    rw [bound] at small
    exact if_pos small

theorem stop_eq_ok (small : range.upper.behind length < Word.range) :
    range.stop length = .ok (range.upper.behind length) := by
  unfold stop
  cases bound : range.upper with
  | excluded index | unbounded => rfl
  | included index =>
    rw [bound] at small
    exact if_pos small

theorem successor_ok {index next : Nat} (found : successor index length = .ok next) :
    index + 1 = next := by
  unfold successor at found
  split at found
  · exact Except.ok.inj found
  · cases found

theorem first_of_start (found : range.start length = .ok start) : range.lower.first = start := by
  unfold IndexRange.start at found
  cases bound : range.lower with
  | included index | unbounded =>
    rw [bound] at found
    cases found
    rfl
  | excluded index =>
    rw [bound] at found
    exact successor_ok found

theorem behind_of_stop (found : range.stop length = .ok stop) :
    range.upper.behind length = stop := by
  unfold IndexRange.stop at found
  cases bound : range.upper with
  | excluded index | unbounded =>
    rw [bound] at found
    cases found
    rfl
  | included index =>
    rw [bound] at found
    exact successor_ok found

-- An index behind the largest word lies behind every length, so no range is lost for it.
theorem resolve_eq_ok_iff (small : length < Word.range) :
    range.resolve length = .ok (start, stop) ↔ range.Denotes length start stop := by
  constructor
  · intro resolved
    obtain ⟨ordered, inside⟩ := resolve_bounds resolved
    unfold resolve at resolved
    split at resolved
    · cases resolved
    · next begun =>
      split at resolved
      · cases resolved
      · next ended =>
        split at resolved
        · cases resolved
        · split at resolved
          · cases resolved
          · cases resolved
            exact ⟨first_of_start begun, behind_of_stop ended, ordered, inside⟩
  · rintro ⟨rfl, rfl, ordered, inside⟩
    have ended := Nat.lt_of_le_of_lt inside small
    unfold resolve
    rw [start_eq_ok (Nat.lt_of_le_of_lt ordered ended), stop_eq_ok ended]
    dsimp only
    rw [if_neg (Nat.not_lt.mpr inside), if_neg (Nat.not_lt.mpr ordered)]

theorem resolve_eq_error (small : length < Word.range)
    (astray : ∀ start stop, ¬ range.Denotes length start stop) :
    ∃ e, range.resolve length = .error e := by
  cases resolved : range.resolve length with
  | error e => exact ⟨e, rfl⟩
  | ok bounds => exact absurd ((resolve_eq_ok_iff small).mp resolved) (astray bounds.1 bounds.2)

theorem Nested.inside (nested : Nested path length starts count) : starts.sum + count ≤ length := by
  induction nested with
  | done => exact Nat.le_of_eq (Nat.zero_add _)
  | within denotes rest ih =>
    have ordered := denotes.ordered
    have inside := denotes.inside
    rw [List.sum_cons]
    omega

end IndexRange

namespace ElementRun
variable {run : ElementRun} {memory : Memory}

theorem part_whole (run : ElementRun) : run.part 0 run.count = run := by
  simp only [part, addressOf, Nat.zero_mul, Nat.add_zero, Nat.sub_zero]

theorem part_part (run : ElementRun) (start stop first behind : Nat) :
    (run.part start stop).part first behind = run.part (start + first) (start + behind) := by
  simp only [part, addressOf, Nat.add_mul, Nat.add_assoc, Nat.add_sub_add_left]

theorem get_part (run : ElementRun) (start stop index : Nat) (memory : Memory) :
    (run.part start stop).get memory index = run.get memory (start + index) := by
  simp only [get, part, addressOf, Nat.add_mul, Nat.add_assoc]

end ElementRun

namespace View
open Text.Numeral (decimal)
variable {view inner : View} {path : List IndexRange}

theorem length_part_lt {range : IndexRange} {start stop : Nat} (small : view.length < Word.range)
    (denotes : range.Denotes view.length start stop) :
    View.length ⟨view.run.part start stop⟩ < Word.range :=
  Nat.lt_of_le_of_lt (Nat.le_trans (Nat.sub_le ..) denotes.inside) small

theorem slices_eq_ok_iff (small : view.length < Word.range) :
    view.slices path = .ok inner ↔ ∃ starts count, IndexRange.Nested path view.length starts count ∧
      inner = ⟨view.run.part starts.sum (starts.sum + count)⟩ := by
  induction path generalizing view with
  | nil =>
    have whole : view.run.part [].sum ([].sum + view.length) = view.run := by
      rw [List.sum_nil, Nat.zero_add]
      exact view.run.part_whole
    constructor
    · intro found
      refine ⟨[], view.length, .done, ?_⟩
      rw [whole]
      exact (Except.ok.inj found).symm
    · rintro ⟨_, _, ⟨⟩, rfl⟩
      rw [whole]
      rfl
  | cons range rest ih =>
    constructor
    · intro found
      unfold slices slice at found
      cases resolved : range.resolve view.length with
      | error e =>
        rw [resolved] at found
        cases found
      | ok bounds =>
        rw [resolved] at found
        have denotes := (IndexRange.resolve_eq_ok_iff small).mp resolved
        obtain ⟨starts, count, nested, rfl⟩ := (ih (length_part_lt small denotes)).mp found
        refine ⟨bounds.1 :: starts, count, .within denotes nested, ?_⟩
        rw [ElementRun.part_part, List.sum_cons, Nat.add_assoc]
    · rintro ⟨_, count, nested, rfl⟩
      cases nested with
      | within denotes nested =>
        unfold slices slice
        rw [(IndexRange.resolve_eq_ok_iff small).mpr denotes]
        refine (ih (length_part_lt small denotes)).mpr ⟨_, count, nested, ?_⟩
        rw [ElementRun.part_part, List.sum_cons, Nat.add_assoc]

theorem mirrors_edit (view : View) (memory : Memory) (edit : Edit view.run.element.size) :
    view.run.Mirrors memory (view.edit memory edit) (edit.on "slice" (view.run.toList memory)) := by
  rw [edit_eq]
  exact ElementRun.mirrors_edited "slice" memory edit

def index (view : View) (start stop : Nat) : Except Fault View :=
  if stop < start then
    .error (.panicked ("slice index starts at " ++ decimal start ++ " but ends at " ++ decimal stop))
  else if view.length < stop then
    .error (.panicked ("range end index " ++ decimal stop ++ " out of range for slice of length " ++
      decimal view.length))
  else .ok ⟨view.run.part start stop⟩

def cut (view : View) (range : IndexRange) : Except Fault View :=
  match range.resolve view.length with
  | .error e => .error (.refused e)
  | .ok (start, stop) => view.index start stop

def cuts (view : View) : List IndexRange → Except Fault View
  | [] => .ok view
  | range :: rest =>
    match view.cut range with
    | .error fault => .error fault
    | .ok inner => inner.cuts rest

theorem index_of_resolve {range : IndexRange} {start stop : Nat}
    (resolved : range.resolve view.length = .ok (start, stop)) :
    view.index start stop = .ok ⟨view.run.part start stop⟩ := by
  obtain ⟨ordered, inside⟩ := IndexRange.resolve_bounds resolved
  unfold index
  rw [if_neg (Nat.not_lt.mpr ordered), if_neg (Nat.not_lt.mpr inside)]

theorem cut_eq (view : View) (range : IndexRange) :
    view.cut range = (view.slice range).mapError .refused := by
  unfold cut slice
  cases resolved : range.resolve view.length with
  | error e => rfl
  | ok bounds => exact index_of_resolve resolved

theorem cuts_eq (view : View) (path : List IndexRange) :
    view.cuts path = (view.slices path).mapError .refused := by
  induction path generalizing view with
  | nil => rfl
  | cons range rest ih =>
    unfold cuts slices
    rw [cut_eq]
    cases view.slice range with
    | error e => rfl
    | ok inner => exact ih inner

end View

namespace Buffer
variable {buffer : Buffer ω}

-- What a view of some elements from an index on has to do with the buffer they belong to.
structure Window (buffer : Buffer ω) (start : Nat) (view : View) : Prop where
  inside : start + view.length ≤ buffer.length
  within : view.run.extent.Within buffer.run.extent
  get (memory : Memory) (index : Nat) : view.get memory index =
    if index < view.length then .ok (buffer.run.get memory (start + index))
    else .error (.indexOutOfBounds index view.length)
  elements (memory : Memory) :
    view.run.toList memory = ((buffer.run.toList memory).drop start).take view.length
  -- Only the bytes of the view change, and its elements become what the same edit makes of a list.
  own (memory : Memory) (edit : Edit view.run.element.size) :
    view.run.Mirrors memory (view.edit memory edit) (edit.on "slice" (view.run.toList memory))
  others (memory : Memory) (edit : Edit view.run.element.size) :
    buffer.run.Mirrors memory (view.edit memory edit)
      ((edit.on "slice" (view.run.toList memory)).map fun list =>
        (buffer.run.toList memory).take start ++ list ++
          (buffer.run.toList memory).drop (start + view.length))

theorem window_part {start count : Nat} (inside : start + count ≤ buffer.length) :
    buffer.Window start ⟨buffer.run.part start (start + count)⟩ := by
  have long : View.length ⟨buffer.run.part start (start + count)⟩ = count := Nat.add_sub_cancel_left ..
  have ordered : start ≤ start + count := Nat.le_add_right ..
  constructor
  · rwa [long]
  · exact ElementRun.part_within ordered inside
  · intro memory index
    unfold View.get
    dsimp only
    rw [ElementRun.get_part]
  · intro memory
    rw [long]
    exact (ElementRun.toList_part inside).trans (by rw [Nat.add_sub_cancel_left])
  · exact View.mirrors_edit _
  · intro memory edit
    rw [long]
    exact (View.mirrors_edit _ memory edit).of_part ordered inside

def cuts (buffer : Buffer ω) (range : IndexRange) (path : List IndexRange) : Except Fault View :=
  match range.resolve buffer.length with
  | .error e => .error (.refused e)
  | .ok (start, stop) =>
    match buffer.checkLive with
    | .error e => .error (.refused e)
    | .ok () =>
      match View.index ⟨buffer.run⟩ start stop with
      | .error fault => .error fault
      | .ok view => view.cuts path

theorem cuts_eq (buffer : Buffer ω) (range : IndexRange) (path : List IndexRange) :
    buffer.cuts range path = (buffer.view range path).mapError .refused := by
  unfold cuts view slice
  cases resolved : range.resolve buffer.length with
  | error e => rfl
  | ok bounds =>
    have indexed : View.index ⟨buffer.run⟩ bounds.1 bounds.2 = _ := View.index_of_resolve resolved
    dsimp only
    rw [checkLive, whenLive, indexed]
    cases buffer.disposed with
    | true => rfl
    | false => exact View.cuts_eq _ path

theorem view_disposed (disposed : buffer.disposed = true) (range : IndexRange)
    (path : List IndexRange) : ∃ e, buffer.view range path = .error e := by
  unfold view slice
  cases range.resolve buffer.length with
  | error e => exact ⟨e, rfl⟩
  | ok bounds =>
    refine ⟨.disposed "buffer", ?_⟩
    dsimp only
    rw [whenLive, if_pos disposed]

-- Ranges resolve to the bounds that they have, or are refused. Ranges one within the other make a
-- view exactly if the buffer is still there and each lies within what the one before leaves. That
-- view is a window onto the buffer, as far into it as the starts come to. Nothing panics.
theorem nested_ranges_exact (buffer : Buffer ω) (counted : buffer.length < Word.range)
    (range : IndexRange) (path : List IndexRange) :
    (∀ length < Word.range,
      (∀ start stop, range.resolve length = .ok (start, stop) ↔ range.Denotes length start stop) ∧
        (∀ start stop, range.Denotes length start stop →
          ∀ i, range.lower.Admits i ∧ range.upper.Admits length i ↔ start ≤ i ∧ i < stop) ∧
        ((∀ start stop, ¬ range.Denotes length start stop) →
          ∃ e, range.resolve length = .error e)) ∧
      (∀ view, buffer.view range path = .ok view ↔
        buffer.disposed = false ∧ ∃ starts count,
          IndexRange.Nested (range :: path) buffer.length starts count ∧
            view = ⟨buffer.run.part starts.sum (starts.sum + count)⟩) ∧
      (∀ starts count, IndexRange.Nested (range :: path) buffer.length starts count →
        buffer.Window starts.sum ⟨buffer.run.part starts.sum (starts.sum + count)⟩) ∧
      buffer.cuts range path = (buffer.view range path).mapError .refused ∧
      ∀ message, buffer.cuts range path ≠ .error (.panicked message) := by
  refine ⟨?_, ?_, ?_, cuts_eq buffer range path, ?_⟩
  · intro length small
    exact ⟨fun start stop => IndexRange.resolve_eq_ok_iff small, fun _ _ denotes => denotes.admits_iff,
      IndexRange.resolve_eq_error small⟩
  · intro view
    cases live : buffer.disposed with
    | true =>
      obtain ⟨e, refused⟩ := view_disposed live range path
      rw [refused]
      simp
    | false =>
      have found : View.slices ⟨buffer.run⟩ (range :: path) = .ok view ↔ _ :=
        View.slices_eq_ok_iff counted
      rw [view_live live, found]
      exact (and_iff_right rfl).symm
  · intro starts count nested
    exact window_part nested.inside
  · intro message
    rw [cuts_eq]
    cases buffer.view range path with
    | error e => nofun
    | ok view => nofun

def sixPairs : Buffer Unit :=
  { run := ⟨512, 6, ⟨2, 2, .unsigned⟩⟩
    align := 2
    tag := .borrowed
    owner := none }

theorem nested_ranges_exact_sixPairs :
    sixPairs.length < Word.range ∧
      sixPairs.view ⟨.excluded 0, .unbounded⟩ [⟨.included 1, .included 3⟩, ⟨.unbounded, .excluded 2⟩] =
        .ok ⟨sixPairs.run.part 2 4⟩ ∧
      View.get ⟨sixPairs.run.part 2 4⟩ { platform := .ascending } 1 =
        .ok (sixPairs.run.get { platform := .ascending } 3) ∧
      View.get ⟨sixPairs.run.part 2 4⟩ { platform := .ascending } 2 =
        .error (.indexOutOfBounds 2 2) := by
  have counted : sixPairs.length < Word.range := by decide
  obtain ⟨_, found, window, _⟩ := nested_ranges_exact sixPairs counted ⟨.excluded 0, .unbounded⟩
    [⟨.included 1, .included 3⟩, ⟨.unbounded, .excluded 2⟩]
  -- All but the first, of these three from the second on, and of these the first two.
  have nested : IndexRange.Nested [⟨.excluded 0, .unbounded⟩, ⟨.included 1, .included 3⟩,
      ⟨.unbounded, .excluded 2⟩] 6 [1, 1, 0] 2 :=
    .within ⟨rfl, rfl, by decide, by decide⟩ <| .within ⟨rfl, rfl, by decide, by decide⟩ <|
      .within ⟨rfl, rfl, by decide, by decide⟩ .done
  have get := (window _ _ nested).get { platform := .ascending }
  exact ⟨counted, (found _).mpr ⟨rfl, _, _, nested, rfl⟩, get 1, get 2⟩

end Buffer

end LayeredAllocation
