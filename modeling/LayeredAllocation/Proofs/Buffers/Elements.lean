import LayeredAllocation.Buffer
import LayeredAllocation.Proofs.Elements

namespace LayeredAllocation

-- Carries out one act after the other and keeps the answers. A refused act changes nothing.
def carryOut (act : α → σ → Except Error σ) : List α → σ → List (Except Error Unit) × σ
  | [], state => ([], state)
  | first :: rest, state =>
    match act first state with
    | .error e => (.error e :: (carryOut act rest state).1, (carryOut act rest state).2)
    | .ok next => (.ok () :: (carryOut act rest next).1, (carryOut act rest next).2)

theorem carryOut_refused {act : α → σ → Except Error σ} {acts : List α} {state : σ} {i : Nat}
    {e : Error} (refused : (carryOut act acts state).1[i]? = some (.error e)) :
    (carryOut act (acts.take (i + 1)) state).2 = (carryOut act (acts.take i) state).2 := by
  induction acts generalizing state i with
  | nil => rw [List.take_nil, List.take_nil]
  | cons first rest ih =>
    rw [List.take_succ_cons]
    cases answered : act first state with
    | error cause =>
      simp only [carryOut, answered] at refused ⊢
      cases i with
      | zero => rfl
      | succ i =>
        simp only [List.take_succ_cons, carryOut, answered]
        exact ih refused
    | ok next =>
      simp only [carryOut, answered] at refused ⊢
      cases i with
      | zero => cases refused
      | succ i =>
        simp only [List.take_succ_cons, carryOut, answered]
        exact ih refused

namespace Buffer
open Text.Numeral (decimal)
variable {size : Nat} {buffer : Buffer ω} {memory : Memory}

inductive Write (size : Nat) where
  | whole (edit : Edit size)
  -- Through a view of a range of the buffer, or of a range of that view, and so on.
  | view (range : IndexRange) (path : List IndexRange) (edit : Edit size)

def Write.on (write : Write size) (list : List (List UInt8)) : Except Error (List (List UInt8)) :=
  match write with
  | .whole edit => edit.on "buffer" list
  | .view range path edit => IndexRange.exchangeAll (edit.on "slice") (range :: path) list

def edit (buffer : Buffer ω) (memory : Memory) (edit : Edit size) : Except Error Memory :=
  match edit with
  | .set index value => buffer.set memory index value.toList
  | .fill value => buffer.fill memory value.toList
  | .clear => buffer.clear memory
  | .copyFrom values => buffer.copyFrom memory (values.map Vector.toList)

def write (buffer : Buffer ω) (write : Write size) (memory : Memory) : Except Error Memory :=
  match write with
  | .whole edit => buffer.edit memory edit
  | .view range path edit =>
    match buffer.slice range with
    | .error e => .error e
    | .ok view => view.editOf path memory edit

def view (buffer : Buffer ω) (range : IndexRange) (path : List IndexRange) : Except Error View :=
  match buffer.slice range with
  | .error e => .error e
  | .ok view => view.slices path

structure Shows (buffer : Buffer ω) (memory : Memory) (list : List (List UInt8)) : Prop where
  elements : buffer.toList memory = .ok list
  get (index : Nat) : buffer.get memory index = elementAt list index
  copyTo (room : Nat) : buffer.copyTo memory room =
    if room = list.length then .ok list else .error (lengthMismatch "dst" room list.length)
  view (range : IndexRange) (path : List IndexRange) :
    (buffer.view range path).map (fun view => view.run.toList memory) =
      IndexRange.ofAll (range :: path) list
  viewGet (range : IndexRange) (path : List IndexRange) (index : Nat) :
    ((buffer.view range path).bind fun view => view.get memory index) =
      (IndexRange.ofAll (range :: path) list).bind fun part => elementAt part index

theorem edit_live (live : buffer.disposed = false) (edit : Edit size) :
    buffer.edit memory edit = buffer.run.edited "buffer" memory edit := by
  cases edit with
  | set index value =>
    simp only [Buffer.edit, set, checkIndex, live, length, ElementRun.edited]
    by_cases small : index < buffer.run.count
    · simp [small]
    · simp [small]
  | fill value => simp only [Buffer.edit, fill, whenLive, live, ElementRun.edited]; rfl
  | clear => simp only [Buffer.edit, clear, whenLive, live, ElementRun.edited]; rfl
  | copyFrom values =>
    have wording : " does not match " ++ "buffer" ++ " length " = " does not match buffer length " := rfl
    simp only [Buffer.edit, copyFrom, checkLive, live, ElementRun.edited, length, List.length_map,
      lengthMismatch, wording]
    rfl

theorem slice_live (live : buffer.disposed = false) (range : IndexRange) :
    buffer.slice range = View.slice ⟨buffer.run⟩ range := by
  unfold slice View.slice
  simp only [whenLive, live, length, View.length]
  rfl

theorem view_live (live : buffer.disposed = false) (range : IndexRange) (path : List IndexRange) :
    buffer.view range path = View.slices ⟨buffer.run⟩ (range :: path) := by
  cases sliced : View.slice ⟨buffer.run⟩ range with
  | error e => simp only [view, slice_live live, View.slices, sliced]
  | ok inner => simp only [view, slice_live live, View.slices, sliced]

theorem mirrors_write (live : buffer.disposed = false) (write : Write buffer.run.element.size)
    (memory : Memory) :
    buffer.run.Mirrors memory (buffer.write write memory) (write.on (buffer.run.toList memory)) := by
  cases write with
  | whole edit =>
    simp only [Buffer.write, Write.on, edit_live live]
    exact ElementRun.mirrors_edited "buffer" memory edit
  | view range path edit =>
    have viewed : buffer.write (.view range path edit) memory =
        View.editOf ⟨buffer.run⟩ (range :: path) memory edit := by
      cases sliced : View.slice ⟨buffer.run⟩ range with
      | error e => simp only [Buffer.write, slice_live live, View.editOf, View.slices, sliced]
      | ok inner => simp only [Buffer.write, slice_live live, View.editOf, View.slices, sliced]
    rw [viewed]
    exact View.mirrors_editOf ⟨buffer.run⟩ (range :: path) memory edit

theorem shows_toList (live : buffer.disposed = false) (memory : Memory) :
    buffer.Shows memory (buffer.run.toList memory) := by
  constructor
  · simp only [toList, checkLive, live]
    rfl
  · intro index
    rw [elementAt_toList]
    simp only [get, checkIndex, live, length]
    by_cases small : index < buffer.run.count
    · simp [small]
    · simp [small]
  · intro room
    rw [ElementRun.length_toList]
    simp only [copyTo, checkLive, live, length]
    rfl
  · intro range path
    rw [view_live live]
    exact View.slices_toList ⟨buffer.run⟩ (range :: path) memory
  · intro range path index
    rw [view_live live, ← View.slices_toList ⟨buffer.run⟩ (range :: path) memory]
    cases View.slices ⟨buffer.run⟩ (range :: path) with
    | error e => rfl
    | ok view => exact (elementAt_toList view.run memory index).symm

theorem write_disposed (disposed : buffer.disposed = true) (write : Write size) (memory : Memory) :
    ∃ e, buffer.write write memory = .error e := by
  cases write with
  | whole edit =>
    refine ⟨.disposed "buffer", ?_⟩
    cases edit with
    | set index value => simp only [Buffer.write, Buffer.edit, set, checkIndex, disposed, if_true]
    | fill value => simp only [Buffer.write, Buffer.edit, fill, whenLive, disposed, if_true]
    | clear => simp only [Buffer.write, Buffer.edit, clear, whenLive, disposed, if_true]
    | copyFrom values => simp only [Buffer.write, Buffer.edit, copyFrom, checkLive, disposed, if_true]
  | view range path edit =>
    simp only [Buffer.write, slice]
    cases range.resolve buffer.length with
    | error e => exact ⟨e, rfl⟩
    | ok bounds =>
      refine ⟨.disposed "buffer", ?_⟩
      simp only [whenLive, disposed, if_true]

theorem write_changedIn {write : Write buffer.run.element.size} {after : Memory}
    (written : buffer.write write memory = .ok after) :
    memory.ChangedIn after buffer.run.extent := by
  cases live : buffer.disposed with
  | true =>
    obtain ⟨e, refused⟩ := write_disposed live write memory
    rw [refused] at written
    cases written
  | false =>
    have mirrors := mirrors_write live write memory
    rw [written] at mirrors
    generalize write.on (buffer.run.toList memory) = expected at mirrors
    cases mirrors with
    | written changed _ => exact changed

section
variable {writes : List (Write buffer.run.element.size)}

theorem carryOut_changedIn :
    memory.ChangedIn (carryOut buffer.write writes memory).2 buffer.run.extent := by
  induction writes generalizing memory with
  | nil =>
    intro address _
    rfl
  | cons write rest ih =>
    unfold carryOut
    split
    · exact ih
    · next after written =>
      intro address outside
      exact (ih address outside).trans (write_changedIn written address outside)

theorem carryOut_mirrors (live : buffer.disposed = false)
    (writes : List (Write buffer.run.element.size)) (memory : Memory) :
    (carryOut buffer.write writes memory).1 =
        (carryOut Write.on writes (buffer.run.toList memory)).1 ∧
      buffer.run.toList (carryOut buffer.write writes memory).2 =
        (carryOut Write.on writes (buffer.run.toList memory)).2 := by
  induction writes generalizing memory with
  | nil => exact ⟨rfl, rfl⟩
  | cons write rest ih =>
    have mirrors := mirrors_write live write memory
    unfold carryOut
    generalize buffer.write write memory = answer at mirrors
    generalize write.on (buffer.run.toList memory) = expected at mirrors
    cases mirrors with
    | refused e => exact ⟨congrArg _ (ih memory).1, (ih memory).2⟩
    | written changed same =>
      cases same
      exact ⟨congrArg _ (ih _).1, (ih _).2⟩

theorem carryOut_disposed (disposed : buffer.disposed = true) :
    (carryOut buffer.write writes memory).2 = memory ∧
      ∀ answer ∈ (carryOut buffer.write writes memory).1, ∃ e, answer = .error e := by
  induction writes with
  | nil =>
    refine ⟨rfl, ?_⟩
    intro answer absent
    cases absent
  | cons write rest ih =>
    obtain ⟨e, refused⟩ := write_disposed disposed write memory
    simp only [carryOut, refused]
    refine ⟨ih.1, ?_⟩
    intro answer member
    rcases List.mem_cons.mp member with rfl | later
    · exact ⟨e, rfl⟩
    · exact ih.2 answer later

end

-- Every write is answered as the list answers it, and what can be read afterwards is the list. A
-- refused write leaves memory as it was, and no write changes a byte beside those of the buffer. Once
-- the buffer has been disposed of, all is refused.
theorem behaves_as_list (buffer : Buffer ω) (memory : Memory)
    (writes : List (Write buffer.run.element.size)) :
    let done := carryOut buffer.write writes memory
    let expected := carryOut Write.on writes (buffer.run.toList memory)
    memory.ChangedIn done.2 buffer.run.extent ∧
      (∀ i e, done.1[i]? = some (.error e) →
        (carryOut buffer.write (writes.take (i + 1)) memory).2 =
          (carryOut buffer.write (writes.take i) memory).2) ∧
      (buffer.disposed = false → done.1 = expected.1 ∧ buffer.Shows done.2 expected.2) ∧
      (buffer.disposed = true → done.2 = memory ∧ ∀ answer ∈ done.1, ∃ e, answer = .error e) := by
  refine ⟨carryOut_changedIn, fun _ _ refused => carryOut_refused refused, ?_, carryOut_disposed⟩
  intro live
  obtain ⟨answers, same⟩ := carryOut_mirrors live writes memory
  refine ⟨answers, ?_⟩
  rw [← same]
  exact shows_toList live _

def pairs : Buffer Unit :=
  { run := ⟨256, 4, ⟨2, 2, .unsigned⟩⟩
    align := 2
    tag := .borrowed
    owner := none }

-- All elements, then one through a view of a view, and then a range that ends behind the last.
def pairsWrites : List (Write pairs.run.element.size) :=
  [.whole (.fill #v[1, 2]),
    .view ⟨.included 1, .unbounded⟩ [⟨.excluded 0, .excluded 3⟩] (.set 0 #v[3, 4]),
    .view ⟨.included 3, .included 4⟩ [] .clear]

theorem behaves_as_list_pairs :
    let done := carryOut pairs.write pairsWrites { platform := .ascending }
    pairs.disposed = false ∧ done.1 = [.ok (), .ok (), .error (.indexOutOfBounds 5 4)] ∧
      pairs.toList done.2 = .ok [[1, 2], [1, 2], [3, 4], [1, 2]] := by
  obtain ⟨_, _, shown, _⟩ := behaves_as_list pairs { platform := .ascending } pairsWrites
  obtain ⟨answers, shows⟩ := shown rfl
  refine ⟨rfl, answers.trans rfl, ?_⟩
  rw [shows.elements]
  rfl

end Buffer

end LayeredAllocation
