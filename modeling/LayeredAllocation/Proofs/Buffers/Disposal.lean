import LayeredAllocation.Proofs.Buffers.Life

namespace LayeredAllocation

namespace IndexRange

theorem resolve_undisposed (range : IndexRange) (length : Nat) (what : String) :
    range.resolve length ≠ .error (.disposed what) := by
  have ahead (index : Nat) : successor index length ≠ .error (.disposed what) := by
    unfold successor
    split <;> nofun
  unfold resolve
  split
  · next refused =>
    unfold start at refused
    split at refused
    · cases refused
    · next index _ =>
      intro same
      cases same
      exact ahead index refused
    · cases refused
  · split
    · next refused =>
      unfold stop at refused
      split at refused
      · next index _ =>
        intro same
        cases same
        exact ahead index refused
      · cases refused
      · cases refused
    · split
      · nofun
      · split <;> nofun

end IndexRange

namespace Buffer
variable {buffer : Buffer ω}

-- Indexes, lengths and values are not looked at by themselves. A range is.
def Access.Denotes (length : Nat) : Access → Prop
  | .slice range => ∃ start stop, range.resolve length = .ok (start, stop)
  | _ => True

def Access.refusal (length : Nat) : Access → Error
  | .slice range =>
    match range.resolve length with
    | .error e => e
    | .ok _ => .disposed "buffer"
  | _ => .disposed "buffer"

theorem Access.refusal_disposed_iff (access : Access) (length : Nat) :
    access.refusal length = .disposed "buffer" ↔ access.Denotes length := by
  cases access with
  | slice range =>
    unfold refusal Denotes
    dsimp only
    cases resolved : range.resolve length with
    | error e =>
      constructor
      · intro same
        exact absurd (resolved.trans (congrArg Except.error same)) (range.resolve_undisposed length _)
      · intro ⟨_, _, found⟩
        cases found
    | ok bounds => exact ⟨fun _ => ⟨bounds.1, bounds.2, rfl⟩, fun _ => rfl⟩
  | get _ | set _ _ | elements | bytes | writeAll _ | fill _ | clear | reverse | copyFrom _ | copyTo _
    | pointer => exact ⟨fun _ => trivial, fun _ => rfl⟩

theorem access_disposed (disposed : buffer.disposed = true) (memory : Memory) (access : Access) :
    buffer.access memory access = .error (access.refusal buffer.length) := by
  cases access with
  | get index | set index value =>
    simp only [Buffer.access, get, set, checkIndex, disposed, if_true]
    rfl
  | elements | bytes | reverse | copyFrom values | copyTo room =>
    simp only [Buffer.access, toList, bytes, reverse, copyFrom, copyTo, checkLive, disposed, if_true]
    rfl
  | writeAll content | fill value | clear | pointer =>
    simp only [Buffer.access, writeAll, fill, clear, pointer, whenLive, disposed, if_true]
    rfl
  | slice range =>
    simp only [Buffer.access, slice, Access.refusal]
    cases range.resolve buffer.length with
    | error e => rfl
    | ok bounds =>
      simp only [whenLive, disposed, if_true]
      rfl

theorem dispose_disposed (disposed : buffer.disposed = true) (sourceOf : ω → Source σ) (state : σ)
    (machine : Machine) :
    buffer.dispose sourceOf state machine = (.done () state machine, buffer) :=
  if_pos disposed

end Buffer

namespace Holding
variable {height : Nat}

theorem use_disposed (holding : Holding height) (use : Use height) :
    (holding.use use).buffer.disposed = true ↔ holding.buffer.disposed = true ∨ use = .dispose := by
  cases use with
  | access access =>
    unfold Holding.use
    dsimp only
    split <;> simp
  | dispose =>
    obtain ⟨_, disposed⟩ : _ ∧ (holding.buffer.dispose (sourceOf height) _ _).2.disposed = true :=
      holding.buffer.dispose_settles holding.owner holding.machine
    exact iff_of_true disposed (.inr rfl)
  | meanwhile deed => simp [Holding.use]

theorem uses_disposed (uses : List (Use height)) (holding : Holding height) :
    (uses.foldl Holding.use holding).buffer.disposed = true ↔
      holding.buffer.disposed = true ∨ .dispose ∈ uses := by
  induction uses generalizing holding with
  | nil => simp
  | cons use rest ih =>
    rw [List.foldl_cons, ih, use_disposed, List.mem_cons, or_assoc, eq_comm (a := use)]

-- However a buffer came to be disposed of, and whatever is done afterwards: all that it is asked for
-- is refused, for the disposal exactly if no range is at fault, and to dispose of it again leaves its
-- owner, the machine and the buffer alone.
theorem disposal_refuses_access (holding : Holding height) (uses : List (Use height))
    (disposed : holding.buffer.disposed = true ∨ .dispose ∈ uses) :
    let gone := uses.foldl Holding.use holding
    (∀ memory (access : Buffer.Access),
      gone.buffer.access memory access = .error (access.refusal gone.buffer.length) ∧
        (gone.buffer.access memory access = .error (.disposed "buffer") ↔
          access.Denotes gone.buffer.length)) ∧
    gone.buffer.dispose (sourceOf height) gone.owner gone.machine =
      (.done () gone.owner gone.machine, gone.buffer) := by
  have ended := (uses_disposed uses holding).mpr disposed
  refine ⟨?_, Buffer.dispose_disposed ended _ _ _⟩
  intro memory access
  have refused := Buffer.access_disposed ended memory access
  refine ⟨refused, ?_⟩
  rw [refused, Except.error.injEq]
  exact access.refusal_disposed_iff _

def lentPairs : Holding 0 :=
  { buffer :=
      { run := ⟨256, 4, ⟨2, 2, .unsigned⟩⟩
        align := 2
        tag := .borrowed
        owner := none }
    owner := { beneath := .system {} }
    machine := ⟨{ platform := .ascending }, []⟩ }

def lentPairsUses : List (Use 0) :=
  [.access (.fill [1, 2]), .dispose, .access (.set 9 [3, 4]), .meanwhile (.call 0 0 .trim), .dispose]

def lentPairsGone : Holding 0 := lentPairsUses.foldl Holding.use lentPairs

theorem disposal_refuses_access_lentPairs :
    Use.dispose ∈ lentPairsUses ∧
      lentPairsGone.buffer.access lentPairsGone.machine.memory (.get 9) =
        .error (.disposed "buffer") ∧
      lentPairsGone.buffer.access lentPairsGone.machine.memory (.slice .full) =
        .error (.disposed "buffer") ∧
      (lentPairsGone.buffer.dispose (sourceOf 0) lentPairsGone.owner lentPairsGone.machine).1 =
        .done () lentPairsGone.owner lentPairsGone.machine := by
  have given : Use.dispose ∈ lentPairsUses := .tail _ (.head _)
  obtain ⟨refused, again⟩ := disposal_refuses_access lentPairs lentPairsUses (.inr given)
  exact ⟨given, (refused _ (.get 9)).2.mpr trivial, (refused _ (.slice .full)).2.mpr ⟨0, 4, rfl⟩,
    congrArg Prod.fst again⟩

-- A range that ends behind the last element hides that the buffer is no longer there.
theorem bad_range_hides_disposal :
    ¬ ∀ (holding : Holding 0) (uses : List (Use 0)), .dispose ∈ uses →
      ∀ access, (uses.foldl Holding.use holding).buffer.access
        (uses.foldl Holding.use holding).machine.memory access = .error (.disposed "buffer") := by
  intro every
  have hidden := every lentPairs lentPairsUses (.tail _ (.head _)) (.slice ⟨.included 3, .included 4⟩)
  have answer : lentPairsGone.buffer.access lentPairsGone.machine.memory
      (.slice ⟨.included 3, .included 4⟩) = .error (.indexOutOfBounds 5 4) := rfl
  cases answer.symm.trans hidden

end Holding

end LayeredAllocation
