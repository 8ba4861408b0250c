import LayeredAllocation.Element
import LayeredAllocation.Error
import LayeredAllocation.Word

namespace LayeredAllocation

inductive LowerBound where
  | included (index : Nat)
  | excluded (index : Nat)
  | unbounded
deriving DecidableEq, Repr

inductive UpperBound where
  | included (index : Nat)
  | excluded (index : Nat)
  | unbounded
deriving DecidableEq, Repr

structure IndexRange where
  lower : LowerBound
  upper : UpperBound
deriving DecidableEq, Repr

def IndexRange.full : IndexRange := ⟨.unbounded, .unbounded⟩

namespace IndexRange

def successor (index length : Nat) : Except Error Nat :=
  if index + 1 < Word.range then .ok (index + 1) else .error (.indexOutOfBounds index length)

def start (range : IndexRange) (length : Nat) : Except Error Nat :=
  match range.lower with
  | .included index => .ok index
  | .excluded index => successor index length
  | .unbounded => .ok 0

def stop (range : IndexRange) (length : Nat) : Except Error Nat :=
  match range.upper with
  | .included index => successor index length
  | .excluded index => .ok index
  | .unbounded => .ok length

def resolve (range : IndexRange) (length : Nat) : Except Error (Nat × Nat) :=
  match range.start length with
  | .error e => .error e
  | .ok start =>
    match range.stop length with
    | .error e => .error e
    | .ok stop =>
      if length < stop then .error (.indexOutOfBounds stop length)
      else if stop < start then
        .error (.invalidArgument "range"
          ("start " ++ Text.Numeral.decimal start ++ " is greater than end " ++
            Text.Numeral.decimal stop))
      else .ok (start, stop)

theorem resolve_bounds {range : IndexRange} {length start stop : Nat}
    (resolved : range.resolve length = .ok (start, stop)) : start ≤ stop ∧ stop ≤ length := by
  unfold resolve at resolved
  split at resolved
  · cases resolved
  · split at resolved
    · cases resolved
    · split at resolved
      · cases resolved
      · next inside =>
        split at resolved
        · cases resolved
        · next ordered =>
          cases resolved
          exact ⟨Nat.le_of_not_lt ordered, Nat.le_of_not_lt inside⟩

end IndexRange

-- A run of elements that somebody else owns.
structure View where
  run : ElementRun
deriving DecidableEq, Repr

namespace View

def length (view : View) : Nat := view.run.count

def slice (view : View) (range : IndexRange) : Except Error View :=
  match range.resolve view.length with
  | .error e => .error e
  | .ok (start, stop) => .ok ⟨view.run.part start stop⟩

def slices (view : View) : List IndexRange → Except Error View
  | [] => .ok view
  | range :: rest =>
    match view.slice range with
    | .error e => .error e
    | .ok part => part.slices rest

def get (view : View) (memory : Memory) (index : Nat) : Except Error (List UInt8) :=
  if index < view.length then .ok (view.run.get memory index)
  else .error (.indexOutOfBounds index view.length)

def set (view : View) (memory : Memory) (index : Nat) (value : List UInt8) : Except Error Memory :=
  if index < view.length then .ok (view.run.set memory index value)
  else .error (.indexOutOfBounds index view.length)

def copyFrom (view : View) (memory : Memory) (values : List (List UInt8)) : Except Error Memory :=
  if values.length = view.length then .ok (view.run.copyFrom memory values)
  else
    .error (.invalidArgument "src"
      ("length " ++ Text.Numeral.decimal values.length ++ " does not match slice length " ++
        Text.Numeral.decimal view.length))

def describe (view : View) (memory : Memory) : String :=
  "[" ++ ", ".intercalate
    ((view.run.toList memory).map fun value =>
      Text.Numeral.integer (view.run.element.decode value)) ++ "]"

end LayeredAllocation.View
