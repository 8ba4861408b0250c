import LayeredAllocation.Text

namespace LayeredAllocation.Cleanup

-- What a panicking action carries; only text can be shown.
inductive Payload where
  | text (message : String)
  | other
deriving DecidableEq, Repr

def Payload.message : Payload → String
  | .text message => message
  | .other => "<non-string panic payload>"

inductive Cause (ε : Type) where
  | returned (error : ε)
  | panicked (payload : Payload)
deriving DecidableEq, Repr

def Cause.message (written : ε → String) : Cause ε → String
  | .returned error => written error
  | .panicked payload => "action panicked: " ++ payload.message

structure Failure (ε : Type) where
  index : Nat
  cause : Cause ε
deriving DecidableEq, Repr

def Failure.message (written : ε → String) (failure : Failure ε) : String :=
  "deferred action #" ++ Text.Numeral.decimal failure.index ++ " failed: " ++
    failure.cause.message written

inductive Report (ε : Type) where
  | single (failure : Failure ε)
  | composite (first second : Failure ε) (rest : List (Failure ε))
deriving DecidableEq, Repr

namespace Report

def ofFailures : List (Failure ε) → Except (Report ε) Unit
  | [] => .ok ()
  | [failure] => .error (.single failure)
  | first :: second :: rest => .error (.composite first second rest)

def failures : Report ε → List (Failure ε)
  | .single failure => [failure]
  | .composite first second rest => first :: second :: rest

def message (written : ε → String) : Report ε → String
  | .single failure => failure.message written
  | .composite first _ rest =>
    Text.Numeral.decimal (rest.length + 2) ++ " deferred actions failed, first: " ++
      first.message written

theorem ofFailures_eq_ok_iff {list : List (Failure ε)} : ofFailures list = .ok () ↔ list = [] := by
  cases list with
  | nil => simp [ofFailures]
  | cons first rest => cases rest <;> simp [ofFailures]

theorem failures_of_ofFailures {list : List (Failure ε)} {report : Report ε}
    (failed : ofFailures list = .error report) : report.failures = list := by
  cases list with
  | nil => simp [ofFailures] at failed
  | cons first rest =>
    cases rest <;> simp only [ofFailures, Except.error.injEq] at failed <;> subst failed <;> rfl

end Report

abbrev Performer (α σ ε : Type) := α → σ → σ × Option (Cause ε)

structure Scope (α : Type) where
  actions : List α := []

namespace Scope

def register (scope : Scope α) (action : α) : Scope α := ⟨scope.actions ++ [action]⟩

def length (scope : Scope α) : Nat := scope.actions.length

def isEmpty (scope : Scope α) : Bool := scope.actions.isEmpty

def describe (scope : Scope α) : String :=
  "DeferScope \x7b pending: " ++ Text.Numeral.decimal scope.length ++ " \x7d"

def failureAt (index : Nat) : Option (Cause ε) → List (Failure ε)
  | none => []
  | some cause => [⟨index, cause⟩]

-- Runs the actions behind an action before the action itself.
def runFrom (perform : Performer α σ ε) (index : Nat) : List α → σ → σ × List (Failure ε)
  | [], world => (world, [])
  | action :: later, world =>
    let (world, failures) := runFrom perform (index + 1) later world
    let (world, outcome) := perform action world
    (world, failures ++ failureAt index outcome)

def run (perform : Performer α σ ε) (scope : Scope α) (world : σ) : σ × List (Failure ε) :=
  runFrom perform 0 scope.actions world

def dispose (perform : Performer α σ ε) (scope : Scope α) (world : σ) :
    σ × Except (Report ε) Unit :=
  let (world, failures) := run perform scope world
  (world, Report.ofFailures failures)

-- Ends the scope where nobody can be told: each failure goes to `record`.
def abandon (perform : Performer α σ ε) (record : Failure ε → σ → σ) (scope : Scope α)
    (world : σ) : σ :=
  let (world, failures) := run perform scope world
  failures.foldl (fun world failure => record failure world) world

def abandonedLine (written : ε → String) (failure : Failure ε) : String :=
  "deferred cleanup failed during drop: " ++ failure.message written

theorem dispose_eq_ok_iff {perform : Performer α σ ε} {scope : Scope α} {world : σ} :
    (dispose perform scope world).2 = .ok () ↔ (run perform scope world).2 = [] := by
  exact Report.ofFailures_eq_ok_iff

end LayeredAllocation.Cleanup.Scope
