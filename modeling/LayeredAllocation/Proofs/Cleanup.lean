import LayeredAllocation.Trial

namespace LayeredAllocation

namespace Cleanup

structure Deed (α ε : Type) where
  action : α
  index : Nat
  outcome : Option (Cause ε)

def Deed.failure (deed : Deed α ε) : Option (Failure ε) := deed.outcome.map (Failure.mk deed.index)

-- The actions of the deeds ran one after another, and nothing else touched the world.
inductive Ran (perform : Performer α σ ε) : σ → List (Deed α ε) → σ → Prop where
  | nil : Ran perform world [] world
  | snoc : Ran perform world deeds middle → perform action middle = (after, outcome) →
      Ran perform world (deeds ++ [⟨action, index, outcome⟩]) after

namespace Report

theorem ofFailures_eq_single_iff {list : List (Failure ε)} {failure : Failure ε} :
    ofFailures list = .error (.single failure) ↔ list = [failure] := by
  constructor
  · intro reported
    exact (failures_of_ofFailures reported).symm
  · intro same
    rw [same, ofFailures]

theorem ofFailures_eq_composite_iff {list rest : List (Failure ε)} {first second : Failure ε} :
    ofFailures list = .error (.composite first second rest) ↔ list = first :: second :: rest := by
  constructor
  · intro reported
    exact (failures_of_ofFailures reported).symm
  · intro same
    rw [same, ofFailures]

end Report

namespace Scope
variable {perform : Performer α σ ε} {record : Failure ε → σ → σ}

def registered (actions : List α) : Scope α := actions.foldl register {}

theorem actions_foldl_register (actions : List α) (scope : Scope α) :
    (actions.foldl register scope).actions = scope.actions ++ actions := by
  induction actions generalizing scope with
  | nil => simp
  | cons action later ih =>
    rw [List.foldl_cons, ih]
    simp [register]

theorem actions_registered (actions : List α) : (registered actions).actions = actions := by
  rw [registered, actions_foldl_register]
  simp

theorem failureAt_eq (index : Nat) (outcome : Option (Cause ε)) :
    failureAt index outcome = (outcome.map (Failure.mk index)).toList := by
  cases outcome <;> rfl

-- By induction on the list of actions, whose head is the one that runs last.
theorem runFrom_ran (perform : Performer α σ ε) (index : Nat) (actions : List α) (world : σ) :
    ∃ deeds, Ran perform world deeds (runFrom perform index actions world).1 ∧
      deeds.map (fun deed => (deed.action, deed.index)) = (actions.zipIdx index).reverse ∧
      (runFrom perform index actions world).2 = deeds.filterMap Deed.failure := by
  induction actions generalizing index with
  | nil => exact ⟨[], .nil, rfl, rfl⟩
  | cons action later ih =>
    obtain ⟨deeds, ran, order, failed⟩ := ih (index + 1)
    refine ⟨deeds ++ [⟨action, index, _⟩], .snoc ran rfl, ?_, ?_⟩
    · rw [List.map_append, order, List.zipIdx_cons, List.reverse_cons]
      rfl
    · simp only [runFrom, failed, failureAt_eq, List.filterMap_append]
      apply congrArg
      simp only [List.filterMap_cons, List.filterMap_nil, Deed.failure]
      split <;> simp [*]

structure Told (perform : Performer α σ ε) (record : Failure ε → σ → σ) (actions : List α)
    (world : σ) (deeds : List (Deed α ε)) (after : σ) : Prop where
  ran : Ran perform world deeds after
  -- Each action once, the last one first, with the number of actions registered before it.
  order : deeds.map (fun deed => (deed.action, deed.index)) = actions.zipIdx.reverse
  disposed : ((registered actions).dispose perform world).1 = after
  succeeds_iff : ((registered actions).dispose perform world).2 = .ok () ↔
    ∀ deed ∈ deeds, deed.outcome = none
  single_iff : ∀ failure,
    ((registered actions).dispose perform world).2 = .error (.single failure) ↔
      deeds.filterMap Deed.failure = [failure]
  composite_iff : ∀ first second rest,
    ((registered actions).dispose perform world).2 = .error (.composite first second rest) ↔
      deeds.filterMap Deed.failure = first :: second :: rest
  listed : ∀ report, ((registered actions).dispose perform world).2 = .error report →
    report.failures = deeds.filterMap Deed.failure
  abandoned : (registered actions).abandon perform record world =
    (deeds.filterMap Deed.failure).foldl (fun world failure => record failure world) after

theorem told (perform : Performer α σ ε) (record : Failure ε → σ → σ) (actions : List α) (world : σ) :
    ∃ deeds after, Told perform record actions world deeds after := by
  obtain ⟨deeds, ran, order, failed⟩ := runFrom_ran perform 0 actions world
  have run : (registered actions).run perform world = runFrom perform 0 actions world := by
    rw [Scope.run, actions_registered]
  have result : ((registered actions).dispose perform world).2 =
      Report.ofFailures (deeds.filterMap Deed.failure) := by
    simp only [dispose, run, failed]
  refine ⟨deeds, _, ran, order, ?_, ?_, ?_, ?_, ?_, ?_⟩
  · simp only [dispose, run]
  · rw [result, Report.ofFailures_eq_ok_iff, List.filterMap_eq_nil_iff]
    simp only [Deed.failure, Option.map_eq_none_iff]
  · intro failure
    rw [result]
    exact Report.ofFailures_eq_single_iff
  · intro first second rest
    rw [result]
    exact Report.ofFailures_eq_composite_iff
  · intro report reported
    exact Report.failures_of_ofFailures (result.symm.trans reported)
  · simp only [abandon, run, failed]

end Scope

end Cleanup

namespace Trial
open Cleanup (Cause Failure Report)

def InnerEnding.cause (ending : InnerEnding) (failures : List (Failure String)) :
    Option (Cause String) :=
  match ending, Report.ofFailures failures with
  | .dropped, _ | _, .ok () => none
  | .reported, .error report => some (.returned (report.message id))
  | .wrapped, .error report => some (.returned (Error.cleanup report).message)

def InnerEnding.lines (failures : List (Failure String)) : InnerEnding → List Line
  | .dropped => failures.map fun failure => ⟨.failure, Cleanup.Scope.abandonedLine id failure⟩
  | .reported | .wrapped => []

namespace CleanupAction

mutual

def labels : CleanupAction → List String
  | .succeed label | .fail label _ | .panic label _ => [label]
  | .nested label actions _ => label :: labelsOf actions

def labelsOf : List CleanupAction → List String
  | [] => []
  | action :: later => labelsOf later ++ action.labels

end

mutual

def cause : CleanupAction → Option (Cause String)
  | .succeed _ => none
  | .fail _ message => some (.returned message)
  | .panic _ payload => some (.panicked payload)
  | .nested _ actions ending => ending.cause (failuresFrom 0 actions)

def failuresFrom (index : Nat) : List CleanupAction → List (Failure String)
  | [] => []
  | action :: later =>
    failuresFrom (index + 1) later ++ Cleanup.Scope.failureAt index action.cause

end

mutual

def lines : CleanupAction → List Line
  | .succeed _ | .fail .. | .panic .. => []
  | .nested _ actions ending => linesOf actions ++ ending.lines (failuresFrom 0 actions)

def linesOf : List CleanupAction → List Line
  | [] => []
  | action :: later => linesOf later ++ action.lines

end

end CleanupAction

namespace CleanupWorld

def extend (world : CleanupWorld) (labels : List String) (lines : List Line) : CleanupWorld :=
  ⟨labels.reverse ++ world.trace, lines.reverse ++ world.journal⟩

theorem extend_extend (world : CleanupWorld) (labels more : List String) (lines others : List Line) :
    (world.extend labels lines).extend more others =
      world.extend (labels ++ more) (lines ++ others) := by
  simp [extend]

theorem leave_eq (world : CleanupWorld) (label : String) :
    world.leave label = world.extend [label] [] := rfl

theorem foldl_record (failures : List (Failure String)) (world : CleanupWorld) :
    failures.foldl record world = world.extend [] (InnerEnding.dropped.lines failures) := by
  induction failures generalizing world with
  | nil => rfl
  | cons failure rest ih =>
    rw [List.foldl_cons, ih]
    simp [extend, record, Journal.failure, InnerEnding.lines]

end CleanupWorld

theorem innerOutcome_eq (ending : InnerEnding) (world : CleanupWorld)
    (failures : List (Failure String)) :
    innerOutcome ending world failures =
      (world.extend [] (ending.lines failures), ending.cause failures) := by
  cases ending with
  | dropped =>
    rw [innerOutcome, CleanupWorld.foldl_record]
    rfl
  | reported =>
    unfold innerOutcome InnerEnding.cause
    cases Report.ofFailures failures <;> rfl
  | wrapped =>
    unfold innerOutcome InnerEnding.cause
    cases Report.ofFailures failures <;> rfl

open CleanupAction in
mutual

-- By recursion on the tree of actions: what running them does is what the tree says.
theorem performAction_eq (action : CleanupAction) (world : CleanupWorld) :
    performAction action world = (world.extend action.labels action.lines, action.cause) := by
  cases action with
  | succeed label => simp only [performAction, labels, lines, cause, CleanupWorld.leave_eq]
  | fail label message => simp only [performAction, labels, lines, cause, CleanupWorld.leave_eq]
  | panic label payload => simp only [performAction, labels, lines, cause, CleanupWorld.leave_eq]
  | nested label actions ending =>
    simp only [performAction, labels, lines, cause]
    rw [runActions_eq, innerOutcome_eq, CleanupWorld.leave_eq, CleanupWorld.extend_extend,
      CleanupWorld.extend_extend]
    simp

theorem runActions_eq (index : Nat) (actions : List CleanupAction) (world : CleanupWorld) :
    runActions index actions world =
      (world.extend (labelsOf actions) (linesOf actions), failuresFrom index actions) := by
  cases actions with
  | nil => simp only [runActions, labelsOf, linesOf, failuresFrom, CleanupWorld.extend,
      List.reverse_nil, List.nil_append]
  | cons action later =>
    simp only [runActions, labelsOf, linesOf, failuresFrom]
    rw [runActions_eq (index + 1) later world, performAction_eq action, CleanupWorld.extend_extend]

end

def CleanupResult.ofReport : Except (Report String) Unit → CleanupResult
  | .ok () => .succeeded
  | .error report => .reported report

end Trial

end LayeredAllocation
