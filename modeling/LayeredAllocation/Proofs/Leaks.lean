import LayeredAllocation.Proofs.Calls
import LayeredAllocation.Proofs.Steps.Passing

namespace LayeredAllocation

def successes : List Event → Nat
  | [] => 0
  | ⟨.allocate _, .ok (some _)⟩ :: past => successes past + 1
  | _ :: past => successes past

-- What was allocated and has not been freed since, oldest first. A block is known by its address,
-- and its number is how many allocations succeeded before its own.
def unfreed : List Event → List Leak.Record
  | [] => []
  | ⟨.allocate request, .ok (some block)⟩ :: past =>
    unfreed past ++ [⟨block.address, request.size, request.site, successes past⟩]
  | ⟨.free block, .ok _⟩ :: past => (unfreed past).filter (·.address ≠ block.address)
  | _ :: past => unfreed past

-- What a tracker has on record, oldest first, whatever the source beneath does. A block takes the place
-- of one that was issued at its address before, and a free in which that source panics counts as one.
def recorded : List Event → List Leak.Record
  | [] => []
  | ⟨.allocate request, .ok (some block)⟩ :: past =>
    (recorded past).filter (·.address ≠ block.address) ++
      [⟨block.address, request.size, request.site, successes past⟩]
  | ⟨.free block, .ok _⟩ :: past | ⟨.free block, .error (.panicked _)⟩ :: past =>
    (recorded past).filter (·.address ≠ block.address)
  | _ :: past => recorded past

theorem recorded_refused (call : Call) (error : Error) (past : List Event) :
    recorded (⟨call, .error (.refused error)⟩ :: past) = recorded past := by
  cases call <;> rfl

theorem successes_failed (call : Call) (fault : Fault) (past : List Event) :
    successes (⟨call, .error fault⟩ :: past) = successes past := by
  cases call <;> rfl

theorem successes_le : (event : Event) → (past : List Event) →
    successes past ≤ successes (event :: past)
  | ⟨.allocate _, .ok (some _)⟩, _ => Nat.le_succ _
  | ⟨.allocate _, .ok none⟩, _ | ⟨.allocate _, .error _⟩, _ => Nat.le_refl _
  | ⟨.free _, _⟩, _ | ⟨.trim, _⟩, _ | ⟨.dispose, _⟩, _ => Nat.le_refl _

theorem recorded_counted (past : List Event) : ∀ r ∈ recorded past, r.sequence < successes past := by
  fun_induction recorded past with
  | case1 => simp
  | case2 request block past ih =>
    intro r member
    rcases List.mem_append.1 member with old | new
    · exact Nat.lt_succ_of_lt (ih r (List.mem_filter.1 old).1)
    · rw [List.mem_singleton.1 new]
      exact Nat.lt_succ_self _
  | case3 block answer past ih =>
    intro r member
    exact ih r (List.mem_filter.1 member).1
  | case4 block message past ih =>
    intro r member
    exact ih r (List.mem_filter.1 member).1
  | case5 event past _ _ _ ih =>
    intro r member
    exact Nat.lt_of_lt_of_le (ih r member) (successes_le event past)

theorem recorded_ordered (past : List Event) :
    (recorded past).Pairwise (fun a b => a.sequence < b.sequence) := by
  fun_induction recorded past with
  | case1 => exact .nil
  | case2 request block past ih =>
    refine List.pairwise_append.2 ⟨ih.filter _, List.pairwise_singleton _ _, ?_⟩
    intro old member new equal
    rw [List.mem_singleton.1 equal]
    exact recorded_counted past old (List.mem_filter.1 member).1
  | case3 block answer past ih => exact ih.filter _
  | case4 block message past ih => exact ih.filter _
  | case5 event past _ _ _ ih => exact ih

theorem recorded_distinct (past : List Event) : ((recorded past).map Leak.Record.address).Nodup := by
  have fewer {past : List Event} (address : Nat) (ih : ((recorded past).map Leak.Record.address).Nodup) :
      (((recorded past).filter (·.address ≠ address)).map Leak.Record.address).Nodup :=
    ih.sublist (List.filter_sublist.map _)
  fun_induction recorded past with
  | case1 => exact .nil
  | case2 request block past ih =>
    rw [List.map_append, List.map_singleton]
    refine List.nodup_append.2 ⟨fewer block.address ih, List.pairwise_singleton _ _, ?_⟩
    intro address old other new
    obtain ⟨r, member, rfl⟩ := List.mem_map.1 old
    rw [List.mem_singleton.1 new]
    exact of_decide_eq_true (List.mem_filter.1 member).2
  | case3 block answer past ih => exact fewer block.address ih
  | case4 block message past ih => exact fewer block.address ih
  | case5 event past _ _ _ ih => exact ih

theorem recorded_numbered {past : List Event} {a b : Leak.Record} (first : a ∈ recorded past)
    (second : b ∈ recorded past) (same : a.sequence = b.sequence) : a = b := by
  obtain ⟨i, insideFirst, rfl⟩ := List.getElem_of_mem first
  obtain ⟨j, insideSecond, rfl⟩ := List.getElem_of_mem second
  have ordered := List.pairwise_iff_getElem.1 (recorded_ordered past)
  rcases Nat.lt_trichotomy i j with less | rfl | more
  · exact absurd same (Nat.ne_of_lt (ordered i j insideFirst insideSecond less))
  · rfl
  · exact absurd same.symm (Nat.ne_of_lt (ordered j i insideSecond insideFirst more))

-- The record as a tracker has it, which counts modulo the word size.
def Leak.Record.counted (record : Record) : Record :=
  { record with sequence := record.sequence % Word.range }

def Leak.verdict (name : String) : List Record → Except Error Report
  | [] => .ok ⟨name, []⟩
  | oldest :: later => .error (.leak name (later.length + 1) oldest.text)

-- What the source beneath may be relied on for: it issues no address that is still out, and a block
-- given back is taken or refused, since a call that panics never comes back.
def Backed (past : List Event) : Event → Prop
  | ⟨.allocate _, .ok (some block)⟩ => ∀ r ∈ unfreed past, r.address ≠ block.address
  | ⟨.free _, .error (.panicked _)⟩ => False
  | _ => True

instance Backed.decidable (past : List Event) : (event : Event) → Decidable (Backed past event)
  | ⟨.allocate _, .ok (some block)⟩ =>
    inferInstanceAs (Decidable (∀ r ∈ unfreed past, r.address ≠ block.address))
  | ⟨.allocate _, .ok none⟩ | ⟨.allocate _, .error _⟩ => isTrue trivial
  | ⟨.free _, .error (.panicked _)⟩ => isFalse id
  | ⟨.free _, .error (.refused _)⟩ | ⟨.free _, .ok _⟩ => isTrue trivial
  | ⟨.trim, _⟩ | ⟨.dispose, _⟩ => isTrue trivial

theorem Backed.recorded_eq {past : List Event} {event : Event} (backed : Backed past event)
    (same : recorded past = unfreed past) : recorded (event :: past) = unfreed (event :: past) := by
  obtain ⟨call, answer⟩ := event
  cases call with
  | allocate request =>
    match answer, backed with
    | .ok (some block), fresh =>
      have fresh : ∀ r ∈ recorded past, r.address ≠ block.address := by
        rw [same]
        exact fresh
      have apart : (recorded past).filter (·.address ≠ block.address) = recorded past :=
        List.filter_eq_self.2 fun r member => decide_eq_true (fresh r member)
      rw [recorded, apart, same, unfreed]
    | .ok none, _ | .error _, _ => exact same
  | free block =>
    match answer, backed with
    | .ok taken, _ =>
      rw [recorded, same, unfreed]
    | .error (.refused e), _ => exact same
  | trim | dispose => exact same

-- A report lists what is on record after a history, in the order of the numbers. This is the order of
-- the allocations as long as the numbers have not run over.
structure Leak.Report.Lists (report : Report) (name : String) (past : List Event) : Prop where
  named : report.allocator = name
  complete : report.leaks.Perm ((recorded past).map Record.counted)
  sorted : report.leaks.Pairwise fun a b => a.sequence ≤ b.sequence
  exact : successes past ≤ Word.range → report.leaks = recorded past

theorem Leak.Report.Lists.eq {report : Report} {name : String} {past : List Event}
    (lists : report.Lists name past) (few : successes past ≤ Word.range) :
    report = ⟨name, recorded past⟩ := by
  rw [← lists.named, ← lists.exact few]

namespace Tracker

inductive Tracking (below : Source σ) (first : Tracker) (base : σ) (origin : Machine) :
    List Event → Layer × σ → Machine → Prop where
  | start : Tracking below first base origin [] (.tracker first, base) origin
  | call {call : Call} (before : Tracking below first base origin past state machine)
      (backed : Backed past ⟨call, (Layer.perform below call state machine).result⟩) :
      Tracking below first base origin
        (⟨call, (Layer.perform below call state machine).result⟩ :: past)
        (Layer.perform below call state machine).state (Layer.perform below call state machine).machine
  | beside {layer : Layer} {s : σ} (before : Tracking below first base origin past (layer, s) machine)
      (after : σ) (left : Machine) : Tracking below first base origin past (layer, after) left

structure Keeps (first : Tracker) (past : List Event) (tracker : Tracker) : Prop where
  same : tracker.name = first.name ∧ tracker.mode = first.mode
  next : tracker.nextSequence = successes past % Word.range
  keyed : tracker.records.Keyed Leak.Record.address
  listed : tracker.records.values.Perm ((recorded past).map Leak.Record.counted)

namespace Keeps
variable {first tracker : Tracker} {past : List Event} {below : Source σ} {s : σ} {machine : Machine}

theorem start (made : (Layer.tracker first).Made) : Keeps first [] first := by
  cases made
  exact ⟨⟨rfl, rfl⟩, rfl, .empty, .nil⟩

theorem idle {event : Event} (keeps : Keeps first past tracker)
    (count : successes (event :: past) = successes past)
    (live : recorded (event :: past) = recorded past) : Keeps first (event :: past) tracker := by
  refine ⟨keeps.same, ?_, keeps.keyed, ?_⟩
  · rw [keeps.next, count]
  · rw [live]
    exact keeps.listed

theorem refused {call : Call} {error : Error} (keeps : Keeps first past tracker) :
    Keeps first (⟨call, .error (.refused error)⟩ :: past) tracker :=
  keeps.idle (successes_failed call _ past) (recorded_refused call error past)

theorem told (keeps : Keeps first past tracker) (sink : Leak.Sink) (disposed : Bool) :
    Keeps first past { tracker with sink, disposed } :=
  ⟨keeps.same, keeps.next, keeps.keyed, keeps.listed⟩

theorem without (keeps : Keeps first past tracker) (address : Nat) :
    (tracker.records.erase address).values.Perm
      (((recorded past).filter (·.address ≠ address)).map Leak.Record.counted) := by
  rw [keeps.keyed.values_erase]
  have fewer := keeps.listed.filter (fun r => r.address ≠ address)
  rwa [List.filter_map] at fewer

theorem record {request : Request} {block : Block} (keeps : Keeps first past tracker) :
    Keeps first (⟨.allocate request, .ok (some block)⟩ :: past) (tracker.record block request) := by
  have keyed := keeps.keyed.insert
    ⟨block.address, request.size, request.site, tracker.nextSequence⟩
  refine ⟨keeps.same, ?_, keyed, ?_⟩
  · simp only [Tracker.record, keeps.next, successes, Nat.mod_add_mod]
  · refine (Table.values_insert_over tracker.records block.address _).trans ?_
    rw [recorded, List.map_append, List.map_singleton, Leak.Record.counted, keeps.next]
    exact ((keeps.without block.address).cons _).trans (List.perm_append_singleton _ _).symm

theorem erase {event : Event} {address : Nat} (keeps : Keeps first past tracker)
    (count : successes (event :: past) = successes past)
    (live : recorded (event :: past) = (recorded past).filter (·.address ≠ address)) :
    Keeps first (event :: past) { tracker with records := tracker.records.erase address } := by
  refine ⟨keeps.same, ?_, keeps.keyed.erase address, ?_⟩
  · rw [keeps.next, count]
  · rw [live]
    exact keeps.without address

theorem allocate {request : Request} {reply : Reply (Tracker × σ) Block}
    (keeps : Keeps first past tracker) (step : AllocateStep below request tracker s machine reply) :
    Keeps first (⟨.allocate request, (reply.map some).result⟩ :: past) reply.state.1 := by
  cases step with
  | refused disposed => exact keeps.refused
  | recorded active answer => exact keeps.record
  | failed active answer => exact keeps.idle rfl rfl

theorem free {block : Block} {reply : Reply (Tracker × σ) Unit} (keeps : Keeps first past tracker)
    (step : FreeStep below block tracker s machine reply) :
    Keeps first (⟨.free block, (reply.map fun _ => none).result⟩ :: past) reply.state.1 := by
  cases step with
  | untracked absent => exact keeps.refused
  | dropped found releases => exact keeps.erase rfl rfl
  | released found releases answer => exact keeps.erase rfl rfl
  | restored found releases answer =>
    rw [keeps.keyed.restore found]
    exact keeps.refused
  | lost found releases answer => exact keeps.erase rfl rfl

theorem dispose (keeps : Keeps first past tracker) (s : σ) (machine : Machine) :
    ∃ after, (Layer.reported s (tracker.dispose machine)).state = (.tracker after, s) ∧
      Keeps first (⟨.dispose, ((Layer.reported s (tracker.dispose machine)).map fun _ => none).result⟩ ::
        past) after := by
  obtain ⟨sink, disposed, same⟩ := tracker.dispose_same machine
  have told := keeps.told sink disposed
  generalize tracker.dispose machine = outcome at same ⊢
  obtain ⟨answer, after, machine'⟩ := outcome
  cases same
  cases answer with
  | ok report => exact ⟨_, rfl, told.idle rfl rfl⟩
  | error e => exact ⟨_, rfl, told.idle rfl rfl⟩

theorem snapshot (keeps : Keeps first past tracker) : tracker.snapshot.Lists first.name past := by
  have shuffled := (List.mergeSort_perm tracker.records.values
    fun a b => decide (a.sequence ≤ b.sequence)).trans keeps.listed
  have sorted : tracker.snapshot.leaks.Pairwise fun a b => a.sequence ≤ b.sequence := by
    refine (List.pairwise_mergeSort ?_ ?_ tracker.records.values).imp of_decide_eq_true
    · intro a b c first second
      exact decide_eq_true (Nat.le_trans (of_decide_eq_true first) (of_decide_eq_true second))
    · intro a b
      rw [Bool.or_eq_true, decide_eq_true_eq, decide_eq_true_eq]
      exact Nat.le_total _ _
  refine ⟨keeps.same.1, shuffled, sorted, fun few => ?_⟩
  have plain : (recorded past).map Leak.Record.counted = recorded past := by
    refine (List.map_congr_left fun r member => ?_).trans (List.map_id _)
    have small := Nat.lt_of_lt_of_le (recorded_counted past r member) few
    rw [Leak.Record.counted, Nat.mod_eq_of_lt small]
    rfl
  rw [plain] at shuffled
  refine List.Perm.eq_of_pairwise ?_ sorted ((recorded_ordered past).imp Nat.le_of_lt) shuffled
  intro a b first second le ge
  exact recorded_numbered (shuffled.mem_iff.1 first) second (Nat.le_antisymm le ge)

theorem verdict (keeps : Keeps first past tracker) (few : successes past ≤ Word.range)
    (strict : first.mode = .failFast) (machine : Machine) :
    tracker.reportLeaks machine = (Leak.verdict first.name (recorded past), tracker, machine) := by
  have leaks := keeps.snapshot.exact few
  have named : tracker.snapshot.allocator = first.name := keeps.same.1
  have mode := keeps.same.2.trans strict
  unfold reportLeaks
  dsimp only
  generalize tracker.snapshot = report at leaks named ⊢
  obtain ⟨allocator, _⟩ := report
  cases leaks
  cases named
  cases recorded past with
  | nil => rfl
  | cons oldest later =>
    dsimp only
    rw [mode, keeps.same.1]
    rfl

end Keeps

section
variable {below : Source σ} {first tracker : Tracker} {base s : σ} {origin machine : Machine}
  {past : List Event} {state : Layer × σ}

theorem Tracking.keeps (made : (Layer.tracker first).Made)
    (run : Tracking below first base origin past state machine) :
    ∃ tracker s, state = (.tracker tracker, s) ∧ Keeps first past tracker := by
  induction run with
  | start => exact ⟨first, base, rfl, .start made⟩
  | @call past state machine call before backed ih =>
    obtain ⟨tracker, s, rfl, keeps⟩ := ih
    cases call with
    | allocate request => exact ⟨_, _, rfl, keeps.allocate (allocate_step below request tracker s machine)⟩
    | free block => exact ⟨_, _, rfl, keeps.free (free_step below block tracker s machine)⟩
    | trim => exact ⟨tracker, s, rfl, keeps.idle rfl rfl⟩
    | dispose =>
      obtain ⟨after, left, kept⟩ := keeps.dispose s machine
      exact ⟨after, s, left, kept⟩
  | beside before after left ih =>
    obtain ⟨tracker, s, same, keeps⟩ := ih
    cases same
    exact ⟨tracker, after, rfl, keeps⟩

theorem Tracking.recorded_eq (run : Tracking below first base origin past state machine) :
    recorded past = unfreed past := by
  induction run with
  | start => rfl
  | call before backed ih => exact backed.recorded_eq ih
  | beside before after left ih => exact ih

theorem leaks_are_unfreed (made : (Layer.tracker first).Made)
    (run : Tracking below first base origin past (.tracker tracker, s) machine) :
    tracker.snapshot.leaks.Perm ((unfreed past).map Leak.Record.counted) ∧
    ((unfreed past).map Leak.Record.address).Nodup ∧
    (unfreed past).Pairwise (fun a b => a.sequence < b.sequence) ∧
    (successes past ≤ Word.range → tracker.snapshot.leaks = unfreed past ∧
      (first.mode = .failFast → ∀ machine, tracker.reportLeaks machine =
        (Leak.verdict first.name (unfreed past), tracker, machine))) := by
  obtain ⟨_, _, same, keeps⟩ := run.keeps made
  cases same
  have lists := keeps.snapshot
  rw [← run.recorded_eq]
  exact ⟨lists.complete, recorded_distinct past, recorded_ordered past,
    fun few => ⟨lists.exact few, keeps.verdict few⟩⟩

end

-- A tracker over a pool; a probe between them refuses the second allocation and the first block
-- that is given back.
def strictTracker : Tracker := { name := "leaks", mode := .failFast }

def fallibleBacking : Stack 2 :=
  (.probe { allocatePlan := .after 1 1, freePlan := .after 0 1 },
    .pool { owner := 1, name := "pool", config := {} }, .system {})

def strictCalls : List Call :=
  [.allocate ⟨24, 8, false, 1, 24, ⟨"main.rs", 9, 1⟩⟩, .free ⟨Platform.floor, 24, 8, .pool 1 24⟩,
    .free ⟨Platform.floor, 24, 8, .pool 1 24⟩, .allocate ⟨16, 8, false, 1, 16, ⟨"main.rs", 5, 1⟩⟩,
    .allocate ⟨24, 8, false, 1, 24, ⟨"main.rs", 3, 1⟩⟩]

def strictHistory : List Event × (Layer × Stack 2) × Machine :=
  played (Layer.perform (Stack.source 2)) (.tracker strictTracker, fallibleBacking)
    ⟨{ platform := .ascending }, []⟩ strictCalls

theorem leaks_are_unfreed_strictHistory :
    ∃ tracker s, strictHistory.2.1 = (.tracker tracker, s) ∧
      tracker.snapshot.leaks = [⟨Platform.floor, 24, ⟨"main.rs", 9, 1⟩, 1⟩] ∧
      (tracker.reportLeaks strictHistory.2.2).1 =
        .error (.leak "leaks" 1 (Leak.Record.text ⟨Platform.floor, 24, ⟨"main.rs", 9, 1⟩, 1⟩)) := by
  have made : (Layer.tracker strictTracker).Made := .tracker
  have run : Tracking (Stack.source 2) strictTracker fallibleBacking ⟨{ platform := .ascending }, []⟩
      strictHistory.1 strictHistory.2.1 strictHistory.2.2 := by
    refine .call (.call (.call (.call (.call .start ?_) ?_) ?_) ?_) ?_ <;> decide +kernel
  obtain ⟨tracker, s, same, _⟩ := run.keeps made
  rw [same] at run
  have left : unfreed strictHistory.1 = [⟨Platform.floor, 24, ⟨"main.rs", 9, 1⟩, 1⟩] := by
    decide +kernel
  obtain ⟨_, _, _, settled⟩ := leaks_are_unfreed made run
  obtain ⟨leaks, verdict⟩ := settled (by decide +kernel)
  refine ⟨tracker, s, same, leaks.trans left, ?_⟩
  rw [verdict rfl, left]
  rfl

end Tracker

end LayeredAllocation
