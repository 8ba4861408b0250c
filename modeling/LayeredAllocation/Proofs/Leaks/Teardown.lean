import LayeredAllocation.Proofs.Leaks
import LayeredAllocation.Strategy.Stores

namespace LayeredAllocation

namespace Leak.Sink
variable {sink middle after : Sink} {line : String} {lines : List String}

def Took (sink : Sink) (lines : List String) (after : Sink) : Prop :=
  after.text = if sink.destination = .elsewhere then sink.text
    else lines.foldl (fun text line => text ++ line ++ "\n") sink.text

theorem Took.nothing : sink.Took [] sink := by simp [Took]

theorem Took.first (same : middle.destination = .elsewhere ↔ sink.destination = .elsewhere)
    (took : sink.Took [line] middle) (rest : middle.Took lines after) :
    sink.Took (line :: lines) after := by
  unfold Took at *
  simp only [same] at rest
  rw [rest, took]
  split <;> rfl

theorem write_took (sink : Sink) (line : String) :
    ((sink.write line).2.destination = .elsewhere ↔ sink.destination = .elsewhere) ∧
      ((sink.write line).1 = .ok () → sink.Took [line] (sink.write line).2) ∧
      ((sink.write line).1 ≠ .ok () → sink.Took [] (sink.write line).2) := by
  obtain ⟨destination, text⟩ := sink
  match destination with
  | .kept | .stuck | .closed | .elsewhere | .scripted [] | .scripted (none :: _)
  | .scripted (some _ :: _) => simp [write, keep, Took]

theorem writeAll_took (lines : List String) (sink : Sink) :
    ∃ taken rest, lines = taken ++ rest ∧ sink.Took taken (writeAll lines sink).2 ∧
      ((writeAll lines sink).1 = .ok () ↔ rest = []) := by
  induction lines generalizing sink with
  | nil => exact ⟨[], [], rfl, .nothing, iff_of_true rfl rfl⟩
  | cons line rest ih =>
    obtain ⟨same, accepted, refused⟩ := sink.write_took line
    unfold writeAll
    generalize sink.write line = outcome at same accepted refused
    match outcome with
    | (.error e, middle) => exact ⟨[], line :: rest, rfl, refused nofun, iff_of_false nofun nofun⟩
    | (.ok (), middle) =>
      obtain ⟨taken, left, split, took, whole⟩ := ih middle
      exact ⟨line :: taken, left, congrArg _ split, .first same (accepted rfl) took, whole⟩

theorem flush_took (took : sink.Took lines middle) : sink.Took lines middle.flush.2 := by
  have text : middle.flush.2.text = middle.text := by
    obtain ⟨destination, text⟩ := middle
    match destination with
    | .kept | .stuck | .closed | .elsewhere | .scripted [] | .scripted (none :: _)
    | .scripted (some _ :: _) => rfl
  exact text.trans took

end Leak.Sink

inductive Leak.Told (report : Report) (sink : Sink) (machine : Machine) :
    Mode → Except Error Report → Sink → Machine → Prop where
  | clean {mode : Mode} (empty : report.leaks = []) :
      Told report sink machine mode (.ok report) sink machine
  | refused {oldest : Record} {later : List Record} (leaks : report.leaks = oldest :: later) :
      Told report sink machine .failFast
        (.error (.leak report.allocator report.leaks.length oldest.text)) sink machine
  | logged {left : Machine} (leaks : report.leaks ≠ []) (memory : left.memory = machine.memory)
      (lines : left.journal = (report.leaks.map fun leak =>
        ⟨.failure, report.allocator ++ ": leaked " ++ leak.text⟩).reverse ++ machine.journal) :
      Told report sink machine .log (.ok report) sink left
  | written {full after : Sink} (leaks : report.leaks ≠ [])
      (wrote : Sink.writeAll report.lines sink = (.ok (), full)) (flushed : full.flush = (.ok (), after))
      (took : sink.Took (report.leaks.map (Record.line report.allocator)) after) :
      Told report sink machine .machine (.ok report) after machine
  | unwritten {after : Sink} {e : String} {taken rest : List String} (leaks : report.leaks ≠ [])
      (wrote : Sink.writeAll report.lines sink = (.error e, after))
      (lines : report.leaks.map (Record.line report.allocator) = taken ++ rest) (stopped : rest ≠ [])
      (took : sink.Took taken after) :
      Told report sink machine .machine (.error (.io "writing leak report" e)) after machine
  | unflushed {full after : Sink} {e : String} (leaks : report.leaks ≠ [])
      (wrote : Sink.writeAll report.lines sink = (.ok (), full)) (flushed : full.flush = (.error e, after))
      (took : sink.Took (report.leaks.map (Record.line report.allocator)) after) :
      Told report sink machine .machine (.error (.io "flushing leak report" e)) after machine

namespace Tracker
variable {σ : Type} {below : Source σ} {first tracker : Tracker}

theorem foldl_failure (name : String) (leaks : List Leak.Record) (machine : Machine) :
    let left := leaks.foldl
      (fun machine leak => machine.failure (name ++ ": leaked " ++ leak.text)) machine
    left.memory = machine.memory ∧
      left.journal = (leaks.map fun leak =>
        ⟨.failure, name ++ ": leaked " ++ leak.text⟩).reverse ++ machine.journal := by
  induction leaks generalizing machine with
  | nil => exact ⟨rfl, rfl⟩
  | cons leak rest ih =>
    obtain ⟨memory, journal⟩ := ih (machine.failure (name ++ ": leaked " ++ leak.text))
    refine ⟨memory, journal.trans ?_⟩
    rw [List.map_cons, List.reverse_cons, List.append_assoc]
    rfl

theorem reportLeaks_told (tracker : Tracker) (machine : Machine) :
    ∃ answer sink left, tracker.reportLeaks machine = (answer, { tracker with sink }, left) ∧
      Leak.Told tracker.snapshot tracker.sink machine tracker.mode answer sink left := by
  unfold reportLeaks
  dsimp only
  split
  · next empty => exact ⟨_, tracker.sink, _, rfl, .clean empty⟩
  · next oldest later listed =>
    have leaks : tracker.snapshot.leaks ≠ [] := listed ▸ List.cons_ne_nil _ _
    split
    · next mode => exact ⟨_, tracker.sink, _, rfl, mode ▸ .refused listed⟩
    · next mode =>
      obtain ⟨memory, lines⟩ := foldl_failure tracker.name tracker.snapshot.leaks machine
      exact ⟨_, tracker.sink, _, rfl, mode ▸ .logged leaks memory lines⟩
    · next mode =>
      obtain ⟨taken, rest, lines, took, whole⟩ :=
        Leak.Sink.writeAll_took tracker.snapshot.lines tracker.sink
      unfold writeReport
      split
      · next e sink wrote =>
        rw [wrote] at took whole
        have stopped : rest ≠ [] := fun none => nomatch whole.2 none
        exact ⟨_, sink, _, rfl, mode ▸ .unwritten leaks wrote lines stopped took⟩
      · next full wrote =>
        rw [wrote] at took whole
        rw [whole.1 rfl, List.append_nil] at lines
        have took := Leak.Sink.flush_took (lines ▸ took)
        split
        · next e sink flushed =>
          rw [flushed] at took
          exact ⟨_, sink, _, rfl, mode ▸ .unflushed leaks wrote flushed took⟩
        · next sink flushed =>
          rw [flushed] at took
          exact ⟨_, sink, _, rfl, mode ▸ .written leaks wrote flushed took⟩

-- What a tracker goes through until it is dropped. Others may do with the source beneath and with the
-- machine what they like.
inductive Use (σ : Type) where
  | allocate (request : Request)
  | free (block : Block)
  | report
  | dispose
  | beside (beneath : σ) (machine : Machine)

structure Scene (σ : Type) where
  tracker : Tracker
  beneath : σ
  machine : Machine
  past : List Event

namespace Scene

def called (scene : Scene σ) (call : Call) (reply : Reply (Tracker × σ) (Option Block)) : Scene σ :=
  ⟨reply.state.1, reply.state.2, reply.machine, ⟨call, reply.result⟩ :: scene.past⟩

def use (below : Source σ) (scene : Scene σ) : Use σ → Scene σ
  | .allocate request =>
    let reply := allocate below request (scene.tracker, scene.beneath) scene.machine
    scene.called (.allocate request) (reply.map some)
  | .free block =>
    let reply := Tracker.free below block (scene.tracker, scene.beneath) scene.machine
    scene.called (.free block) (reply.map fun _ => none)
  | .report =>
    let (_, tracker, machine) := scene.tracker.reportLeaks scene.machine
    { scene with tracker, machine }
  | .dispose =>
    let (_, tracker, machine) := scene.tracker.dispose scene.machine
    { scene with tracker, machine }
  | .beside beneath machine => { scene with beneath, machine }

end Scene

inductive Occasion (σ : Type) where
  | disposal (scene : Scene σ)
  | drop (scene : Scene σ)

-- All that come up, the earliest first. The last is that the tracker is dropped, after all uses.
def occasions (below : Source σ) : List (Use σ) → Scene σ → List (Occasion σ)
  | [], scene => [.drop scene]
  | .dispose :: later, scene => .disposal scene :: occasions below later (scene.use below .dispose)
  | use :: later, scene => occasions below later (scene.use below use)

namespace Occasion

-- The tracker is torn down with a report of what is on record, going by the history.
def Reports (first : Tracker) (panicking : Bool) : Occasion σ → Prop
  | .disposal ⟨tracker, _, machine, past⟩ =>
    ∃ report answer sink left, report.Lists first.name past ∧
      Leak.Told report tracker.sink machine first.mode answer sink left ∧
      tracker.dispose machine = (answer, { tracker with sink, disposed := true }, left)
  | .drop ⟨tracker, _, machine, past⟩ =>
    ∃ report answer sink left, report.Lists first.name past ∧
      Leak.Told report tracker.sink machine first.mode answer sink left ∧
      tracker.close panicking machine =
        match answer with
        | .ok _ => (none, { tracker with sink, disposed := true }, left)
        | .error e =>
          if first.mode = .failFast ∧ panicking = false then
            (some e.message, { tracker with sink, disposed := true }, left)
          else
            (none, { tracker with sink, disposed := true }, left.failure (first.name ++ ": " ++ e.message))

-- What is on record is answered, or nothing is. Nobody else gets to know of anything, and nothing
-- changes.
def Silent (first : Tracker) (panicking : Bool) : Occasion σ → Prop
  | .disposal ⟨tracker, _, machine, past⟩ =>
    ∃ report, report.Lists first.name past ∧ tracker.dispose machine = (.ok report, tracker, machine)
  | .drop ⟨tracker, _, machine, _⟩ => tracker.close panicking machine = (none, tracker, machine)

theorem reports_of_active {scene : Scene σ} (keeps : Keeps first scene.past scene.tracker)
    (active : scene.tracker.disposed = false) (panicking : Bool) :
    (Occasion.disposal scene).Reports first panicking ∧ (Occasion.drop scene).Reports first panicking := by
  obtain ⟨tracker, beneath, machine, past⟩ := scene
  obtain ⟨answer, sink, left, reported, told⟩ :=
    reportLeaks_told { tracker with disposed := true } machine
  have idle : ¬ tracker.disposed = true := Bool.eq_false_iff.1 active
  obtain ⟨name, mode⟩ : tracker.name = first.name ∧ tracker.mode = first.mode := keeps.same
  change Leak.Told tracker.snapshot tracker.sink machine tracker.mode answer sink left at told
  rw [mode] at told
  constructor
  · refine ⟨tracker.snapshot, answer, sink, left, keeps.snapshot, told, ?_⟩
    rw [Tracker.dispose, if_neg idle, reported]
  · refine ⟨tracker.snapshot, answer, sink, left, keeps.snapshot, told, ?_⟩
    rw [close, if_neg idle, reported, ← name, ← mode]
    cases answer <;> rfl

theorem silent_of_disposed {scene : Scene σ} (keeps : Keeps first scene.past scene.tracker)
    (disposed : scene.tracker.disposed = true) (panicking : Bool) :
    (Occasion.disposal scene).Silent first panicking ∧ (Occasion.drop scene).Silent first panicking :=
  ⟨⟨scene.tracker.snapshot, keeps.snapshot, if_pos disposed⟩, if_pos disposed⟩

end Occasion

theorem dispose_disposed (tracker : Tracker) (machine : Machine) :
    (tracker.dispose machine).2.1.disposed = true := by
  unfold dispose
  split
  · next disposed => exact disposed
  · obtain ⟨sink, same⟩ := reportLeaks_same { tracker with disposed := true } machine
    rw [same]

namespace Scene
variable {scene : Scene σ} {uses : List (Use σ)}

theorem use_disposed (below : Source σ) (scene : Scene σ) (use : Use σ) :
    (scene.use below use).tracker.disposed = true ↔
      scene.tracker.disposed = true ∨ use = .dispose := by
  obtain ⟨tracker, beneath, machine, past⟩ := scene
  cases use with
  | allocate request =>
    have step := allocate_step below request tracker beneath machine
    unfold Scene.use called
    dsimp only
    generalize allocate below request (tracker, beneath) machine = reply at step ⊢
    cases step <;> simp [Reply.map, record]
  | free block =>
    have step := free_step below block tracker beneath machine
    unfold Scene.use called
    dsimp only
    generalize Tracker.free below block (tracker, beneath) machine = reply at step ⊢
    cases step <;> simp [Reply.map]
  | report =>
    obtain ⟨sink, same⟩ := reportLeaks_same tracker machine
    have kept : ((Scene.mk tracker beneath machine past).use below .report).tracker =
      { tracker with sink } := same
    rw [kept]
    simp
  | dispose => exact iff_of_true (dispose_disposed tracker machine) (.inr rfl)
  | beside after left => simp [Scene.use]

theorem uses_disposed (below : Source σ) (uses : List (Use σ)) (scene : Scene σ) :
    (uses.foldl (Scene.use below) scene).tracker.disposed = true ↔
      scene.tracker.disposed = true ∨ .dispose ∈ uses := by
  induction uses generalizing scene with
  | nil => simp
  | cons use rest ih => rw [List.foldl_cons, ih, scene.use_disposed, List.mem_cons, or_assoc,
      eq_comm (a := use)]

theorem use_keeps (keeps : Keeps first scene.past scene.tracker) (below : Source σ) (use : Use σ) :
    Keeps first (scene.use below use).past (scene.use below use).tracker := by
  obtain ⟨tracker, beneath, machine, past⟩ := scene
  cases use with
  | allocate request => exact keeps.allocate (allocate_step below request tracker beneath machine)
  | free block => exact keeps.free (free_step below block tracker beneath machine)
  | report =>
    obtain ⟨sink, same⟩ := reportLeaks_same tracker machine
    change Keeps first past (tracker.reportLeaks machine).2.1
    rw [same]
    exact keeps.told sink tracker.disposed
  | dispose =>
    obtain ⟨sink, disposed, same⟩ := tracker.dispose_same machine
    change Keeps first past (tracker.dispose machine).2.1
    rw [same]
    exact keeps.told sink disposed
  | beside after left => exact keeps

theorem uses_keeps (keeps : Keeps first scene.past scene.tracker) (below : Source σ)
    (uses : List (Use σ)) :
    Keeps first (uses.foldl (Scene.use below) scene).past (uses.foldl (Scene.use below) scene).tracker := by
  induction uses generalizing scene with
  | nil => exact keeps
  | cons use rest ih => exact ih (use_keeps keeps below use)

theorem occasions_of_ne {use : Use σ} (other : use ≠ .dispose) (later : List (Use σ)) :
    occasions below (use :: later) scene = occasions below later (scene.use below use) := by
  cases use with
  | dispose => exact absurd rfl other
  | allocate request | free block | report | beside after left => rfl

theorem silent_of_mem (keeps : Keeps first scene.past scene.tracker)
    (disposed : scene.tracker.disposed = true) (panicking : Bool) {occasion : Occasion σ}
    (member : occasion ∈ occasions below uses scene) : occasion.Silent first panicking := by
  induction uses generalizing scene with
  | nil =>
    rw [List.mem_singleton.1 member]
    exact (Occasion.silent_of_disposed keeps disposed panicking).2
  | cons use later ih =>
    have still := (scene.use_disposed below use).2 (.inl disposed)
    have kept := use_keeps keeps below use
    by_cases same : use = .dispose
    · subst same
      rcases List.mem_cons.1 member with rfl | rest
      · exact (Occasion.silent_of_disposed keeps disposed panicking).1
      · exact ih kept still rest
    · rw [occasions_of_ne same] at member
      exact ih kept still member

theorem occasions_of_active (keeps : Keeps first scene.past scene.tracker)
    (active : scene.tracker.disposed = false) (panicking : Bool) :
    ∃ occasion others, occasions below uses scene = occasion :: others ∧
      occasion.Reports first panicking ∧ (∀ other ∈ others, other.Silent first panicking) ∧
      (occasion = .drop (uses.foldl (Scene.use below) scene) ↔ .dispose ∉ uses) := by
  induction uses generalizing scene with
  | nil => exact ⟨_, _, rfl, (Occasion.reports_of_active keeps active panicking).2, nofun, by simp⟩
  | cons use later ih =>
    have kept := use_keeps keeps below use
    by_cases same : use = .dispose
    · subst same
      refine ⟨_, _, rfl, (Occasion.reports_of_active keeps active panicking).1, ?_, by simp⟩
      intro other member
      have disposed := (scene.use_disposed below .dispose).2 (.inr rfl)
      exact silent_of_mem kept disposed panicking member
    · have active : (scene.use below use).tracker.disposed = false := by
        rw [Bool.eq_false_iff, ne_eq, scene.use_disposed below use, active]
        simp [same]
      obtain ⟨occasion, others, first, reports, silent, last⟩ := ih kept active
      refine ⟨occasion, others, (occasions_of_ne same later).trans first, reports, silent, ?_⟩
      rw [List.foldl_cons, last, List.mem_cons, not_or, and_iff_right (Ne.symm same)]

end Scene

theorem free_disposed (source : Source σ) (block : Block) (tracker : Tracker) (s : σ) (machine : Machine)
    (disposed : Bool) :
    Tracker.free source block ({ tracker with disposed }, s) machine =
      (Tracker.free source block (tracker, s) machine).mapState
        fun state => ({ state.1 with disposed }, state.2) := by
  unfold Tracker.free
  dsimp only
  cases tracker.records.find? block.address with
  | none => rfl
  | some record =>
    dsimp only
    split
    · generalize source.free block s machine = reply
      match reply with
      | ⟨.ok (), _, _⟩ | ⟨.error (.refused _), _, _⟩ | ⟨.error (.panicked _), _, _⟩ => rfl
    · rfl

-- A tracker in any mode with any sink, used in any way over any source and dropped at last. It is torn
-- down with one report of what is on record, at the first disposal or else when it is dropped, and
-- disposing of it again or dropping it does nothing more. After a disposal it refuses to allocate,
-- whatever lies beneath, and takes back what it would have taken back before.
theorem torn_down_once (made : (Layer.tracker first).Made) (below : Source σ) (beneath : σ)
    (machine : Machine) (uses : List (Use σ)) (panicking : Bool) :
    let start : Scene σ := ⟨first, beneath, machine, []⟩
    let last := uses.foldl (Scene.use below) start
    (∃ occasion others, occasions below uses start = occasion :: others ∧
      occasion.Reports first panicking ∧ (∀ other ∈ others, other.Silent first panicking) ∧
      (occasion = .drop last ↔ .dispose ∉ uses)) ∧
    (.dispose ∈ uses → ∀ (source : Source σ) (s : σ) (now : Machine),
      (∀ request, allocate source request (last.tracker, s) now =
        .refuse (.invalidOperation ("allocate on disposed leak tracker '" ++ first.name ++ "'"))
          (last.tracker, s) now) ∧
      ∀ block, Tracker.free source block (last.tracker, s) now =
        (Tracker.free source block ({ last.tracker with disposed := false }, s) now).mapState
          fun state => ({ state.1 with disposed := true }, state.2)) := by
  intro start last
  have keeps : Keeps first start.past start.tracker := .start made
  have active : start.tracker.disposed = false := by
    cases made
    rfl
  refine ⟨Scene.occasions_of_active keeps active panicking, ?_⟩
  intro given source s now
  have disposed : last.tracker.disposed = true := (Scene.uses_disposed below uses start).2 (.inr given)
  constructor
  · intro request
    have named : last.tracker.name = first.name := (Scene.uses_keeps keeps below uses).same.1
    unfold allocate
    dsimp only
    rw [if_pos disposed, named]
  · intro block
    have same : last.tracker =
        { ({ last.tracker with disposed := false } : Tracker) with disposed := true } := by
      rw [← disposed]
    rw [same]
    exact free_disposed source block { last.tracker with disposed := false } s now true

def lateTracker : Tracker :=
  { name := "late"
    mode := .machine
    sink := { destination := .scripted [none, none, some "disk full"] } }

def lateUses : List (Use SystemStore) :=
  [.allocate ⟨24, 8, false, 1, 24, ⟨"main.rs", 3, 1⟩⟩, .allocate ⟨16, 8, false, 1, 16, ⟨"main.rs", 5, 1⟩⟩,
    .free ⟨Platform.floor, 24, 8, .system⟩, .report, .dispose,
    .allocate ⟨8, 8, false, 1, 8, ⟨"main.rs", 9, 1⟩⟩, .dispose,
    .free ⟨Platform.floor + 4096, 16, 8, .system⟩, .dispose]

def lateScene : Scene SystemStore := ⟨lateTracker, {}, { memory := { platform := .ascending } }, []⟩

def lateLeak : Leak.Record := ⟨Platform.floor + 4096, 16, ⟨"main.rs", 5, 1⟩, 1⟩

-- It is disposed of three times and dropped. The first disposal reports the block that is left; the
-- second only answers it, and the third, after the block was freed, answers that nothing is left.
theorem torn_down_once_lateTracker :
    ∃ scene again late last, occasions SystemStore.source lateUses lateScene =
        [.disposal scene, .disposal again, .disposal late, .drop last] ∧
      (∃ answer sink left,
        Leak.Told ⟨"late", [lateLeak]⟩ scene.tracker.sink scene.machine .machine answer sink left ∧
        scene.tracker.dispose scene.machine = (answer, { scene.tracker with sink, disposed := true }, left)) ∧
      again.tracker.dispose again.machine = (.ok ⟨"late", [lateLeak]⟩, again.tracker, again.machine) ∧
      late.tracker.dispose late.machine = (.ok ⟨"late", []⟩, late.tracker, late.machine) ∧
      last.tracker.close false last.machine = (none, last.tracker, last.machine) ∧
      (allocate SystemStore.source ⟨8, 8, false, 1, 8, ⟨"main.rs", 9, 1⟩⟩ (last.tracker, {})
        lateScene.machine).result =
        .error (.refused (.invalidOperation "allocate on disposed leak tracker 'late'")) := by
  have made : (Layer.tracker lateTracker).Made := .tracker
  have given : .dispose ∈ lateUses := by simp [lateUses]
  obtain ⟨⟨occasion, others, met, reports, silent, -⟩, stopped⟩ :=
    torn_down_once made SystemStore.source {} lateScene.machine lateUses false
  obtain ⟨refuses, -⟩ := stopped given SystemStore.source {} lateScene.machine
  cases met
  obtain ⟨found, foundLists, again⟩ := silent _ List.mem_cons_self
  obtain ⟨none, noneLists, late⟩ := silent _ (List.mem_cons_of_mem _ List.mem_cons_self)
  have last := silent _ (List.mem_cons_of_mem _ (List.mem_cons_of_mem _ List.mem_cons_self))
  refine ⟨_, _, _, _, rfl, ?_, ?_, ?_, last, congrArg Reply.result (refuses _)⟩
  · obtain ⟨report, answer, sink, left, lists, told, disposed⟩ := reports
    have one : report = ⟨"late", [lateLeak]⟩ :=
      (lists.eq (by decide +kernel)).trans (by decide +kernel)
    exact ⟨answer, sink, left, one ▸ told, disposed⟩
  · have one : found = ⟨"late", [lateLeak]⟩ :=
      (foundLists.eq (by decide +kernel)).trans (by decide +kernel)
    exact one ▸ again
  · have nothing : none = ⟨"late", []⟩ :=
      (noneLists.eq (by decide +kernel)).trans (by decide +kernel)
    exact nothing ▸ late

end Tracker

end LayeredAllocation
