import LayeredAllocation.Error
import LayeredAllocation.Session.State
import LayeredAllocation.Text

namespace LayeredAllocation

inductive StrategyKind where
  | system
  | pages
  | arena
  | pool
  | slab
  | hybrid
  | largeBlock
deriving DecidableEq, Repr

namespace StrategyKind

def all : List StrategyKind := [.system, .pages, .arena, .pool, .slab, .hybrid, .largeBlock]

def text : StrategyKind → String
  | .system => "system"
  | .pages => "pages"
  | .arena => "arena"
  | .pool => "pool"
  | .slab => "slab"
  | .hybrid => "hybrid"
  | .largeBlock => "large-block"

-- Names are read without regard to blanks around them and to case.
def parse? (text : String) : Except Error StrategyKind :=
  match all.find? (fun kind => kind.text == Text.Blank.plain text) with
  | some kind => .ok kind
  | none => .error (.invalidArgument "strategy" ("unknown strategy '" ++ text ++ "'"))

theorem parse?_text (kind : StrategyKind) : parse? kind.text = .ok kind := by
  cases kind <;> rfl

end LayeredAllocation.StrategyKind

namespace LayeredAllocation.Session.State

def withStrategy (state : State) (name : String) (next : Handle → Response × State) :
    Response × State :=
  match state.strategies.find? name with
  | none => (.illFormed, state)
  | some handle => next handle

def withBody (state : State) (name : String) (next : Handle → Body → Response × State) :
    Response × State :=
  state.withStrategy name fun handle =>
    match state.registry.node? handle.number with
    | none => (.illFormed, state)
    | some node => next handle node.body

def addBottom (state : State) (bottom : Bottom) : Nat × State :=
  match state.registry.add (.bottom bottom) with
  | (number, registry) => (number, { state with registry })

def beneath? (state : State) (on : Option String) (private_ : Bottom) : Option (Nat × State) :=
  match on with
  | none => some (state.addBottom private_)
  | some name => (state.strategies.find? name).map fun handle => (handle.number, state)

def addOwned (state : State) (backing : Nat) (make : Nat → Layer) : Nat × State :=
  match state.registry.takeOwner with
  | (owner, registry) =>
    match registry.add (.layer backing (make owner)) with
    | (number, registry) => (number, { state with registry })

-- Names a new strategy and tells what it is like while whatever the name meant before is still
-- in use: a source beneath both may then give back what the old strategy held.
def introduce (state : State) (name : String) (handle : Handle) : Response × State :=
  let source := Registry.source handle.number
  let answer : Answer :=
    .strategy (source.name state.registry) (source.releases state.registry)
      (source.held state.registry)
  match state.bindStrategy name handle with
  | (result, state) => (respond result answer, state)

def createLayer (state : State) (name : String) (on : Option String) (private_ : Bottom)
    (valid : Except Error Unit) (facet : Facet) (make : Nat → Layer) : Response × State :=
  match state.beneath? on private_ with
  | none => (.illFormed, state)
  | some (backing, prepared) =>
    match valid with
    | .error e => (.fault (.refused e), state)
    | .ok () =>
      match prepared.addOwned backing make with
      | (number, made) => made.introduce name ⟨number, facet⟩

def heap : Bottom := .system {}

def plainPages : Bottom := .pages {}

def createTracker (state : State) (name : String) (on : Option String) (title : String)
    (mode : Option String) (sink : Option Leak.Destination) : Response × State :=
  match on.bind state.strategies.find? with
  | none => (.illFormed, state)
  | some handle =>
    let parsed : Except Error Leak.Mode :=
      match mode with
      | none => .ok .log
      | some text => Leak.Mode.parse? text
    match parsed with
    | .error e => (.fault (.refused e), state)
    | .ok mode =>
      let tracker : Tracker :=
        { name := title, mode, sink := { destination := sink.getD .elsewhere } }
      match state.registry.add (.layer handle.number (.tracker tracker)) with
      | (number, registry) =>
        let sinks := state.sinks.bind name number
        introduce { state with registry, sinks } name ⟨number, .tracker⟩

def create (state : State) (name : String) (recipe : Recipe) (on : Option String) :
    Response × State :=
  match recipe with
  | .system budget =>
    let store := (budget.map SystemStore.withBudget).getD {}
    match state.addBottom (.system store) with
    | (number, state) => state.introduce name ⟨number, .system⟩
  | .pages large =>
    match state.addBottom (.pages { prefersLarge := large }) with
    | (number, state) => state.introduce name ⟨number, .pages⟩
  | .arena config =>
    let config := config.getD {}
    state.createLayer name on heap config.validate .arena
      fun owner => .arena { owner, config }
  | .pool config =>
    let config := config.getD {}
    state.createLayer name on heap config.validate .pool
      fun owner => .pool { owner, name := "pool", config }
  | .largeBlock config =>
    let config := config.getD {}
    state.createLayer name on plainPages config.validate (.largeBlock config.minBlockSize)
      fun owner => .pool (config.pool owner)
  | .slab config =>
    let config := config.getD {}
    state.createLayer name on heap config.validate .slab fun owner => .slab (.make owner config)
  | .hybrid thresholds =>
    let thresholds := thresholds.getD {}
    state.createLayer name on heap (.ok ()) .hybrid fun owner => .hybrid { owner, thresholds }
  | .tracker title mode sink => state.createTracker name on title mode sink

def build (state : State) (name kind on : String) : Response × State :=
  state.withStrategy on fun handle =>
    let layer (make : Nat → Layer) : Response × State :=
      match state.addOwned handle.number make with
      | (number, state) => state.introduce name ⟨number, .built⟩
    let bottom (made : Bottom) : Response × State :=
      match state.addBottom made with
      | (number, state) => state.introduce name ⟨number, .built⟩
    match StrategyKind.parse? kind with
    | .error e => (.fault (.refused e), state)
    | .ok .system => bottom heap
    | .ok .pages => bottom plainPages
    | .ok .arena => layer fun owner => .arena { owner, config := {} }
    | .ok .pool => layer fun owner => .pool { owner, name := "pool", config := {} }
    | .ok .slab => layer fun owner => .slab (.make owner {})
    | .ok .hybrid => layer fun owner => .hybrid { owner, thresholds := {} }
    | .ok .largeBlock => layer fun owner => .pool (LargeBlockConfig.pool {} owner)

def dropStrategy (state : State) (name : String) : Response × State :=
  state.withStrategy name fun handle =>
    let unbound := { state with strategies := state.strategies.remove name }
    match unbound.release false handle.number with
    | (none, state) => (.answer .nothing, state)
    | (some message, state) => (.fault (.panicked message), state)

def figures? (facet : Facet) : Body → Except Fault Figures
  | .bottom (.system store) =>
    .ok (if facet = .system then .system store.remaining? else .none)
  | .bottom (.pages _) => .ok .none
  | .layer _ layer =>
    match facet, layer with
    | .arena, .arena arena => .ok (.arena arena.chunks.length arena.used arena.config.chunkSize)
    | .pool, .pool pool =>
      .ok (.pool (.ofPool pool) pool.disposed pool.config.granularity)
    | .largeBlock minBlockSize, .pool pool => .ok (.largeBlock (.ofPool pool) minBlockSize)
    | .slab, .slab slab =>
      if slab.interrupted then .error (.panicked Slab.interruptedMessage)
      else .ok (.slab (slab.classes.map .ofClass) slab.config.pageSize)
    | .hybrid, .hybrid hybrid =>
      .ok (.hybrid hybrid.pinned.size hybrid.pinnedBytes.read hybrid.thresholds.general)
    | .tracker, .tracker tracker =>
      .ok (.tracker tracker.records.size tracker.disposed tracker.mode)
    | _, _ => .ok .none

def statistics (state : State) (name : String) : Response × State :=
  state.withBody name fun handle body =>
    let source := Registry.source handle.number
    match figures? handle.facet body with
    | .error fault => (.fault fault, state)
    | .ok figures =>
      (.answer (.statistics (source.name state.registry) (source.releases state.registry)
        (source.held state.registry) figures), state)

def settlePool (state : State) (number backing : Nat) (reply : Reply (Pool × Registry) Unit) :
    Response × State :=
  let registry := reply.state.2.setBody number (.layer backing (.pool reply.state.1))
  (respond reply.result .nothing, { state with registry, machine := reply.machine })

def trim (state : State) (name : String) : Response × State :=
  state.withBody name fun handle body =>
    match handle.facet, body with
    | .built, _ => (.illFormed, state)
    | _, .layer backing (.pool pool) =>
      state.settlePool handle.number backing
        (Pool.trim (Registry.source backing) (pool, state.registry) state.machine)
    | _, _ => (.illFormed, state)

def shownReport (state : State) (report : Leak.Report) : ShownReport :=
  { allocator := report.allocator
    leaks := report.leaks.map fun record =>
      ⟨record, state.shownAddress record.address, state.shown record.text⟩
    lines := report.lines.map state.shown }

def settleTracker (state : State) (number backing : Nat)
    (outcome : Except Error Leak.Report × Tracker × Machine) : Response × State :=
  match outcome with
  | (result, tracker, machine) =>
    let registry := state.registry.setBody number (.layer backing (.tracker tracker))
    let state := { state with registry, machine }
    match result with
    | .error e => (.fault (.refused e), state)
    | .ok report => (.answer (.report (state.shownReport report)), state)

def close (state : State) (name : String) : Response × State :=
  state.withBody name fun handle body =>
    match handle.facet, body with
    | .built, _ => (.illFormed, state)
    | _, .layer backing (.pool pool) =>
      state.settlePool handle.number backing
        (Pool.dispose (Registry.source backing) (pool, state.registry) state.machine)
    | _, .layer backing (.tracker tracker) =>
      state.settleTracker handle.number backing (tracker.dispose state.machine)
    | _, _ => (.illFormed, state)

-- Takes a report from a tracker, either as its mode demands or as a mere look.
def report (state : State) (name : String) (look : Bool) : Response × State :=
  state.withBody name fun handle body =>
    match body with
    | .layer backing (.tracker tracker) =>
      state.settleTracker handle.number backing
        (if look then (.ok tracker.snapshot, tracker, state.machine)
        else tracker.reportLeaks state.machine)
    | _ => (.illFormed, state)

def sinkText (state : State) (name : String) : Response × State :=
  match state.sinks.find? name with
  | none => (.answer (.text ""), state)
  | some number =>
    match state.registry.node? number with
    | some { body := .layer _ (.tracker tracker), .. } =>
      (.answer (.text (state.shown tracker.sink.text)), state)
    | _ => (.illFormed, state)

def plan (state : State) (name : String) (target : FaultTarget) (count skip : Nat) :
    Response × State :=
  state.withStrategy name fun handle =>
    let plan := FaultPlan.after skip count
    let registry := state.registry.modify handle.number fun node =>
      match target with
      | .allocate => { node with probe := { node.probe with allocatePlan := plan } }
      | .free => { node with probe := { node.probe with freePlan := plan } }
    (.answer .nothing, { state with registry })

def calls (state : State) (name : String) : Response × State :=
  state.withStrategy name fun handle =>
    match state.registry.node? handle.number with
    | none => (.illFormed, state)
    | some node =>
      let ((requests, frees), probe) := node.probe.takeCalls
      let registry := state.registry.modify handle.number fun node => { node with probe }
      let addresses := (frees.map state.shownAddress).mergeSort fun a b => !decide (b < a)
      (.answer (.calls requests addresses), { state with registry })

def showBlock (state : State) (block : Block) : Answer :=
  .block (state.shownAddress block.address) block.size block.align block.tag

def allocateBlock (state : State) (strategy name : String) (words : RequestWords) :
    Response × State :=
  state.withStrategy strategy fun handle =>
    match words.request? with
    | .error e => (.fault (.refused e), state)
    | .ok request =>
      match state.settle
        ((Registry.source handle.number).allocate request state.registry state.machine) with
      | (.error fault, state) => (.fault fault, state)
      | (.ok block, state) =>
        (.answer (state.showBlock block), { state with blocks := state.blocks.bind name block })

def free (state : State) (strategy name : String) : Response × State :=
  state.withStrategy strategy fun handle =>
    match state.blocks.find? name with
    | none => (.illFormed, state)
    | some block =>
      match state.settle
        ((Registry.source handle.number).free block state.registry state.machine) with
      | (result, state) => (respond result .nothing, state)

def withBlock (state : State) (name : String) (next : Block → Response × State) :
    Response × State :=
  match state.blocks.find? name with
  | none => (.illFormed, state)
  | some block => next block

def forge (state : State) (name tagOf addressOf : String) (delta : Int) : Response × State :=
  state.withBlock tagOf fun tagged =>
    state.withBlock addressOf fun other =>
      let forged := { tagged with address := Word.wrap (other.address + delta) }
      (.answer (state.showBlock forged), { state with blocks := state.blocks.bind name forged })

def peek (state : State) (name : String) (start count : Nat) : Response × State :=
  state.withBlock name fun block =>
    (.answer (.bytes (state.machine.memory.bytes (block.address + start) count)), state)

def poke (state : State) (name : String) (start : Nat) (data : List UInt8) : Response × State :=
  state.withBlock name fun block =>
    let memory := state.machine.memory.writeBytes (block.address + start) data
    (.answer .nothing, { state with machine := { state.machine with memory } })

end LayeredAllocation.Session.State
