import LayeredAllocation.Proofs.Steps.Layer

namespace LayeredAllocation

variable {σ : Type}

-- What some calls have made of the state of a source, with the blocks that were given to its `free`,
-- whether it took them or not. The newest comes first.
inductive Source.Called (below : Source σ) (s : σ) : List Block → σ → Prop where
  | start : Called below s [] s
  | asked {given : List Block} {after : σ} (before : Called below s given after) (request : Request)
      (machine : Machine) : Called below s given (below.allocate request after machine).state
  | given {given : List Block} {after : σ} (before : Called below s given after) (block : Block)
      (machine : Machine) : Called below s (block :: given) (below.free block after machine).state

namespace Source.Called
variable {below : Source σ} {s after last : σ} {request : Request} {block : Block}
  {machine machine' : Machine}

theorem allocated {result : Except Fault Block} {given : List Block}
    (before : below.Called s given after)
    (answer : below.allocate request after machine = ⟨result, last, machine'⟩) :
    below.Called s given last := by
  have called := before.asked request machine
  rwa [answer] at called

theorem freed {result : Except Fault Unit} {given : List Block} (before : below.Called s given after)
    (answer : below.free block after machine = ⟨result, last, machine'⟩) :
    below.Called s (block :: given) last := by
  have called := before.given block machine
  rwa [answer] at called

end Source.Called

inductive Source.GivenBack (below : Source σ) (s : σ) : List Block → σ → Prop where
  | start : GivenBack below s [] s
  | given {given : List Block} {after : σ} (before : GivenBack below s given after) (block : Block)
      (machine : Machine) : GivenBack below s (block :: given) (below.free block after machine).state

namespace Source.GivenBack
variable {below : Source σ} {s after last : σ} {block : Block} {machine machine' : Machine}

theorem called {given : List Block} (freed : below.GivenBack s given after) :
    below.Called s given after := by
  induction freed with
  | start => exact .start
  | given before block machine ih => exact ih.given block machine

theorem freed {result : Except Fault Unit} {given : List Block} (before : below.GivenBack s given after)
    (answer : below.free block after machine = ⟨result, last, machine'⟩) :
    below.GivenBack s (block :: given) last := by
  have freed := before.given block machine
  rwa [answer] at freed

theorem trans {earlier later : List Block} (first : below.GivenBack s earlier after)
    (second : below.GivenBack after later last) : below.GivenBack s (later ++ earlier) last := by
  induction second with
  | start => exact first
  | given before block machine ih => exact ih.given block machine

end Source.GivenBack

namespace Layer
open Source.Called

theorem allocate_called (below : Source σ) (request : Request) (layer : Layer) (s : σ)
    (machine : Machine) :
    ∃ given, below.Called s given ((source below).allocate request (layer, s) machine).state.2 := by
  have step := allocate_step below request layer s machine
  generalize (source below).allocate request (layer, s) machine = reply at step ⊢
  cases step with
  | alone stays same => exact ⟨[], start⟩
  | pinned placed => exact ⟨[], start⟩
  | asked stays proper answer same => exact ⟨[], start.allocated answer⟩
  | returned proper answer freed same => exact ⟨[_], (start.allocated answer).freed freed⟩

theorem free_called (below : Source σ) (block : Block) (layer : Layer) (s : σ) (machine : Machine) :
    ∃ given, below.Called s given ((source below).free block (layer, s) machine).state.2 := by
  have step := free_step below block layer s machine
  generalize (source below).free block (layer, s) machine = reply at step ⊢
  cases step with
  | taken stays runs => exact ⟨[], start⟩
  | refused stays runs same => exact ⟨[], start⟩
  | interrupted interrupted => exact ⟨[], start⟩
  | unpinned found => exact ⟨[], start⟩
  | handed stays runs answer => exact ⟨[_], start.freed answer⟩

end Layer

-- What has become of blocks that a source was to take back one after the other. Given it was some of
-- them, the newest first; the rest it was not given any more, because it panicked over the last one.
structure Source.Offered (below : Source σ) (blocks : List Block) (s : σ) (given rest : List Block)
    (after : σ) : Prop where
  freed : below.GivenBack s given after
  all : given.reverse ++ rest = blocks
  stopped : rest ≠ [] → ∃ last earlier state machine message, given = last :: earlier ∧
    below.GivenBack s earlier state ∧
      (below.free last state machine).result = .error (.panicked message)

namespace Source.Offered
variable {below : Source σ} {blocks given rest : List Block} {block : Block} {s after last : σ}
  {machine machine' : Machine}

theorem nothing : below.Offered [] s [] [] s := ⟨.start, rfl, fun some => absurd rfl some⟩

theorem first {result : Except Fault Unit}
    (answer : below.free block s machine = ⟨result, after, machine'⟩)
    (others : below.Offered blocks after given rest last) :
    below.Offered (block :: blocks) s (given ++ [block]) rest last := by
  have freed := GivenBack.start.freed answer
  refine ⟨freed.trans others.freed, ?_, ?_⟩
  · rw [List.reverse_append, ← others.all]
    rfl
  · intro some
    obtain ⟨final, earlier, state, machine, message, rfl, before, stopped⟩ := others.stopped some
    exact ⟨final, earlier ++ [block], state, machine, message, rfl, freed.trans before, stopped⟩

theorem panicked {message : String}
    (answer : below.free block s machine = ⟨.error (.panicked message), after, machine'⟩) :
    below.Offered (block :: blocks) s [block] blocks after := by
  refine ⟨GivenBack.start.freed answer, rfl, fun _ => ?_⟩
  exact ⟨block, [], s, machine, message, rfl, .start, by rw [answer]⟩

end Source.Offered

section
variable (below : Source σ)

theorem Arena.releaseChunks_offers (chunks : List Block) (s : σ) (machine : Machine) :
    let reply := releaseChunks below chunks s machine
    ∃ given rest, below.Offered chunks s given rest reply.state := by
  induction chunks generalizing s machine with
  | nil => exact ⟨[], [], .nothing⟩
  | cons chunk others ih =>
    unfold releaseChunks
    generalize answer : below.free chunk s machine = reply
    obtain ⟨result, after, machine'⟩ := reply
    rcases result with (e | message) | _
    · obtain ⟨given, rest, offered⟩ := ih after _
      exact ⟨_, rest, offered.first answer⟩
    · exact ⟨[chunk], others, .panicked answer⟩
    · obtain ⟨given, rest, offered⟩ := ih after machine'
      exact ⟨_, rest, offered.first answer⟩

theorem Slab.releasePages_offers (pages : List SlabPage) (s : σ) (machine : Machine) :
    let reply := releasePages below pages s machine
    ∃ given rest, below.Offered (pages.map SlabPage.block) s given rest reply.state := by
  induction pages generalizing s machine with
  | nil => exact ⟨[], [], .nothing⟩
  | cons page others ih =>
    unfold releasePages
    generalize answer : below.free page.block s machine = reply
    obtain ⟨result, after, machine'⟩ := reply
    rcases result with (e | message) | _
    · obtain ⟨given, rest, offered⟩ := ih after _
      exact ⟨_, rest, offered.first answer⟩
    · exact ⟨[page.block], _, .panicked answer⟩
    · obtain ⟨given, rest, offered⟩ := ih after machine'
      exact ⟨_, rest, offered.first answer⟩

theorem Pool.releaseAll_offers (blocks : List Block) (refusal : Option Error) (pool : Pool) (s : σ)
    (machine : Machine) :
    ∃ given rest, below.Offered blocks s given rest
      (releaseAll below refusal blocks pool s machine).state.2 := by
  induction blocks generalizing refusal pool s machine with
  | nil =>
    unfold releaseAll
    cases refusal with
    | none => exact ⟨[], [], .nothing⟩
    | some e => exact ⟨[], [], .nothing⟩
  | cons block others ih =>
    unfold releaseAll
    generalize answer : below.free block s machine = reply
    obtain ⟨result, after, machine'⟩ := reply
    rcases result with (e | message) | _
    · obtain ⟨given, rest, offered⟩ := ih (refusal.or (some e)) pool after _
      exact ⟨_, rest, offered.first answer⟩
    · exact ⟨[block], others, .panicked answer⟩
    · obtain ⟨given, rest, offered⟩ :=
        ih refusal { pool with held := pool.held.sub block.size } after machine'
      exact ⟨_, rest, offered.first answer⟩

theorem Arena.close_offers (arena : Arena) (s : σ) (machine : Machine) :
    let reply := arena.close below s machine
    ∃ given rest, below.Offered arena.chunks s given rest reply.state := by
  obtain ⟨given, rest, offered⟩ := releaseChunks_offers below arena.chunks s machine
  refine ⟨given, rest, ?_⟩
  unfold close
  generalize releaseChunks below arena.chunks s machine = reply at offered ⊢
  obtain ⟨result, after, machine'⟩ := reply
  cases result with
  | error fault => exact offered
  | ok value =>
    dsimp only
    split
    · exact offered
    · exact offered

theorem Pool.close_offers (pool : Pool) (s : σ) (machine : Machine) :
    let reply := pool.close below s machine
    ∃ given rest, below.Offered pool.idleBlocks s given rest reply.state := by
  unfold close
  dsimp only
  generalize (if pool.outstanding.isEmpty then machine else _) = noted
  obtain ⟨given, rest, offered⟩ := releaseAll_offers below pool.idleBlocks none pool.emptied s noted
  refine ⟨given, rest, ?_⟩
  generalize releaseAll below none pool.idleBlocks pool.emptied s noted = reply at offered ⊢
  obtain ⟨result, ⟨after, left⟩, machine'⟩ := reply
  rcases result with (error | message) | _
  · exact offered
  · exact offered
  · exact offered

end

namespace Layer

-- The memory from beneath that a layer gives back when it ends.
def stock : Layer → List Block
  | .arena inner => inner.chunks
  | .pool inner => inner.idleBlocks
  | .slab inner => inner.pages.map SlabPage.block
  | .hybrid _ | .tracker _ | .probe _ => []

def Stores : Layer → Prop
  | .arena _ | .pool _ | .slab _ => True
  | .hybrid _ | .tracker _ | .probe _ => False

theorem close_offers {layer : Layer} (stores : layer.Stores) (below : Source σ) (panicking : Bool)
    (s : σ) (machine : Machine) :
    let ending := layer.close below panicking s machine
    (∃ given rest, below.Offered layer.stock s given rest ending.beneath) ∧
      ending.layer = layer := by
  cases layer with
  | arena inner =>
    obtain ⟨given, rest, offered⟩ := inner.close_offers below s machine
    refine ⟨⟨given, rest, ?_⟩, ofReply_layer _ _⟩
    rw [close, ofReply_beneath]
    exact offered
  | pool inner =>
    obtain ⟨given, rest, offered⟩ := inner.close_offers below s machine
    refine ⟨⟨given, rest, ?_⟩, ofReply_layer _ _⟩
    rw [close, ofReply_beneath]
    exact offered
  | slab inner =>
    obtain ⟨given, rest, offered⟩ := Slab.releasePages_offers below inner.pages s machine
    refine ⟨⟨given, rest, ?_⟩, ofReply_layer _ _⟩
    rw [close, ofReply_beneath]
    exact offered
  | hybrid inner | tracker inner | probe inner => exact stores.elim

theorem close_called (below : Source σ) (panicking : Bool) (layer : Layer) (s : σ)
    (machine : Machine) :
    ∃ given, below.Called s given (layer.close below panicking s machine).beneath := by
  by_cases stores : layer.Stores
  · obtain ⟨⟨given, _, offered⟩, _⟩ := close_offers stores below panicking s machine
    exact ⟨given, offered.freed.called⟩
  · cases layer with
    | arena inner | pool inner | slab inner => exact absurd trivial stores
    | hybrid inner | tracker inner | probe inner => exact ⟨[], .start⟩

end Layer

end LayeredAllocation
