import LayeredAllocation.Source

namespace LayeredAllocation

structure ArenaConfig where
  chunkSize : Nat := 64 * 1024
deriving DecidableEq, Repr

def ArenaConfig.chunkAlign : Nat := 16

def ArenaConfig.validate (config : ArenaConfig) : Except Error Unit :=
  Error.verify (chunkAlign ≤ config.chunkSize) "chunk_size" "self.chunk_size >= CHUNK_ALIGN"

structure Arena where
  owner : Nat
  config : ArenaConfig
  chunks : List Block := []
  current : Option Nat := none
  cursor : Nat := 0
  -- Bytes handed out, with the bytes skipped for alignment.
  used : Nat := 0

namespace Arena
open Text.Numeral (decimal)

def name : String := "arena"

def chunkLimit : Nat := 0x1_0000_0000

-- Where in the chunk in use a request goes: the chunk's number, the chunk, and the offsets at
-- which the block starts and stops.
def fit? (arena : Arena) (request : Request) : Option (Nat × Block × Nat × Nat) :=
  match arena.current with
  | none => none
  | some index =>
    match arena.chunks[index]? with
    | none => none
    | some chunk =>
      match Word.roundUp? (chunk.address + arena.cursor) request.align with
      | none => none
      | some start =>
        let offset := start - chunk.address
        let stop := offset + request.size
        if stop ≤ chunk.size ∧ stop < Word.range then some (index, chunk, offset, stop) else none

def carve (arena : Arena) (index : Nat) (chunk : Block) (offset : Nat) (request : Request) : Block :=
  ⟨chunk.address + offset, request.size, request.align, .arena arena.owner (Word.low32 index)⟩

def advance (arena : Arena) (stop : Nat) : Arena :=
  { arena with used := arena.used + (stop - arena.cursor), cursor := stop }

def adopt (arena : Arena) (chunk : Block) (request : Request) : Arena :=
  let grown := { arena with chunks := arena.chunks ++ [chunk], used := arena.used + request.size }
  if arena.config.chunkSize < request.size then grown
  else { grown with current := some arena.chunks.length, cursor := request.size }

theorem adopt_chunks (arena : Arena) (chunk : Block) (request : Request) :
    (arena.adopt chunk request).chunks = arena.chunks ++ [chunk] := by
  unfold adopt
  dsimp only
  split <;> rfl

def chunkRequest? (arena : Arena) (request : Request) : Except Error Request :=
  Request.bytes? (max request.size arena.config.chunkSize)
    (max request.align ArenaConfig.chunkAlign) false Site.internal

def acquiredLine (arena : Arena) (request : Request) (chunk : Block) (from_ : String) : String :=
  "arena: acquired " ++
    (if arena.config.chunkSize < request.size then "dedicated" else "regular") ++
    " chunk of " ++ decimal chunk.size ++ " bytes from '" ++ from_ ++ "'"

def grow (below : Source σ) (request : Request) (arena : Arena) (beneath : σ) (machine : Machine) :
    Reply (Arena × σ) Block :=
  match arena.chunkRequest? request with
  | .error e => .refuse e (arena, beneath) machine
  | .ok chunkRequest =>
    match below.allocate chunkRequest beneath machine with
    | ⟨.error fault, beneath, machine⟩ => ⟨.error fault, (arena, beneath), machine⟩
    | ⟨.ok chunk, beneath, machine⟩ =>
      let machine := machine.debug (arena.acquiredLine request chunk (below.name beneath))
      if arena.chunks.length < chunkLimit then
        let block := arena.carve arena.chunks.length chunk 0 request
        .done block (arena.adopt chunk request, beneath)
          (machine.zeroIf request.zero block.address request.size)
      else
        match below.free chunk beneath machine with
        | ⟨.error fault, beneath, machine⟩ => ⟨.error fault, (arena, beneath), machine⟩
        | ⟨.ok (), beneath, machine⟩ =>
          .refuse (.outOfMemory request.size "arena chunk limit reached") (arena, beneath) machine

def allocate (below : Source σ) (request : Request) (state : Arena × σ) (machine : Machine) :
    Reply (Arena × σ) Block :=
  let (arena, beneath) := state
  match arena.fit? request with
  | some (index, chunk, offset, stop) =>
    let block := arena.carve index chunk offset request
    .done block (arena.advance stop, beneath)
      (machine.zeroIf request.zero block.address request.size)
  | none => grow below request arena beneath machine

def free (_ : Block) (state : Arena × σ) (machine : Machine) : Reply (Arena × σ) Unit :=
  .refuse (.unsupported name "individual deallocation") state machine

def held (arena : Arena) : Nat :=
  arena.chunks.foldr (fun chunk rest => chunk.size + rest) 0 % Word.range

def source (below : Source σ) : Source (Arena × σ) where
  name _ := name
  releases _ := false
  held state := state.1.held
  allocate := allocate below
  free := free

-- Gives the chunks back one after the other. A refusal is written down and passed over; only a
-- panic stops the rest.
def releaseChunks (below : Source σ) : List Block → σ → Machine → Reply σ Unit
  | [], beneath, machine => .done () beneath machine
  | chunk :: rest, beneath, machine =>
    match below.free chunk beneath machine with
    | ⟨.ok (), beneath, machine⟩ => releaseChunks below rest beneath machine
    | ⟨.error (.refused e), beneath, machine⟩ =>
      releaseChunks below rest beneath
        (machine.failure ("arena: failed to release chunk: " ++ e.message))
    | ⟨.error (.panicked message), beneath, machine⟩ => .panic message beneath machine

def close (below : Source σ) (arena : Arena) (beneath : σ) (machine : Machine) : Reply σ Unit :=
  match releaseChunks below arena.chunks beneath machine with
  | ⟨.error fault, beneath, machine⟩ => ⟨.error fault, beneath, machine⟩
  | ⟨.ok (), beneath, machine⟩ =>
    if arena.chunks.isEmpty then .done () beneath machine
    else
      .done () beneath
        (machine.debug ("arena: released " ++ decimal arena.chunks.length ++ " chunk(s)"))

end LayeredAllocation.Arena
