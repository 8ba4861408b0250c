import LayeredAllocation.Error
import LayeredAllocation.Request
import LayeredAllocation.Text

namespace LayeredAllocation.Leak

inductive Mode where
  -- A report with leaks is an error, and ending a tracker with leaks a panic.
  | failFast
  | log
  | machine
deriving DecidableEq, Repr

namespace Mode

def text : Mode → String
  | .failFast => "fail-fast"
  | .log => "log"
  | .machine => "machine"

def parse? (text : String) : Except Error Mode :=
  let name := Text.Blank.plain text
  if name = "fail-fast" ∨ name = "failfast" then .ok .failFast
  else if name = "log" then .ok .log
  else if name = "machine" ∨ name = "machine-readable" then .ok .machine
  else
    .error (.invalidArgument "leak report mode"
      ("unknown mode '" ++ name ++ "', expected fail-fast, log or machine"))

def environmentVariable : String := "MEMKIT_LEAK_REPORT"

-- The mode that an environment variable asks for, given its bytes if it is set.
def ofEnvironment? : Option (List UInt8) → Except Error Mode
  | none => .ok .log
  | some bytes =>
    match Text.Utf8.decode? bytes with
    | some text => parse? text
    | none =>
      .error (.invalidArgument environmentVariable
        ("environment variable was not valid unicode: " ++ Text.Utf8.quote bytes))

theorem parse?_text (mode : Mode) : parse? mode.text = .ok mode := by
  cases mode <;> rfl

end LayeredAllocation.Leak.Mode

namespace LayeredAllocation.Leak
open Text.Numeral (decimal hexadecimal)

structure Record where
  address : Nat
  size : Nat
  site : Site
  sequence : Nat
deriving DecidableEq, Repr

def Record.text (record : Record) : String :=
  hexadecimal record.address ++ " (" ++ decimal record.size ++ " bytes, seq " ++
    decimal record.sequence ++ ") allocated at " ++ record.site.text

def Record.line (allocator : String) (record : Record) : String :=
  "LEAK allocator=" ++ allocator ++ " address=" ++ hexadecimal record.address ++ " bytes=" ++
    decimal record.size ++ " site=" ++ record.site.text ++ " seq=" ++ decimal record.sequence

structure Report where
  allocator : String
  leaks : List Record
deriving DecidableEq, Repr

def Report.lines (report : Report) : List String :=
  report.leaks.map (Record.line report.allocator)

inductive Destination where
  | kept
  | closed
  | stuck
  | elsewhere
  -- Answers as laid down, once for each line and each flush: with nothing, or with why it fails.
  -- When that runs out it keeps what is written.
  | scripted (answers : List (Option String))
deriving DecidableEq, Repr

structure Sink where
  destination : Destination := .elsewhere
  text : String := ""
deriving DecidableEq, Repr

namespace Sink

def keep (sink : Sink) (line : String) : Sink := { sink with text := sink.text ++ line ++ "\n" }

def write (sink : Sink) (line : String) : Except String Unit × Sink :=
  match sink.destination with
  | .closed => (.error "sink closed", sink)
  | .elsewhere => (.ok (), sink)
  | .kept | .stuck | .scripted [] => (.ok (), sink.keep line)
  | .scripted (none :: answers) => (.ok (), { sink.keep line with destination := .scripted answers })
  | .scripted (some e :: answers) => (.error e, { sink with destination := .scripted answers })

def writeAll : List String → Sink → Except String Unit × Sink
  | [], sink => (.ok (), sink)
  | line :: rest, sink =>
    match sink.write line with
    | (.error e, sink) => (.error e, sink)
    | (.ok (), sink) => writeAll rest sink

def flush (sink : Sink) : Except String Unit × Sink :=
  match sink.destination with
  | .stuck => (.error "sink stuck", sink)
  | .closed | .elsewhere | .kept | .scripted [] => (.ok (), sink)
  | .scripted (none :: answers) => (.ok (), { sink with destination := .scripted answers })
  | .scripted (some e :: answers) => (.error e, { sink with destination := .scripted answers })

end LayeredAllocation.Leak.Sink
