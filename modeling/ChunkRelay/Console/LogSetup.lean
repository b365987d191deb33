import ChunkRelay.Act
import ChunkRelay.Files.Tree

/-! # Where log records go

Records go to the console and to files. A record has to pass the threshold of the whole setup
first and then that of each sink. A file that is given twice keeps its sink and gets the new
threshold, and the threshold of the whole setup gives way to that of a file.

A file is opened for the first record that it is to take. If that cannot be done, the sinks behind
it are left out, and so is the file, but not the sinks in front of it.
-/

namespace ChunkRelay.Console

/-- Something that log records are written to. -/
inductive LogSink where
  | console
  | file (place : Place)
  deriving Repr, DecidableEq

structure LogHandler where
  sink : LogSink
  level : Level
  deriving Repr, DecidableEq

/-- All sinks with the threshold before them. -/
structure LogSetup where
  level : Level
  handlers : List LogHandler
  deriving Repr, DecidableEq

namespace LogSetup

def initial : LogSetup := ⟨.warning, []⟩

/-- Write to the console, unless there are sinks already. -/
def toConsole (verbose : Bool) (s : LogSetup) : LogSetup :=
  if s.handlers.isEmpty then ⟨if verbose then .debug else .warning, [⟨.console, .unset⟩]⟩ else s

def hasFile (place : Place) (s : LogSetup) : Bool := s.handlers.any (·.sink = .file place)

/-- Write to a file as well. -/
def toFile (place : Place) (verbose : Bool) (s : LogSetup) : LogSetup :=
  let level := if verbose then Level.debug else .info
  let handlers :=
    if s.hasFile place then
      s.handlers.map fun h => if h.sink = .file place then { h with level } else h
    else s.handlers ++ [⟨.file place, level⟩]
  ⟨if s.level.rank > level.rank then level else s.level, handlers⟩

/-- The sinks that a record reaches. A record without a level reaches none. -/
def sinksFor (s : LogSetup) (level : Level) : List LogSink :=
  if level = .unset || level.rank < s.level.rank then []
  else (s.handlers.filter fun h => h.level.rank ≤ level.rank).map (·.sink)

end LogSetup

/-- A record as a sink writes it. -/
def logText (record : LogRecord) : String :=
  s!"[{record.level.name}] {record.shownLogger}: {record.message}"

/-- What a run writes. Each text is followed by a line feed and may hold further ones. -/
structure Transcript where
  output : List String
  /-- The log records on the console. -/
  console : List String
  /-- The log files with their records, the earliest first. -/
  files : List (Place × List String)
  deriving Repr, DecidableEq

def Transcript.empty : Transcript := ⟨[], [], []⟩

/-- Add a text to a file, which is there from its first one on. -/
def addToFile (place : Place) (text : String) :
    List (Place × List String) → List (Place × List String)
  | [] => [(place, [text])]
  | (p, written) :: rest =>
    if p = place then (p, written ++ [text]) :: rest else (p, written) :: addToFile place text rest

/-- A log that is being written: where its records go, what is in the way of files, and what has
been written. -/
structure Journal where
  setup : LogSetup
  tree : FileTree
  transcript : Transcript

namespace Journal

def new (setup : LogSetup) (tree : FileTree) : Journal := ⟨setup, tree, .empty⟩

/-- Send records to the file at a path as well. The directories on the way are made. -/
def toFile (path : Path) (verbose : Bool) (j : Journal) : Except Defect Journal := do
  let setup := j.setup.toFile path.place verbose
  if j.setup.hasFile path.place then pure { j with setup }
  else pure { j with setup, tree := ← j.tree.makeRoom path }

def writeTo (sink : LogSink) (text : String) (j : Journal) : Except Defect Journal := do
  let t := j.transcript
  match sink with
  | .console => pure { j with transcript := { t with console := t.console ++ [text] } }
  | .file place =>
    pure
      { j with
        tree := ← j.tree.openFile place
        transcript := { t with files := addToFile place text t.files } }

/-- Write a text to sinks in turn, up to one that fails. -/
def writeAll (text : String) (j : Journal) : List LogSink → Journal × Option Defect
  | [] => (j, none)
  | sink :: rest =>
    match j.writeTo sink text with
    | .ok j => j.writeAll text rest
    | .error defect => (j, some defect)

/-- Write a record, and say what kept it from a file. -/
def addRecord (record : LogRecord) (j : Journal) : Journal × Option Defect :=
  j.writeAll (logText record) (j.setup.sinksFor record.level)

/-- What keeps records of a level from a file. -/
def refusal? (level : Level) (j : Journal) : Option Defect :=
  (j.writeAll "" (j.setup.sinksFor level)).2

/-- Take in a note. Where records go changes only if the files allow it. -/
def addNote (j : Journal) (note : Note) : Journal :=
  let t := j.transcript
  match note with
  | .log record => (j.addRecord record).1
  | .line text => { j with transcript := { t with output := t.output ++ [text] } }
  | .stopRequest => j
  | .logToConsole verbose => { j with setup := j.setup.toConsole verbose }
  | .logToFile path verbose => (j.toFile path verbose).toOption.getD j

end Journal

/-- What a run writes that makes the given notes. -/
def Transcript.ofNotes (tree : FileTree) (notes : List Note) : Transcript :=
  (notes.foldl Journal.addNote (.new .initial tree)).transcript

end ChunkRelay.Console
