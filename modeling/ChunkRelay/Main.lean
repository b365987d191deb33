import ChunkRelay.Console.Program

/-! # The command line

Runs the program on the arguments that the operating system passes, and does what its transcript
says: lines of output, log lines on the console and in files, and the exit code. There is no device
library to call from here, so the platform is the detached one.
-/

namespace ChunkRelay.Console

/-- The rounds that a run of the program is granted. -/
def grantedRounds : Nat := 1000000

/-- The file of settings that arguments name, if it can be read. -/
def readSettingsFile (arguments : List String) : IO FileTree := do
  let .ok a := Arguments.read arguments | pure .empty
  let some path := a.configFile? | pure .empty
  try
    let bytes ← IO.FS.readBinFile path
    pure ⟨[((Path.ofText path).place, bytes.toList)], []⟩
  catch _ => pure .empty

/-- Add texts to a file, whose directory is made if it is missing. -/
def appendTexts (place : Place) (texts : List String) : IO Unit := do
  IO.FS.createDirAll ({ place with names := place.names.dropLast } : Place).text
  let file ← IO.FS.Handle.mk place.text .append
  texts.forM file.putStrLn

/-- Write out what a run has written. -/
def Transcript.writeOut (t : Transcript) : IO Unit := do
  t.output.forM IO.println
  t.console.forM IO.eprintln
  t.files.forM fun (place, texts) => appendTexts place texts

def runProgram (arguments : List String) : IO UInt32 := do
  let tree ← readSettingsFile arguments
  let outcome := (program .detached tree grantedRounds arguments).run (.new ())
  (Transcript.ofNotes tree outcome.notes).writeOut
  match outcome.answer with
  | .ok (.exit code) => pure (UInt32.ofNat code)
  | .ok .unfinished => pure 1
  | .error failure => do
    IO.eprintln failure.message
    pure 1

end ChunkRelay.Console

def main (arguments : List String) : IO UInt32 := ChunkRelay.Console.runProgram arguments
