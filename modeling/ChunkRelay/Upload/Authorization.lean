import ChunkRelay.Failure
import ChunkRelay.Text.Blank

/-! # Authorization headers

A device hands out its upload authorization as `Header-Name:value`. It is split at the first
colon, and both parts lose the blanks at their ends.
-/

namespace ChunkRelay

structure AuthHeader where
  name : String
  value : String
  deriving DecidableEq, Repr

namespace AuthHeader

/-- The parts of a text before and after its first colon, if it has one. -/
def splitAtColon? : List Char → Option (List Char × List Char)
  | [] => none
  | c :: rest =>
    if c = ':' then some ([], rest)
    else (splitAtColon? rest).map fun (name, value) => (c :: name, value)

/-- The header that an authorization text stands for. Its name may not be empty. -/
def parse (text : String) : Except Cause AuthHeader :=
  let refusal := Except.error (.authorizationFormat text.length)
  match splitAtColon? text.toList with
  | none => refusal
  | some (name, value) =>
    let name := strip name
    if name.isEmpty then refusal
    else .ok ⟨String.ofList name, String.ofList (strip value)⟩

end AuthHeader

end ChunkRelay
