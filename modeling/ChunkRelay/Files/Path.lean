/-! # Paths

A path is a way through directories: from the working directory or from the root, through names
and back. As it is written it may hold slashes and dots that lead nowhere; they are dropped. Ways
back are kept, since they count only where the directory before them is there.

A place is where a path leads if every directory on the way is there.
-/

namespace ChunkRelay

/-- Where a path starts. -/
inductive PathStart where
  | workingDirectory
  | root
  /-- Two slashes, which some systems tell apart from one. -/
  | doubleRoot
  deriving Repr, DecidableEq

/-- A path as its parts: names, and `..` for a way back. -/
structure Path where
  start : PathStart
  parts : List String
  deriving Repr, DecidableEq

namespace Path

def split (text : List Char) : List (List Char) :=
  text.foldr
    (fun c parts =>
      if c = '/' then [] :: parts
      else match parts with
        | first :: rest => (c :: first) :: rest
        | [] => [[c]])
    [[]]

def ofText (text : String) : Path :=
  let chars := text.toList
  let start := match (chars.takeWhile (· = '/')).length with
    | 0 => .workingDirectory
    | 2 => .doubleRoot
    | _ => .root
  ⟨start, (split chars).filterMap fun part =>
    if part = [] || part = ['.'] then none else some (String.ofList part)⟩

def text (path : Path) : String :=
  let body := String.intercalate "/" path.parts
  match path.start with
  | .workingDirectory => if path.parts.isEmpty then "." else body
  | .root => "/" ++ body
  | .doubleRoot => "//" ++ body

def parent (path : Path) : Path := { path with parts := path.parts.dropLast }

end Path

/-- A place in the file system. -/
structure Place where
  /-- How many levels above the working directory the names start, or none if they start at the
      root. -/
  climbs? : Option Nat
  names : List String
  deriving Repr, DecidableEq

namespace Place

def ofStart : PathStart → Place
  | .workingDirectory => ⟨some 0, []⟩
  | .root | .doubleRoot => ⟨none, []⟩

/-- The place that one more part of a path leads to. Above the root there is only the root. -/
def step (place : Place) (part : String) : Place :=
  if part = ".." then
    if place.names.isEmpty then { place with climbs? := place.climbs?.map (· + 1) }
    else { place with names := place.names.dropLast }
  else { place with names := place.names ++ [part] }

/-- A path that leads to the place. -/
def text (place : Place) : String :=
  let names := String.intercalate "/" place.names
  match place.climbs? with
  | none => "/" ++ names
  | some climbs => String.join (List.replicate climbs "../") ++ if names.isEmpty then "." else names

/-- Whether one place is reached through the other. -/
def contains (outer inner : Place) : Bool :=
  outer.climbs? = inner.climbs? && outer.names.isPrefixOf inner.names

end Place

def Path.place (path : Path) : Place := path.parts.foldl Place.step (.ofStart path.start)

end ChunkRelay
