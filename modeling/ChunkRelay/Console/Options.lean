import ChunkRelay.Text.DecimalDigit

/-! # Options

How command line arguments are told apart and what becomes of them. An option is given by its
name, by the start of a long name that no other name shares, or, for names of one letter, together
with further ones behind one dash. Its value is the next argument or is attached to it. All other
arguments are operands, as are those after two dashes.

What arguments ask for is a sequence of uses. It ends where an option is used in a wrong way, so
that what comes before has its effect first.
-/

namespace ChunkRelay.Console

structure OptionName (ι : Type) where
  text : String
  option : ι
  takesValue : Bool
  deriving Repr, DecidableEq

inductive Argument (ι : Type) where
  | operand (text : String)
  /-- The two dashes after which there are only operands. -/
  | separator
  /-- An option, with the text that is attached to it. -/
  | option (name : OptionName ι) (attached? : Option (List Char))
  | unknown
  deriving Repr, DecidableEq

namespace Argument

variable {ι : Type}

/-- A text before and after its first equals sign. -/
def splitAtEquals (text : List Char) : List Char × Option (List Char) :=
  match text.span (· ≠ '=') with
  | (name, _ :: value) => (name, some value)
  | (name, []) => (name, none)

/-- Whether a text is a negative number, whole or with a point. A line feed may follow it. -/
def isNegativeNumber (text : List Char) : Bool :=
  let isDigit := fun c => (decimalDigit? c).isSome
  let text := if text.getLast? = some '\n' then text.dropLast else text
  match text with
  | '-' :: body =>
    match body.dropWhile isDigit with
    | [] => !body.isEmpty
    | '.' :: fraction => !fraction.isEmpty && fraction.all isDigit
    | _ => false
  | _ => false

/-- The options that a text could mean, with what is attached to it: those that a long name
starts, or the one of a single letter with what follows it. -/
def candidates (names : List (OptionName ι)) (text : List Char) :
    List (OptionName ι × Option (List Char)) :=
  if text.take 2 = ['-', '-'] then
    let (start, attached?) := splitAtEquals text
    (names.filter fun name => start.isPrefixOf name.text.toList).map (·, attached?)
  else
    names.filterMap fun name =>
      if name.text.toList = text.take 2 then some (name, some (text.drop 2))
      else if text.isPrefixOf name.text.toList then some (name, none)
      else none

/-- What a single argument is, unless it could mean several options. -/
def classify (names : List (OptionName ι)) (text : String) : Option (Argument ι) :=
  let chars := text.toList
  let named := fun cs : List Char => names.find? fun name => name.text.toList = cs
  let (start, attached?) := splitAtEquals chars
  if chars.head? ≠ some '-' then some (operand text)
  else
    match named chars, chars, attached?.bind fun attached => (named start).map (·, attached) with
    | some name, _, _ => some (option name none)
    | none, [_], _ => some (operand text)
    | none, _, some (name, attached) => some (option name (some attached))
    | none, _, none =>
      match candidates names chars with
      | [(name, attached?)] => some (option name attached?)
      | _ :: _ => none
      | [] => some (if isNegativeNumber chars || chars.contains ' ' then operand text else unknown)

/-- What all arguments are, unless one of them could mean several options. -/
def classifyAll (names : List (OptionName ι)) : List String → Option (List (Argument ι))
  | [] => some []
  | text :: rest =>
    if text = "--" then some (separator :: rest.map operand)
    else do
      let argument ← classify names text
      let others ← classifyAll names rest
      pure (argument :: others)

end Argument

/-- What arguments ask for. -/
inductive OptionUse (ι : Type) where
  | flag (option : ι)
  | value (option : ι) (text : String)
  /-- An argument that has no place. -/
  | stray
  /-- An option that lacks its value or has one that it does not take. -/
  | misuse
  deriving Repr, DecidableEq

namespace OptionUse

variable {ι : Type}

/-- What an option and the argument after it ask for, and whether that argument is its value. -/
def ofOption (name : OptionName ι) (after? : Option (Argument ι)) : OptionUse ι × Bool :=
  if name.takesValue then
    match after? with
    | some (.operand text) => (value name.option text, true)
    | _ => (misuse, false)
  else (flag name.option, false)

/-- What an option asks for that a text is attached to. To a flag of one letter further ones may
be attached, and to the last one what it takes. -/
def ofAttached (names : List (OptionName ι)) (after? : Option (Argument ι)) (name : OptionName ι) :
    List Char → Option (List (OptionUse ι) × Bool)
  | [] => if name.takesValue then some ([value name.option ""], false) else none
  | c :: rest =>
    if name.takesValue then some ([value name.option (String.ofList (c :: rest))], false)
    else if name.text.toList.take 2 = ['-', '-'] then none
    else do
      let next ← names.find? fun name => name.text.toList = ['-', c]
      let (uses, taken) ←
        match rest with
        | [] =>
          match ofOption next after? with
          | (misuse, _) => none
          | (use, taken) => some ([use], taken)
        | c :: rest => ofAttached names after? next (c :: rest)
      pure (flag name.option :: uses, taken)

/-- What one argument asks for, given the one after it. -/
def ofArgument (names : List (OptionName ι)) (argument : Argument ι)
    (after? : Option (Argument ι)) : List (OptionUse ι) × Bool :=
  match argument with
  | .operand _ | .separator | .unknown => ([stray], false)
  | .option name none =>
    let (use, taken) := ofOption name after?
    ([use], taken)
  | .option name (some attached) =>
    (ofAttached names after? name attached).getD ([misuse], false)

/-- What arguments ask for, where no operands are welcome. `skip` says that the first one has been
taken as a value. -/
def ofArguments (names : List (OptionName ι)) (skip : Bool) :
    List (Argument ι) → List (OptionUse ι)
  | [] => []
  | argument :: rest =>
    if skip then ofArguments names false rest
    else
      let (uses, taken) := ofArgument names argument rest.head?
      uses ++ ofArguments names taken rest

end OptionUse

end ChunkRelay.Console
