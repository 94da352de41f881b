import GridTable.CommandLine.Word

/-! Reading the words of a command line.
Switches count in the order in which they stand. The first word that is no switch is the
operand; words without a use are noted and refused in the end, so that a plea for help before
that is heard.
-/

namespace GridTable.CommandLine

/-- What a switch is set to. -/
inductive Given where
  /-- Nothing, since the switch takes no value. -/
  | flag
  | text (content : String)
  /-- Nothing, since two hyphens stood in the place of the value. -/
  | void
  deriving Repr, DecidableEq

namespace Given

/-- The value that a text joined to a switch gives. -/
def ofJoined (joined : List Char) : Given :=
  if joined = ['-', '-'] then void else text (String.ofList joined)

/-- Whether a value passes a test; what is no text is not tested. -/
def passes (accepts : String → Bool) : Given → Bool
  | text content => accepts content
  | _ => true

def content? : Given → Option String
  | text content => some content
  | _ => none

end Given

/-- A switch with its value. -/
abbrev Setting :=
  Switch × Given

structure Reading where
  /-- The names of the switches with their values, in order. -/
  settings : List (String × Given)
  operand : Option String
  /-- The words behind a command. -/
  rest : List String
  /-- Whether some word has no use. -/
  hasExcess : Bool

namespace Reading

def empty : Reading :=
  ⟨[], none, [], false⟩

def hasFlag (found : Reading) (name : String) : Bool :=
  found.settings.any (·.1 == name)

/-- All values of a switch; a void one is none. -/
def values (found : Reading) (name : String) : List (Option String) :=
  (found.settings.filter (·.1 == name)).map fun entry => entry.2.content?

/-- The last value of a switch, if the switch is set at all. -/
def value? (found : Reading) (name : String) : Option (Option String) :=
  (found.values name).getLast?

/-- Takes a setting, or ends the reading if it asks for that. -/
def take (found : Reading) (setting : Setting) : Except Stop Reading :=
  let more : Reading :=
    { found with settings := found.settings ++ [(setting.1.name, setting.2)] }
  match setting.1.role with
  | .help => .error .help
  | .version => .error .version
  | .flag => .ok more
  | .value accepts => if setting.2.passes accepts then .ok more else .error .misuse

end Reading

/-- The settings of one word. -/
inductive WordUse where
  | complete (settings : List Setting)
  /-- Settings, and a switch that takes the next word for its value. -/
  | pending (settings : List Setting) (last : Switch)

namespace WordUse

/-- One setting more, before all others. -/
def withFirst (setting : Setting) : WordUse → WordUse
  | complete settings => complete (setting :: settings)
  | pending settings last => pending (setting :: settings) last

end WordUse

namespace Switch

/-- A switch with nothing in the same word behind it. -/
def useAlone (known : Switch) : WordUse :=
  match known.role with
  | .value _ => .pending [] known
  | _ => .complete [(known, .flag)]

/-- A switch with a value behind an equals sign. -/
def useWith (known : Switch) (value : List Char) : Except Stop WordUse :=
  match known.role with
  | .value _ => .ok (.complete [(known, .ofJoined value)])
  | _ => .error .misuse

end Switch

namespace Grammar

/-- A switch with a text joined to it: the text is its value, or else more short switches. -/
def useJoined (grammar : Grammar) (known : Switch) : List Char → Except Stop WordUse
  | [] => known.useWith []
  | letter :: rest =>
      match known.role with
      | .value _ => known.useWith (letter :: rest)
      | _ =>
          match grammar.find? ['-', letter] with
          | none => .error .misuse
          | some next =>
              let others :=
                if rest.isEmpty then .ok next.useAlone else grammar.useJoined next rest
              others.map (WordUse.withFirst (known, .flag))

def use (grammar : Grammar) (known : Switch) : Attached → Except Stop WordUse
  | .nothing => .ok known.useAlone
  | .after value => known.useWith value
  | .joined text => grammar.useJoined known text

/-- Reads the words after those that have been read. -/
def readOn (grammar : Grammar) (found : Reading)
    : List (String × Word) → Except Stop Reading
  | [] => .ok found
  | (_, .unknown) :: rest => grammar.readOn { found with hasExcess := true } rest
  | (_, .switch known attached) :: rest =>
      match grammar.use known attached with
      | .error stop => .error stop
      | .ok (.complete settings) =>
          match settings.foldlM Reading.take found with
          | .error stop => .error stop
          | .ok found => grammar.readOn found rest
      | .ok (.pending settings last) =>
          match rest with
          | (text, .plain) :: rest =>
              match (settings ++ [(last, Given.text text)]).foldlM Reading.take found with
              | .error stop => .error stop
              | .ok found => grammar.readOn found rest
          | _ => .error .misuse
  | (text, .plain) :: rest =>
      if found.operand.isSome then grammar.readOn { found with hasExcess := true } rest
      else if grammar.isNested then
        .ok { found with operand := some text, rest := rest.map Prod.fst }
      else
        match rest with
        | (_, .separator) :: rest => grammar.readOn { found with operand := some text } rest
        | rest => grammar.readOn { found with operand := some text } rest
  | (separator, .separator) :: rest =>
      if found.operand.isSome then grammar.readOn { found with hasExcess := true } rest
      else if grammar.isNested then .ok { found with operand := some separator }
      else
        match rest with
        | (text, .plain) :: rest => grammar.readOn { found with operand := some text } rest
        | rest => grammar.readOn { found with hasExcess := true } rest

/-- Reads a command line. -/
def read (grammar : Grammar) (arguments : List String) : Except Stop Reading := do
  let words ← grammar.classifyAll arguments
  grammar.readOn .empty words

/-- Reads all words of a command, none of which may be missing or without a use. Answers the
operand along with what was found.
-/
def readAll (grammar : Grammar) (arguments : List String)
    : Except Stop (String × Reading) := do
  let found ← grammar.read arguments
  let isComplete := grammar.switches.all fun known =>
    !known.isRequired || found.hasFlag known.name
  match found.operand with
  | some operand =>
      if isComplete && !found.hasExcess then pure (operand, found) else throw .misuse
  | none => throw .misuse

end Grammar

end GridTable.CommandLine
