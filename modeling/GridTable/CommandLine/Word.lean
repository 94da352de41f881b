import GridTable.Text.DecimalDigit

/-! Words of a command line and what they are for.
A switch is a word that starts with a hyphen. Long names may be cut short as long as they stay
unique, a value may follow an equals sign, and after a word of two hyphens nothing is a switch.
-/

namespace GridTable.CommandLine

/-- Why no command is run. -/
inductive Stop where
  | misuse
  | help
  | version
  deriving Repr, DecidableEq

/-- What a switch asks for. -/
inductive Role where
  | help
  | version
  | flag
  /-- A value, which has to be acceptable. -/
  | value (accepts : String → Bool)

structure Switch where
  /-- The name under which it is known, before its other names. -/
  name : String
  otherNames : List String
  role : Role
  isRequired : Bool

/-- The switches of a command and the nature of its operand. -/
structure Grammar where
  switches : List Switch
  /-- Whether the operand is a command, to which all words behind it belong. -/
  isNested : Bool

/-- What stands behind the name of a switch in one word with it. -/
inductive Attached where
  | nothing
  /-- The text behind a long name and an equals sign. -/
  | after (text : List Char)
  /-- The text behind a short name, with or without an equals sign. -/
  | joined (text : List Char)

inductive Word where
  | separator
  | plain
  | switch (known : Switch) (attached : Attached)
  /-- A switch that is not known. -/
  | unknown

namespace Grammar

/-- Each name of a switch with the switch. -/
def named (grammar : Grammar) : List (List Char × Switch) :=
  grammar.switches.flatMap fun known =>
    (known.name :: known.otherNames).map fun name => (name.toList, known)

def find? (grammar : Grammar) (name : List Char) : Option Switch :=
  grammar.named.lookup name

/-- A negative number, which is no switch. A line end may follow it. -/
def isNegativeNumber : List Char → Bool
  | '-' :: text =>
      let text := if text.getLast? = some '\n' then text.dropLast else text
      let isDigit := fun c => (Text.digitValue? c).isSome
      match text.span isDigit with
      | (whole, []) => !whole.isEmpty
      | (_, '.' :: fraction) => !fraction.isEmpty && fraction.all isDigit
      | _ => false
  | _ => false

/-- A word that starts with a hyphen and names no switch. -/
def stranger (text : List Char) : Word :=
  if isNegativeNumber text || text.contains ' ' then .plain else .unknown

def isLong (name : List Char) : Bool :=
  ['-', '-'].isPrefixOf name

/-- A word with the name of a switch and what may stand behind an equals sign. -/
def splitAtEquals (text : List Char) : List Char × Attached :=
  match text.span (· != '=') with
  | (name, _ :: value) => (name, if isLong name then .after value else .joined value)
  | (name, []) => (name, .nothing)

/-- What a word is for whose name is not complete: the start of a long name, or a short name
with a text joined to it.
-/
def classifyPart (grammar : Grammar) (text : List Char) : Except Stop Word :=
  match text with
  | '-' :: '-' :: _ =>
      let (start, attached) := splitAtEquals text
      match grammar.named.filter fun entry => start.isPrefixOf entry.1 with
      | [] => .ok (stranger text)
      | [(_, known)] => .ok (.switch known attached)
      | _ => .error .misuse
  | hyphen :: letter :: joined =>
      match grammar.find? [hyphen, letter] with
      | some known => .ok (.switch known (.joined joined))
      | none => .ok (stranger text)
  | _ => .ok .plain

/-- What a word is for. -/
def classify (grammar : Grammar) (text : List Char) : Except Stop Word :=
  if text.head? ≠ some '-' then .ok .plain
  else
    match grammar.find? text with
    | some known => .ok (.switch known .nothing)
    | none =>
        let (name, attached) := splitAtEquals text
        match grammar.find? name with
        | some known => .ok (.switch known attached)
        | none => grammar.classifyPart text

/-- What all words are for. -/
def classifyAll (grammar : Grammar) : List String → Except Stop (List (String × Word))
  | [] => .ok []
  | text :: rest =>
      if text = "--" then .ok ((text, .separator) :: rest.map fun text => (text, .plain))
      else do
        let word ← grammar.classify text.toList
        let words ← grammar.classifyAll rest
        pure ((text, word) :: words)

end Grammar

end GridTable.CommandLine
