import GridTable.Logging.Conversion
import GridTable.Logging.DatePattern
import GridTable.Logging.Record
import GridTable.Text.Fields
import GridTable.Text.Occurrence

/-! Templates of log lines.
The slots of a template are filled with the fields of a record. A template needs a regular slot,
and a record whose fields do not fit the slots has no line.
-/

namespace GridTable

structure Template where
  pattern : String
  /-- The pattern of the date, where a line shows one; without it milliseconds follow a date in
  the standard form.
  -/
  datePattern : Option String
  deriving Repr, DecidableEq

namespace Template

/-- The standard form of a date. -/
def standardDate : String :=
  "%Y-%m-%d %H:%M:%S"

/-- Date, logger, severity and message. -/
def standard : Template where
  pattern := "%(asctime)s - %(name)s - %(levelname)s - %(message)s"
  datePattern := some standardDate

/-- The template of the patterns that are given. Without any text, a pattern of lines shows the
message, and there is no pattern of dates.
-/
def ofPatterns (pattern datePattern : Option String) : Template where
  pattern :=
    match pattern with
    | none => standard.pattern
    | some text => if text.isEmpty then "%(message)s" else text
  datePattern :=
    match datePattern with
    | none => standard.datePattern
    | some text => if text.isEmpty then none else some text

/-- Whether a regular slot stands somewhere in a pattern. -/
def holdsSlot : List Char → Bool
  | [] => false
  | c :: rest => (c == '%' && (Slot.at? rest).any (·.1.isRegular)) || holdsSlot rest

/-- Whether a template shows anything of a record. -/
def isUsable (template : Template) : Bool :=
  holdsSlot template.pattern.toList

/-- Whether a date belongs to the fields. -/
def usesDate (template : Template) : Bool :=
  Text.occursIn "%(asctime)".toList template.pattern.toList

def dateText? (template : Template) (moment : Moment) : Option String :=
  match template.datePattern with
  | some pattern => moment.text? pattern
  | none =>
      (moment.text? standardDate).map fun date =>
        date ++ "," ++ String.ofList (DatePattern.filled 3 '0' (Nat.toDigits 10 moment.millisecond))

/-- The fields of a record, in order. -/
def fieldsOf (record : LogRecord) : List (String × FieldValue) :=
  [
    ("name", .text record.logger), ("msg", .text record.pattern),
    ("args", .shown (Text.parenthesized record.arguments)),
    ("levelname", .text (LogRecord.levelName record.level)), ("levelno", .number record.level),
    ("exc_info", .shown "None"), ("exc_text", .shown "None"), ("stack_info", .shown "None"),
    ("threadName", .text "MainThread"), ("processName", .text "MainProcess"),
    ("message", .text record.message)
  ]

/-- All fields together. -/
def wholeOf (fields : List (String × FieldValue)) : FieldValue :=
  .shown
    ("\x7b"
      ++ Text.commaList (fields.map fun (name, value) => Text.quoted name ++ ": " ++ value.quoted)
      ++ "\x7d")

/-- Fills the slots. A slot without a name shows all fields together, but only as the first slot
of all.
-/
def filledIn? (fields : List (String × FieldValue)) (isFirst : Bool)
    : List Piece → Option (List Char)
  | [] => some []
  | .plain c :: rest => (filledIn? fields isFirst rest).map (c :: ·)
  | .slot slot :: rest => do
      let value ←
        match slot.field with
        | some name => fields.lookup (String.ofList name)
        | none => if isFirst then some (wholeOf fields) else none
      let text ← slot.text? value
      let more ← filledIn? fields false rest
      some (text ++ more)

/-- The line of a record, unless some slot cannot be filled. -/
def line? (template : Template) (moment : Moment) (record : LogRecord) : Option String := do
  let date ←
    if template.usesDate
      then (template.dateText? moment).map fun date => [("asctime", FieldValue.text date)]
      else some []
  let pieces ← Piece.list? template.pattern.toList
  let line ← filledIn? (fieldsOf record ++ date) true pieces
  some (String.ofList line)

end Template

end GridTable
