/-! Faults: failures that the rules of the program do not describe.
A value, an index, a path or a text was handed on that the step at hand cannot use.
-/

namespace GridTable

inductive Fault where
  | badValue
  | badType
  | missingKey
  | badIndex
  | overflow
  | missingAttribute
  | malformedJson
  | undecodableText
  | fileExists
  | fileMissing
  | isDirectory
  | notDirectory
  | nameTooLong
  | unknownFormat
  | nestedTooDeep
  /-- No text labels the place that an index gives. -/
  | labelMissing
  | folderMissing
  | unusablePath
  /-- A use of a file or folder that the system does not allow. -/
  | accessDenied
  | tooManyLinks
  /-- A codec that is not known to the writer of table files. -/
  | unusableCodec
  /-- Something of the given kind stands where a finding is expected. -/
  | unsupportedFinding (kind : String)
  deriving Repr, DecidableEq

namespace Fault

/-- Whether a fault of a search only says that nothing is there. -/
def isAbsence : Fault → Bool
  | fileMissing | notDirectory | tooManyLinks | badValue => true
  | _ => false

/-- Whether a fault is one of the system, or an unusable value. -/
def isOfSystemOrValue : Fault → Bool
  | badType | missingKey | badIndex | overflow | missingAttribute | nestedTooDeep | labelMissing
  | unusableCodec | unsupportedFinding _ => false
  | _ => true

/-- A fault in words. -/
def description : Fault → String
  | badValue => "unusable value"
  | badType => "wrong kind of value"
  | missingKey => "missing key"
  | badIndex => "index out of range"
  | overflow => "number too large"
  | missingAttribute => "missing parameter"
  | malformedJson => "malformed JSON"
  | undecodableText => "no text file"
  | fileExists => "file exists"
  | fileMissing => "no such file or directory"
  | isDirectory => "is a directory"
  | notDirectory => "not a directory"
  | nameTooLong => "file name too long"
  | unknownFormat => "unknown file format"
  | nestedTooDeep => "nested too deep"
  | labelMissing => "no label at this index"
  | folderMissing => "no such folder"
  | unusablePath => "unusable path"
  | accessDenied => "permission denied"
  | tooManyLinks => "too many levels of symbolic links"
  | unusableCodec => "unusable codec"
  | unsupportedFinding kind => "Unsupported filter result type: " ++ kind

end Fault

end GridTable
