/-! Failures of files and output streams. -/

namespace Testbench

/-- What went wrong with a file or an output stream. -/
inductive SystemFault where
  | notFound
  | isDirectory
  | notDirectory
  | nameTooLong
  /-- A name held the character that ends names. -/
  | zeroInName
  /-- A line of text was not valid UTF-8. -/
  | malformedText
  /-- The reader of an output stream is gone. -/
  | closed (text : String)
  | other (text : String)
  deriving DecidableEq, Inhabited

/-- The words that a system uses for a failure. -/
def SystemFault.message : SystemFault → String
  | .notFound => "No such file or directory (os error 2)"
  | .isDirectory => "Is a directory (os error 21)"
  | .notDirectory => "Not a directory (os error 20)"
  | .nameTooLong => "File name too long (os error 36)"
  | .zeroInName => "file name contained an unexpected NUL byte"
  | .malformedText => "stream did not contain valid UTF-8"
  | .closed text => text
  | .other text => text

/-- An inconsistency that a design found in itself while its signals settled. -/
structure EvaluationFault where
  message : String
  deriving DecidableEq, Inhabited

end Testbench
