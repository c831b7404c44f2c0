import RemoteSigning.Text.CodePoint

/-!
# Levels of log records

What happens is recorded with a level. The records themselves belong to the modules whose activity they record; here is
what they share.

- `LogLine` is a record in its final form.
-/

namespace RemoteSigning

/-- How important a record is. -/
inductive LogLevel where
  | debug
  | info
  | warning
  | error
  deriving DecidableEq, Repr, Inhabited

def LogLevel.word : LogLevel → String
  | .debug => "DEBUG"
  | .info => "INFO"
  | .warning => "WARNING"
  | .error => "ERROR"

structure LogLine where
  level : LogLevel
  message : Text
  deriving DecidableEq, Repr

end RemoteSigning
