import TableCache.Text.Quoted

/-!
# Errors

What can go wrong while the cache is configured or a workload is driven. A look-up that finds
nothing is no error, and a broken contract is a fault, not an error.
-/

namespace TableCache

/-- Why a file could not be read. -/
inductive FileError where
  | notFound
  | isADirectory
  | invalidData
  | other
  deriving DecidableEq, Repr, Inhabited

/-- Why an operation was refused; `detail` is for the reader. -/
inductive CacheError where
  /-- A value was rejected. -/
  | invalidArgument (detail : String)
  /-- A configuration could not be parsed. -/
  | config (detail : String)
  /-- A file could not be read. -/
  | io (cause : FileError) (detail : String)
  /-- A record could not be read. -/
  | json (detail : String)
  /-- A metric could not be registered. -/
  | metrics (detail : String)
  /-- A task of a workload failed. -/
  | internal (detail : String)
  deriving DecidableEq, Repr, Inhabited

/-- The text of an error. -/
def CacheError.message : CacheError → String
  | .invalidArgument detail => "Invalid argument: " ++ detail
  | .config detail => "Configuration error: " ++ detail
  | .io _ detail => "I/O error: " ++ detail
  | .json detail => "JSON error: " ++ detail
  | .metrics detail => "Metrics error: " ++ detail
  | .internal detail => "Internal error: " ++ detail

/-- An error with its details in quotes, as the command line shows it. -/
def CacheError.describe : CacheError → String
  | .invalidArgument detail => "InvalidArgument(" ++ Text.quoted detail ++ ")"
  | .config detail => "Config(" ++ Text.quoted detail ++ ")"
  | .io _ detail => "Io(" ++ Text.quoted detail ++ ")"
  | .json detail => "Json(" ++ Text.quoted detail ++ ")"
  | .metrics detail => "Metrics(" ++ Text.quoted detail ++ ")"
  | .internal detail => "Internal(" ++ Text.quoted detail ++ ")"

end TableCache
