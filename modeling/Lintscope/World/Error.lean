/-!
# What a system refuses

Why a file cannot be read, and why a program cannot be started, in the words
of the system.
-/

namespace Lintscope.World

/-- Why the system does not do what it is asked for. -/
inductive Error where
  /-- There is nothing at a path, or no program of a name. -/
  | notFound
  /-- A file is no program. -/
  | denied
  /-- A path leads through a file. -/
  | notDirectory
  /-- A directory has no content. -/
  | isDirectory
  /-- A path has a null character. -/
  | nullInPath
  /-- An argument has a null character. -/
  | nullInArgument
  /-- The content of a file is no text. -/
  | notText
  deriving DecidableEq, Repr

/-- The words of the system. -/
def Error.message : Error → String
  | notFound => "No such file or directory (os error 2)"
  | denied => "Permission denied (os error 13)"
  | notDirectory => "Not a directory (os error 20)"
  | isDirectory => "Is a directory (os error 21)"
  | nullInPath => "file name contained an unexpected NUL byte"
  | nullInArgument => "nul byte found in provided data"
  | notText => "stream did not contain valid UTF-8"

end Lintscope.World
