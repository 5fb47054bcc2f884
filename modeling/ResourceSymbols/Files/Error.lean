import ResourceSymbols.Text.Quoted
import ResourceSymbols.Text.Utf8

/-!
# Errors of a file system

Every error of the system has a number, a text of its own, and the path that was
used.  A path that cannot be spelled in octets, or holds the null character, is refused
before it gets there.
-/

namespace ResourceSymbols.Files

/-- Why the system refuses a path. -/
inductive Cause
  | notFound
  | notAllowed
  | alreadyThere
  | notDirectory
  | isDirectory
  | nameTooLong
deriving DecidableEq, Repr

/-- The number of the cause. -/
def Cause.number : Cause → Nat
  | notFound => 2
  | notAllowed => 13
  | alreadyThere => 17
  | notDirectory => 20
  | isDirectory => 21
  | nameTooLong => 36

/-- The cause in words. -/
def Cause.describe : Cause → String
  | notFound => "No such file or directory"
  | notAllowed => "Permission denied"
  | alreadyThere => "File exists"
  | notDirectory => "Not a directory"
  | isDirectory => "Is a directory"
  | nameTooLong => "File name too long"

/-- Why a text is no path. -/
inductive PathFault
  | unencodable (u : Text.Utf8.Unencodable)
  | nullByte
deriving DecidableEq, Repr

/-- The fault in words. -/
def PathFault.message : PathFault → String
  | unencodable u => u.message
  | nullByte => "embedded null byte"

/-- Why a path was not used. -/
inductive Error
  | refused (cause : Cause) (path : String)
  | noPath (fault : PathFault)
deriving DecidableEq, Repr

/-- The error in words. -/
def Error.message : Error → String
  | refused cause path => s!"[Errno {cause.number}] {cause.describe}: {Text.quoted path}"
  | noPath fault => fault.message

end ResourceSymbols.Files
