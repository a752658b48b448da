import Lintscope.Message
import Lintscope.Tool

/-!
# Checks without a tool

Some checks are simple enough to be done here. They read each file that they
are given, one after the other; a file that cannot be read is reported, and
the check goes on.
-/

namespace Lintscope.Check

variable (w : World) (root : String)

/-- The message that a file cannot be read. -/
def unreadable (file reason : String) : Message := .about file none reason

/-- The content of a file for a check that tells why it is no text. -/
def text (file : String) : Except Message String :=
  match w.read (Path.join root file) with
  | .error e => .error (unreadable file ("cannot read file: " ++ e.message))
  | .ok octets =>
    match Utf8.decode octets with
    | .error flaw => .error (unreadable file ("not valid UTF-8: " ++ flaw.message))
    | .ok s => .ok (.ofList s)

/-- The content of a file for a check that takes it for a text. -/
def plainText (file : String) : Except Message String :=
  (w.readText (Path.join root file)).mapError fun e =>
    unreadable file ("cannot read file: " ++ e.message)

/-- The messages about a file: what there is to say about its content, or that
    it cannot be read. -/
def ofContent (content : Except Message String) (check : String → List Message) : List Message :=
  match content with
  | .ok s => check s
  | .error m => [m]

/-- The messages about some files, one after the other. -/
def files (names : List String) (check : String → List Message) :
    Except Failure (List Message) :=
  if w.cancelled ∧ names ≠ [] then .error .cancelled else .ok (names.flatMap check)

end Lintscope.Check
