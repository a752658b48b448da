import Lintscope.Output.Location

/-!
# Marked lines

A tool that is told how to begin its warnings can write whatever else it likes
beside them. Only lines with the mark are read, and paths below the root of
the repository are taken from there.
-/

namespace Lintscope.Output

open Text

/-- The mark. -/
def mark : String := "~~WARN~~ "

/-- The marked lines, without their mark and without the root before a path. -/
def markedLines (root : String) (s : List Char) : List (List Char) :=
  (Text.lines s).filterMap fun line =>
    (dropLead? mark.toList line).map (dropLead (root ++ "/").toList)

/-- A message that is written `severity: text`. -/
def withLeadingSeverity (m : Message) (s : List Char) : Message :=
  let (severity, text) := match cut? [':', ' '] s with
    | some (severity, text) =>
      if severity = "error".toList then (Severity.error, text)
      else if severity = "warning".toList then (Severity.warning, text)
      else (Severity.warning, s)
    | none => (Severity.warning, s)
  (m.withText (.ofList (trim text))).withSeverity severity

/-- The messages of an output with marked lines. -/
def markedMessages (root : String) (s : List Char) : List Message :=
  (ofLocations withLeadingSeverity ((markedLines root s).flatMap (· ++ ['\n']))).messages

end Lintscope.Output
