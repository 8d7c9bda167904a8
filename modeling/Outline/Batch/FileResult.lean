/-
The result of one file.

A file has an outline or a report, never both. The bytes of the file
count only if its size is within the limit, and the language only once
there are bytes.
-/
import Outline.Extraction
import Outline.Files.Access
import Outline.Settings.Basic

namespace Outline

/-- The result of a file, under the path as it was given. -/
structure FileResult where
  path : String
  outcome : Except Report FileOutline
deriving Repr, Inhabited

namespace FileResult

/-- Whether the file has an outline. -/
def ok (r : FileResult) : Bool :=
  match r.outcome with
  | .ok _ => true
  | .error _ => false

/-- The outline, if there is one. -/
def outline? (r : FileResult) : Option FileOutline :=
  match r.outcome with
  | .ok o => some o
  | .error _ => none

/-- The report, if there is one. -/
def report? (r : FileResult) : Option Report :=
  match r.outcome with
  | .ok _ => none
  | .error e => some e

/-- The result of a file that nothing could be done about. -/
def unexpected (path reason : String) : FileResult :=
  { path := path
    outcome := .error
      (InternalFault.unexpected reason [("path", .text path)]).report }

end FileResult

-- ============================================================ extraction

/-- The number of bytes in a megabyte of the size limit. -/
def bytesPerMegabyte : Int := 1048576

/-- The largest size of a file, in bytes. -/
def ExtractionSettings.sizeLimit (s : ExtractionSettings) : Int :=
  s.maxFileSizeMb * bytesPerMegabyte

/-- What outlines include. -/
def ExtractionSettings.options (s : ExtractionSettings) : ExtractOptions :=
  { includeContent := s.includeContent, resolveScopes := s.resolveScopes }

/-- The result of a file of which the file system says `state`. The
outline carries the normal form of the path, the result the path as it
was given. -/
def Registry.extractFile (r : Registry) (engine : Engine)
    (settings : ExtractionSettings) (path : String) (state : FileState) :
    Logged FileResult :=
  match state.size with
  | .error e => .silent (.unexpected path e.message)
  | .ok size =>
    if settings.sizeLimit < size then
      .silent {
        path := path
        outcome := .error
          (StructureFault.tooLarge path size settings.sizeLimit).report }
    else
      match state.bytes with
      | .error e => .silent (.unexpected path e.message)
      | .ok bytes =>
        (r.outline engine (normalPath path) bytes settings.options).map
          fun outcome =>
            { path := path
              outcome := match outcome with
                | .ok o => .ok o
                | .error e => .error e.report }

end Outline
