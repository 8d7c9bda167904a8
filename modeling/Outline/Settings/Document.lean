/-
Settings documents in files.

A settings file that is not there is an empty document, and so is one
whose value counts as nothing. Every other document must be a mapping.

How the text of a document is read is not said here: a reader gives the
value of its bytes, or what is wrong with them. It may also fail in a way
of its own, which nobody expects.
-/
import Outline.Fault
import Outline.Files.Access
import Outline.Settings.Issue

namespace Outline

/-- What reading comes to: a value, or a text that breaks the rules of its
notation, with what is said about that, or a failure of the reader. -/
inductive Reading where
  | value (v : Value)
  | malformed (reason : String)
  | raised (e : Raised)
deriving Repr, Inhabited

/-- A reader of documents. It builds a mapping entry by entry, so that no
key is there twice. -/
structure DocumentReader where
  read : List UInt8 → Reading
  distinct : ∀ {bytes : List UInt8} {v : Value},
    read bytes = .value v → v.Distinct

/-- Why settings could not be loaded. Only the first cause has a report
of its own; the others end the program, and a pipe that nobody writes to
is waited for without end. -/
inductive LoadFault where
  | reported (fault : SettingsFault)
  | raised (e : Raised)
  | file (fault : OsFault)
  | endless
  | environment (field : String)
  | keyNotText
  | homeless
  | changed (issues : List Issue)
deriving Repr, Inhabited

namespace SettingsDocument

/-- The bytes of a document, none if it is not there. -/
def bytes? (fs : FileSystem) (path : String) :
    Except LoadFault (Option (List UInt8)) :=
  match fs.access path with
  | .unnameable => .ok none
  | .endless => .error .endless
  | .state ⟨.error e, _⟩ =>
    if e.cause.isAbsence then .ok none else .error (.file e)
  | .state ⟨.ok _, .error e⟩ => .error (.file e)
  | .state ⟨.ok _, .ok bytes⟩ => .ok (some bytes)

/-- The entries of a document that was read. -/
def ofReading (path : String) : Reading → Except LoadFault Entries
  | .malformed reason => .error (.reported (.unreadable path reason))
  | .raised e => .error (.raised e)
  | .value v =>
    if v.isEmptyDocument then .ok []
    else
      match v with
      | .map entries => .ok entries
      | _ => .error (.reported (.unreadable path "top level must be a mapping"))

/-- The entries of the document in a file. -/
def read (reader : DocumentReader) (fs : FileSystem) (path : String) :
    Except LoadFault Entries :=
  match bytes? fs path with
  | .error f => .error f
  | .ok none => .ok []
  | .ok (some bytes) => ofReading path (reader.read bytes)

end SettingsDocument

end Outline
