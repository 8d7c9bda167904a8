/-
What a file system says of a file.

It gives two answers, the size of the file and its bytes, and may refuse
either.
-/
import Outline.Files.Basic

namespace Outline

/-- What the file system says of a file: its size, and its bytes for
those who read it. -/
structure FileState where
  size : Except OsFault Nat
  bytes : Except OsFault (List UInt8)
deriving Repr, Inhabited

/-- How an attempt to read a file ends. A pipe that nobody writes to is
read for ever, and a path with a null character names nothing. -/
inductive FileAccess where
  | state (s : FileState)
  | unnameable
  | endless
deriving Repr, Inhabited

/-- The size that a directory is said to have. -/
def directorySize : Nat := 4096

/-- The size of what stands at a place. -/
def FileEntry.size : FileEntry → Nat
  | .file bytes => bytes.length
  | .directory => directorySize
  | .pipe => 0
  | .device => 0

/-- What a file system says of a path; paths are taken in their normal
form. -/
def FileSystem.access (fs : FileSystem) (path : String) : FileAccess :=
  if path.toList.contains '\x00' then .unnameable
  else
    let path := normalPath path
    match fs.find path with
    | .error e => .state ⟨.error e, .error e⟩
    | .ok (p, entry) =>
      match fs.refusal? .read p with
      | some cause => .state ⟨.ok entry.size, .error ⟨cause, path⟩⟩
      | none =>
        match entry with
        | .file bytes => .state ⟨.ok entry.size, .ok bytes⟩
        | .directory =>
          .state ⟨.ok entry.size, .error ⟨.isDirectory, path⟩⟩
        | .device => .state ⟨.ok entry.size, .ok []⟩
        | .pipe => .endless

end Outline
