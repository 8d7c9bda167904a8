/-
A file system at rest.

Files are bytes under absolute paths; directories hold them, a link
stands for another path, and a named pipe can be opened but never comes
to an end. A path text is followed component by component. The system may
refuse that, and what is done at its end: by the rules written down here,
or because of what it was told about a place. Every refusal has the number
and the words of the operating system.
-/
import Outline.Path
import Outline.Text.Quoted

namespace Outline

-- ============================================================== faults

/-- Why the operating system refuses something: a number and its
words. -/
structure OsCause where
  number : Nat
  words : String
deriving DecidableEq, Repr, Inhabited

namespace OsCause

def missing : OsCause := ⟨2, "No such file or directory"⟩

def denied : OsCause := ⟨13, "Permission denied"⟩

def exists_ : OsCause := ⟨17, "File exists"⟩

def notDirectory : OsCause := ⟨20, "Not a directory"⟩

def isDirectory : OsCause := ⟨21, "Is a directory"⟩

def nameTooLong : OsCause := ⟨36, "File name too long"⟩

def tooManyLinks : OsCause := ⟨40, "Too many levels of symbolic links"⟩

/-- Whether a refusal only says that nothing is there. The numbers are
those of a missing entry, a closed file, a path through something that is
no directory, and links without end. -/
def isAbsence (c : OsCause) : Bool := [2, 9, 20, 40].contains c.number

/-- Whether a refusal is one of permission. -/
def isPermission (c : OsCause) : Bool := [1, 13].contains c.number

end OsCause

/-- A refusal, with the path as it was given. -/
structure OsFault where
  cause : OsCause
  path : String
deriving DecidableEq, Repr, Inhabited

/-- A refusal in one line. -/
def OsFault.message (e : OsFault) : String :=
  s!"[Errno {e.cause.number}] {e.cause.words}: " ++ Text.quoted e.path

-- ================================================================ files

/-- What stands under a path. A device swallows what is written to
it. -/
inductive FileEntry where
  | file (bytes : List UInt8)
  | directory
  | pipe
  | device
deriving DecidableEq, Repr, Inhabited

/-- What is done at a place: going on from a directory, asking what stands
there, listing a directory, reading and writing. -/
inductive FileAct where
  | enter
  | look
  | list
  | read
  | write
deriving DecidableEq, Repr, Inhabited

/-- The components of an absolute path. -/
abbrev FilePath := List String

/-- Entries and links under absolute paths, the directory that relative
paths start from, and what the system refuses at which place. The parents
of an entry and of a link are directories. -/
structure FileSystem where
  entries : List (FilePath × FileEntry) := []
  links : List (FilePath × String) := []
  current : FilePath := []
  refusals : List ((FileAct × FilePath) × OsCause) := []
deriving Repr, Inhabited

/-- The longest name of one component, in bytes. -/
def maxNameLength : Nat := 255

/-- The longest path, in bytes. -/
def maxPathLength : Nat := 4095

/-- The most links on the way to one place. -/
def maxLinks : Nat := 40

namespace FileSystem

/-- The paths of all entries and links. -/
def names (fs : FileSystem) : List FilePath :=
  fs.entries.map (·.1) ++ fs.links.map (·.1)

/-- Whether something stands below a path. -/
def hasBelow (fs : FileSystem) (p : FilePath) : Bool :=
  fs.names.any fun q => p.length < q.length && q.take p.length == p

/-- What stands under an absolute path that is no link. -/
def entry? (fs : FileSystem) (p : FilePath) : Option FileEntry :=
  match fs.entries.lookup p with
  | some e => some e
  | none => if p.isEmpty || fs.hasBelow p then some .directory else none

/-- What the link under an absolute path says. -/
def link? (fs : FileSystem) (p : FilePath) : Option String :=
  fs.links.lookup p

/-- Why something is refused at a place. -/
def refusal? (fs : FileSystem) (act : FileAct) (p : FilePath) :
    Option OsCause :=
  fs.refusals.lookup (act, p)

-- =========================================================== following

/-- The components of a path text as they are followed: a slash at the
end asks for a directory. -/
def stepsOf (path : String) : List String :=
  let cs := path.toList
  let names := (cs.splitOn '/').filter (· != [])
  (if cs.getLast? == some '/' then names ++ [['.']] else names).map
    String.ofList

/-- Where a path text starts that is followed from a directory. -/
def startOf (path : String) (here : FilePath) : FilePath :=
  if path.toList.head? == some '/' then [] else here

/-- Where a component leads from a directory. -/
def stepTo (here : FilePath) (name : String) : FilePath :=
  if name == "." then here
  else if name == ".." then here.dropLast
  else here ++ [name]

/-- Goes on from a directory. What is not a directory has nothing below
it. -/
def step (fs : FileSystem) (here : FilePath) (name : String) :
    Except OsCause FilePath :=
  match fs.entry? here with
  | none => .error .missing
  | some .directory =>
    match fs.refusal? .enter here with
    | some cause => .error cause
    | none =>
      if maxNameLength < name.utf8ByteSize then .error .nameTooLong
      else .ok (stepTo here name)
  | some _ => .error .notDirectory

/-- Follows components from a directory up to a link; `go` follows what
the link says, and then the components behind it. The last component may
be `new`. -/
def walk (fs : FileSystem) (new : Bool)
    (go : FilePath → List String → Except OsCause FilePath) :
    FilePath → List String → Except OsCause FilePath
  | here, [] =>
    if new || (fs.entry? here).isSome then .ok here else .error .missing
  | here, name :: rest =>
    match fs.step here name with
    | .error cause => .error cause
    | .ok there =>
      match fs.link? there with
      | some target => go (startOf target here) (stepsOf target ++ rest)
      | none => fs.walk new go there rest

/-- Follows components from a directory on, with some links at most on the
way. -/
def follow (fs : FileSystem) (new : Bool) :
    Nat → FilePath → List String → Except OsCause FilePath
  | 0 => fs.walk new fun _ _ => .error .tooManyLinks
  | budget + 1 => fs.walk new (fs.follow new budget)

/-- Where a path text leads; its last component may be `new`. -/
def locate (fs : FileSystem) (new : Bool) (path : String) :
    Except OsFault FilePath :=
  let result :=
    if path.isEmpty then .error .missing
    else if maxPathLength < path.utf8ByteSize then .error .nameTooLong
    else fs.follow new maxLinks (startOf path fs.current) (stepsOf path)
  match result with
  | .ok p => .ok p
  | .error cause => .error ⟨cause, path⟩

/-- What a path text leads to, and where that stands. -/
def find (fs : FileSystem) (path : String) :
    Except OsFault (FilePath × FileEntry) :=
  match fs.locate false path with
  | .error e => .error e
  | .ok p =>
    match fs.refusal? .look p, fs.entry? p with
    | some cause, _ => .error ⟨cause, path⟩
    | none, some e => .ok (p, e)
    | none, none => .error ⟨.missing, path⟩

/-- What a path text leads to. -/
def lookup (fs : FileSystem) (path : String) : Except OsFault FileEntry :=
  (fs.find path).map (·.2)

/-- Whether a path text leads to a directory. -/
def isDirectory (fs : FileSystem) (path : String) : Bool :=
  match fs.lookup path with
  | .ok .directory => true
  | _ => false

-- ============================================================= writing

/-- Puts an entry under an absolute path. -/
def set (fs : FileSystem) (p : FilePath) (e : FileEntry) : FileSystem :=
  { fs with entries := fs.entries.filter (·.1 != p) ++ [(p, e)] }

/-- Makes an entry where nothing is yet. -/
def make (fs : FileSystem) (path : String) (p : FilePath) (e : FileEntry) :
    Except OsFault FileSystem :=
  match fs.refusal? .write p.dropLast with
  | some cause => .error ⟨cause, path⟩
  | none => .ok (fs.set p e)

/-- The path without its last component; a root is its own parent. -/
def parentOf (path : LexicalPath) : LexicalPath :=
  { path with parts := path.parts.dropLast }

/-- Where the name of a new directory stands: a link there is a name that
is taken, and is not followed. -/
def place (fs : FileSystem) (path : LexicalPath) :
    Except OsFault FilePath :=
  match path.parts.getLast? with
  | none => fs.locate false path.toText
  | some name =>
    if maxPathLength < path.toText.utf8ByteSize then
      .error ⟨.nameTooLong, path.toText⟩
    else
      let start := if path.isAbsolute then [] else fs.current
      match fs.follow false maxLinks start path.parts.dropLast with
      | .error cause => .error ⟨cause, path.toText⟩
      | .ok directory =>
        match fs.step directory name with
        | .error cause => .error ⟨cause, path.toText⟩
        | .ok p => .ok p

/-- Makes a directory where its name stands; a directory to which that
name leads already is as good. -/
def makeAt (fs : FileSystem) (path : String) (p : FilePath) :
    Except OsFault FileSystem :=
  if (fs.link? p).isSome || (fs.entry? p).isSome then
    match fs.lookup path with
    | .ok .directory => .ok fs
    | .ok _ => .error ⟨.exists_, path⟩
    | .error e =>
      if e.cause.isAbsence then .error ⟨.exists_, path⟩ else .error e
  else fs.make path p .directory

/-- Makes a directory, and its parents where they are missing. The list
of components bounds the work. -/
def makeDirectory (fs : FileSystem) (path : LexicalPath) :
    Nat → Except OsFault FileSystem
  | 0 => .error ⟨.missing, path.toText⟩
  | fuel + 1 =>
    match fs.place path with
    | .ok p => fs.makeAt path.toText p
    | .error e =>
      if e.cause.number = OsCause.missing.number then
        match fs.makeDirectory (parentOf path) fuel with
        | .error e => .error e
        | .ok fs =>
          match fs.place path with
          | .ok p => fs.makeAt path.toText p
          | .error e => .error e
      else .error e

/-- A path without double dots, taken as text. -/
def withoutDots (path : LexicalPath) : LexicalPath :=
  let step (kept : List String) (name : String) : List String :=
    if name == ".." then
      if kept.isEmpty && !path.isAbsolute then [".."] else kept.dropLast
    else kept ++ [name]
  { path with parts := path.parts.foldl step [] }

/-- Opens a file for writing at its end and makes it if it is not
there. The answer is where it stands. -/
def openForAppend (fs : FileSystem) (path : LexicalPath) :
    Except OsFault (FilePath × FileSystem) :=
  match fs.locate true path.toText with
  | .error e => .error e
  | .ok p =>
    match fs.entry? p with
    | none => (fs.make path.toText p (.file [])).map fun fs => (p, fs)
    | some .directory => .error ⟨.isDirectory, path.toText⟩
    | some _ =>
      match fs.refusal? .write p with
      | some cause => .error ⟨cause, path.toText⟩
      | none => .ok (p, fs)

/-- Adds bytes to the file under an absolute path. -/
def append (fs : FileSystem) (p : FilePath) (bytes : List UInt8) :
    FileSystem :=
  match fs.entry? p with
  | some (.file old) => fs.set p (.file (old ++ bytes))
  | _ => fs

-- ============================================================= listing

/-- The order of paths by components. -/
def pathLE : List String → List String → Bool
  | [], _ => true
  | _ :: _, [] => false
  | a :: as, b :: bs => if a = b then pathLE as bs else a < b

/-- Every path below an absolute one, relative to it, directories
included, by components. -/
def below (fs : FileSystem) (p : FilePath) : List (List String) :=
  let relative := fs.names.filterMap fun q =>
    if p.length < q.length && q.take p.length == p then some (q.drop p.length)
    else none
  -- a name brings the directories on the way to it
  let all := relative.flatMap fun q =>
    (List.range q.length).map fun n => q.take (n + 1)
  all.eraseDups.mergeSort pathLE

/-- Whether a place is a directory that can be searched. A link is none,
wherever it leads. -/
def canSearch (fs : FileSystem) (p : FilePath) : Bool :=
  fs.entry? p == some .directory && (fs.link? p).isNone &&
    (fs.refusal? .list p).isNone

/-- Whether a search from a place comes by some steps: all directories on
the way can be searched. -/
def seen (fs : FileSystem) (p : FilePath) (steps : List String) : Bool :=
  (List.range steps.length).all fun n => fs.canSearch (p ++ steps.take n)

end FileSystem

end Outline
