/-
The surroundings of a run as data.

Parsers of source code are programs of their own, and so is the file
system. A snapshot says what they would answer: the files, the trees of
their sources, the environment and the directory of the run.
-/
import Outline.Command.Run
import Outline.Layout.Console
import Outline.Settings.Reader

namespace Outline

/-- What a snapshot says of one file. -/
structure SnapshotFile where
  path : FilePath
  bytes : List UInt8
  tree : Option (List PreorderEntry) := none
deriving Repr, Inhabited

/-- The surroundings of a run. -/
structure Snapshot where
  directory : String := "/"
  home : String := "/root"
  clock : String := ""
  requestId : String := "000000000000"
  environment : Environment := []
  files : List SnapshotFile := []
deriving Repr, Inhabited

-- =============================================================== reading

/-- The natural number of a value. -/
def Value.natural? : Value → Option Nat
  | .int n => if 0 ≤ n then some n.toNat else none
  | _ => none

/-- The text of a value. -/
def Value.string? : Value → Option String
  | .text s => some s
  | _ => none

/-- Reads a node: depth, kind, label or null, first byte, the byte behind
the last, and flags: `n` for named nodes and `m` for missing ones. -/
def PreorderEntry.read? : Value → Option PreorderEntry
  | .list [depth, kind, field, first, last, flags] => do
    let depth ← depth.natural?
    let kind ← kind.string?
    let first ← first.natural?
    let last ← last.natural?
    let flags ← flags.string?
    return {
      depth := depth
      kind := kind
      field := field.string?
      startByte := first
      endByte := last
      named := flags.toList.contains 'n'
      missing := flags.toList.contains 'm' }
  | _ => none

/-- Reads a tree as a list of nodes. -/
def PreorderEntry.readAll? : Value → Option (List PreorderEntry)
  | .list nodes => nodes.mapM PreorderEntry.read?
  | _ => none

namespace Snapshot

/-- The entries of a mapping whose keys are texts. -/
def fields (v : Value) : List (String × Value) :=
  (v.entries?.getD []).filterMap fun (k, v) => k.text?.map (·, v)

/-- A text field of a mapping, or a default. -/
def textField (v : Value) (name fallback : String) : String :=
  ((v.field? name).bind Value.string?).getD fallback

/-- Reads a file. -/
def file (path : String) (v : Value) : SnapshotFile :=
  { path := (LexicalPath.ofText path).parts
    bytes := Utf8.encode (textField v "text" "")
    tree := (v.field? "tree").bind PreorderEntry.readAll? }

/-- Reads a snapshot. What it does not say has a default. -/
def read (v : Value) : Snapshot :=
  let base : Snapshot := {}
  { directory := textField v "directory" base.directory
    home := textField v "home" base.home
    clock := textField v "clock" base.clock
    requestId := textField v "request_id" base.requestId
    environment := (fields ((v.field? "environment").getD .null)).filterMap
      fun (k, v) => v.string?.map (k, ·)
    files := (fields ((v.field? "files").getD .null)).map fun (k, v) =>
      file k v }

-- ================================================================= world

/-- The parser that knows the trees of a snapshot. -/
def engine (s : Snapshot) : Engine :=
  { parse := fun _ source =>
      (s.files.find? fun f => f.tree.isSome && f.bytes == source).bind
        fun f => f.tree.map (Forest.ofPreorder source) }

/-- The file system of a snapshot. -/
def fileSystem (s : Snapshot) : FileSystem :=
  let current := (LexicalPath.ofText s.directory).parts
  { entries := (current, .directory) ::
      s.files.map fun f => (f.path, .file f.bytes)
    current := current }

/-- The document of the user, below a home. -/
def userDocument (home : String) : String :=
  (((((LexicalPath.ofText home).child ".config").child "codestruct").child
    "config.yaml").toText)

/-- The world of a snapshot. -/
def world (s : Snapshot) (program : String) : World :=
  { program := program
    sources :=
      { files := s.fileSystem
        environment := s.environment
        homes := { own := s.home }
        reader := Yaml.reader
        json := Json.reader
        userDocument := userDocument s.home }
    grammars := .installed
    packs := LanguagePack.builtIn
    engine := s.engine
    print := Console.print
    freshId := s.requestId
    clock := s.clock }

end Snapshot

end Outline
