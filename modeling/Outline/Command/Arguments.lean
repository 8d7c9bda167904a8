/-
Reading a command line.

Options are read before anything is done with them, so a word that
cannot be read is the first error. Pages that are asked for come next,
then the values of options, then the paths.
-/
import Outline.Batch.FileResult
import Outline.Command.Page
import Outline.Text.Digit
import Outline.Text.Quoted
import Outline.Text.Similarity

namespace Outline

-- =============================================================== faults

/-- What is wrong with a command line. -/
inductive UsageFault where
  | noSuchOption (name : String) (close : List String)
  | valueNotTaken (name : String)
  | valueMissing (name : String)
  | notInteger (text : String)
  | tooFewWorkers
  | pathsMissing
  | noSuchPath (path : String)
  | unreadablePath (path : String)
  | extraArguments (arguments : List String)
  | commandMissing
  | noSuchCommand (name : String) (close : List String)
deriving DecidableEq, Repr, Inhabited

namespace UsageFault

/-- A message with the names that come close to a wrong one. -/
def withClose (message : String) : List String → String
  | [] => message
  | [name] => s!"{message} Did you mean {Text.quoted name}?"
  | names =>
    s!"{message} (Did you mean one of: " ++
      ", ".intercalate (names.map Text.quoted) ++ "?)"

/-- The message of a fault. -/
def message : UsageFault → String
  | noSuchOption name close =>
    withClose s!"No such option {Text.quoted name}." close
  | valueNotTaken name => s!"Option {Text.quoted name} does not take a value."
  | valueMissing name => s!"Option {Text.quoted name} requires an argument."
  | notInteger text =>
    "Invalid value for '--workers' / '-j': " ++ Text.quoted text ++
      " is not a valid integer."
  | tooFewWorkers => "Invalid value for --workers: must be >= 1"
  | pathsMissing => "Missing argument 'PATHS...'."
  | noSuchPath path =>
    "Invalid value for 'PATHS...': Path " ++ Text.quoted path ++
      " does not exist."
  | unreadablePath path =>
    "Invalid value for 'PATHS...': Path " ++ Text.quoted path ++
      " is not readable."
  | extraArguments [word] => s!"Got unexpected extra argument ({word})"
  | extraArguments words =>
    "Got unexpected extra arguments (" ++ " ".intercalate words ++ ")"
  | commandMissing => "Missing command."
  | noSuchCommand name close =>
    withClose s!"No such command {Text.quoted name}." close

end UsageFault

-- ============================================================== options

/-- What options stand for. -/
inductive Switch where
  | help
  | version
  | verbose
  | json
  | includeContent
  | scopes
  | workers
deriving DecidableEq, Repr, Inhabited

/-- Whether an option takes a value. -/
def Switch.takesValue : Switch → Bool
  | workers => true
  | _ => false

/-- The options of a page by name. -/
def Page.options : Page → List (String × Switch)
  | top =>
    [("--version", .version), ("-v", .verbose), ("--verbose", .verbose),
      ("--help", .help)]
  | command .extract =>
    [("--json", .json), ("--include-content", .includeContent),
      ("--scopes", .scopes), ("--workers", .workers), ("-j", .workers),
      ("--help", .help)]
  | command .languages => [("--json", .json), ("--help", .help)]

/-- The names of a page's options that are words, not letters. -/
def Page.longNames (p : Page) : List String :=
  (p.options.map (·.1)).filter fun name => 2 < name.length

/-- Whether options may stand behind other arguments. What follows the
name of a command belongs to that command. -/
def Page.mixesArguments : Page → Bool
  | top => false
  | command _ => true

/-- An option that was given, with its value or an empty text. -/
structure GivenOption where
  switch : Switch
  value : String := ""
deriving DecidableEq, Repr, Inhabited

/-- What one word says: options, and perhaps a last one whose value is
the next word. -/
structure OptionWord where
  given : List GivenOption := []
  wanting : Option (String × Switch) := none
deriving DecidableEq, Repr, Inhabited

/-- Reads option letters. What follows a letter that takes a value is
the value. -/
def Page.readLetters (p : Page) :
    List Char → Except UsageFault OptionWord
  | [] => .ok {}
  | c :: rest =>
    let name := String.ofList ['-', c]
    match p.options.lookup name with
    | none => .error (.noSuchOption name [])
    | some s =>
      if s.takesValue then
        if rest.isEmpty then .ok { wanting := some (name, s) }
        else .ok { given := [⟨s, String.ofList rest⟩] }
      else
        match p.readLetters rest with
        | .error e => .error e
        | .ok w => .ok { w with given := ⟨s, ""⟩ :: w.given }

/-- Reads a word that looks like an option. A value may follow an equals
sign; a word that is no long name is a group of letters unless it begins
with two dashes. -/
def Page.readOption (p : Page) (word : String) :
    Except UsageFault OptionWord :=
  let cs := word.toList
  let name := String.ofList (cs.takeWhile (· != '='))
  let value := (cs.dropWhile (· != '=')).tail?.map String.ofList
  match (if 2 < name.length then p.options.lookup name else none), value with
  | some s, none =>
    if s.takesValue then .ok { wanting := some (name, s) }
    else .ok { given := [⟨s, ""⟩] }
  | some s, some v =>
    if s.takesValue then .ok { given := [⟨s, v⟩] }
    else .error (.valueNotTaken name)
  | none, _ =>
    if cs.take 2 = ['-', '-'] then
      .error (.noSuchOption name (Text.suggestions name p.longNames))
    else p.readLetters cs.tail

/-- A command line taken apart. -/
structure Arguments where
  given : List GivenOption := []
  words : List String := []
deriving DecidableEq, Repr, Inhabited

/-- Whether a word looks like an option. A dash alone does not. -/
def looksLikeOption (word : String) : Bool :=
  word.toList.head? == some '-' && 1 < word.length

/-- Takes words apart. Two dashes end the options. -/
def Page.readArguments (p : Page) (read : Arguments) :
    List String → Except UsageFault Arguments
  | [] => .ok read
  | word :: rest =>
    if word == "--" then .ok { read with words := read.words ++ rest }
    else if looksLikeOption word then
      match p.readOption word with
      | .error e => .error e
      | .ok w =>
        let read := { read with given := read.given ++ w.given }
        match w.wanting, rest with
        | none, rest => p.readArguments read rest
        | some (name, _), [] => .error (.valueMissing name)
        | some (_, s), value :: rest =>
          p.readArguments { read with given := read.given ++ [⟨s, value⟩] }
            rest
    else if p.mixesArguments then
      p.readArguments { read with words := read.words ++ [word] } rest
    else .ok { read with words := read.words ++ word :: rest }

namespace Arguments

/-- Whether an option was given. -/
def has (a : Arguments) (s : Switch) : Bool :=
  a.given.any (·.switch == s)

/-- The last value of an option. -/
def value? (a : Arguments) (s : Switch) : Option String :=
  ((a.given.filter (·.switch == s)).getLast?).map (·.value)

end Arguments

-- =============================================================== stops

/-- Why a command line leads to no work. -/
inductive Stop where
  | usage (page : Page) (fault : UsageFault)
  | page (page : Page)
  | version
  | noArguments
  | unnameable
deriving DecidableEq, Repr, Inhabited

/-- Reads words for a page; a page or version that is asked for wins
over everything that can be read. -/
def Page.read (p : Page) (words : List String) : Except Stop Arguments :=
  match p.readArguments {} words with
  | .error e => .error (.usage p e)
  | .ok a =>
    let asked := a.given.find? fun g =>
      g.switch == .help || g.switch == .version
    match asked with
    | some g =>
      if g.switch == .version then .error .version else .error (.page p)
    | none => .ok a

-- ============================================================= commands

/-- Which command is called, how, and with which words. -/
structure Invocation where
  verbose : Bool
  command : Subcommand
  words : List String
deriving DecidableEq, Repr, Inhabited

/-- Whether a word that names no command is to be read as an option once
more. -/
def startsWithSign (word : String) : Bool :=
  match word.toList with
  | [] => false
  | c :: _ => !Text.isAlphanumeric c

/-- Reads a command line up to the name of the command. -/
def Invocation.read (words : List String) : Except Stop Invocation :=
  if words.isEmpty then .error .noArguments
  else do
    let a ← Page.top.read words
    match a.words with
    | [] => throw (.usage .top .commandMissing)
    | name :: rest =>
      match Subcommand.ofName? name with
      | some c =>
        return { verbose := a.has .verbose, command := c, words := rest }
      | none =>
        if startsWithSign name then
          let _ ← Page.top.read a.words
        throw (.usage .top (.noSuchCommand name
          (Text.suggestions name (Subcommand.all.map Subcommand.name))))

/-- What `extract` is asked to do. -/
structure ExtractRequest where
  paths : List String
  json : Bool := false
  includeContent : Bool := false
  scopes : Bool := false
  workers : Option Int := none
deriving DecidableEq, Repr, Inhabited

/-- Whether the system does not permit to read what stands at a place. -/
def FileSystem.forbidsReading (files : FileSystem) (p : FilePath)
    (entry : FileEntry) : Bool :=
  let act : FileAct := if entry = .directory then .list else .read
  (files.refusal? act p).any OsCause.isPermission

/-- Checks that something stands under every path that may be read. -/
def checkPaths (files : FileSystem) : List String → Except Stop Unit
  | [] => .ok ()
  | path :: rest =>
    if path.toList.contains '\x00' then .error .unnameable
    else
      match files.find path with
      | .error _ =>
        .error (.usage (.command .extract) (.noSuchPath path))
      | .ok (p, entry) =>
        if files.forbidsReading p entry then
          .error (.usage (.command .extract) (.unreadablePath path))
        else checkPaths files rest

/-- Reads the number of workers. -/
def readWorkers (a : Arguments) : Except Stop (Option Int) :=
  match a.value? .workers with
  | none => .ok none
  | some text =>
    match Text.integer? text with
    | some n => .ok (some n)
    | none => .error (.usage (.command .extract) (.notInteger text))

/-- Reads the words of `extract`. -/
def ExtractRequest.read (files : FileSystem) (words : List String) :
    Except Stop ExtractRequest := do
  let page := Page.command .extract
  let a ← page.read words
  let workers ← readWorkers a
  if a.words.isEmpty then throw (.usage page .pathsMissing)
  checkPaths files a.words
  return {
    paths := a.words
    json := a.has .json
    includeContent := a.has .includeContent
    scopes := a.has .scopes
    workers := workers }

/-- Reads the words of `languages`: whether the answer is data. -/
def readLanguages (words : List String) : Except Stop Bool := do
  let page := Page.command .languages
  let a ← page.read words
  if a.words.isEmpty then return a.has .json
  else throw (.usage page (.extraArguments a.words))

end Outline
