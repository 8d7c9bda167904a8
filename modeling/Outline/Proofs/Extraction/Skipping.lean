/-
One bad match never costs another one.

The matches of a file are taken in order, and each becomes a definition
or fails. What a match becomes depends on the match alone (`resolve`),
so a scan is described by two filters of the stream: the definitions of
the matches that resolve, and the faults of those that do not. One match
adds to exactly one of them, and induction over the stream gives what a
whole scan has (`foldl_scanMatch`).
-/
import Outline.Extraction

namespace Outline

namespace Language

variable {l : Language} {F : Forest} {path : String} {source : List UInt8}
  {options : ExtractOptions} {m : Match} {found : List Match}
  {d : Definition} {e : MatchFault}

-- ============================================================== streams

/-- The definitions of the matches that resolve, in order. -/
def definitionsOf (l : Language) (F : Forest) (source : List UInt8)
    (options : ExtractOptions) (found : List Match) : List Definition :=
  found.filterMap fun m =>
    match l.resolve F source options m with
    | .ok d => some d
    | .error _ => none

/-- The faults of the matches that do not, in order. -/
def faultsOf (l : Language) (F : Forest) (source : List UInt8)
    (options : ExtractOptions) (found : List Match) : List MatchFault :=
  found.filterMap fun m =>
    match l.resolve F source options m with
    | .ok _ => none
    | .error e => some e

theorem definitionsOf_cons_ok (h : l.resolve F source options m = .ok d) :
    l.definitionsOf F source options (m :: found)
      = d :: l.definitionsOf F source options found := by
  simp only [definitionsOf, List.filterMap_cons, h]

theorem definitionsOf_cons_error
    (h : l.resolve F source options m = .error e) :
    l.definitionsOf F source options (m :: found)
      = l.definitionsOf F source options found := by
  simp only [definitionsOf, List.filterMap_cons, h]

theorem faultsOf_cons_ok (h : l.resolve F source options m = .ok d) :
    l.faultsOf F source options (m :: found)
      = l.faultsOf F source options found := by
  simp only [faultsOf, List.filterMap_cons, h]

theorem faultsOf_cons_error (h : l.resolve F source options m = .error e) :
    l.faultsOf F source options (m :: found)
      = e :: l.faultsOf F source options found := by
  simp only [faultsOf, List.filterMap_cons, h]

theorem definitionsOf_append (first second : List Match) :
    l.definitionsOf F source options (first ++ second)
      = l.definitionsOf F source options first
        ++ l.definitionsOf F source options second :=
  List.filterMap_append

/-- A scan adds the definitions and the faults of a stream to what it
had before. -/
theorem foldl_scanMatch (found : List Match) (s : Scan) :
    found.foldl (l.scanMatch F path source options) s =
      { definitions := s.definitions ++ l.definitionsOf F source options found
        skipped := s.skipped + (l.faultsOf F source options found).length
        events := s.events ++ (l.faultsOf F source options found).map
          (skippedEvent path l.name) } := by
  induction found generalizing s with
  | nil => simp [definitionsOf, faultsOf]
  | cons m found ih =>
      rw [List.foldl_cons, ih]
      cases h : l.resolve F source options m with
      | ok d =>
          rw [definitionsOf_cons_ok h, faultsOf_cons_ok h]
          simp [scanMatch, h]
      | error e =>
          rw [definitionsOf_cons_error h, faultsOf_cons_error h]
          simp [scanMatch, h, Nat.add_assoc, Nat.add_comm]

/-- The outline of a source that has a tree: its definitions, an event
for each fault, and one more at the end. -/
theorem outline_of_parse {engine : Engine}
    (hF : engine.parse l.grammar source = some F)
    (hfound : engine.run l.query l.grammar F = found) :
    l.outline engine path source options =
      ⟨.ok ⟨path, l.name, l.definitionsOf F source options found⟩,
        (l.faultsOf F source options found).map (skippedEvent path l.name)
          ++ [parsedEvent path l.name
            (l.definitionsOf F source options found).length
            (l.faultsOf F source options found).length]⟩ := by
  simp [outline, hF, hfound, scan, foldl_scanMatch]

end Language

-- ================================================================ outlines

/-- A call and its name: `f` in the source `f()`. -/
def callForest : Forest :=
  ⟨#[{ kind := "call", children := [1] },
    { kind := "identifier", endByte := 1, parent := some 0 }]⟩

/-- A language of calls, under the extension `x`. -/
def callRegistry : Registry :=
  { byExtension := [("x",
      { (default : Language) with
        name := "calls"
        definitionKinds := [("call", .function)] })] }

/-- An engine that finds a call between two matches that fail: one has
no captures, and one has a name only. -/
def callEngine : Engine where
  parse _ _ := some callForest
  run _ _ _ :=
    [⟨0, []⟩, ⟨1, [⟨"function", some 0⟩, ⟨"name", some 1⟩]⟩,
      ⟨2, [⟨"name", some 1⟩]⟩]

end Outline
