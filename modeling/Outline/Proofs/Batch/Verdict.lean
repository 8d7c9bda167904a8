/-
Every file has one verdict.

A file can be wrong in several ways at once: it may be too large, not
readable, in no known language, and of no use to the parser. What is said
of it is the first of these that applies, in this order; the conditions
below leave no two of them together (`Verdict`). A file that none of them
applies to has the outline that comes of its bytes.

Some verdict always applies (`exists_verdict`), and one that applies is the
result (`Verdict.outcome_eq`): only these two open the checks. So a verdict
is the result just if it applies (`verdict_iff`), and when each code is
reported is read off the five of them.
-/
import Outline.Batch.FileResult
import Outline.Proofs.Extraction.Skipping
import Outline.Proofs.Path

namespace Outline

-- ================================================================= files

/-- The file is known to be no larger than the limit. -/
def FileState.Within (state : FileState) (limit : Int) : Prop :=
  ∃ size : Nat, state.size = .ok size ∧ (size : Int) ≤ limit

/-- The file is no larger than the limit and holds these bytes. -/
def FileState.Gives (state : FileState) (limit : Int) (bytes : List UInt8) :
    Prop :=
  state.Within limit ∧ state.bytes = .ok bytes

/-- The system refuses to say how large the file is; or it is no larger
than the limit, and the system refuses to read it. -/
inductive FileState.Refuses (state : FileState) (limit : Int) :
    OsFault → Prop where
  | size {e : OsFault} : state.size = .error e → Refuses state limit e
  | bytes {e : OsFault} : state.Within limit → state.bytes = .error e →
      Refuses state limit e

/-- The code of the report, if there is one. -/
def FileResult.code? (result : FileResult) : Option FaultCode :=
  result.report?.map Report.code

/-- A file has an outline or a report, and not both. -/
theorem FileResult.isSome_outline? (result : FileResult) :
    result.outline?.isSome = result.report?.isNone := by
  unfold outline? report?
  cases result.outcome <;> rfl

namespace Registry

variable {r : Registry} {engine : Engine} {settings : ExtractionSettings}
  {path : String} {state : FileState} {limit : Int} {l : Language}
  {outcome : Except Report FileOutline}

-- ============================================================= languages

/-- No language claims the extension of the path. -/
def Unclaimed (r : Registry) (path : String) : Prop :=
  ∀ entry ∈ r.byExtension, entry.1 ≠ extensionOf path

theorem unclaimed_iff :
    r.Unclaimed path ↔ r.byExtension.lookup (extensionOf path) = none := by
  unfold Unclaimed
  rw [List.lookup_eq_none_iff]
  refine forall₂_congr fun entry _ => ?_
  rw [bne_iff_ne]
  exact ne_comm

/-- The language of a path is that of its normal form. -/
theorem forPath_normalPath :
    r.forPath (normalPath path) = .ok l ↔ r.forPath path = .ok l := by
  unfold forPath
  rw [extensionOf_normalPath]
  cases r.byExtension.lookup (extensionOf path) with
  | none => exact iff_of_false nofun nofun
  | some l' => rfl

theorem forPath_of_unclaimed (h : r.Unclaimed path) :
    r.forPath (normalPath path)
      = .error (.unsupportedPath (normalPath path)) := by
  rw [forPath, extensionOf_normalPath, unclaimed_iff.mp h]

-- =============================================================== verdicts

/-- What may be said of a file, and when. -/
inductive Verdict (r : Registry) (engine : Engine)
    (settings : ExtractionSettings) (path : String) (state : FileState) :
    Except Report FileOutline → Prop where
  /-- The system refuses the file. -/
  | refused {e : OsFault} : state.Refuses settings.sizeLimit e →
      Verdict r engine settings path state (.error
        (InternalFault.unexpected e.message [("path", .text path)]).report)
  /-- The file is too large, whatever else it is. -/
  | tooLarge {size : Nat} : state.size = .ok size →
      settings.sizeLimit < size →
      Verdict r engine settings path state
        (.error (StructureFault.tooLarge path size settings.sizeLimit).report)
  /-- No language is known for the file. -/
  | unclaimed {bytes : List UInt8} : state.Gives settings.sizeLimit bytes →
      r.Unclaimed path →
      Verdict r engine settings path state
        (.error (StructureFault.unsupportedPath (normalPath path)).report)
  /-- The parser has no tree for the file. -/
  | treeless {bytes : List UInt8} {l : Language} :
      state.Gives settings.sizeLimit bytes → r.forPath path = .ok l →
      engine.parse l.grammar bytes = none →
      Verdict r engine settings path state
        (.error (StructureFault.noTree (normalPath path) l.name).report)
  /-- The file has an outline. -/
  | outlined {bytes : List UInt8} {l : Language} {F : Forest} :
      state.Gives settings.sizeLimit bytes → r.forPath path = .ok l →
      engine.parse l.grammar bytes = some F →
      Verdict r engine settings path state
        (.ok ⟨normalPath path, l.name, l.definitionsOf F bytes settings.options
          (engine.run l.query l.grammar F)⟩)

/-- What a file that can be read comes to is that of its outline. -/
theorem extractFile_of_gives {bytes : List UInt8}
    (h : state.Gives settings.sizeLimit bytes) :
    (r.extractFile engine settings path state).result.outcome
      = match (r.outline engine (normalPath path) bytes
          settings.options).result with
        | .ok o => .ok o
        | .error e => .error e.report := by
  obtain ⟨⟨size, hsize, hle⟩, hbytes⟩ := h
  rw [extractFile, hsize]
  dsimp only
  rw [if_neg (by omega), hbytes]
  rfl

/-- A verdict that applies is the result. -/
theorem Verdict.outcome_eq (h : Verdict r engine settings path state outcome) :
    (r.extractFile engine settings path state).result.outcome = outcome := by
  cases h with
  | refused h =>
      cases h with
      | size hsize =>
          rw [extractFile, hsize]
          rfl
      | bytes hwithin hbytes =>
          obtain ⟨size, hsize, hle⟩ := hwithin
          rw [extractFile, hsize]
          dsimp only
          rw [if_neg (by omega), hbytes]
          rfl
  | tooLarge hsize hlarge =>
      rw [extractFile, hsize]
      dsimp only
      rw [if_pos hlarge]
      rfl
  | unclaimed hgives hunclaimed =>
      rw [extractFile_of_gives hgives, outline,
        forPath_of_unclaimed hunclaimed]
      rfl
  | treeless hgives hl hnone =>
      rw [extractFile_of_gives hgives, outline, forPath_normalPath.mpr hl]
      dsimp only [Language.outline]
      rw [hnone]
      rfl
  | outlined hgives hl hF =>
      rw [extractFile_of_gives hgives, outline, forPath_normalPath.mpr hl]
      dsimp only
      rw [Language.outline_of_parse hF rfl]

/-- Some verdict applies. -/
theorem exists_verdict (r : Registry) (engine : Engine)
    (settings : ExtractionSettings) (path : String) (state : FileState) :
    ∃ outcome, Verdict r engine settings path state outcome := by
  cases hsize : state.size with
  | error e => exact ⟨_, .refused (.size hsize)⟩
  | ok size =>
      by_cases hlarge : settings.sizeLimit < size
      · exact ⟨_, .tooLarge hsize hlarge⟩
      have hwithin : state.Within settings.sizeLimit :=
        ⟨size, hsize, by omega⟩
      cases hbytes : state.bytes with
      | error e => exact ⟨_, .refused (.bytes hwithin hbytes)⟩
      | ok bytes =>
          by_cases hunclaimed : r.Unclaimed path
          · exact ⟨_, .unclaimed ⟨hwithin, hbytes⟩ hunclaimed⟩
          obtain ⟨l, hl⟩ : ∃ l, r.forPath path = .ok l := by
            rw [unclaimed_iff, ← ne_eq,
              Option.ne_none_iff_exists'] at hunclaimed
            obtain ⟨l, hl⟩ := hunclaimed
            exact ⟨l, by rw [forPath, hl]⟩
          cases hF : engine.parse l.grammar bytes with
          | none => exact ⟨_, .treeless ⟨hwithin, hbytes⟩ hl hF⟩
          | some F => exact ⟨_, .outlined ⟨hwithin, hbytes⟩ hl hF⟩

/-- The result is the verdict that applies. -/
theorem verdict_iff : Verdict r engine settings path state outcome
    ↔ (r.extractFile engine settings path state).result.outcome = outcome := by
  constructor
  · exact Verdict.outcome_eq
  · rintro rfl
    obtain ⟨outcome, h⟩ := exists_verdict r engine settings path state
    rw [h.outcome_eq]
    exact h

-- ================================================================= codes

/-- A code is reported just if that of the verdict is. -/
theorem extractFile_code? (h : Verdict r engine settings path state outcome) :
    (r.extractFile engine settings path state).result.code?
      = FileResult.code? ⟨path, outcome⟩ := by
  rw [FileResult.code?, FileResult.report?, h.outcome_eq]
  rfl

/-- What each code of a report stands for. No other code is reported of a
file. -/
def Grounds (r : Registry) (engine : Engine) (settings : ExtractionSettings)
    (path : String) (state : FileState) : FaultCode → Prop
  | .internalError => ∃ e, state.Refuses settings.sizeLimit e
  | .fileTooLarge =>
    ∃ size : Nat, state.size = .ok size ∧ settings.sizeLimit < size
  | .unsupportedLanguage =>
    ∃ bytes, state.Gives settings.sizeLimit bytes ∧ r.Unclaimed path
  | .parseFailed =>
    ∃ bytes l, state.Gives settings.sizeLimit bytes
      ∧ r.forPath path = .ok l ∧ engine.parse l.grammar bytes = none
  | _ => False

/-- A code is reported just on its grounds. -/
theorem code?_iff {code : FaultCode} :
    (r.extractFile engine settings path state).result.code? = some code
      ↔ Grounds r engine settings path state code := by
  constructor
  · intro h
    obtain ⟨outcome, hverdict⟩ := exists_verdict r engine settings path state
    rw [extractFile_code? hverdict] at h
    cases hverdict with
    | refused hrefuses =>
        obtain rfl : FaultCode.internalError = code := Option.some.inj h
        exact ⟨_, hrefuses⟩
    | tooLarge hsize hlarge =>
        obtain rfl : FaultCode.fileTooLarge = code := Option.some.inj h
        exact ⟨_, hsize, hlarge⟩
    | unclaimed hgives hunclaimed =>
        obtain rfl : FaultCode.unsupportedLanguage = code := Option.some.inj h
        exact ⟨_, hgives, hunclaimed⟩
    | treeless hgives hl hnone =>
        obtain rfl : FaultCode.parseFailed = code := Option.some.inj h
        exact ⟨_, _, hgives, hl, hnone⟩
    | outlined => cases h
  · intro h
    match code, h with
    | .internalError, ⟨e, hrefuses⟩ =>
        exact extractFile_code? (.refused hrefuses)
    | .fileTooLarge, ⟨size, hsize, hlarge⟩ =>
        exact extractFile_code? (.tooLarge hsize hlarge)
    | .unsupportedLanguage, ⟨bytes, hgives, hunclaimed⟩ =>
        exact extractFile_code? (.unclaimed hgives hunclaimed)
    | .parseFailed, ⟨bytes, l, hgives, hl, hnone⟩ =>
        exact extractFile_code? (.treeless hgives hl hnone)

/-- A file with an outline has a language and a tree, and its outline goes by
the normal form of its path. -/
theorem exists_tree_of_outline? {o : FileOutline}
    (h : (r.extractFile engine settings path state).result.outline? = some o) :
    ∃ bytes l F, state.Gives settings.sizeLimit bytes
      ∧ r.forPath path = .ok l ∧ engine.parse l.grammar bytes = some F
      ∧ o = ⟨normalPath path, l.name, l.definitionsOf F bytes settings.options
        (engine.run l.query l.grammar F)⟩ := by
  obtain ⟨outcome, hverdict⟩ := exists_verdict r engine settings path state
  rw [FileResult.outline?, hverdict.outcome_eq] at h
  cases hverdict with
  | refused => cases h
  | tooLarge => cases h
  | unclaimed => cases h
  | treeless => cases h
  | outlined hgives hl hF =>
      obtain rfl := Option.some.inj h
      exact ⟨_, _, _, hgives, hl, hF, rfl⟩

/-- A file has an outline just if it gives its bytes and they have one. -/
theorem outline?_iff {o : FileOutline} :
    (r.extractFile engine settings path state).result.outline? = some o
      ↔ ∃ bytes, state.Gives settings.sizeLimit bytes
          ∧ (r.outline engine (normalPath path) bytes
              settings.options).result = .ok o := by
  constructor
  · intro h
    obtain ⟨bytes, l, F, hgives, hl, hF, rfl⟩ := exists_tree_of_outline? h
    refine ⟨bytes, hgives, ?_⟩
    rw [outline, forPath_normalPath.mpr hl]
    dsimp only
    rw [Language.outline_of_parse hF rfl]
  · rintro ⟨bytes, hgives, ho⟩
    rw [FileResult.outline?, extractFile_of_gives hgives, ho]

theorem path_of_outline? {o : FileOutline}
    (h : (r.extractFile engine settings path state).result.outline? = some o) :
    o.path = normalPath path := by
  obtain ⟨bytes, l, F, -, -, -, rfl⟩ := exists_tree_of_outline? h
  rfl

theorem path_extractFile :
    (r.extractFile engine settings path state).result.path = path := by
  rw [extractFile]
  cases state.size with
  | error e => rfl
  | ok size =>
      dsimp only
      split
      · rfl
      · cases state.bytes <;> rfl

/-- Every file has one result, under the path as it was given: an outline
or a report, and not both. Which it is follows the order of the checks. A
file that the system refuses is reported with its path, a file that is too
large is reported as such in whatever language, then one that no language
claims, then one that has no tree. Every other file has the outline of its
bytes, under the normal form of its path. -/
theorem extractFile_has_one_verdict (r : Registry) (engine : Engine)
    (settings : ExtractionSettings) (path : String) (state : FileState) :
    let result := (r.extractFile engine settings path state).result
    result.path = path
    ∧ result.outline?.isSome = result.report?.isNone
    ∧ (∀ outcome, Verdict r engine settings path state outcome
        ↔ result.outcome = outcome)
    ∧ (∀ code, result.code? = some code
        ↔ Grounds r engine settings path state code)
    ∧ (∀ e, state.Refuses settings.sizeLimit e → result.report?
        = some (InternalFault.unexpected e.message
            [("path", .text path)]).report)
    ∧ (∀ o, result.outline? = some o
        ↔ ∃ bytes, state.Gives settings.sizeLimit bytes
          ∧ (r.outline engine (normalPath path) bytes
              settings.options).result = .ok o)
    ∧ ∀ o, result.outline? = some o → o.path = normalPath path := by
  intro result
  refine ⟨path_extractFile, result.isSome_outline?, fun _ => verdict_iff,
    fun _ => code?_iff, ?_, fun _ => outline?_iff, fun _ => path_of_outline?⟩
  intro e hrefuses
  rw [FileResult.report?, (Verdict.refused hrefuses).outcome_eq]

/-- Three files of the language of calls: one with an outline, one that is
a directory, and one with an extension of its own, too large to read. -/
theorem extractFile_has_one_verdict_calls :
    (callRegistry.extractFile callEngine {} "./a.x"
        ⟨.ok 3, .ok [102, 40, 41]⟩).result.outline?.map FileOutline.path
      = some "a.x"
    ∧ (callRegistry.extractFile callEngine {} "./a.x"
        ⟨.ok 4096, .error ⟨.isDirectory, "a.x"⟩⟩).result.report?
      = some (InternalFault.unexpected
          "[Errno 21] Is a directory: 'a.x'" [("path", .text "./a.x")]).report
    ∧ (callRegistry.extractFile callEngine {} "./a.y"
        ⟨.ok 10485761, .error ⟨.isDirectory, "a.y"⟩⟩).result.code?
      = some .fileTooLarge := by
  obtain ⟨-, -, -, -, -, houtline, hpath⟩ := extractFile_has_one_verdict
    callRegistry callEngine {} "./a.x" ⟨.ok 3, .ok [102, 40, 41]⟩
  obtain ⟨-, -, -, -, hrefused, -⟩ := extractFile_has_one_verdict
    callRegistry callEngine {} "./a.x"
    ⟨.ok 4096, .error ⟨.isDirectory, "a.x"⟩⟩
  obtain ⟨-, -, -, hcode, -⟩ := extractFile_has_one_verdict
    callRegistry callEngine {} "./a.y"
    ⟨.ok 10485761, .error ⟨.isDirectory, "a.y"⟩⟩
  refine ⟨?_, ?_, (hcode _).mpr ⟨_, rfl, by decide⟩⟩
  · have ho := (houtline _).mpr ⟨_, ⟨⟨3, rfl, by decide⟩, rfl⟩, rfl⟩
    rw [ho, Option.map_some, hpath _ ho]
    rfl
  · have hmessage : OsFault.message ⟨.isDirectory, "a.x"⟩
        = "[Errno 21] Is a directory: 'a.x'" := by decide +kernel
    rw [← hmessage]
    exact hrefused _ (.bytes ⟨_, rfl, by decide⟩ rfl)

end Registry

end Outline
