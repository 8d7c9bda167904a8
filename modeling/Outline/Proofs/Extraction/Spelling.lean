/-
What is read from a source spells its bytes.

Names, contents and the names of scopes are cut out of a source as bytes
and become texts. A text written down again gives back the very bytes it
was read from, just if these are well-formed; what comes of ill-formed ones
never passes for a faithful reading. And no bytes are lost altogether: a
name that has no text has no bytes either.
-/
import Outline.Proofs.Extraction.Emission
import Outline.Proofs.Extraction.Obstacles
import Outline.Proofs.Text.RoundTrip

namespace Outline

open Utf8

namespace Anchors

variable {F : Forest} {source : List UInt8} {pattern : Int}
  {anchors : Anchors} {includeContent : Bool} {scopes : Scopes}

/-- Anchors have a node each, or one is reported as missing. -/
theorem exists_nodes_or_missing (F : Forest) (source : List UInt8)
    (pattern : Int) (anchors : Anchors) (includeContent : Bool)
    (scopes : Scopes) :
    (∃ kind n naming, anchors.definition = some ⟨kind, some n⟩
      ∧ anchors.name.bind (·.node) = some naming)
    ∨ ∃ anchor, anchors.resolve F source pattern includeContent scopes
      = .error (.missingNode pattern anchor) := by
  obtain ⟨definition, name⟩ := anchors
  rcases definition with _ | ⟨kind, _ | n⟩
  · exact .inr ⟨_, rfl⟩
  · exact .inr ⟨_, rfl⟩
  rcases name with _ | ⟨called, _ | naming⟩
  · exact .inr ⟨_, rfl⟩
  · exact .inr ⟨_, rfl⟩
  exact .inl ⟨kind, n, naming, rfl, rfl⟩

/-- A definition is made of two nodes: its name is read from one, and its
content is what the other spans. -/
theorem exists_nodes_of_resolve {d : Definition}
    (h : anchors.resolve F source pattern includeContent scopes = .ok d) :
    ∃ n naming, anchors.nodes = (some n, some naming)
      ∧ d.name = decode (F.span source naming)
      ∧ d.content
        = if includeContent then some (F.span source n) else none := by
  rcases exists_nodes_or_missing F source pattern anchors includeContent
    scopes with ⟨kind, n, naming, hdefinition, hname⟩ | ⟨anchor, hmissing⟩
  · refine ⟨n, naming, by simp [nodes, hdefinition, hname], ?_⟩
    rw [resolve_of_anchors hdefinition hname] at h
    split at h
    next => cases h
    next =>
      split at h
      next => cases h
      next =>
        split at h
        next =>
          cases h
          exact ⟨rfl, rfl⟩
        next => cases h
  · rw [hmissing] at h
    cases h

/-- A name that cannot be read has a node that spans nothing. -/
theorem span_eq_nil_of_resolve {i : Int} {kind : String}
    (h : anchors.resolve F source pattern includeContent scopes
      = .error (.noName i kind)) :
    ∃ naming, anchors.nodes.2 = some naming ∧ F.span source naming = [] := by
  rcases exists_nodes_or_missing F source pattern anchors includeContent
    scopes with ⟨kind, n, naming, hdefinition, hname⟩ | ⟨anchor, hmissing⟩
  · refine ⟨naming, hname, ?_⟩
    rw [resolve_of_anchors hdefinition hname] at h
    split at h
    next => cases h
    next =>
      split at h
      next hempty => exact hempty
      next => split at h <;> cases h
  · rw [hmissing] at h
    cases h

end Anchors

/-- The content of a definition is shown as a text. -/
theorem Definition.field?_content {d : Definition} {bytes : List UInt8}
    (h : d.content = some bytes) :
    d.toValue.field? "content" = some (.text (decode bytes)) := by
  unfold toValue Value.field? Value.object
  rw [h]
  rfl

/-- The name of a scope is the text of the node that names it. -/
theorem Forest.exists_text_of_scopeName {F : Forest} {scope : NodeId}
    {name : String} (h : F.scopeName scope = some name) :
    ∃ naming bytes, F.namingNode scope = some naming
      ∧ (F.node naming).text = some bytes ∧ name = decode bytes := by
  unfold scopeName at h
  obtain ⟨naming, hnaming, h⟩ := Option.bind_eq_some_iff.mp h
  obtain ⟨bytes, hbytes, h⟩ := Option.bind_eq_some_iff.mp h
  dsimp only at h
  split at h
  next => cases h
  next =>
    cases h
    exact ⟨naming, bytes, hnaming, hbytes, rfl⟩

/-- Reading bytes as a text loses none of what is a text. Only no bytes are
read as the empty text; what was written is read as it was, whatever comes
behind it. So a name, a content as it is shown and the name of a scope are
written as the bytes of their nodes just if these are well-formed, and only
a node that spans nothing has no name to read. -/
theorem Utf8.decode_is_faithful :
    (∀ bytes, decode bytes = "" ↔ bytes = [])
    ∧ (∀ text, decode (encode text) = text)
    ∧ (∀ text rest, decode (encode text ++ rest) = text ++ decode rest)
    ∧ (∀ (F : Forest) source pattern (anchors : Anchors) includeContent
        scopes d,
      anchors.resolve F source pattern includeContent scopes = .ok d →
      ∃ n naming, anchors.nodes = (some n, some naming)
        ∧ (encode d.name = F.span source naming
          ↔ IsText (F.span source naming))
        ∧ (includeContent = true → ∃ text,
          d.toValue.field? "content" = some (.text text)
          ∧ (encode text = F.span source n ↔ IsText (F.span source n))))
    ∧ (∀ (F : Forest) scope name, F.scopeName scope = some name →
      ∃ naming bytes, F.namingNode scope = some naming
        ∧ (F.node naming).text = some bytes
        ∧ (encode name = bytes ↔ IsText bytes))
    ∧ ∀ (F : Forest) source pattern (anchors : Anchors) includeContent
        scopes i kind,
      anchors.resolve F source pattern includeContent scopes
        = .error (.noName i kind) →
      ∃ naming, anchors.nodes.2 = some naming
        ∧ F.span source naming = [] := by
  refine ⟨fun _ => decode_eq_empty_iff, decode_encode, decode_encode_append,
    ?_, ?_, ?_⟩
  · intro F source pattern anchors includeContent scopes d h
    obtain ⟨n, naming, hnodes, hname, hcontent⟩ :=
      Anchors.exists_nodes_of_resolve h
    refine ⟨n, naming, hnodes, ?_, ?_⟩
    · rw [hname]
      exact encode_decode_eq_iff
    · intro hinclude
      rw [if_pos hinclude] at hcontent
      exact ⟨_, Definition.field?_content hcontent, encode_decode_eq_iff⟩
  · intro F scope name h
    obtain ⟨naming, bytes, hnaming, hbytes, rfl⟩ :=
      Forest.exists_text_of_scopeName h
    exact ⟨naming, bytes, hnaming, hbytes, encode_decode_eq_iff⟩
  · intro F source pattern anchors includeContent scopes i kind h
    exact Anchors.span_eq_nil_of_resolve h

/-- An `é` with a byte behind it that starts no character. -/
def accentSource : List UInt8 := [195, 169, 255]

/-- A call named by the letter, with a node behind it that spans nothing. -/
def accentForest : Forest :=
  .ofPreorder accentSource [
    ⟨0, "call", none, 0, 3, true, false⟩,
    ⟨1, "identifier", some "name", 0, 2, true, false⟩,
    ⟨1, "identifier", none, 3, 3, true, false⟩]

/-- The name has the bytes of the letter, for the definition and for the
scope; the content has a replacement for the last byte, and is not written
as it was read. -/
theorem Utf8.decode_is_faithful_accent :
    decode accentSource = "é" ++ "\uFFFD"
    ∧ (∃ d text,
      (Anchors.mk (some ⟨"function", some 0⟩) (some ⟨"name", some 1⟩)).resolve
          accentForest accentSource 0 true {} = .ok d
        ∧ d.name = "é" ∧ encode d.name = [195, 169]
        ∧ d.toValue.field? "content" = some (.text text)
        ∧ encode text ≠ accentSource)
    ∧ (∃ name, accentForest.scopeName 0 = some name
      ∧ encode name = [195, 169])
    ∧ accentForest.span accentSource 2 = [] := by
  obtain ⟨-, -, hbehind, hresolve, hscope, hblank⟩ := decode_is_faithful
  have hletter : encode "é" = [195, 169] := by
    rw [encode_eq]
    decide
  have hsource : accentSource = encode "é" ++ [255] := by
    rw [hletter]
    rfl
  have hread : decode accentSource = "é" ++ "\uFFFD" := by
    rw [hsource, hbehind]
    rfl
  have htext : IsText [195, 169] := isText_iff.mpr ⟨"é", hletter⟩
  have hnotext : ¬IsText accentSource := by
    rw [← encode_decode_eq_iff, hread, encode_eq]
    decide
  refine ⟨hread, ?_, ?_, ?_⟩
  · obtain ⟨n, naming, hnodes, hname, hcontent⟩ := hresolve accentForest
      accentSource 0 ⟨some ⟨"function", some 0⟩, some ⟨"name", some 1⟩⟩ true {}
      _ rfl
    cases hnodes
    obtain ⟨text, hshown, hcontent⟩ := hcontent rfl
    refine ⟨_, text, rfl, ?_, hname.mpr htext, hshown, ?_⟩
    · decide +kernel
    · exact fun h => hnotext (hcontent.mp h)
  · have hnamed : accentForest.scopeName 0 = some (decode [195, 169]) := by
      decide +kernel
    obtain ⟨naming, bytes, hnaming, hbytes, hname⟩ := hscope _ _ _ hnamed
    cases hnaming
    cases hbytes
    exact ⟨_, hnamed, hname.mpr htext⟩
  · obtain ⟨naming, hnaming, hspan⟩ := hblank accentForest accentSource 0
      ⟨some ⟨"function", some 0⟩, some ⟨"name", some 2⟩⟩ false {} 0 "function"
      rfl
    cases hnaming
    exact hspan

end Outline
