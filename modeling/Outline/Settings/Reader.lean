/-
The readers of the program.

A document is read as YAML in UTF-8, and a variable as JSON. Of a text
that breaks the rules of YAML only that is said; a scalar that has a form
and no value is a failure that the reader does not take care of.
-/
import Outline.Proofs.Yaml.Distinct
import Outline.Settings.Document
import Outline.Text.Utf8
import Outline.Value.Json

namespace Outline

namespace Yaml

/-- What stands for the wording of an error in the notation. -/
def malformedReason : String := "<yaml>"

/-- What comes of a fault. -/
def ReadFault.reading : ReadFault → Reading
  | .malformed => .malformed malformedReason
  | .badInteger base text =>
    .raised ⟨"ValueError",
      s!"invalid literal for int() with base {base}: " ++ Text.quoted text⟩
  | .longInteger digits =>
    .raised ⟨"ValueError",
      "Exceeds the limit (4300 digits) for integer string conversion: " ++
        s!"value has {digits} digits; use sys.set_int_max_str_digits() to " ++
        "increase the limit"⟩
  | .badNumber text =>
    .raised ⟨"ValueError",
      "could not convert string to float: " ++ Text.quoted text⟩
  | .noDigits => .raised ⟨"IndexError", "string index out of range"⟩
  | .badTruthValue text => .raised ⟨"KeyError", Text.quoted text⟩
  | .badTime =>
    .raised ⟨"AttributeError",
      "'NoneType' object has no attribute 'groupdict'"⟩
  | .outOfRange reason => .raised ⟨"ValueError", reason⟩
  | .badCharacter code =>
    if code < 2147483648 then
      .raised ⟨"ValueError", "chr() arg not in range(0x110000)"⟩
    else
      .raised ⟨"OverflowError", "Python int too large to convert to C int"⟩

theorem ReadFault.reading_ne_value (f : ReadFault) (v : Value) :
    f.reading ≠ .value v := by
  intro h
  cases f with
  | badCharacter code =>
      dsimp only [reading] at h
      split at h <;> cases h
  | _ => cases h

/-- What comes of the bytes of a document. -/
def readDocument (bytes : List UInt8) : Reading :=
  match Utf8.text? bytes with
  | none => .raised ⟨"UnicodeDecodeError", "invalid start byte"⟩
  | some text =>
    match read text with
    | .ok v => .value v
    | .error f => f.reading

/-- The reader of YAML. -/
def reader : DocumentReader where
  read := readDocument
  distinct := by
    intro bytes v h
    unfold readDocument at h
    split at h
    next => cases h
    next text _ =>
      split at h
      next w hw =>
        cases h
        exact distinct_read hw
      next f _ => exact absurd h (f.reading_ne_value v)

end Yaml

/-- The reader of JSON. It takes no integer with more digits than can be
written. -/
def Json.reader (text : String) : Reading :=
  match Json.read? text with
  | some v => if v.isWritable then .value v else .malformed unwritableReason
  | none => .malformed "<json>"

end Outline
