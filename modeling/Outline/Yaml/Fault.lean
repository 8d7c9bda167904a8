/-
Why a settings document cannot be read.

Whatever breaks the rules of the notation is one cause. The others are
scalars that have a form of their own, such as a number or a date, and
whose text has that form but no value, or was declared to have it and
does not.
-/
namespace Outline.Yaml

/-- Why a document has no value. A bad integer comes with the base it
was read in, one that is too long with the number of its digits, and a bad
character with its number. -/
inductive ReadFault where
  | malformed
  | badInteger (base : Nat) (text : String)
  | longInteger (digits : Nat)
  | badNumber (text : String)
  | noDigits
  | badTruthValue (text : String)
  | badTime
  | outOfRange (reason : String)
  | badCharacter (code : Nat)
deriving DecidableEq, Repr, Inhabited

end Outline.Yaml
