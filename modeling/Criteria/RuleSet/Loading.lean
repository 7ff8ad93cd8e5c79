import Criteria.RuleSet.Description

/-!
Sets of rules from stored text.
-/
namespace Criteria

inductive LoadError where
  /-- There is no such file, or it holds no text. -/
  | unreadable
  | notJson
  | build (error : BuildError)
deriving DecidableEq, Repr

namespace RuleSet

def ofText (text : String) : Except LoadError RuleSet :=
  match Json.ofText? text with
  | none => .error .notJson
  | some description => (ofJson description).mapError .build

/-- The set at the start of a JSON text. The text after a description is looked at only if the
description is in order, so a wrong description is reported even where the text goes on wrongly. -/
def decode (text : String) : Except LoadError RuleSet :=
  match Json.leading? text with
  | none => .error .notJson
  | some (description, rest) =>
    match ofJson description with
    | .error error => .error (.build error)
    | .ok rules => if Json.Reader.finished rest then .ok rules else .error .notJson

theorem decode_eq_ok_iff (text : String) (rules : RuleSet) :
    decode text = .ok rules ↔ ofText text = .ok rules := by
  unfold decode ofText Json.ofText? Json.ofChars? Json.leading?
  cases Json.Reader.tree? Json.levelLimit text.toList with
  | none => simp
  | some read =>
    cases ended : Json.Reader.finished read.2
    · cases built : ofJson read.1 <;> simp [built, ended]
    · simp only [ended, ↓reduceIte]
      cases ofJson read.1 <;> rfl

def ofFileContents (contents : Option ByteArray) : Except LoadError RuleSet :=
  match contents.bind String.fromUTF8? with
  | none => .error .unreadable
  | some text => ofText text

end RuleSet

end Criteria
