import Criteria.RuleSet.Description
import Criteria.RuleSet.Report

/-!
The log that building and evaluating leave behind. Evaluating writes a record for every condition as soon as it
has said something, and an observer is told of the answers; whoever wants a report has them collected. Building
writes a single record, and only when everything has been built.
-/
namespace Criteria

inductive Record where
  | built (logic : Logic) (count : Nat)
  | answered (condition : Condition) (answer : Bool)
  | failed (mismatch : Mismatch)

namespace Record

def level : Record → String
  | .built _ _ => "debug"
  | .answered _ _ => "trace"
  | .failed _ => "debug"

def message : Record → String
  | .built logic count =>
    "built '" ++ logic.name ++ "' rule set with " ++ toString count ++ " predicates"
  | .answered condition answer => condition.text ++ " => " ++ Text.truth answer
  | .failed mismatch => "condition evaluation failed: " ++ mismatch.message

def text (record : Record) : String := record.level ++ ": " ++ record.message

end Record

/-- What has been written to the log, and what an observer has made of the answers. -/
structure Journal (σ : Type) where
  records : List Record
  seen : σ

abbrev Logged (σ ε α : Type) := ExceptT ε (StateM (Journal σ)) α

namespace Logged

variable {σ ε α : Type}

def write (record : Record) : Logged σ ε Unit :=
  modify fun journal => { journal with records := journal.records ++ [record] }

def tell (observe : σ → σ) : Logged σ ε Unit :=
  modify fun journal => { journal with seen := observe journal.seen }

def seen : Logged σ ε σ := return (← get).seen

def runFrom (journal : Journal σ) (computation : Logged σ ε α) : Except ε α × Journal σ :=
  computation.run.run journal

def records (seen : σ) (computation : Logged σ ε α) : List Record :=
  (computation.runFrom ⟨[], seen⟩).2.records

end Logged

section Walk

variable {σ : Type}

def Condition.ask (document : Value) (condition : Condition) : Logged σ Mismatch Bool := do
  match condition.evaluate document with
  | .ok answer =>
    Logged.write (.answered condition answer)
    return answer
  | .error mismatch =>
    Logged.write (.failed mismatch)
    throw mismatch

namespace Rule

mutual

/-- Asks the conditions of a rule as far as needed, and tells the observer of every answer. -/
def walk (observe : Condition → Bool → σ → σ) (document : Value) : Rule → Logged σ Mismatch Bool
  | .leaf condition => do
    let answer ← condition.ask document
    Logged.tell (observe condition answer)
    return answer
  | .node logic children => walkAll observe document logic children

def walkAll (observe : Condition → Bool → σ → σ) (document : Value) (logic : Logic) :
    List Rule → Logged σ Mismatch Bool
  | [] => return logic.neutral
  | rule :: rest => do
    let answer ← walk observe document rule
    if answer = logic.neutral then walkAll observe document logic rest else return answer

end

end Rule

end Walk

namespace RuleSet

def evaluateLogged (rules : RuleSet) (document : Value) : Logged Unit Mismatch Bool :=
  rules.toRule.walk (fun _ _ seen => seen) document

def reportLogged (rules : RuleSet) (document : Value) : Logged (List Outcome) Mismatch Report := do
  let collect := fun condition answer outcomes => outcomes ++ [Outcome.ofAnswer (condition, answer)]
  let matched ← rules.toRule.walk collect document
  return ⟨matched, ← Logged.seen⟩

def buildLogged (description : Json) : Logged Unit BuildError RuleSet := do
  let rules ← liftExcept (ofJson description)
  Logged.write (.built rules.logic rules.count)
  return rules

def buildRecords (description : Json) : List Record := (buildLogged description).records ()

def evaluationRecords (rules : RuleSet) (document : Value) : List Record :=
  (rules.evaluateLogged document).records ()

end RuleSet

end Criteria
