import Criteria.Document
import Criteria.Main
import Criteria.Proofs.Binary64.Finite
import Criteria.Proofs.Binary64.Nearest
import Criteria.Proofs.Condition.Acceptance
import Criteria.Proofs.Condition.Admission
import Criteria.Proofs.Condition.Anchoring
import Criteria.Proofs.Condition.Answering
import Criteria.Proofs.Condition.Building
import Criteria.Proofs.Condition.Comparison
import Criteria.Proofs.Condition.Elements
import Criteria.Proofs.Condition.Faults
import Criteria.Proofs.Condition.Integers
import Criteria.Proofs.Document.Agreement
import Criteria.Proofs.Document.Overwriting
import Criteria.Proofs.Document.Reading
import Criteria.Proofs.Document.Writing
import Criteria.Proofs.Json.Rereading
import Criteria.Proofs.Json.Scalars
import Criteria.Proofs.Path.Resolution
import Criteria.Proofs.Pattern.Anchoring
import Criteria.Proofs.Pattern.Closing.Brackets
import Criteria.Proofs.Pattern.Closing.Grammar
import Criteria.Proofs.Pattern.Cutting.Brackets
import Criteria.Proofs.Pattern.Cutting.Escape
import Criteria.Proofs.Pattern.Cutting.Grammar
import Criteria.Proofs.Pattern.Matching
import Criteria.Proofs.Pattern.Reading
import Criteria.Proofs.Pattern.Search
import Criteria.Proofs.RuleSet.Building
import Criteria.Proofs.RuleSet.Canonical
import Criteria.Proofs.RuleSet.Congruence
import Criteria.Proofs.RuleSet.Duality
import Criteria.Proofs.RuleSet.Equality
import Criteria.Proofs.RuleSet.Faults
import Criteria.Proofs.RuleSet.Flattening
import Criteria.Proofs.RuleSet.Frame
import Criteria.Proofs.RuleSet.Grammar
import Criteria.Proofs.RuleSet.Logging
import Criteria.Proofs.RuleSet.Membership
import Criteria.Proofs.RuleSet.Reached
import Criteria.Proofs.RuleSet.Rebuilding
import Criteria.Proofs.RuleSet.Relevance
import Criteria.Proofs.RuleSet.Storing
import Criteria.Proofs.RuleSet.Verdict
import Criteria.Proofs.Value.Equality
import Criteria.Proofs.Value.Interchange
import Criteria.Proofs.Value.RoundTrip
import Criteria.RuleSet.Journal
import Criteria.RuleSet.Loading
import Criteria.RuleSet.Report
