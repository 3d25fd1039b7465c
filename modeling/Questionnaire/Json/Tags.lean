import Questionnaire.Json.Counts
import Questionnaire.Json.Value
import Questionnaire.Tag.RuleTable

/-!
# Tags as JSON

A registry is stored as an object of its applied tags, in ascending order.  What
is stored can be read back: of fields with one name the last counts, and then of
names that differ only in case the strongest.  A rule table is shown as the
applied names under each trigger.

## Main definitions

* `Registry.toJson`, `Registry.ofJson?` — a registry as an object of counts.
* `RuleTable.toJson` — the names under each trigger.
-/

namespace Questionnaire

/-- The object of the applied tags. -/
def Registry.toJson (r : Registry) : Json :=
  .object (r.applied.map fun tag => (tag.name, .natural tag.strength.toNat))

/-- The registry of a text that is an object of counts. -/
def Registry.ofJson? (t : Text) : Option Registry :=
  (Counts.read? t).map fun fields =>
    .ofEntries (Index.ofEntries (fields.map fun field => (field.1, .ofNat field.2)))

/-- The object of the applied names under each trigger. -/
def RuleTable.toJson (t : RuleTable) : Json :=
  .object (t.bindings.map fun binding => (binding.1, .list (binding.2.names.map .text)))

end Questionnaire
