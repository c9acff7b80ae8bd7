/-
# Settings from the environment

Variables set the defaults of parameters. Their names count in any case; numbers
are read as leniently as in documents, and every number that cannot be read is
reported.
-/

import VectorRequests.Document.Checked
import VectorRequests.Param.Settings

namespace VectorRequests.Settings

open Document

/-- What the names of all variables start with, in lower case. -/
def variableMark : String := "vecparam_"

/-- The variables as entries, with their names in lower case and without the mark. -/
def entriesOf (environment : List (String × String)) : List (Value × Value) :=
  environment.filterMap fun (name, value) =>
    let name := name.toLower.toList
    if variableMark.toList.isPrefixOf name then
      some (.text (String.ofList (name.drop variableMark.length)), .text value)
    else
      none

/-- The settings that variables give; a setting without a variable is the usual one. -/
def ofEnvironment (environment : List (String × String)) : Outcome Settings :=
  let usual : Settings := {}
  let entries := entriesOf environment
  let field {α : Type} (name : String) (check : Value → Checked α) (wrap : α → Value)
      (default : Value) : Checked Value :=
    optional entries name (fun v => (check v).map wrap) default
  ((((((Checked.ok Settings.mk).app
    (field "default_partition_name" checkText .text usual.partitionName)).app
    (field "default_metric_type" checkText .text usual.metric)).app
    (field "default_round_decimal" checkInt .int usual.roundDecimal)).app
    (field "default_search_params" checkText .text usual.searchParams)).app
    (field "default_guarantee_timestamp" checkInt .int usual.guaranteeTimestamp)).toOutcome

end VectorRequests.Settings
