/-
# Settings

The values that parameters take when they are not given. They come from the
environment, where their names are capitals after a fixed beginning, or are the
usual ones. A program may also set them to anything, so they are values; the checks of a
parameter apply to its default too.
-/

import VectorRequests.Value

namespace VectorRequests

namespace Settings

/-- The partition that every collection has. -/
def usualPartition : String := "_default"

/-- The timestamp that waits for all writes. -/
def strongTimestamp : Nat := 0

/-- The timestamp that reads whatever is visible. -/
def eventualTimestamp : Nat := 1

end Settings

/-- The defaults of parameters. -/
structure Settings where
  partitionName : Value := .text Settings.usualPartition
  metric : Value := .text "L2"
  roundDecimal : Value := .int (-1)
  searchParams : Value := .text "\x7b\x7d"
  guaranteeTimestamp : Value := .int Settings.eventualTimestamp

namespace Settings

/-- The settings with their names. -/
def toValue (s : Settings) : Value :=
  .mapping
    [(.text "default_partition_name", s.partitionName),
     (.text "default_metric_type", s.metric),
     (.text "default_round_decimal", s.roundDecimal),
     (.text "default_search_params", s.searchParams),
     (.text "default_guarantee_timestamp", s.guaranteeTimestamp)]

end Settings

end VectorRequests
