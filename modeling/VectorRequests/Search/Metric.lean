/-
# Distance metrics

How far a target vector is from a stored one. Two metrics compare float vectors,
the others compare binary vectors. A metric is written by its name.
-/

namespace VectorRequests

/-- A distance between vectors. -/
inductive Metric
  | l2
  | ip
  | hamming
  | jaccard
  | tanimoto
  | substructure
  | superstructure
  deriving DecidableEq, Repr

namespace Metric

def all : List Metric :=
  [l2, ip, hamming, jaccard, tanimoto, substructure, superstructure]

def name : Metric → String
  | l2 => "L2"
  | ip => "IP"
  | hamming => "HAMMING"
  | jaccard => "JACCARD"
  | tanimoto => "TANIMOTO"
  | substructure => "SUBSTRUCTURE"
  | superstructure => "SUPERSTRUCTURE"

def ofName? (s : String) : Option Metric :=
  all.find? (·.name == s)

/-- Whether a metric compares float vectors. -/
def isFloat : Metric → Bool
  | l2 => true
  | ip => true
  | _ => false

theorem ofName?_name (m : Metric) : ofName? m.name = some m := by
  cases m <;> decide

end Metric

end VectorRequests
