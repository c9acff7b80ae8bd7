/-
# Columns of an insert

A column is a name, a type and rows that suit the type; there is at least one row.
It is known by its handle: two columns are the same only if their handles are.
A column that has been accepted once is accepted whenever it is checked again.
-/

import VectorRequests.Column.Marshal
import VectorRequests.Param.Check

namespace VectorRequests

/-- One column of insert data. -/
structure Column where
  handle : Nat
  name : Name
  type : DataType
  values : List Value
  nonempty : values ≠ []
  accepted : Column.validate name.toValue (.dataType type) (.tuple values) = .ok ()

namespace Column

/-- The column with checked rows, of which there must be at least one. -/
def ofRows (handle : Nat) (name : Name) (type : DataType) (rows : List Value) :
    Outcome Column :=
  match haccepted : validate name.toValue (.dataType type) (.tuple rows) with
  | .error e => .error e
  | .ok () =>
    if hrows : rows ≠ [] then .ok ⟨handle, name, type, rows, hrows, haccepted⟩
    else Error.refuseField .emptyColumn name.toValue

/-- The column with the given attributes. -/
def ofValues (handle : Nat) (name type values : Value) : Outcome Column := do
  let name ← Check.name "Field name" name
  let (type, rows) ← typedRows name.toValue type values
  ofRows handle name type rows

/-- The number of rows. -/
def rowCount (c : Column) : Nat :=
  c.values.length

/-- The column packed for the wire. -/
def toFieldData (c : Column) : Outcome FieldData :=
  marshal c.name.toValue (.dataType c.type) (.tuple c.values)

/-- The column as a value. -/
def toValue (c : Column) : Value :=
  .column c.handle c.name.text c.type c.values

/-- The column that a value is. -/
def ofValue? : Value → Option Column
  | .column handle name type values =>
    if hname : Text.IsBlank name then none
    else (ofRows handle ⟨name, hname⟩ type values).toOption
  | _ => none

end Column

end VectorRequests
