import SchemaDelta.Json

/-!
# Records

A record has named fields in a fixed order. It is written as an object, with further members
passed over and no field given twice, or as an array of its fields in order, which may end early.
-/

namespace SchemaDelta

namespace Record

variable {α : Type}

/-- The members of an object that are fields, unless one is repeated. -/
def ofMembers? (fields : List String) : List (String × α) → Option (List (String × α))
  | [] => some []
  | (key, value) :: members => do
    let rest ← ofMembers? fields members
    if key ∈ fields then
      if (rest.lookup key).isSome then none else some ((key, value) :: rest)
    else some rest

/-- The items of an array named by the fields, unless there are too many. -/
def ofItems? (fields : List String) (items : List α) : Option (List (String × α)) :=
  if items.length ≤ fields.length then some (fields.zip items) else none

end Record

namespace Json

/-- The fields that a value gives for a record. -/
def record? (fields : List String) : Json → Option (List (String × Json))
  | object members => Record.ofMembers? fields members
  | array items => Record.ofItems? fields items
  | _ => none

end Json

end SchemaDelta
