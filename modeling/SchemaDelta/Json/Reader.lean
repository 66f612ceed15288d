import SchemaDelta.Json
import SchemaDelta.Json.Tree

/-!
# Reading a document

A document is read for a `Shape`, which says where records stand. What a record does not know is
passed over and needs only to be grammatical; everything else must be readable, with finite numbers,
without unpaired surrogates, and with at most 127 containers open at once.
-/

namespace SchemaDelta

/-- Where records stand in a value. -/
inductive Shape where
  | value
  | list (item : Shape)
  | record (fields : List (String × Shape))

namespace Shape

/-- The shape of the item at a position. -/
def item : Shape → Nat → Shape
  | value, _ => value
  | list shape, _ => shape
  | record fields, i => (fields[i]?.map Prod.snd).getD value

/-- The shape of the member with a key; none for one that is passed over. -/
def member? : Shape → String → Option Shape
  | record fields, key => fields.lookup key
  | _, _ => some value

end Shape

/-- The number of containers that may be open at once. -/
def maximalDepth : Nat := 127

namespace Tree

mutual

/-- Reads a tree as a value, with so many containers still allowed to open. -/
def read? (shape : Shape) (levels : Nat) : Tree → Option Json
  | null => some .null
  | bool value => some (.bool value)
  | numeral value => value.number?.map .number
  | string text => text.map .string
  | array items =>
    match levels with
    | 0 => none
    | levels + 1 => (readItems? shape levels 0 items).map .array
  | object members =>
    match levels with
    | 0 => none
    | levels + 1 => (readMembers? shape levels members).map .object

/-- Reads the items of an array from a position on. -/
def readItems? (shape : Shape) (levels position : Nat) : List Tree → Option (List Json)
  | [] => some []
  | item :: items => do
    let value ← read? (shape.item position) levels item
    let values ← readItems? shape levels (position + 1) items
    return value :: values

/-- Reads the members of an object that are not passed over. -/
def readMembers? (shape : Shape) (levels : Nat) :
    List (Option String × Tree) → Option (List (String × Json))
  | [] => some []
  | (none, _) :: _ => none
  | (some key, tree) :: members =>
    match shape.member? key with
    | none => readMembers? shape levels members
    | some shape' => do
      let value ← read? shape' levels tree
      let values ← readMembers? shape levels members
      return (key, value) :: values

end

end Tree

/-- Reads a document for a shape. -/
def Json.read? (shape : Shape) (text : String) : Option Json := do
  (← Tree.ofText? text).read? shape maximalDepth

end SchemaDelta
