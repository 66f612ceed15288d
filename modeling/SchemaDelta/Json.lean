import SchemaDelta.KeyedList
import SchemaDelta.Number

/-!
# JSON values

Members of an object keep the order and the repetitions of the document, because a repeated key is
a fault in some places and an overwritten one in others. `Json.canonical` resolves repetitions and
sorts, which is how free-form objects are kept.
-/

namespace SchemaDelta

/-- A JSON value. -/
inductive Json where
  | null
  | bool (value : Bool)
  | number (value : Number)
  | string (value : String)
  | array (items : List Json)
  | object (members : List (String × Json))

namespace Json

mutual

/-- Equality of values, with numbers compared as numbers. -/
protected def beq : Json → Json → Bool
  | null, null => true
  | bool x, bool y => x == y
  | number x, number y => x == y
  | string x, string y => x == y
  | array xs, array ys => beqItems xs ys
  | object xs, object ys => beqMembers xs ys
  | _, _ => false

/-- Equality item by item. -/
def beqItems : List Json → List Json → Bool
  | [], [] => true
  | x :: xs, y :: ys => Json.beq x y && beqItems xs ys
  | _, _ => false

/-- Equality member by member. -/
def beqMembers : List (String × Json) → List (String × Json) → Bool
  | [], [] => true
  | (k, x) :: xs, (l, y) :: ys => k == l && Json.beq x y && beqMembers xs ys
  | _, _ => false

end

instance : BEq Json := ⟨Json.beq⟩

mutual

/-- The value with the members of every object sorted by key, the last of each key kept. -/
def canonical : Json → Json
  | array items => array (canonicalItems items)
  | object members => object (KeyedList.ofList (canonicalMembers members))
  | value => value

/-- Every item made canonical. -/
def canonicalItems : List Json → List Json
  | [] => []
  | item :: items => item.canonical :: canonicalItems items

/-- Every member's value made canonical, the members left where they are. -/
def canonicalMembers : List (String × Json) → List (String × Json)
  | [] => []
  | (key, value) :: members => (key, value.canonical) :: canonicalMembers members

end

/-- The truth value that a value is, if it is one. -/
def bool? : Json → Option Bool
  | bool value => some value
  | _ => none

/-- The text that a value is, if it is one. -/
def string? : Json → Option String
  | string value => some value
  | _ => none

/-- The items of a value that is an array. -/
def array? : Json → Option (List Json)
  | array items => some items
  | _ => none

/-- The members of a value that is an object. -/
def object? : Json → Option (List (String × Json))
  | object members => some members
  | _ => none

end Json

end SchemaDelta
