import SchemaDelta.Expr
import SchemaDelta.Json.Reader
import SchemaDelta.Json.Record

/-!
# Expressions as JSON

A node is a record whose fields depend on its kind. The kind is a member of the object, anywhere in
it, or the first item of the array. Inside a document a kind may also be given by its number.
-/

namespace SchemaDelta

/-- Reads a name, or an object with that name as its only key. The value of the key says nothing: it
is null, or with `vacant` also an empty object. -/
def Json.name? (vacant : Bool) : Json → Option String
  | .string name => some name
  | .object [(name, .null)] => some name
  | .object [(name, .object [])] => if vacant then some name else none
  | _ => none

namespace Expr

/-- The kind of a node. -/
inductive Kind where
  | literal
  | field
  | var
  | compare
  | and
  | or
  | not
  | isNull
  | call
deriving DecidableEq

namespace Kind

/-- All kinds, in the order of their numbers. -/
def all : List Kind := [literal, field, var, compare, and, or, not, isNull, call]

/-- The name of a kind in documents. -/
def name : Kind → String
  | literal => "literal"
  | field => "field"
  | var => "var"
  | compare => "compare"
  | and => "and"
  | or => "or"
  | not => "not"
  | isNull => "is_null"
  | call => "call"

/-- The fields of a node of a kind, in order. -/
def fields : Kind → List String
  | literal => ["value"]
  | field => ["path"]
  | var => ["name"]
  | compare => ["op", "left", "right"]
  | and => ["args"]
  | or => ["args"]
  | not => ["arg"]
  | isNull => ["arg"]
  | call => ["name", "args"]

/-- Reads a kind from its name or number. -/
def ofJson? : Json → Option Kind
  | .string name => all.find? (·.name == name)
  | .number (.integer n) => if n < 0 then none else all[n.toNat]?
  | _ => none

end Kind

/-- The JSON form of an expression. -/
def node (kind : Kind) (members : List (String × Json)) : Json :=
  .object (("kind", .string kind.name) :: members)

mutual

/-- Writes an expression, the kind first. -/
def toJson : Expr → Json
  | literal value => node .literal [("value", value)]
  | field path => node .field [("path", .string path)]
  | var name => node .var [("name", .string name)]
  | compare op left right =>
    node .compare [("op", .string op.name), ("left", left.toJson), ("right", right.toJson)]
  | and args => node .and [("args", .array (toJsonList args))]
  | or args => node .or [("args", .array (toJsonList args))]
  | not arg => node .not [("arg", arg.toJson)]
  | isNull arg => node .isNull [("arg", arg.toJson)]
  | call name args => node .call [("name", .string name), ("args", .array (toJsonList args))]

/-- Writes each expression. -/
def toJsonList : List Expr → List Json
  | [] => []
  | e :: es => e.toJson :: toJsonList es

end

/-- A value together with what it is as an expression and as a list of expressions. -/
structure Reading where
  json : Json
  expr : Option Expr
  list : Option (List Expr)

/-- The node of a kind with the given fields. Only the arguments of a call may be missing. -/
def ofFields? (kind : Kind) (fields : List (String × Reading)) : Option Expr := do
  match kind with
  | .literal => return literal (← fields.lookup "value").json.canonical
  | .field => return field (← (← fields.lookup "path").json.string?)
  | .var => return var (← (← fields.lookup "name").json.string?)
  | .compare =>
    let op ← Comparison.ofName? (← (← fields.lookup "op").json.name? true)
    return compare op (← (← fields.lookup "left").expr) (← (← fields.lookup "right").expr)
  | .and => return and (← (← fields.lookup "args").list)
  | .or => return or (← (← fields.lookup "args").list)
  | .not => return not (← (← fields.lookup "arg").expr)
  | .isNull => return isNull (← (← fields.lookup "arg").expr)
  | .call =>
    let name ← (← fields.lookup "name").json.string?
    match fields.lookup "args" with
    | none => return call name []
    | some args => return call name (← args.list)

/-- The node that an array of readings stands for: its kind and then its fields in order. -/
def ofItems? : List Reading → Option Expr
  | [] => none
  | first :: rest => do
    let kind ← Kind.ofJson? first.json
    ofFields? kind (← Record.ofItems? kind.fields rest)

/-- The node that the members of an object stand for. -/
def ofMembers? (members : List (String × Reading)) : Option Expr := do
  let [(_, kind)] := members.filter (·.1 == "kind") | none
  let kind ← Kind.ofJson? kind.json
  ofFields? kind (← Record.ofMembers? kind.fields (members.filter (·.1 != "kind")))

mutual

/-- Reads a value with everything in it. -/
def reading : Json → Reading
  | .array items =>
    let readings := readingItems items
    ⟨.array items, ofItems? readings, readings.mapM Reading.expr⟩
  | .object members => ⟨.object members, ofMembers? (readingMembers members), none⟩
  | value => ⟨value, none, none⟩

/-- Reads each item. -/
def readingItems : List Json → List Reading
  | [] => []
  | item :: items => reading item :: readingItems items

/-- Reads each member. -/
def readingMembers : List (String × Json) → List (String × Reading)
  | [] => []
  | (key, value) :: members => (key, reading value) :: readingMembers members

end

/-- The expression that a value stands for. -/
def ofJson? (value : Json) : Option Expr := (reading value).expr

/-- Whether the kind of a node is given by its name. -/
def isNamed : Json → Bool
  | .object members => (members.lookup "kind").any fun kind => kind.string?.isSome
  | .array (kind :: _) => kind.string?.isSome
  | _ => false

/-- Reads a document that holds an expression. The kind of its root is given by name. -/
def read? (text : String) : Option Expr := do
  let value ← Json.read? .value text
  if isNamed value then ofJson? value else none

end Expr

end SchemaDelta
