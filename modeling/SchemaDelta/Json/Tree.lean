import SchemaDelta.Json.Token

/-!
# The tree of a JSON text

`Tree` is what the grammar alone makes of a text. Numerals are not evaluated yet, unreadable strings
are still there, and nothing is said about the depth: that is decided when a tree is read as a
value. Reading keeps the open containers on a stack, so each token is one step.
-/

namespace SchemaDelta

/-- The syntax tree of a JSON text. -/
inductive Tree where
  | null
  | bool (value : Bool)
  | numeral (value : Numeral)
  | string (text : Option String)
  | array (items : List Tree)
  | object (members : List (Option String × Tree))

namespace Tree

/-- A container that waits for a value, with what it holds so far, last first. -/
inductive Frame where
  | item (items : List Tree)
  | member (members : List (Option String × Tree)) (key : Option String)

/-- What may follow the tokens read, with the open containers from the innermost outwards. -/
inductive Awaiting where
  | value (stack : List Frame)
  | firstItem (stack : List Frame)
  | firstKey (stack : List Frame)
  | key (members : List (Option String × Tree)) (stack : List Frame)
  | colon (members : List (Option String × Tree)) (key : Option String) (stack : List Frame)
  | separator (last : Tree) (stack : List Frame)

/-- A token in the place of a value. -/
def startValue (stack : List Frame) : Token → Option Awaiting
  | .null => some (.separator .null stack)
  | .bool value => some (.separator (.bool value) stack)
  | .numeral value => some (.separator (.numeral value) stack)
  | .string text => some (.separator (.string text) stack)
  | .openArray => some (.firstItem stack)
  | .openObject => some (.firstKey stack)
  | _ => none

/-- Takes one token in. -/
def advance : Awaiting → Token → Option Awaiting
  | .value stack, token => startValue stack token
  | .firstItem stack, .closeArray => some (.separator (.array []) stack)
  | .firstItem stack, token => startValue (.item [] :: stack) token
  | .firstKey stack, .closeObject => some (.separator (.object []) stack)
  | .firstKey stack, .string key => some (.colon [] key stack)
  | .key members stack, .string key => some (.colon members key stack)
  | .colon members key stack, .colon => some (.value (.member members key :: stack))
  | .separator last (.item items :: stack), .comma => some (.value (.item (last :: items) :: stack))
  | .separator last (.item items :: stack), .closeArray =>
    some (.separator (.array (last :: items).reverse) stack)
  | .separator last (.member members key :: stack), .comma =>
    some (.key ((key, last) :: members) stack)
  | .separator last (.member members key :: stack), .closeObject =>
    some (.separator (.object ((key, last) :: members).reverse) stack)
  | _, _ => none

/-- Reads the remaining tokens up to the end of the value. -/
def parse (state : Awaiting) : List Token → Option Tree
  | [] =>
    match state with
    | .separator last [] => some last
    | _ => none
  | token :: tokens =>
    match advance state token with
    | some state => parse state tokens
    | none => none

/-- The tree of a text that holds one value and blanks around it. -/
def ofText? (text : String) : Option Tree := do parse (.value []) (← Token.ofText? text)

end Tree

end SchemaDelta
