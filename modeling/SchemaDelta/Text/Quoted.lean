/-!
# Quoted text

Text between two delimiters, in which a delimiter of the text itself is written twice.
-/

namespace SchemaDelta

namespace Quoted

/-- Writes every delimiter twice. -/
def double (delimiter : Char) : List Char → List Char
  | [] => []
  | c :: cs =>
    if c = delimiter then delimiter :: delimiter :: double delimiter cs
    else c :: double delimiter cs

/-- The text between delimiters. -/
def enclose (delimiter : Char) (s : String) : String :=
  String.ofList (delimiter :: double delimiter s.toList ++ [delimiter])

end Quoted

end SchemaDelta
