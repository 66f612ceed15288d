import SchemaDelta.Number.Numeral

/-!
# Tokens of a JSON text

The lexer goes through the characters once and keeps what it has read of the token under way. A
string with an unpaired surrogate escape is a token, but one without a text: whether that is a
fault depends on where it stands.
-/

namespace SchemaDelta

/-- A token of a JSON text. -/
inductive Token where
  | openArray
  | closeArray
  | openObject
  | closeObject
  | comma
  | colon
  | null
  | bool (value : Bool)
  | numeral (value : Numeral)
  | string (text : Option String)
deriving DecidableEq

namespace Token

/-- The part of a token that has been read, last character first. The content of a string is a
list of code points in which surrogates may occur. -/
inductive Pending where
  | nothing
  | word (letters : List Char)
  | numeral (chars : List Char)
  | string (content : List Nat)
  | escape (content : List Nat)
  | hex (content : List Nat) (missing : Nat) (value : Nat)

/-- The text of a list of code points: a high surrogate and the low one after it make one
character, any other surrogate makes the text unreadable. -/
def textOfUnits : List Nat → Option (List Char)
  | [] => some []
  | high :: rest =>
    if 0xD800 ≤ high ∧ high < 0xDC00 then
      match rest with
      | low :: rest =>
        if 0xDC00 ≤ low ∧ low < 0xE000 then
          let c := Char.ofNat (0x10000 + (high - 0xD800) * 0x400 + (low - 0xDC00))
          (textOfUnits rest).map (c :: ·)
        else none
      | [] => none
    else if 0xDC00 ≤ high ∧ high < 0xE000 then none
    else (textOfUnits rest).map (Char.ofNat high :: ·)

/-- The value of a hexadecimal digit, in either case. -/
def hexDigit? (c : Char) : Option Nat :=
  if c.isDigit then some (c.toNat - 48)
  else if 'a' ≤ c ∧ c ≤ 'f' then some (c.toNat - 87)
  else if 'A' ≤ c ∧ c ≤ 'F' then some (c.toNat - 55)
  else none

/-- The character that a one-letter escape stands for. -/
def escaped? : Char → Option Char
  | '"' => some '"'
  | '\\' => some '\\'
  | '/' => some '/'
  | 'b' => some '\x08'
  | 'f' => some '\x0c'
  | 'n' => some '\n'
  | 'r' => some '\r'
  | 't' => some '\t'
  | _ => none

/-- The token that a word spells. -/
def ofWord? (word : List Char) : Option Token :=
  match String.ofList word with
  | "null" => some null
  | "true" => some (bool true)
  | "false" => some (bool false)
  | _ => none

/-- The token that a character is by itself. -/
def punctuation? : Char → Option Token
  | '[' => some openArray
  | ']' => some closeArray
  | '\x7b' => some openObject
  | '\x7d' => some closeObject
  | ',' => some comma
  | ':' => some colon
  | _ => none

/-- Whether a character only keeps tokens apart. -/
def isBlank (c : Char) : Bool := c == ' ' || c == '\t' || c == '\n' || c == '\r'

/-- Whether a character can belong to a numeral. -/
def inNumeral (c : Char) : Bool :=
  c.isDigit || c == '-' || c == '+' || c == '.' || c == 'e' || c == 'E'

/-- Starts a token; `done` holds the tokens before it, last first. -/
def start (done : List Token) (c : Char) : Option (List Token × Pending) :=
  if isBlank c then some (done, .nothing)
  else if c == '"' then some (done, .string [])
  else if c.isDigit || c == '-' then some (done, .numeral [c])
  else if c.isAlpha then some (done, .word [c])
  else (punctuation? c).map fun token => (token :: done, .nothing)

/-- Ends a word or a numeral. -/
def finish (done : List Token) : Pending → Option (List Token)
  | .nothing => some done
  | .word letters => (ofWord? letters.reverse).map (· :: done)
  | .numeral chars => (Numeral.ofChars? chars.reverse).map (numeral · :: done)
  | _ => none

/-- Takes one character in. -/
def advance (done : List Token) (pending : Pending) (c : Char) : Option (List Token × Pending) :=
  match pending with
  | .nothing => start done c
  | .word letters =>
    if c.isAlpha then some (done, .word (c :: letters))
    else do start (← finish done pending) c
  | .numeral chars =>
    if inNumeral c then some (done, .numeral (c :: chars))
    else do start (← finish done pending) c
  | .string content =>
    if c == '"' then
      some (string ((textOfUnits content.reverse).map String.ofList) :: done, .nothing)
    else if c == '\\' then some (done, .escape content)
    else if c.toNat < 32 then none
    else some (done, .string (c.toNat :: content))
  | .escape content =>
    if c == 'u' then some (done, .hex content 4 0)
    else (escaped? c).map fun e => (done, .string (e.toNat :: content))
  | .hex content missing value => do
    let value := value * 16 + (← hexDigit? c)
    if missing ≤ 1 then some (done, .string (value :: content))
    else some (done, .hex content (missing - 1) value)

/-- Reads the remaining characters. -/
def lex (done : List Token) (pending : Pending) : List Char → Option (List Token)
  | [] => (finish done pending).map List.reverse
  | c :: cs =>
    match advance done pending c with
    | some (done, pending) => lex done pending cs
    | none => none

/-- The tokens of a text. -/
def ofText? (text : String) : Option (List Token) := lex [] .nothing text.toList

end Token

end SchemaDelta
