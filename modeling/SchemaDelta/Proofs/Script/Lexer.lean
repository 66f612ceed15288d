import SchemaDelta.Sql

/-!
# Reading a script

A script is cut into pieces at its semicolons, except at those in quoted text: names between double
quotes and strings between single ones, in which the quote itself is written twice. There is no
other escape. A text that leaves no quote open and has no semicolon outside of quotes can stand in
front of any other text without a change of what that is read as.
-/

namespace SchemaDelta

/-- What quoted text stands between. -/
inductive Delimiter where
  | double
  | single
deriving DecidableEq

namespace Delimiter

/-- The character of a delimiter. -/
def char : Delimiter → Char
  | double => '"'
  | single => Char.ofNat 39

/-- The delimiter that a character is, if it is one. -/
def ofChar? (c : Char) : Option Delimiter :=
  if c = double.char then some double else if c = single.char then some single else none

@[simp] theorem ofChar?_char (delimiter : Delimiter) : ofChar? delimiter.char = some delimiter := by
  cases delimiter <;> decide

end Delimiter

/-- Where a reader of SQL stands. After a delimiter in quoted text it is not known yet whether that
ends the text or is the first of two. -/
inductive Position where
  | outside
  | inside (delimiter : Delimiter)
  | atDelimiter (delimiter : Delimiter)
deriving DecidableEq

namespace Position

/-- The position after a character that is not in quoted text. -/
def enter (c : Char) : Position :=
  match Delimiter.ofChar? c with
  | some delimiter => inside delimiter
  | none => outside

/-- The position after one more character. -/
def next : Position → Char → Position
  | outside, c => enter c
  | inside delimiter, c => if c = delimiter.char then atDelimiter delimiter else inside delimiter
  | atDelimiter delimiter, c => if c = delimiter.char then inside delimiter else enter c

/-- Whether all quoted text has ended. -/
def isOutside : Position → Bool
  | inside _ => false
  | outside | atDelimiter _ => true

/-- The position after a text. -/
def after (position : Position) (text : List Char) : Position := text.foldl next position

/-- The pieces of a text between the semicolons outside of quotes: the first one and the others. -/
def pieces : Position → List Char → List Char × List (List Char)
  | _, [] => ([], [])
  | position, c :: cs =>
    let (first, others) := pieces (position.next c) cs
    if c = ';' ∧ position.isOutside then ([], first :: others) else (c :: first, others)

end Position

/-- The pieces of a script between the semicolons outside of quotes. -/
def scriptPieces (script : String) : List String :=
  let (first, others) := Position.outside.pieces script.toList
  String.ofList first :: others.map String.ofList

/-- The text ends every quoted text that it begins, and has no semicolon outside of them. -/
structure Closed (text : String) : Prop where
  ended : (Position.outside.after text.toList).isOutside = true
  whole : (Position.outside.pieces text.toList).2 = []

theorem closed_iff (text : String) :
    Closed text ↔ (Position.outside.after text.toList).isOutside = true ∧
      (Position.outside.pieces text.toList).2 = [] :=
  ⟨fun closed => ⟨closed.ended, closed.whole⟩, fun both => ⟨both.1, both.2⟩⟩

instance (text : String) : Decidable (Closed text) := decidable_of_iff' _ (closed_iff text)

namespace Position

variable {position : Position} {text rest : List Char}

theorem pieces_cons {c : Char} (kept : ¬ (c = ';' ∧ position.isOutside = true)) :
    position.pieces (c :: text) =
      (c :: ((position.next c).pieces text).1, ((position.next c).pieces text).2) := by
  rw [pieces]
  exact if_neg kept

theorem pieces_semicolon (neutral : position.isOutside = true) :
    position.pieces (';' :: text) =
      ([], ((position.next ';').pieces text).1 :: ((position.next ';').pieces text).2) := by
  rw [pieces]
  exact if_pos ⟨rfl, neutral⟩

theorem after_append : position.after (text ++ rest) = (position.after text).after rest :=
  List.foldl_append

/-- A second quote goes on with the text that the first one ended, as a new quoted text would. -/
theorem next_of_isOutside (neutral : position.isOutside = true) (c : Char) :
    position.next c = outside.next c := by
  cases position with
  | outside => rfl
  | inside delimiter => cases neutral
  | atDelimiter delimiter =>
    by_cases again : c = delimiter.char
    · subst again
      simp [next, enter]
    · simp [next, again]

theorem pieces_of_isOutside (neutral : position.isOutside = true) (text : List Char) :
    position.pieces text = outside.pieces text := by
  cases text with
  | nil => rfl
  | cons c cs => rw [pieces, pieces, next_of_isOutside neutral, neutral, isOutside]

theorem isOutside_after_of_isOutside (neutral : position.isOutside = true) (text : List Char) :
    (position.after text).isOutside = (outside.after text).isOutside := by
  cases text with
  | nil => exact neutral
  | cons c cs =>
    rw [after, after, List.foldl_cons, List.foldl_cons, next_of_isOutside neutral]

/-- A text without a semicolon outside of quotes is put in front of the first piece of what
follows. -/
theorem pieces_append (whole : (position.pieces text).2 = []) (rest : List Char) :
    position.pieces (text ++ rest) =
      (text ++ ((position.after text).pieces rest).1, ((position.after text).pieces rest).2) := by
  induction text generalizing position with
  | nil => rfl
  | cons c cs ih =>
    by_cases cuts : c = ';' ∧ position.isOutside = true
    · obtain ⟨rfl, neutral⟩ := cuts
      rw [pieces_semicolon neutral] at whole
      cases whole
    · rw [pieces_cons cuts] at whole
      rw [List.cons_append, pieces_cons cuts, ih whole]
      rfl

/-- The inside of quoted text is read to its end. -/
theorem after_double (delimiter : Delimiter) (text : List Char) :
    (inside delimiter).after (Quoted.double delimiter.char text ++ [delimiter.char]) =
      atDelimiter delimiter := by
  induction text with
  | nil => simp [Quoted.double, after, next]
  | cons c cs ih =>
    by_cases quote : c = delimiter.char
    · simpa [Quoted.double, quote, after, next] using ih
    · simpa [Quoted.double, quote, after, next] using ih

/-- Inside quoted text a semicolon is a character like any other. -/
theorem pieces_double (delimiter : Delimiter) (text : List Char) :
    ((inside delimiter).pieces (Quoted.double delimiter.char text ++ [delimiter.char])).2 = [] := by
  have notSemicolon : delimiter.char ≠ ';' := by cases delimiter <;> decide
  induction text with
  | nil => simp [Quoted.double, pieces, isOutside]
  | cons c cs ih =>
    by_cases quote : c = delimiter.char
    · simpa [Quoted.double, quote, pieces, next, isOutside, notSemicolon] using ih
    · simpa [Quoted.double, quote, pieces, next, isOutside] using ih

end Position

open Position

namespace Closed

variable {a b : String}

/-- After a closed text everything is read as if it stood alone. -/
theorem append_iff (left : Closed a) : Closed (a ++ b) ↔ Closed b := by
  rw [closed_iff, closed_iff, String.toList_append, after_append,
    isOutside_after_of_isOutside left.ended, pieces_append left.whole,
    pieces_of_isOutside left.ended]

protected theorem append (left : Closed a) (right : Closed b) : Closed (a ++ b) :=
  left.append_iff.mpr right

/-- Quoted text is closed, whatever the text is. -/
theorem enclose (delimiter : Delimiter) (text : String) :
    Closed (Quoted.enclose delimiter.char text) := by
  have begins : outside.next delimiter.char = inside delimiter := by simp [next, enter]
  have notSemicolon : delimiter.char ≠ ';' := by cases delimiter <;> decide
  constructor
  · rw [Quoted.enclose, String.toList_ofList, List.cons_append, after, List.foldl_cons, begins]
    have ended := after_double delimiter text.toList
    rw [after] at ended
    rw [ended]
    rfl
  · rw [Quoted.enclose, String.toList_ofList, List.cons_append,
      pieces_cons fun both => notSemicolon both.1, begins]
    exact pieces_double delimiter text.toList

theorem identifier (name : String) : Closed (Sql.identifier name) := enclose .double name

theorem stringLiteral (text : String) : Closed (Sql.stringLiteral text) := enclose .single text

theorem intercalate {separator : String} (between : Closed separator) {texts : List String}
    (each : ∀ text ∈ texts, Closed text) : Closed (separator.intercalate texts) := by
  induction texts with
  | nil => exact (by decide : Closed "")
  | cons text texts ih =>
    obtain ⟨head, tail⟩ := List.forall_mem_cons.mp each
    cases texts with
    | nil => simpa using head
    | cons second others =>
      rw [String.intercalate_cons_cons]
      exact (head.append between).append (ih tail)

end Closed

/-- A character outside of quotes that neither begins quoted text nor ends a piece. -/
def isPlain (c : Char) : Bool := (Delimiter.ofChar? c).isNone && c != ';'

/-- Text without quotes and semicolons. -/
def Plain (text : String) : Prop := ∀ c ∈ text.toList, isPlain c = true

instance (text : String) : Decidable (Plain text) := List.decidableBAll _ text.toList

theorem Position.read_plain {letters : List Char} (plain : ∀ c ∈ letters, isPlain c = true) :
    outside.after letters = outside ∧ (outside.pieces letters).2 = [] := by
  induction letters with
  | nil => exact ⟨rfl, rfl⟩
  | cons c cs ih =>
    obtain ⟨head, others⟩ := List.forall_mem_cons.mp plain
    obtain ⟨undelimited, notSemicolon⟩ : Delimiter.ofChar? c = none ∧ c ≠ ';' := by
      simpa [isPlain] using head
    have stays : outside.next c = outside := by rw [next, enter, undelimited]
    rw [after, List.foldl_cons, pieces_cons fun both => notSemicolon both.1, stays]
    exact ih others

theorem Plain.closed {text : String} (plain : Plain text) : Closed text := by
  obtain ⟨stays, whole⟩ := read_plain plain
  exact ⟨by rw [stays]; rfl, whole⟩

/-- A closed text before a semicolon is a piece of its own. -/
theorem pieces_terminated {text : String} (closed : Closed text) (rest : List Char) :
    outside.pieces (text.toList ++ ';' :: rest) =
      (text.toList, (outside.pieces rest).1 :: (outside.pieces rest).2) := by
  have stays : outside.next ';' = outside := by decide
  rw [pieces_append closed.whole, pieces_of_isOutside closed.ended, pieces_semicolon rfl, stays,
    List.append_nil]

/-- A word without quotes and semicolons, letter by letter. -/
theorem Closed.word {letters : List Char} (plain : letters.all isPlain = true) :
    Closed (String.ofList letters) := by
  refine Plain.closed fun c member => ?_
  rw [String.toList_ofList] at member
  exact List.all_eq_true.mp plain c member

end SchemaDelta
