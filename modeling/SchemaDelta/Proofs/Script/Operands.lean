import SchemaDelta.Proofs.Script.Lexer

/-!
# Operands in a text

A reader of SQL that counts parentheses knows of every character whether it is quoted and how deep
it stands. It cuts a text at marks outside of quotes and parentheses: into words at blanks and
commas, into a call and its arguments at the parentheses. A text that ends what it begins is read
the same wherever it stands, and if it has no mark of its own, it is not cut. So a text that is put
together from operands, with marks in between, is read back as just these operands.
-/

namespace SchemaDelta

/-- A reader that counts the parentheses outside of quotes. -/
structure SqlReader where
  position : Position
  depth : Int
deriving DecidableEq

/-- A character that was read. Parentheses are as deep as what stands around them, so a closing one
that was never opened is below zero. -/
structure SqlLetter where
  char : Char
  quoted : Bool
  depth : Int
deriving DecidableEq

namespace SqlReader

/-- The reader before the first character. -/
def start : SqlReader := ⟨.outside, 0⟩

/-- By how much a character outside of quotes changes the depth. -/
def turn (c : Char) : Int := if c = '(' then 1 else if c = ')' then -1 else 0

/-- The reader after one more character. -/
def next (reader : SqlReader) (c : Char) : SqlReader where
  position := reader.position.next c
  depth := if reader.position.isOutside then reader.depth + turn c else reader.depth

/-- The reader after a text. -/
def after (reader : SqlReader) (text : List Char) : SqlReader := text.foldl next reader

/-- A character as the reader takes it. -/
def letter (reader : SqlReader) (c : Char) : SqlLetter :=
  ⟨c, !reader.position.isOutside, min reader.depth (reader.next c).depth⟩

/-- The characters of a text as they are read. -/
def read : SqlReader → List Char → List SqlLetter
  | _, [] => []
  | reader, c :: cs => reader.letter c :: (reader.next c).read cs

end SqlReader

/-- The characters of a whole text as they are read. -/
def sqlLetters (text : String) : List SqlLetter := SqlReader.start.read text.toList

/-- The text closes its quotes, never closes a parenthesis that it has not opened, and closes all
that it has. -/
structure Balanced (text : String) : Prop where
  ended : (SqlReader.start.after text.toList).position.isOutside = true
  level : (SqlReader.start.after text.toList).depth = 0
  nested : ∀ letter ∈ sqlLetters text, 0 ≤ letter.depth

/-- The letter is one of the marks, outside of quotes and parentheses. -/
def SqlLetter.isMark (marks : Char → Bool) (letter : SqlLetter) : Bool :=
  !letter.quoted && letter.depth == 0 && marks letter.char

/-- The parts of a text between the marks outside of quotes and parentheses. -/
def cut (marks : Char → Bool) (text : String) : List String :=
  ((sqlLetters text).splitOnP (SqlLetter.isMark marks)).map fun part =>
    String.ofList (part.map SqlLetter.char)

/-- The text is balanced, and no mark outside of quotes and parentheses cuts it. -/
structure Uncut (marks : Char → Bool) (text : String) : Prop where
  balanced : Balanced text
  single : ∀ letter ∈ sqlLetters text, letter.isMark marks = false

/-- Words end at blanks, commas and semicolons. -/
def isSeparator (c : Char) : Bool := c == ' ' || c == ',' || c == ';'

/-- Items end at commas. -/
def isComma (c : Char) : Bool := c == ','

/-- Groups begin and end at parentheses. -/
def isParenthesis (c : Char) : Bool := c == '(' || c == ')'

/-- The words of a text. Between two separators stands an empty one. -/
def sqlWords (text : String) : List String := cut isSeparator text

/-- The items of a list. -/
def sqlItems (text : String) : List String := cut isComma text

/-- What stands in front of the parentheses that a text ends with, and what stands in them. -/
def group? (text : String) : Option (String × String) :=
  match cut isParenthesis text with
  | [head, body, rest] => if rest = "" then some (head, body) else none
  | _ => none

/-- The head of a call and the words in its parentheses. -/
def construct? (text : String) : Option (String × List String) :=
  (group? text).map fun (head, body) => (head, sqlWords body)

/-- SQL that is one operand wherever it stands. -/
abbrev Operand : String → Prop := Uncut isSeparator

/-- SQL that is one item of a list. -/
abbrev ListItem : String → Prop := Uncut isComma

theorem balanced_iff (text : String) :
    Balanced text ↔ (SqlReader.start.after text.toList).position.isOutside = true ∧
      (SqlReader.start.after text.toList).depth = 0 ∧
        ∀ letter ∈ sqlLetters text, 0 ≤ letter.depth :=
  ⟨fun balanced => ⟨balanced.ended, balanced.level, balanced.nested⟩,
    fun all => ⟨all.1, all.2.1, all.2.2⟩⟩

instance (text : String) : Decidable (Balanced text) := decidable_of_iff' _ (balanced_iff text)

theorem uncut_iff (marks : Char → Bool) (text : String) :
    Uncut marks text ↔ Balanced text ∧ ∀ letter ∈ sqlLetters text, letter.isMark marks = false :=
  ⟨fun uncut => ⟨uncut.balanced, uncut.single⟩, fun both => ⟨both.1, both.2⟩⟩

instance (marks : Char → Bool) (text : String) : Decidable (Uncut marks text) :=
  decidable_of_iff' _ (uncut_iff marks text)

/-! ## Reading on -/

/-- The same letter in so many more parentheses. -/
def SqlLetter.deepen (levels : Int) (letter : SqlLetter) : SqlLetter :=
  { letter with depth := letter.depth + levels }

namespace SqlReader

variable {reader : SqlReader} {position : Position} {text rest : List Char}

theorem after_append : reader.after (text ++ rest) = (reader.after text).after rest :=
  List.foldl_append

theorem read_append :
    reader.read (text ++ rest) = reader.read text ++ (reader.after text).read rest := by
  induction text generalizing reader with
  | nil => rfl
  | cons c cs ih =>
    rw [List.cons_append, read, ih, read, List.cons_append]
    rfl

theorem position_after : (reader.after text).position = reader.position.after text := by
  induction text generalizing reader with
  | nil => rfl
  | cons c cs ih => exact ih

theorem map_char_read : (reader.read text).map SqlLetter.char = text := by
  induction text generalizing reader with
  | nil => rfl
  | cons c cs ih => rw [read, List.map_cons, ih, letter]

/-- A reader that starts in more parentheses. -/
theorem next_deeper (depth levels : Int) (c : Char) :
    (⟨position, depth + levels⟩ : SqlReader).next c =
      ⟨position.next c, ((⟨position, depth⟩ : SqlReader).next c).depth + levels⟩ := by
  simp only [next, SqlReader.mk.injEq, true_and]
  split <;> omega

theorem depth_after_deeper (depth levels : Int) :
    ((⟨position, depth + levels⟩ : SqlReader).after text).depth =
      ((⟨position, depth⟩ : SqlReader).after text).depth + levels := by
  induction text generalizing position depth with
  | nil => rfl
  | cons c cs ih =>
    rw [after, List.foldl_cons, next_deeper]
    exact ih _

theorem read_deeper (depth levels : Int) :
    (⟨position, depth + levels⟩ : SqlReader).read text =
      ((⟨position, depth⟩ : SqlReader).read text).map (SqlLetter.deepen levels) := by
  induction text generalizing position depth with
  | nil => rfl
  | cons c cs ih =>
    have same : (⟨position, depth + levels⟩ : SqlReader).letter c =
        ((⟨position, depth⟩ : SqlReader).letter c).deepen levels := by
      simp only [letter, next_deeper, SqlLetter.deepen, SqlLetter.mk.injEq, true_and]
      omega
    rw [read, read, List.map_cons, same, next_deeper, ih]
    rfl

/-- Outside of quotes a reader starts as at the beginning, only deeper. -/
theorem next_of_isOutside (neutral : position.isOutside = true) (depth : Int) (c : Char) :
    (⟨position, depth⟩ : SqlReader).next c = (⟨.outside, depth⟩ : SqlReader).next c := by
  rw [next, next, Position.next_of_isOutside neutral, neutral]
  rfl

theorem depth_after_of_isOutside (neutral : reader.position.isOutside = true) :
    (reader.after text).depth = (start.after text).depth + reader.depth := by
  obtain ⟨position, depth⟩ := reader
  rw [start, ← depth_after_deeper, Int.zero_add]
  cases text with
  | nil => rfl
  | cons c cs => rw [after, after, List.foldl_cons, List.foldl_cons, next_of_isOutside neutral]

theorem read_of_isOutside (neutral : reader.position.isOutside = true) :
    reader.read text = (start.read text).map (SqlLetter.deepen reader.depth) := by
  obtain ⟨position, depth⟩ := reader
  rw [start, ← read_deeper, Int.zero_add]
  cases text with
  | nil => rfl
  | cons c cs =>
    rw [read, read, next_of_isOutside neutral, letter, letter, next_of_isOutside neutral, neutral]
    rfl

/-- A closing parenthesis outside of quotes ends the only open one. -/
theorem read_closing (neutral : reader.position.isOutside = true) (level : reader.depth = 1) :
    reader.next ')' = start ∧ reader.read [')'] = [⟨')', false, 0⟩] := by
  obtain ⟨position, depth⟩ := reader
  obtain rfl : depth = 1 := level
  have closes : (⟨position, 1⟩ : SqlReader).next ')' = start := next_of_isOutside neutral 1 ')'
  refine ⟨closes, ?_⟩
  rw [read, read, letter, closes, neutral]
  rfl

end SqlReader

theorem SqlLetter.deepen_zero (letter : SqlLetter) : letter.deepen 0 = letter := by
  rw [deepen, Int.add_zero]

/-! ## Balanced texts -/

variable {a b : String}

theorem map_char_sqlLetters (text : String) : (sqlLetters text).map SqlLetter.char = text.toList :=
  SqlReader.map_char_read

namespace Balanced

/-- A reader comes out of a balanced text as it went in. -/
theorem after (inside : Balanced a) (reader : SqlReader)
    (neutral : reader.position.isOutside = true) :
    (reader.after a.toList).position.isOutside = true ∧
      (reader.after a.toList).depth = reader.depth := by
  constructor
  · have ended := inside.ended
    rw [SqlReader.position_after] at ended ⊢
    rw [Position.isOutside_after_of_isOutside neutral]
    exact ended
  · rw [SqlReader.depth_after_of_isOutside neutral, inside.level, Int.zero_add]

/-- After a balanced text everything is read as if it stood alone. -/
theorem sqlLetters_append (left : Balanced a) (b : String) :
    sqlLetters (a ++ b) = sqlLetters a ++ sqlLetters b := by
  rw [sqlLetters, String.toList_append, SqlReader.read_append,
    SqlReader.read_of_isOutside left.ended, left.level, funext SqlLetter.deepen_zero, List.map_id']
  rfl

protected theorem append (left : Balanced a) (right : Balanced b) : Balanced (a ++ b) := by
  obtain ⟨ended, level⟩ := right.after _ left.ended
  refine ⟨?_, ?_, ?_⟩
  · rw [String.toList_append, SqlReader.after_append]
    exact ended
  · rw [String.toList_append, SqlReader.after_append, level]
    exact left.level
  · rw [left.sqlLetters_append, List.forall_mem_append]
    exact ⟨left.nested, right.nested⟩

/-- In parentheses a balanced text is read as it is, one level deeper. -/
theorem read_enclosed (inside : Balanced a) :
    SqlReader.start.after ("(" ++ a ++ ")").toList = SqlReader.start ∧
      sqlLetters ("(" ++ a ++ ")") =
        ⟨'(', false, 0⟩ :: (sqlLetters a).map (SqlLetter.deepen 1) ++ [⟨')', false, 0⟩] := by
  have letters : ("(" ++ a ++ ")").toList = '(' :: (a.toList ++ [')']) := by simp
  have opens : SqlReader.start.next '(' = ⟨.outside, 1⟩ := rfl
  obtain ⟨ended, level⟩ := inside.after ⟨.outside, 1⟩ rfl
  obtain ⟨closes, closing⟩ := SqlReader.read_closing ended level
  rw [sqlLetters, letters]
  constructor
  · rw [SqlReader.after, List.foldl_cons, opens, List.foldl_append]
    exact closes
  · rw [SqlReader.read, opens, SqlReader.read_append, closing, SqlReader.read_of_isOutside rfl]
    rfl

/-- A balanced text may be put in parentheses. -/
theorem enclosed (inside : Balanced a) : Balanced ("(" ++ a ++ ")") := by
  obtain ⟨after, letters⟩ := inside.read_enclosed
  refine ⟨by rw [after]; rfl, by rw [after]; rfl, ?_⟩
  rw [letters, List.cons_append, List.forall_mem_cons, List.forall_mem_append,
    List.forall_mem_map, List.forall_mem_singleton]
  refine ⟨Int.le_refl 0, ?_, Int.le_refl 0⟩
  intro letter member
  exact Int.add_nonneg (inside.nested letter member) (by decide)

/-- In parentheses nothing of a balanced text is a mark. -/
theorem not_isMark_deepen {marks : Char → Bool} (inside : Balanced a) :
    ∀ letter ∈ sqlLetters a, (letter.deepen 1).isMark marks = false := by
  intro letter member
  have deep : letter.depth + 1 ≠ 0 := by
    have nested := inside.nested letter member
    omega
  simp [SqlLetter.isMark, SqlLetter.deepen, deep]

end Balanced

theorem Balanced.intercalate {separator : String} (between : Balanced separator)
    {texts : List String} (each : ∀ text ∈ texts, Balanced text) :
    Balanced (separator.intercalate texts) := by
  induction texts with
  | nil => exact (by decide : Balanced "")
  | cons text texts ih =>
    obtain ⟨head, tail⟩ := List.forall_mem_cons.mp each
    cases texts with
    | nil => simpa using head
    | cons second others =>
      rw [String.intercalate_cons_cons]
      exact (head.append between).append (ih tail)

/-! ## Quoted text and words -/

theorem SqlReader.turn_delimiter (delimiter : Delimiter) : turn delimiter.char = 0 := by
  cases delimiter <;> decide

/-- In quoted text the depth stays as it is, and only delimiters are not quoted. -/
theorem SqlReader.read_double (delimiter : Delimiter) (depth : Int) (text : List Char) :
    ((⟨.inside delimiter, depth⟩ : SqlReader).after
        (Quoted.double delimiter.char text ++ [delimiter.char])).depth = depth ∧
      ∀ letter ∈ (⟨.inside delimiter, depth⟩ : SqlReader).read
        (Quoted.double delimiter.char text ++ [delimiter.char]),
        letter.depth = depth ∧ (letter.quoted = true ∨ letter.char = delimiter.char) := by
  have level := turn_delimiter delimiter
  induction text with
  | nil => simp [Quoted.double, after, read, letter, next, Position.isOutside]
  | cons c cs ih =>
    by_cases quote : c = delimiter.char
    · -- the first of two delimiters leaves the quotes, and the second one goes back into them
      simpa [Quoted.double, quote, after, read, letter, next, Position.next, Position.isOutside,
        level] using ih
    · simpa [Quoted.double, quote, after, read, letter, next, Position.next, Position.isOutside]
        using ih

/-- Quoted text is balanced, whatever the text is, and only its delimiters are not quoted. -/
theorem read_enclose (delimiter : Delimiter) (text : String) :
    Balanced (Quoted.enclose delimiter.char text) ∧
      ∀ letter ∈ sqlLetters (Quoted.enclose delimiter.char text),
        letter.quoted = true ∨ letter.char = delimiter.char := by
  have begins : SqlReader.start.next delimiter.char = ⟨.inside delimiter, 0⟩ := by
    cases delimiter <;> decide
  have opening : SqlReader.start.letter delimiter.char = ⟨delimiter.char, false, 0⟩ := by
    cases delimiter <;> decide
  have letters : (Quoted.enclose delimiter.char text).toList =
      delimiter.char :: (Quoted.double delimiter.char text.toList ++ [delimiter.char]) := by
    rw [Quoted.enclose, String.toList_ofList, List.cons_append]
  obtain ⟨level, inside⟩ := SqlReader.read_double delimiter 0 text.toList
  have read : sqlLetters (Quoted.enclose delimiter.char text) =
      ⟨delimiter.char, false, 0⟩ :: (⟨.inside delimiter, 0⟩ : SqlReader).read
        (Quoted.double delimiter.char text.toList ++ [delimiter.char]) := by
    rw [sqlLetters, letters, SqlReader.read, begins, opening]
  refine ⟨⟨?ended, ?level, ?nested⟩, ?unquoted⟩
  case ended =>
    rw [SqlReader.position_after]
    exact (Closed.enclose delimiter text).ended
  case level =>
    rw [letters, SqlReader.after, List.foldl_cons, begins]
    exact level
  case nested =>
    rw [read, List.forall_mem_cons]
    refine ⟨Int.le_refl 0, ?_⟩
    intro letter member
    exact Int.le_of_eq (inside letter member).1.symm
  case unquoted =>
    rw [read, List.forall_mem_cons]
    exact ⟨.inr rfl, fun letter member => (inside letter member).2⟩

/-- A character outside of quotes that neither begins quoted text nor is a parenthesis. -/
def isBare (c : Char) : Bool := (Delimiter.ofChar? c).isNone && !isParenthesis c

theorem SqlReader.next_of_isBare {c : Char} (bare : isBare c = true) :
    start.next c = start ∧ start.letter c = ⟨c, false, 0⟩ := by
  obtain ⟨undelimited, opening, closing⟩ :
      Delimiter.ofChar? c = none ∧ c ≠ '(' ∧ c ≠ ')' := by
    simpa [isBare, isParenthesis] using bare
  have stays : start.next c = start := by
    simp [next, start, Position.next, Position.enter, undelimited, turn, opening, closing]
  rw [letter, stays]
  exact ⟨rfl, rfl⟩

/-- Bare letters are read one by one. -/
theorem read_bare (bare : ∀ c ∈ a.toList, isBare c = true) :
    Balanced a ∧ sqlLetters a = a.toList.map fun c => ⟨c, false, 0⟩ := by
  have read {letters : List Char} (bare : ∀ c ∈ letters, isBare c = true) :
      SqlReader.start.after letters = .start ∧
        SqlReader.start.read letters = letters.map fun c => ⟨c, false, 0⟩ := by
    induction letters with
    | nil => exact ⟨rfl, rfl⟩
    | cons c cs ih =>
      obtain ⟨head, others⟩ := List.forall_mem_cons.mp bare
      obtain ⟨stays, letter⟩ := SqlReader.next_of_isBare head
      rw [SqlReader.after, List.foldl_cons, SqlReader.read, stays, letter, List.map_cons]
      exact ⟨(ih others).1, by rw [(ih others).2]⟩
  obtain ⟨after, read⟩ := read bare
  refine ⟨⟨by rw [after]; rfl, by rw [after]; rfl, ?_⟩, read⟩
  rw [sqlLetters, read, List.forall_mem_map]
  exact fun _ _ => Int.le_refl 0

/-! ## Cutting -/

namespace Uncut

variable {marks : Char → Bool}

protected theorem append (left : Uncut marks a) (right : Uncut marks b) : Uncut marks (a ++ b) where
  balanced := left.balanced.append right.balanced
  single := by
    rw [left.balanced.sqlLetters_append, List.forall_mem_append]
    exact ⟨left.single, right.single⟩

/-- In parentheses there is no mark, whatever stands there. -/
theorem enclosed (inside : Balanced a) (others : ∀ c, isParenthesis c = true → marks c = false) :
    Uncut marks ("(" ++ a ++ ")") where
  balanced := inside.enclosed
  single := by
    have edge (c : Char) (parenthesis : isParenthesis c = true) :
        (⟨c, false, 0⟩ : SqlLetter).isMark marks = false := by
      simp [SqlLetter.isMark, others c parenthesis]
    rw [inside.read_enclosed.2, List.cons_append, List.forall_mem_cons, List.forall_mem_append,
      List.forall_mem_map, List.forall_mem_singleton]
    exact ⟨edge _ rfl, inside.not_isMark_deepen, edge _ rfl⟩

theorem enclose (delimiter : Delimiter) (text : String) (others : marks delimiter.char = false) :
    Uncut marks (Quoted.enclose delimiter.char text) where
  balanced := (read_enclose delimiter text).1
  single := by
    intro letter member
    rw [SqlLetter.isMark]
    rcases (read_enclose delimiter text).2 letter member with quoted | delimits
    · simp [quoted]
    · simp [delimits, others]

theorem bare (letters : ∀ c ∈ a.toList, isBare c = true)
    (others : ∀ c ∈ a.toList, marks c = false) : Uncut marks a where
  balanced := (read_bare letters).1
  single := by
    rw [(read_bare letters).2, List.forall_mem_map]
    intro c member
    simp [SqlLetter.isMark, others c member]

theorem cut_eq (uncut : Uncut marks a) : cut marks a = [a] := by
  rw [cut, List.splitOnP_eq_singleton uncut.single, List.map_singleton, map_char_sqlLetters,
    String.ofList_toList]

end Uncut

/-- A mark after a balanced text cuts there, and nowhere else. -/
theorem cut_append {marks : Char → Bool} {mark : String} {letter : SqlLetter}
    (read : sqlLetters mark = [letter]) (marked : letter.isMark marks = true)
    (between : Balanced mark) (left : Balanced a) (b : String) :
    cut marks (a ++ mark ++ b) = cut marks a ++ cut marks b := by
  rw [cut, (left.append between).sqlLetters_append, left.sqlLetters_append, read, List.append_assoc,
    List.singleton_append, List.splitOnP_append_cons _ _ marked, List.map_append]
  rfl

/-- A blank separates words. -/
theorem sqlWords_append (left : Balanced a) (b : String) :
    sqlWords (a ++ " " ++ b) = sqlWords a ++ sqlWords b :=
  cut_append (rfl : sqlLetters " " = [⟨' ', false, 0⟩]) rfl (by decide) left b

theorem sqlWords_of_operand (operand : Operand a) : sqlWords a = [a] := operand.cut_eq

/-- A word between blanks is a word. -/
theorem sqlWords_append_word {word : String} (operand : Operand word) (left : Balanced a)
    (b : String) :
    sqlWords (a ++ (" " ++ word ++ " ") ++ b) = sqlWords a ++ ([word] ++ sqlWords b) := by
  have text : a ++ (" " ++ word ++ " ") ++ b = a ++ " " ++ (word ++ " " ++ b) := by
    simp only [String.append_assoc]
  rw [text, sqlWords_append left, sqlWords_append operand.balanced, sqlWords_of_operand operand]

/-- A comma with a blank behind it separates words, and there is an empty one in between. -/
theorem sqlWords_append_comma (left : Balanced a) (b : String) :
    sqlWords (a ++ ", " ++ b) = sqlWords a ++ ([""] ++ sqlWords b) := by
  have comma : Balanced "," := by decide
  have cuts : sqlWords (a ++ "," ++ "") = sqlWords a ++ [""] :=
    cut_append (rfl : sqlLetters "," = [⟨',', false, 0⟩]) rfl comma left ""
  have blank : a ++ ", " ++ b = a ++ "," ++ " " ++ b := by
    simp only [String.append_assoc]
    rfl
  rw [String.append_empty] at cuts
  rw [blank, sqlWords_append (left.append comma), cuts, List.append_assoc]

/-- Operands are read back together with the words that a separator makes between them. -/
theorem sqlWords_intercalate {separator : String} {words : List String}
    (separates : ∀ {a : String}, Balanced a → ∀ b : String,
      sqlWords (a ++ separator ++ b) = sqlWords a ++ (words ++ sqlWords b))
    {first : String} {others : List String} (operands : ∀ a ∈ first :: others, Operand a) :
    sqlWords (separator.intercalate (first :: others)) =
      first :: others.flatMap (words ++ [·]) := by
  induction others generalizing first with
  | nil =>
    rw [String.intercalate_singleton]
    exact sqlWords_of_operand (operands first List.mem_cons_self)
  | cons second others ih =>
    obtain ⟨head, tail⟩ := List.forall_mem_cons.mp operands
    rw [String.intercalate_cons_cons, separates head.balanced, ih tail, sqlWords_of_operand head]
    simp

theorem sqlWords_unwords {first : String} {others : List String}
    (operands : ∀ a ∈ first :: others, Operand a) :
    sqlWords (" ".intercalate (first :: others)) = first :: others := by
  have separates {a : String} (left : Balanced a) (b : String) :
      sqlWords (a ++ " " ++ b) = sqlWords a ++ ([] ++ sqlWords b) := sqlWords_append left b
  rw [sqlWords_intercalate separates operands]
  simp

theorem intersperse_cons (word first : String) (others : List String) :
    (first :: others).intersperse word = first :: others.flatMap ([word] ++ [·]) := by
  induction others generalizing first with
  | nil => rfl
  | cons second others ih =>
    rw [List.intersperse_cons_cons, ih second]
    rfl

/-- What is called and what stands in the parentheses of a call are read back. -/
theorem group?_enclosed (head : Uncut isParenthesis a) (body : Balanced b) :
    group? (a ++ ("(" ++ b ++ ")")) = some (a, b) := by
  have read : sqlLetters (a ++ ("(" ++ b ++ ")")) =
      sqlLetters a ++ ⟨'(', false, 0⟩ ::
        ((sqlLetters b).map (SqlLetter.deepen 1) ++ [⟨')', false, 0⟩]) := by
    rw [head.balanced.sqlLetters_append, body.read_enclosed.2]
    rfl
  have inside : ((sqlLetters b).map (SqlLetter.deepen 1)).map SqlLetter.char = b.toList := by
    rw [List.map_map, ← map_char_sqlLetters]
    rfl
  have parts : cut isParenthesis (a ++ ("(" ++ b ++ ")")) = [a, b, ""] := by
    -- no parenthesis of the body is a mark, as all of it is one level deeper
    rw [cut, read, List.splitOnP_append_cons _ _ rfl, List.splitOnP_append_cons _ _ rfl,
      List.splitOnP_eq_singleton head.single,
      List.splitOnP_eq_singleton (List.forall_mem_map.mpr body.not_isMark_deepen),
      List.splitOnP_nil]
    simp only [List.map_append, List.map_singleton, inside, map_char_sqlLetters,
      String.ofList_toList]
    rfl
  rw [group?, parts]
  rfl

theorem construct?_enclosed (head : Uncut isParenthesis a) (body : Balanced b) :
    construct? (a ++ ("(" ++ b ++ ")")) = some (a, sqlWords b) := by
  rw [construct?, group?_enclosed head body, Option.map_some]

example : construct? "f(a(b, c), 'd) e')" = some ("f", ["a(b, c)", "", "'d) e'"]) := by decide

example : construct? "(a) OR (b)" = none := by decide

end SchemaDelta
