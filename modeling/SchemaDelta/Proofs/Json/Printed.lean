import SchemaDelta.Json.Printer
import SchemaDelta.Json.Token
import SchemaDelta.Proofs.Expressions.Texts
import SchemaDelta.Proofs.Number.Spelling
import SchemaDelta.Proofs.Script.Texts

/-!
# Printed values

The indented text of a value tells where it ends, since only a comma or a line break can follow it
within a container, and which value it is. So different values are never printed alike, whatever
they contain.
-/

namespace SchemaDelta

/-- Texts of one kind of characters that end where other characters begin are read off. -/
theorem append_inj_of_forall {p : Char → Bool} {a b s t : List Char}
    (eachA : ∀ c ∈ a, p c = true) (eachB : ∀ c ∈ b, p c = true)
    (endsS : ∀ c ∈ s.head?, p c = false) (endsT : ∀ c ∈ t.head?, p c = false)
    (same : a ++ s = b ++ t) : a = b ∧ s = t := by
  have run {a s : List Char} (each : ∀ c ∈ a, p c = true) (ends : ∀ c ∈ s.head?, p c = false) :
      (a ++ s).takeWhile p = a := by
    rw [List.takeWhile_append_of_pos each]
    cases s with
    | nil => exact List.append_nil a
    | cons c s => rw [List.takeWhile_cons_of_neg (by simp [ends c rfl]), List.append_nil]
  have first : a = b := by rw [← run eachA endsS, same, run eachB endsT]
  subst first
  exact ⟨rfl, List.append_cancel_left same⟩

namespace Json

/-! ## Quoted texts -/

/-- Reads the first character of a quoted text and what follows it. -/
def unescape? : List Char → Option (Char × List Char)
  | '\\' :: 'u' :: '0' :: '0' :: high :: low :: rest => do
    return (Char.ofNat ((← Token.hexDigit? high) * 16 + (← Token.hexDigit? low)), rest)
  | '\\' :: c :: rest => do return (← Token.escaped? c, rest)
  | c :: rest => some (c, rest)
  | [] => none

theorem hexDigit?_hexDigit : ∀ n < 16, Token.hexDigit? (hexDigit n) = some n := by decide

theorem unescape?_plain {c : Char} (plain : c ≠ '\\') (rest : List Char) :
    unescape? (c :: rest) = some (c, rest) := by
  unfold unescape?
  split
  · next same => exact absurd (List.cons.inj same).1 plain
  · next same => exact absurd (List.cons.inj same).1 plain
  · next same => rw [(List.cons.inj same).1, (List.cons.inj same).2]
  · next same => cases same

theorem unescape?_escapedChar (c : Char) (rest : List Char) :
    unescape? (escapedChar c ++ rest) = some (c, rest) := by
  unfold escapedChar
  split_ifs with quote backslash backspace tab line page back control
  · rw [quote]; rfl
  · rw [backslash]; rfl
  · rw [backspace]; rfl
  · rw [tab]; rfl
  · rw [line]; rfl
  · rw [page]; rfl
  · rw [back]; rfl
  · have high := hexDigit?_hexDigit (c.toNat / 16) (by omega)
    have low := hexDigit?_hexDigit (c.toNat % 16) (by omega)
    have code : Char.ofNat (c.toNat / 16 * 16 + c.toNat % 16) = c := by
      rw [Nat.div_add_mod', Char.ofNat_toNat]
    simp only [List.cons_append, List.nil_append, unescape?, high, low, code, bind, Option.bind]
    rfl
  · exact unescape?_plain backslash rest

/-- The quote that ends a quoted text is not the beginning of an escaped character. -/
theorem head?_escapedChar (c : Char) (rest : List Char) :
    (escapedChar c ++ rest).head? ≠ some '"' := by
  unfold escapedChar
  split_ifs with quote
  all_goals first | exact fun first => quote (Option.some.inj first) | exact nofun

theorem flatMap_escapedChar_append_inj {a b s t : List Char}
    (same : a.flatMap escapedChar ++ '"' :: s = b.flatMap escapedChar ++ '"' :: t) :
    a = b ∧ s = t := by
  induction a generalizing b with
  | nil =>
    cases b with
    | nil => exact ⟨rfl, (List.cons.inj same).2⟩
    | cons d b =>
      rw [List.flatMap_cons, List.append_assoc] at same
      exact absurd (congrArg List.head? same).symm (head?_escapedChar d _)
  | cons c a ih =>
    cases b with
    | nil =>
      rw [List.flatMap_cons, List.append_assoc] at same
      exact absurd (congrArg List.head? same) (head?_escapedChar c _)
    | cons d b =>
      rw [List.flatMap_cons, List.flatMap_cons, List.append_assoc, List.append_assoc] at same
      have read := unescape?_escapedChar c (a.flatMap escapedChar ++ '"' :: s)
      rw [same, unescape?_escapedChar, Option.some.injEq, Prod.mk.injEq] at read
      obtain ⟨rfl, rest⟩ := read
      obtain ⟨rfl, rfl⟩ := ih rest.symm
      exact ⟨rfl, rfl⟩

theorem quoted_append_inj {a b : String} {s t : List Char}
    (same : (quoted a).toList ++ s = (quoted b).toList ++ t) : a = b ∧ s = t := by
  have letters : a.toList.flatMap escapedChar ++ '"' :: s =
      b.toList.flatMap escapedChar ++ '"' :: t := by
    simpa [quoted] using same
  obtain ⟨texts, rest⟩ := flatMap_escapedChar_append_inj letters
  exact ⟨String.toList_inj.mp texts, rest⟩

/-! ## Containers -/

/-- What can follow a value: nothing, a comma or a line break. -/
def Ends (rest : List Char) : Prop := ∀ c ∈ rest.head?, c = ',' ∨ c = '\n'

theorem ends_nil : Ends [] := by
  intro c first
  cases first

theorem isNumeric_of_ends {rest : List Char} (ends : Ends rest) :
    ∀ c ∈ rest.head?, isNumeric c = false := by
  intro c first
  obtain rfl | rfl := ends c first <;> rfl

theorem number_append_inj {m n : Number} {s t : List Char} (endsS : Ends s) (endsT : Ends t)
    (same : m.text.toList ++ s = n.text.toList ++ t) : m = n ∧ s = t := by
  obtain ⟨texts, rest⟩ := append_inj_of_forall m.numeric_text n.numeric_text
    (isNumeric_of_ends endsS) (isNumeric_of_ends endsT) same
  exact ⟨Number.text_injective (String.toList_inj.mp texts), rest⟩

/-- The line break in front of what is at a level. -/
theorem toList_newline (level : Nat) :
    (newline level).toList = '\n' :: ("".pushn ' ' (2 * level)).toList :=
  String.toList_append

/-- The parts of a container after its first one, its end, and what follows it. -/
def blockRest (closing : Char) (level : Nat) (parts : List String) (rest : List Char) :
    List Char :=
  laterTexts ("," ++ newline (level + 1)) parts ++ ((newline level).toList ++ closing :: rest)

theorem blockRest_nil (closing : Char) (level : Nat) (rest : List Char) :
    blockRest closing level [] rest =
      '\n' :: (("".pushn ' ' (2 * level)).toList ++ closing :: rest) := by
  rw [blockRest, toList_newline]
  rfl

theorem blockRest_cons (closing : Char) (level : Nat) (part : String) (parts : List String)
    (rest : List Char) :
    blockRest closing level (part :: parts) rest =
      ',' :: ((newline (level + 1)).toList ++
        (part.toList ++ blockRest closing level parts rest)) := by
  simp [blockRest, laterTexts]

theorem ends_blockRest (closing : Char) (level : Nat) (parts : List String) (rest : List Char) :
    Ends (blockRest closing level parts rest) := by
  intro c first
  cases parts with
  | nil =>
    rw [blockRest_nil] at first
    exact .inr (Option.some.inj first).symm
  | cons part parts =>
    rw [blockRest_cons] at first
    exact .inl (Option.some.inj first).symm

theorem block_cons_append (opening closing : Char) (level : Nat) (part : String)
    (parts : List String) (rest : List Char) :
    (block (String.singleton opening) (String.singleton closing) level (part :: parts)).toList ++
        rest =
      opening :: '\n' :: (("".pushn ' ' (2 * (level + 1))).toList ++
        (part.toList ++ blockRest closing level parts rest)) := by
  simp only [block, String.toList_append, String.toList_singleton, toList_intercalate_cons,
    toList_newline, blockRest, List.append_assoc, List.cons_append, List.nil_append]

theorem block_nil_append (opening closing : Char) (level : Nat) (rest : List Char) :
    (block (String.singleton opening) (String.singleton closing) level []).toList ++ rest =
      opening :: closing :: rest := by
  simp [block]

section Containers

variable {α : Type} {text : α → String} {items others : List α} {opening closing : Char}
  {level : Nat} {s t : List Char}

/-- The text of something tells which it is and where it ends. -/
def Determines (text : α → String) (item : α) : Prop :=
  ∀ ⦃other : α⦄ ⦃s t : List Char⦄, Ends s → Ends t →
    (text item).toList ++ s = (text other).toList ++ t → item = other ∧ s = t

theorem blockRest_inj (each : ∀ item ∈ items, Determines text item)
    (same : blockRest closing level (items.map text) s =
      blockRest closing level (others.map text) t) : items = others ∧ s = t := by
  induction items generalizing others with
  | nil =>
    cases others with
    | nil =>
      rw [List.map_nil, blockRest_nil, blockRest_nil] at same
      have rest := List.append_cancel_left (List.cons.inj same).2
      exact ⟨rfl, (List.cons.inj rest).2⟩
    | cons other others =>
      rw [List.map_nil, List.map_cons, blockRest_nil, blockRest_cons] at same
      exact absurd (List.cons.inj same).1 (by decide)
  | cons item items ih =>
    cases others with
    | nil =>
      rw [List.map_nil, List.map_cons, blockRest_nil, blockRest_cons] at same
      exact absurd (List.cons.inj same).1 (by decide)
    | cons other others =>
      obtain ⟨determines, later⟩ := List.forall_mem_cons.mp each
      rw [List.map_cons, List.map_cons, blockRest_cons, blockRest_cons] at same
      obtain ⟨rfl, rest⟩ := determines (ends_blockRest _ _ _ _) (ends_blockRest _ _ _ _)
        (List.append_cancel_left (List.cons.inj same).2)
      obtain ⟨rfl, rfl⟩ := ih later rest
      exact ⟨rfl, rfl⟩

theorem block_append_inj (opening : Char) (bracket : closing ≠ '\n') (each : ∀ item ∈ items, Determines text item)
    (same : (block (String.singleton opening) (String.singleton closing) level
        (items.map text)).toList ++ s =
      (block (String.singleton opening) (String.singleton closing) level
        (others.map text)).toList ++ t) : items = others ∧ s = t := by
  cases items with
  | nil =>
    cases others with
    | nil => exact ⟨rfl, List.append_cancel_left same⟩
    | cons other others =>
      rw [List.map_nil, List.map_cons, block_nil_append, block_cons_append] at same
      exact absurd (List.cons.inj (List.cons.inj same).2).1 bracket
  | cons item items =>
    cases others with
    | nil =>
      rw [List.map_nil, List.map_cons, block_nil_append, block_cons_append] at same
      exact absurd (List.cons.inj (List.cons.inj same).2).1.symm bracket
    | cons other others =>
      obtain ⟨determines, later⟩ := List.forall_mem_cons.mp each
      rw [List.map_cons, List.map_cons, block_cons_append, block_cons_append] at same
      obtain ⟨rfl, rest⟩ := determines (ends_blockRest _ _ _ _) (ends_blockRest _ _ _ _)
        (List.append_cancel_left (List.cons.inj (List.cons.inj same).2).2)
      obtain ⟨rfl, rfl⟩ := blockRest_inj later rest
      exact ⟨rfl, rfl⟩

end Containers

/-! ## Values -/

theorem prettyItems_eq_map (level : Nat) (items : List Json) :
    prettyItems level items = items.map (prettyAt level) := by
  induction items with
  | nil => rfl
  | cons item items ih => rw [prettyItems, ih, List.map_cons]

/-- The indented text of a member. -/
def memberText (level : Nat) (member : String × Json) : String :=
  quoted member.1 ++ ": " ++ member.2.prettyAt level

theorem prettyMembers_eq_map (level : Nat) (members : List (String × Json)) :
    prettyMembers level members = members.map (memberText level) := by
  induction members with
  | nil => rfl
  | cons member members ih => rw [prettyMembers, ih, List.map_cons, memberText]

/-- The member is told by its text if its value is. -/
theorem determines_memberText {level : Nat} {member : String × Json}
    (value : Determines (prettyAt level) member.2) : Determines (memberText level) member := by
  intro other s t endsS endsT same
  simp only [memberText, String.toList_append, List.append_assoc] at same
  obtain ⟨key, rest⟩ := quoted_append_inj same
  obtain ⟨equal, follow⟩ := value endsS endsT (List.append_cancel_left rest)
  exact ⟨Prod.ext key equal, follow⟩

/-- What the first character of a text says: any that occurs in numbers says that it is one. -/
def signOf (c : Char) : Char := if isNumeric c then '0' else c

/-- What the first character of the text of a value says. -/
def sign : Json → Char
  | null => 'n'
  | bool true => 't'
  | bool false => 'f'
  | number _ => '0'
  | string _ => '"'
  | array _ => '['
  | object _ => '\x7b'

theorem head?_block (opening closing : Char) (level : Nat) (parts : List String) :
    (block (String.singleton opening) (String.singleton closing) level parts).toList.head? =
      some opening := by
  cases parts <;> simp [block]

theorem number_text_ne_nil (n : Number) : n.text.toList ≠ [] := by
  intro empty
  obtain ⟨numeral, read⟩ := n.exists_ofChars?_text
  rw [empty] at read
  cases read

theorem exists_head?_prettyAt (level : Nat) (value : Json) :
    ∃ c, (value.prettyAt level).toList.head? = some c ∧ signOf c = value.sign := by
  cases value with
  | null => exact ⟨'n', by simp [prettyAt, compact], rfl⟩
  | bool value =>
    cases value with
    | false => exact ⟨'f', by simp [prettyAt, compact], rfl⟩
    | true => exact ⟨'t', by simp [prettyAt, compact], rfl⟩
  | number n =>
    obtain ⟨c, text, shape⟩ := List.exists_cons_of_ne_nil (number_text_ne_nil n)
    have numeric : isNumeric c = true := n.numeric_text c (shape ▸ List.mem_cons_self)
    exact ⟨c, congrArg List.head? shape, if_pos numeric⟩
  | string text => exact ⟨'"', by simp [prettyAt, compact, quoted], rfl⟩
  | array items => exact ⟨'[', head?_block '[' ']' level _, rfl⟩
  | object members => exact ⟨'\x7b', head?_block '\x7b' '\x7d' level _, rfl⟩

theorem sign_eq {level : Nat} {value other : Json} {s t : List Char}
    (same : (value.prettyAt level).toList ++ s = (other.prettyAt level).toList ++ t) :
    value.sign = other.sign := by
  obtain ⟨c, first, sign⟩ := exists_head?_prettyAt level value
  obtain ⟨d, first', sign'⟩ := exists_head?_prettyAt level other
  have heads := congrArg List.head? same
  rw [List.head?_append, List.head?_append, first, first', Option.some_or, Option.some_or] at heads
  obtain rfl := Option.some.inj heads
  rw [← sign, sign']

/-- Two values are of one kind, and the same if there is just one of it. -/
inductive Alike : Json → Json → Prop
  | null : Alike null null
  | bool (value : Bool) : Alike (bool value) (bool value)
  | number (m n : Number) : Alike (number m) (number n)
  | string (a b : String) : Alike (string a) (string b)
  | array (items others : List Json) : Alike (array items) (array others)
  | object (members others : List (String × Json)) : Alike (object members) (object others)

theorem alike_of_sign_eq {value other : Json} (same : value.sign = other.sign) :
    Alike value other := by
  rcases value with _ | (_ | _) | _ | _ | _ | _ <;> rcases other with _ | (_ | _) | _ | _ | _ | _
  all_goals first | constructor | exact absurd same (by simp [sign])

mutual

/-- The indented text of a value tells the value and its own end. -/
theorem determines_prettyAt (value : Json) (level : Nat) : Determines (prettyAt level) value := by
  intro other s t endsS endsT same
  cases alike_of_sign_eq (sign_eq same) with
  | null => exact ⟨rfl, List.append_cancel_left same⟩
  | bool value => exact ⟨rfl, List.append_cancel_left same⟩
  | number m n =>
    obtain ⟨rfl, rest⟩ := number_append_inj endsS endsT same
    exact ⟨rfl, rest⟩
  | string a b =>
    obtain ⟨rfl, rest⟩ := quoted_append_inj same
    exact ⟨rfl, rest⟩
  | array items others =>
    rw [prettyAt, prettyAt, prettyItems_eq_map, prettyItems_eq_map] at same
    obtain ⟨rfl, rest⟩ := block_append_inj '[' (by decide : ']' ≠ '\n')
      (fun item member => determines_items items (level + 1) item member) same
    exact ⟨rfl, rest⟩
  | object members others =>
    rw [prettyAt, prettyAt, prettyMembers_eq_map, prettyMembers_eq_map] at same
    obtain ⟨rfl, rest⟩ := block_append_inj '\x7b' (by decide : '\x7d' ≠ '\n')
      (fun member inside =>
        determines_memberText (determines_members members (level + 1) member inside)) same
    exact ⟨rfl, rest⟩

theorem determines_items : ∀ (items : List Json) (level : Nat),
    ∀ item ∈ items, Determines (prettyAt level) item
  | [], _ => List.forall_mem_nil _
  | item :: items, level => List.forall_mem_cons.mpr
    ⟨determines_prettyAt item level, determines_items items level⟩

theorem determines_members : ∀ (members : List (String × Json)) (level : Nat),
    ∀ member ∈ members, Determines (prettyAt level) member.2
  | [], _ => List.forall_mem_nil _
  | (_, value) :: members, level => List.forall_mem_cons.mpr
    ⟨determines_prettyAt value level, determines_members members level⟩

end

/-- Different values are printed differently. -/
theorem pretty_injective : Function.Injective pretty := by
  intro value other same
  have letters : (value.prettyAt 0).toList ++ [] = (other.prettyAt 0).toList ++ [] := by
    rw [List.append_nil, List.append_nil]
    exact congrArg String.toList same
  exact (determines_prettyAt value 0 ends_nil ends_nil letters).1

end Json

end SchemaDelta
