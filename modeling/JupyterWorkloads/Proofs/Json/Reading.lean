import JupyterWorkloads.Json.Reader
import JupyterWorkloads.Json.Text
import JupyterWorkloads.Proofs.Json.Record
import JupyterWorkloads.Proofs.Table.Content

/-! Reading undoes writing. The compact text of a value without floats is read back as the image of the value
in the style of the reader, whatever follows the text, since a quote ends a string and no number stands
before a digit. A style that keeps the objects of a value has the value as its own image, so two values with
one text are the same value. -/
namespace JupyterWorkloads

namespace Text

theorem natChars_digit {n : Nat} {c : Char} (h : c ∈ natChars n) : c.isDigit = true :=
  Nat.isDigit_of_mem_toDigits (by omega) (by omega) h

theorem natChars_ne_nil (n : Nat) : natChars n ≠ [] := Nat.toDigits_ne_nil

theorem digitsValue_natChars (n : Nat) : digitsValue (natChars n) = n := Nat.ofDigitChars_ten_toDigits

theorem eq_zero_of_natChars {n : Nat} {rest : List Char} (h : natChars n = '0' :: rest) : n = 0 := by
  induction n using Nat.strongRecOn generalizing rest with
  | ind n ih =>
    by_cases small : n < 10
    · rw [natChars, Nat.toDigits_of_lt_base small] at h
      have only : ∀ k < 10, k.digitChar = '0' → k = 0 := by decide
      exact only n small (List.cons.inj h).1
    · rw [natChars, Nat.toDigits_of_base_le (by omega) (by omega)] at h
      obtain ⟨c, tail, front⟩ := List.exists_cons_of_ne_nil (natChars_ne_nil (n / 10))
      rw [natChars] at front
      rw [front, List.cons_append] at h
      have zero := ih (n / 10) (by omega) ((List.cons.inj h).1 ▸ front)
      omega

end Text

namespace Json

open Text

/-- Nothing follows that could belong to a number. -/
def Ends (rest : List Char) : Prop := ∀ c tail, rest = c :: tail → c = ',' ∨ c = ']' ∨ c = '\x7d'

theorem Ends.cases {rest : List Char} (ends : Ends rest) :
    rest = [] ∨ ∃ c tail, rest = c :: tail ∧ (c = ',' ∨ c = ']' ∨ c = '\x7d') := by
  cases rest with
  | nil => exact .inl rfl
  | cons c tail => exact .inr ⟨c, tail, rfl, ends c tail rfl⟩

section Numbers

variable {rest : List Char}

theorem splitDigits_append {digits : List Char} (all : ∀ c ∈ digits, c.isDigit = true)
    (ends : Ends rest) : splitDigits (digits ++ rest) = (digits, rest) := by
  have stops : rest.takeWhile Char.isDigit = [] ∧ rest.dropWhile Char.isDigit = rest := by
    cases rest with
    | nil => exact ⟨rfl, rfl⟩
    | cons c tail => rcases ends c tail rfl with rfl | rfl | rfl <;> exact ⟨rfl, rfl⟩
  rw [splitDigits, List.takeWhile_append_of_pos all, List.dropWhile_append_of_pos all, stops.1, stops.2,
    List.append_nil]

/-- Digits that a number may consist of: there is one, and no zero leads others. -/
structure Whole (digits : List Char) : Prop where
  all : ∀ c ∈ digits, c.isDigit = true
  nonempty : digits ≠ []
  lead : ∀ tail, digits = '0' :: tail → tail = []

theorem whole_natChars (n : Nat) : Whole (natChars n) where
  all _ := natChars_digit
  nonempty := natChars_ne_nil n
  lead tail front := by
    have zero := eq_zero_of_natChars front
    subst zero
    exact (List.cons.inj front).2.symm

def signChars (negative : Bool) : List Char := if negative then ['-'] else []

theorem signChars_split {digits : List Char} (whole : Whole digits) (negative : Bool) :
    negative = true ∧ signChars negative ++ digits ++ rest = '-' :: (digits ++ rest) ∨
      negative = false ∧ signChars negative ++ digits ++ rest = digits ++ rest ∧
        ∀ tail, digits ++ rest ≠ '-' :: tail := by
  cases negative with
  | true => exact .inl ⟨rfl, rfl⟩
  | false =>
    refine .inr ⟨rfl, rfl, fun tail minus => ?_⟩
    obtain ⟨c, others, rfl⟩ := List.exists_cons_of_ne_nil whole.nonempty
    have first : c = '-' := (List.cons.inj minus).1
    have digit := whole.all c List.mem_cons_self
    rw [first] at digit
    exact absurd digit (by decide)

theorem readNumber_whole {digits : List Char} (whole : Whole digits) (ends : Ends rest) {negative : Bool}
    {v : Json} (value : wholeNumber? negative (digitsValue digits) = some v) :
    readNumber (signChars negative ++ digits ++ rest) = some (v, rest) := by
  have parts := splitDigits_append whole.all ends
  rcases signChars_split whole negative with ⟨rfl, form⟩ | ⟨rfl, form, unsigned⟩
  all_goals
    rw [form]
    unfold readNumber
    simp only [parts]
    split
    · exact absurd rfl whole.nonempty
    · exact absurd (whole.lead _ rfl) (by simp)
    · rcases ends.cases with rfl | ⟨c, tail, rfl, rfl | rfl | rfl⟩ <;> simp [value]

theorem skipNumber_whole {digits : List Char} (whole : Whole digits) (ends : Ends rest) (negative : Bool) :
    skipNumber (signChars negative ++ digits ++ rest) = some rest := by
  have parts := splitDigits_append whole.all ends
  rcases signChars_split whole negative with ⟨rfl, form⟩ | ⟨rfl, form, unsigned⟩
  all_goals
    rw [form]
    unfold skipNumber
    simp only [parts]
    split
    · exact absurd rfl whole.nonempty
    · exact absurd (whole.lead _ rfl) (by simp)
    · rcases ends.cases with rfl | ⟨c, tail, rfl, rfl | rfl | rfl⟩ <;> simp

theorem intChars_eq (n : Int) : intChars n = signChars (n < 0) ++ natChars n.natAbs := by
  unfold intChars signChars
  by_cases negative : n < 0 <;> simp [negative]

theorem wholeNumber?_of_word {n : Int} (word : IsWord n) :
    wholeNumber? (n < 0) n.natAbs = some (.int n) := by
  obtain ⟨low, high⟩ := word
  have power : Nat.pow 2 63 = 2 ^ 63 := rfl
  by_cases negative : n < 0
  · have bound : 0 < n.natAbs ∧ n.natAbs ≤ 2 ^ 63 := by omega
    have value : -(n.natAbs : Int) = n := by omega
    rw [wholeNumber?, decide_eq_true negative, if_pos rfl, power, if_pos bound, value]
  · have bound : n.natAbs ≤ maxWord := by simp only [maxWord, UInt64.size]; omega
    have value : (n.natAbs : Int) = n := by omega
    rw [wholeNumber?, decide_eq_false negative, if_neg (by decide), if_pos bound, value]

theorem readNumber_intChars {n : Int} (word : IsWord n) (ends : Ends rest) :
    readNumber (intChars n ++ rest) = some (.int n, rest) := by
  rw [intChars_eq]
  apply readNumber_whole (whole_natChars _) ends
  rw [digitsValue_natChars]
  exact wholeNumber?_of_word word

theorem skipNumber_intChars (n : Int) (ends : Ends rest) : skipNumber (intChars n ++ rest) = some rest := by
  rw [intChars_eq]
  exact skipNumber_whole (whole_natChars _) ends _

end Numbers

section Strings

variable {rest : List Char}

/-- A character is escaped by a letter, by its number, or not at all. -/
inductive Escaping (c : Char) : List Char → Prop
  | letter (e : Char) (number : e ≠ 'u') (back : simpleEscape? e = some c) : Escaping c ['\\', e]
  | number (control : c.toNat < 0x20) :
    Escaping c ['\\', 'u', '0', '0', Nat.digitChar (c.toNat / 16), Nat.digitChar (c.toNat % 16)]
  | plain (printed : 0x20 ≤ c.toNat) (quote : c ≠ '"') (backslash : c ≠ '\\') : Escaping c [c]

theorem escaping (c : Char) : Escaping c (escapeChar c) := by
  unfold escapeChar
  repeat' split
  all_goals first
    | subst c; exact .letter _ (by decide) rfl
    | exact .number ‹_›
    | exact .plain (by omega) ‹_› ‹_›

theorem hexUnit?_digits :
    ∀ n < 32, hexUnit? '0' '0' (Nat.digitChar (n / 16)) (Nat.digitChar (n % 16)) = some n := by
  decide

theorem readString_escaping {c : Char} {form : List Char} (escaping : Escaping c form) :
    readString (form ++ rest) = do
      let (s, rest) ← readString rest
      return (c :: s, rest) := by
  cases escaping with
  | letter e number back =>
    simp only [List.cons_append, List.nil_append]
    rw [readString] <;> simp [number, back]
  | number control =>
    have unit : isHighUnit c.toNat = false ∧ isLowUnit c.toNat = false := by
      simp only [isHighUnit, isLowUnit, Bool.and_eq_false_iff, decide_eq_false_iff_not]
      omega
    simp only [List.cons_append, List.nil_append]
    rw [readString]
    simp [hexUnit?_digits _ control, unit]
  | plain printed quote backslash =>
    have printed : ¬ c.toNat < 0x20 := by omega
    simp only [List.cons_append, List.nil_append]
    rw [readString] <;> simp [quote, backslash, printed]

theorem skipString_escaping {c : Char} {form : List Char} (escaping : Escaping c form) :
    skipString (form ++ rest) = skipString rest := by
  cases escaping with
  | letter e number back =>
    simp only [List.cons_append, List.nil_append]
    rw [skipString] <;> simp [number, back]
  | number control =>
    simp only [List.cons_append, List.nil_append]
    rw [skipString]
    simp [hexUnit?_digits _ control]
  | plain printed quote backslash =>
    have printed : ¬ c.toNat < 0x20 := by omega
    simp only [List.cons_append, List.nil_append]
    rw [skipString] <;> simp [quote, backslash, printed]

theorem readString_flatMap (s : List Char) :
    readString (s.flatMap escapeChar ++ '"' :: rest) = some (s, rest) := by
  induction s with
  | nil => simp [readString]
  | cons c tail ih =>
    rw [List.flatMap_cons, List.append_assoc, readString_escaping (escaping c), ih]
    rfl

theorem skipString_flatMap (s : List Char) :
    skipString (s.flatMap escapeChar ++ '"' :: rest) = some rest := by
  induction s with
  | nil => simp [skipString]
  | cons c tail ih => rw [List.flatMap_cons, List.append_assoc, skipString_escaping (escaping c), ih]

end Strings

namespace Style

/-- A style reads what is written: any string, the integers that are named and the empty object. -/
structure Reads (style : Style) (ints : Int → Prop) : Prop where
  string : ∀ s rest, style.string (s.toList.flatMap escapeChar ++ '"' :: rest) = some (some s, rest)
  number : ∀ n, ints n → ∀ rest, Ends rest → style.number (intChars n ++ rest) = some (.int n, rest)
  empty : style.object [] = .obj []

def members (fields : Fields) : List (Option String × Json) := fields.map fun field => (some field.1, field.2)

/-- A style leaves the objects with these rows as they are. -/
def Keeps (style : Style) (rows : Fields → Prop) : Prop :=
  ∀ fields, rows fields → style.object (members fields) = .obj fields

mutual

/-- What a style makes of a value: it builds each object from the images of its members. -/
def image (style : Style) : Json → Json
  | .arr items => .arr (imageItems style items)
  | .obj fields => style.object (members (imageFields style fields))
  | other => other

def imageItems (style : Style) : List Json → List Json
  | [] => []
  | item :: rest => image style item :: imageItems style rest

def imageFields (style : Style) : Fields → Fields
  | [] => []
  | (name, value) :: rest => (name, image style value) :: imageFields style rest

end

theorem imageFields_eq_map (style : Style) (fields : Fields) :
    style.imageFields fields = fields.map fun field => (field.1, style.image field.2) := by
  induction fields with
  | nil => rfl
  | cons field rest ih => rw [imageFields, ih, List.map_cons]

section Image

variable {style : Style} {ints : Int → Prop} {rows : Fields → Prop}

mutual

theorem image_eq_self (keeps : style.Keeps rows) : ∀ v : Json, Written ints rows v → style.image v = v
  | .null, _ | .bool _, _ | .int _, _ | .str _, _ => by rw [image] <;> nofun
  | .float _, written => written.elim
  | .arr items, written => by rw [image, imageItems_eq_self keeps items written]
  | .obj fields, written => by rw [image, imageFields_eq_self keeps fields written.2, keeps fields written.1]

theorem imageItems_eq_self (keeps : style.Keeps rows) :
    ∀ items : List Json, WrittenItems ints rows items → style.imageItems items = items
  | [], _ => rfl
  | item :: rest, written => by
    rw [imageItems, image_eq_self keeps item written.1, imageItems_eq_self keeps rest written.2]

theorem imageFields_eq_self (keeps : style.Keeps rows) :
    ∀ fields : Fields, WrittenFields ints rows fields → style.imageFields fields = fields
  | [], _ => rfl
  | (name, value) :: rest, written => by
    rw [imageFields, image_eq_self keeps value written.1, imageFields_eq_self keeps rest written.2]

end

end Image

end Style

section Values

variable {ints : Int → Prop} {rows : Fields → Prop} {style : Style} {rest : List Char}

/-- A value starts with what is neither blank nor the end of a list. -/
structure Opens (c : Char) : Prop where
  solid : isBlank c = false
  item : c ≠ ']'

def StartsNumber (c : Char) : Prop := c = '-' ∨ c.isDigit = true

instance (c : Char) : Decidable (StartsNumber c) := inferInstanceAs (Decidable (_ ∨ _))

theorem StartsNumber.ne {c other : Char} (start : StartsNumber c) (no : ¬ StartsNumber other) :
    c ≠ other := by
  intro same
  exact no (same ▸ start)

theorem intChars_cons (n : Int) : ∃ c tail, intChars n = c :: tail ∧ StartsNumber c := by
  rw [intChars_eq]
  by_cases negative : n < 0
  · exact ⟨'-', natChars n.natAbs, by simp [signChars, negative], .inl rfl⟩
  · obtain ⟨c, tail, front⟩ := List.exists_cons_of_ne_nil (natChars_ne_nil n.natAbs)
    refine ⟨c, tail, by simp [signChars, negative, front], .inr (natChars_digit (n := n.natAbs) ?_)⟩
    exact front ▸ List.mem_cons_self

theorem StartsNumber.solid {c : Char} (start : StartsNumber c) : isBlank c = false := by
  have space : c ≠ ' ' := start.ne (by decide)
  have line : c ≠ '\n' := start.ne (by decide)
  have tab : c ≠ '\t' := start.ne (by decide)
  have back : c ≠ '\r' := start.ne (by decide)
  simp [isBlank, space, line, tab, back]

theorem opens_chars {v : Json} (written : Written ints rows v) :
    ∃ c tail, chars v = c :: tail ∧ Opens c := by
  cases v with
  | null => exact ⟨_, _, rfl, by decide, by decide⟩
  | bool b => cases b <;> exact ⟨_, _, rfl, by decide, by decide⟩
  | int n =>
    obtain ⟨c, tail, front, start⟩ := intChars_cons n
    exact ⟨c, tail, front, start.solid, start.ne (by decide)⟩
  | float x => exact written.elim
  | str s => exact ⟨_, _, rfl, by decide, by decide⟩
  | arr items => exact ⟨_, _, rfl, by decide, by decide⟩
  | obj fields => exact ⟨_, _, rfl, by decide, by decide⟩

theorem skipBlanks_of_opens {c : Char} {cs : List Char} (solid : isBlank c = false) :
    skipBlanks (c :: cs) = c :: cs := by
  rw [skipBlanks, List.dropWhile_cons_of_neg (by simp [solid])]

theorem readValue_number {c : Char} (start : StartsNumber c) (fuel : Nat) (cs : List Char) :
    readValue style (fuel + 1) (c :: cs) = style.number (c :: cs) := by
  have n : c ≠ 'n' := start.ne (by decide)
  have t : c ≠ 't' := start.ne (by decide)
  have f : c ≠ 'f' := start.ne (by decide)
  have quote : c ≠ '"' := start.ne (by decide)
  have bracket : c ≠ '[' := start.ne (by decide)
  have brace : c ≠ '\x7b' := start.ne (by decide)
  rw [readValue, skipBlanks_of_opens start.solid]
  split <;> simp_all

theorem readValue_list {c : Char} (opens : Opens c) (fuel : Nat) (cs : List Char) :
    readValue style (fuel + 1) ('[' :: c :: cs) =
      (readItems style fuel (c :: cs)).map fun (items, rest) => (.arr items, rest) := by
  have first : skipBlanks ('[' :: c :: cs) = '[' :: c :: cs := skipBlanks_of_opens rfl
  rw [readValue, first]
  simp only [skipBlanks_of_opens opens.solid]
  split
  · exact absurd (List.cons.inj ‹_›).1 opens.item
  · rfl

theorem readValue_object (fuel : Nat) (cs : List Char) :
    readValue style (fuel + 1) ('\x7b' :: '"' :: cs) =
      (readMembers style fuel ('"' :: cs)).map fun (members, rest) => (style.object members, rest) :=
  rfl

theorem opens_itemsChars {item : Json} (items : List Json) (written : Written ints rows item) :
    ∃ c tail, itemsChars (item :: items) = c :: tail ∧ Opens c := by
  obtain ⟨c, tail, front, opens⟩ := opens_chars written
  cases items with
  | nil => exact ⟨c, tail, by rw [itemsChars, front, List.append_nil], opens⟩
  | cons next items => exact ⟨c, _, by rw [itemsChars, front, List.cons_append], opens⟩

theorem ends_comma (cs : List Char) : Ends (',' :: cs) := by
  rintro c tail ⟨⟩
  exact .inl rfl

theorem ends_bracket (cs : List Char) : Ends (']' :: cs) := by
  rintro c tail ⟨⟩
  exact .inr (.inl rfl)

theorem ends_brace (cs : List Char) : Ends ('\x7d' :: cs) := by
  rintro c tail ⟨⟩
  exact .inr (.inr rfl)

-- By induction on the value. Fuel as long as the text is enough: each step into a part takes one, and the
-- bracket or the comma before the part is a character that the part does not have.
mutual

theorem readValue_chars (reads : style.Reads ints) :
    ∀ (v : Json) (fuel : Nat) (rest : List Char), Written ints rows v → (chars v).length < fuel →
      Ends rest → readValue style fuel (chars v ++ rest) = some (style.image v, rest)
  | _, 0, _, _, fuel, _ => absurd fuel (Nat.not_lt_zero _)
  | .null, _ + 1, _, _, _, _ => rfl
  | .bool true, _ + 1, _, _, _, _ => rfl
  | .bool false, _ + 1, _, _, _, _ => rfl
  | .int n, fuel + 1, rest, written, _, ends => by
    obtain ⟨c, tail, front, start⟩ := intChars_cons n
    have read := reads.number n written rest ends
    rw [chars]
    rw [front, List.cons_append] at read ⊢
    rw [readValue_number start, read, Style.image] <;> nofun
  | .float _, _ + 1, _, written, _, _ => written.elim
  | .str s, fuel + 1, rest, _, _, _ => by
    simp [chars, stringChars, readValue, skipBlanks, isBlank, reads.string, Style.image]
  | .arr [], _ + 1, rest, _, _, _ => rfl
  | .arr (item :: items), fuel + 1, rest, written, enough, _ => by
    have within : (itemsChars (item :: items)).length + 1 < fuel := by
      simp only [chars, List.cons_append, List.length_cons, List.length_append] at enough
      omega
    have read := readItems_chars reads (item :: items) fuel rest written (by simp) within
    obtain ⟨c, tail, front, opens⟩ := opens_itemsChars items written.1
    rw [front, List.cons_append] at read
    simp only [chars, front, List.cons_append, List.append_assoc, List.nil_append]
    rw [readValue_list opens, read]
    rfl
  | .obj [], _ + 1, rest, _, _, _ => by
    rw [Style.image, Style.imageFields, Style.members, List.map_nil, reads.empty]
    rfl
  | .obj (field :: fields), fuel + 1, rest, written, enough, _ => by
    have within : (fieldsChars (field :: fields)).length + 1 < fuel := by
      simp only [chars, List.cons_append, List.length_cons, List.length_append] at enough
      omega
    have read := readMembers_chars reads (field :: fields) fuel rest written.2 (by simp) within
    obtain ⟨tail, front⟩ : ∃ tail, fieldsChars (field :: fields) = '"' :: tail := ⟨_, rfl⟩
    rw [front, List.cons_append] at read
    simp only [chars, front, List.cons_append, List.append_assoc, List.nil_append]
    rw [readValue_object, read, Style.image]
    rfl

theorem readItems_chars (reads : style.Reads ints) :
    ∀ (items : List Json) (fuel : Nat) (rest : List Char), WrittenItems ints rows items → items ≠ [] →
      (itemsChars items).length + 1 < fuel →
      readItems style fuel (itemsChars items ++ ']' :: rest) = some (style.imageItems items, rest)
  | [], _, _, _, nonempty, _ => absurd rfl nonempty
  | _, 0, _, _, _, enough => absurd enough (Nat.not_lt_zero _)
  | [item], fuel + 1, rest, written, _, enough => by
    simp only [itemsChars, List.append_nil] at enough ⊢
    have read := readValue_chars reads item fuel (']' :: rest) written.1 (by omega) (ends_bracket rest)
    rw [readItems, read]
    rfl
  | item :: next :: items, fuel + 1, rest, written, _, enough => by
    rw [itemsChars] at enough ⊢
    simp only [List.length_append, List.length_cons, List.append_assoc, List.cons_append] at enough ⊢
    have head := readValue_chars reads item fuel (',' :: (itemsChars (next :: items) ++ ']' :: rest))
      written.1 (by omega) (ends_comma _)
    have tail := readItems_chars reads (next :: items) fuel rest written.2 (by simp) (by omega)
    rw [readItems, head]
    simp [skipBlanks, isBlank, tail, Style.imageItems]

theorem readMembers_chars (reads : style.Reads ints) :
    ∀ (fields : Fields) (fuel : Nat) (rest : List Char), WrittenFields ints rows fields → fields ≠ [] →
      (fieldsChars fields).length + 1 < fuel → readMembers style fuel (fieldsChars fields ++ '\x7d' :: rest) =
        some (Style.members (style.imageFields fields), rest)
  | [], _, _, _, nonempty, _ => absurd rfl nonempty
  | _, 0, _, _, _, enough => absurd enough (Nat.not_lt_zero _)
  | [(name, value)], fuel + 1, rest, written, _, enough => by
    simp only [fieldsChars, stringChars, List.append_nil, List.length_append, List.length_cons,
      List.append_assoc, List.cons_append, List.nil_append] at enough ⊢
    have read := readValue_chars reads value fuel ('\x7d' :: rest) written.1 (by omega) (ends_brace rest)
    rw [readMembers]
    simp [skipBlanks, isBlank, reads.string, read, Style.members, Style.imageFields]
  | (name, value) :: next :: fields, fuel + 1, rest, written, _, enough => by
    rw [fieldsChars] at enough ⊢
    simp only [stringChars, List.length_append, List.length_cons, List.append_assoc, List.cons_append,
      List.nil_append] at enough ⊢
    have head := readValue_chars reads value fuel (',' :: (fieldsChars (next :: fields) ++ '\x7d' :: rest))
      written.1 (by omega) (ends_comma _)
    have tail := readMembers_chars reads (next :: fields) fuel rest written.2 (by simp) (by omega)
    rw [readMembers]
    simp [skipBlanks, isBlank, reads.string, head, tail, Style.members, Style.imageFields]

end

theorem read?_image (reads : style.Reads ints) {v : Json} (written : Written ints rows v) :
    read? style v.text = some (style.image v) := by
  have ends : Ends [] := nofun
  have read := readValue_chars reads v (v.chars.length + 1) [] written (by omega) ends
  rw [List.append_nil] at read
  rw [read?, text, String.toList_ofList]
  simp only [read]
  rfl

theorem read?_text (reads : style.Reads ints) (keeps : style.Keeps rows) {v : Json}
    (written : Written ints rows v) : read? style v.text = some v := by
  rw [read?_image reads written, Style.image_eq_self keeps v written]

end Values

section Styles

theorem document_reads : Style.document.Reads IsWord where
  string s rest := by simp [Style.document, readString_flatMap, skipString_flatMap]
  number n word rest ends := by
    simp [Style.document, readNumber_intChars word ends, skipNumber_intChars n ends]
  empty := rfl

theorem document_keeps : Style.document.Keeps fun _ => True := by
  intro fields _
  have named : (Style.members fields).mapM
      (fun field : Option String × Json => field.1.map (·, field.2)) = some fields := by
    induction fields with
    | nil => rfl
    | cons field rest ih =>
      rw [Style.members, List.map_cons, List.mapM_cons, ← Style.members, ih]
      rfl
  simp only [Style.document, named]

theorem whole_reads : Style.whole.Reads IsWord where
  string s rest := by simp [Style.whole, readString_flatMap]
  number n word rest ends := readNumber_intChars word ends
  empty := rfl

/-- Reading a whole value puts the members of each object in order; the last one of a name stays. -/
theorem whole_object (fields : Fields) :
    Style.whole.object (Style.members fields) = .obj (Table.ofList fields).rows := by
  have named : (Style.members fields).filterMap
      (fun field : Option String × Json => field.1.map (·, field.2)) = fields := by
    rw [Style.members, List.filterMap_map]
    exact List.filterMap_some
  simp only [Style.whole, named, ofFields, Table.ofList, Table.rows_insertAll]
  rfl

theorem whole_keeps : Style.whole.Keeps Rows.Increasing := by
  intro fields increasing
  rw [whole_object]
  exact congrArg (fun table => obj table.rows) (Table.ofList_rows ⟨fields, increasing⟩)

/-- Integers of any size are read, which is more than the program's readers do. -/
def Style.wide : Style where
  string := Style.document.string
  number cs :=
    let (negative, cs) := match cs with
      | '-' :: rest => (true, rest)
      | _ => (false, cs)
    let (digits, rest) := splitDigits cs
    let n : Int := digitsValue digits
    some (.int (if negative then -n else n), rest)
  object := Style.document.object

theorem wide_reads : Style.wide.Reads fun _ => True where
  string := document_reads.string
  number n _ rest ends := by
    have whole := whole_natChars n.natAbs
    have parts := splitDigits_append whole.all ends
    rw [intChars_eq]
    rcases signChars_split whole (n < 0) with ⟨negative, form⟩ | ⟨negative, form, unsigned⟩
    · have value : -(n.natAbs : Int) = n := by
        have below := of_decide_eq_true negative
        omega
      rw [form]
      simp only [Style.wide, parts, digitsValue_natChars, ↓reduceIte, value]
    · have value : (n.natAbs : Int) = n := by
        have above := of_decide_eq_false negative
        omega
      rw [form]
      simp only [Style.wide, parts, digitsValue_natChars, Bool.false_eq_true, ↓reduceIte, value]
  empty := rfl

theorem eq_of_text {v w : Json} (hv : v.FloatFree) (hw : w.FloatFree) (same : v.text = w.text) : v = w := by
  have keeps : Style.wide.Keeps fun _ => True := document_keeps
  have back := read?_text wide_reads keeps hv
  rw [same, read?_text wide_reads keeps hw] at back
  exact (Option.some.inj back).symm

theorem document?_text {v : Json} (plain : v.Plain) : document? v.text = some v :=
  read?_text document_reads document_keeps (Written.mono (fun _ word => word) (fun _ _ => trivial) v plain)

theorem ofText?_text {v : Json} (plain : v.Plain) : ofText? v.text = some v :=
  read?_text whole_reads whole_keeps plain

section Whole

/-- The members of an object may be written in any order, and a name more than once. -/
theorem ofText?_image {v : Json} (written : Written IsWord (fun _ => True) v) :
    ofText? v.text = some (Style.whole.image v) :=
  read?_image whole_reads written

theorem image_of_plain {v : Json} (plain : v.Plain) : Style.whole.image v = v :=
  Style.image_eq_self whole_keeps v plain

theorem image_obj (fields : Fields) : Style.whole.image (.obj fields) =
    .obj (Table.ofList (fields.map fun field => (field.1, Style.whole.image field.2))).rows := by
  rw [Style.image, whole_object, Style.imageFields_eq_map]

theorem get?_image_obj (fields : Fields) (name : String) : (Style.whole.image (.obj fields)).get? name =
    (Rows.last? name fields).map Style.whole.image := by
  rw [image_obj]
  refine (Table.get?_ofList _ name).trans ?_
  rw [Rows.last?, Rows.last?, List.filter_map, List.map_map, ← List.getLast?_map, List.map_map]
  rfl

/-- The members of a record are read as they are named, in whatever order. -/
theorem get?_image_record {members : List Member} (distinct : (members.map Member.name).Nodup) {m : Member}
    (hm : m ∈ members) :
    (Style.whole.image (.record members)).get? m.name = m.value.map Style.whole.image := by
  rw [record, get?_image_obj]
  show (Record.occurrences (Member.rows members) m.name).getLast?.map _ = _
  rw [Record.occurrences_of_mem distinct hm]
  cases m.value <;> rfl

theorem image_record_eq_obj (members : List Member) : ∃ fields,
    Style.whole.image (.record members) = .obj fields ∧ Rows.Increasing fields ∧
      ∀ field ∈ fields, field.1 ∈ members.map Member.name := by
  refine ⟨_, image_obj _, Table.increasing _, fun field listed => ?_⟩
  have last := (Table.get?_eq_some_iff _ _ _).mpr listed
  rw [Table.get?_ofList] at last
  obtain ⟨row, written, same⟩ := List.mem_map.mp (Rows.mem_of_last? last)
  obtain ⟨m, hm, named, _⟩ := Member.mem_rows written
  exact List.mem_map.mpr ⟨m, hm, named.trans (Prod.mk.inj same).1⟩

end Whole

end Styles

end Json

end JupyterWorkloads
