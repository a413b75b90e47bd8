import Workflow.Proofs.Value.Portable
import Workflow.Proofs.Value.ReadDouble

/-!
# JSON texts are read back

A value is read back from the text that is written of it, in every faithful style, if JSON carries it
without loss and it is nested no deeper than is written and read.
-/

namespace Workflow

-- Powers are those of the core library, whatever else is imported.
attribute [local instance(high)] instPowNat

namespace Json

/-! ## Values -/

/-- A text begins as values do: not with a blank, nor as arrays end. -/
inductive BeginsValue : List Char → Prop where
  | cons {c : Char} {rest : List Char} (no_space : isSpace c = false) (no_end : c ≠ ']')
      (no_mark : c ≠ '\ufeff') : BeginsValue (c :: rest)

/-- A text is read as a value, whatever follows that does not go on with it, where so many arrays and
objects may stand inside one another. -/
structure Denotes (depth : Nat) (chars : List Char) (value : Value) : Prop where
  begins : BeginsValue chars
  read {fuel : Nat} {left : List Char} (enough : 2 * chars.length ≤ fuel) (ends : EndsNumber left) :
    readValue .values depth fuel (chars ++ left) = .ok (value, left)

/-- Parts that are set apart begin as the first does. -/
theorem exists_intercalate_cons (separator : List Char) (c : Char) (part : List Char)
    (parts : List (List Char)) :
    ∃ rest, separator.intercalate ((c :: part) :: parts) = c :: rest := by
  cases parts with
  | nil => exact ⟨part, List.intercalate_singleton⟩
  | cons next parts =>
      rw [List.intercalate_cons_cons, List.append_assoc]
      exact ⟨_, rfl⟩

namespace BeginsValue

theorem append {chars : List Char} (begins : BeginsValue chars) (left : List Char) :
    BeginsValue (chars ++ left) := by
  obtain ⟨no_space, no_end, no_mark⟩ := begins
  exact .cons no_space no_end no_mark

theorem skip_eq {chars : List Char} (begins : BeginsValue chars) : skip chars = chars := by
  obtain ⟨no_space, -, -⟩ := begins
  simp [skip, no_space]

theorem intercalate {part : List Char} (begins : BeginsValue part) (separator : List Char)
    (parts : List (List Char)) : BeginsValue (separator.intercalate (part :: parts)) := by
  obtain @⟨c, part, no_space, no_end, no_mark⟩ := begins
  obtain ⟨rest, parts_eq⟩ := exists_intercalate_cons separator c part parts
  rw [parts_eq]
  exact .cons no_space no_end no_mark

end BeginsValue

/-- A separator: its sign, and only blanks behind. -/
def IsSeparator (sign : Char) (separator : List Char) : Prop :=
  ∃ blanks, separator = sign :: blanks ∧ ∀ c ∈ blanks, isSpace c = true

/-- A style keeps what it writes: only blanks stand behind commas and colons, and a double is laid out
as a number that is read as it. -/
structure Style.IsFaithful (style : Style) : Prop where
  item : IsSeparator ',' style.item.toList
  field : IsSeparator ':' style.field.toList
  begins {x : Number.Double} (finite : x.isFinite = true) (left : List Char) :
    BeginsNumber ((style.double x).toList ++ left)
  read {x : Number.Double} (finite : x.isFinite = true) {left : List Char} (ends : EndsNumber left) :
    readNumber .values ((style.double x).toList ++ left) = .ok (.float x, left)

theorem isFaithful_spaced : spaced.IsFaithful where
  item := ⟨[' '], rfl, List.forall_mem_singleton.2 rfl⟩
  field := ⟨[' '], rfl, List.forall_mem_singleton.2 rfl⟩
  begins := beginsNumber_writeDouble
  read := readNumber_writeDouble

theorem isFaithful_compact : compact.IsFaithful where
  item := ⟨[], rfl, nofun⟩
  field := ⟨[], rfl, nofun⟩
  begins := beginsNumber_writeDouble
  read := readNumber_writeDouble

theorem isFaithful_plain : plain.IsFaithful where
  item := ⟨[], rfl, nofun⟩
  field := ⟨[], rfl, nofun⟩
  begins := beginsNumber_writeDouble
  read := readNumber_writeDouble

theorem skip_blanks {blanks chars : List Char} (blank : ∀ c ∈ blanks, isSpace c = true)
    (begins : BeginsValue chars) : skip (blanks ++ chars) = chars := by
  rw [skip, List.dropWhile_append_of_pos blank]
  exact begins.skip_eq

/-- A loop that reads one part after another reads the parts of a list, set apart by commas: it does
so when it takes a part together with the comma behind it, and ends with a last part. -/
theorem loop_intercalate {α β : Type} {loop : Nat → α → List Char → Except Failure (Value × List Char)}
    {IsPart : List Char → β → Prop} {add : α → β → α} {finish : α → Value} {close : Char}
    {separator : List Char} (comma : IsSeparator ',' separator)
    (begins : ∀ {part item}, IsPart part item → BeginsValue part)
    (goes_on : ∀ {part item}, IsPart part item → ∀ {fuel}, 2 * part.length ≤ fuel →
      ∀ before left, loop (fuel + 1) before (part ++ ',' :: left) =
        loop fuel (add before item) (skip left))
    (ends : ∀ {part item}, IsPart part item → ∀ {fuel}, 2 * part.length ≤ fuel →
      ∀ before left, loop (fuel + 1) before (part ++ close :: left) =
        .ok (finish (add before item), left))
    {part : List Char} {item : β} (first : IsPart part item) {parts : List (List Char)}
    {items : List β} (later : List.Forall₂ IsPart parts items) {fuel : Nat}
    (enough : 2 * (separator.intercalate (part :: parts)).length < fuel) (before : α)
    (left : List Char) :
    loop fuel before (separator.intercalate (part :: parts) ++ close :: left) =
      .ok (finish (items.foldl add (add before item)), left) := by
  obtain ⟨blanks, rfl, blank⟩ := comma
  -- The comma behind a part pays for the fuel that the loop itself takes.
  induction later generalizing part item fuel before with
  | nil =>
      obtain ⟨fuel, rfl⟩ := Nat.exists_eq_add_one_of_ne_zero (Nat.ne_zero_of_lt enough)
      rw [List.intercalate_singleton] at enough ⊢
      exact ends first (Nat.lt_succ_iff.1 enough) before left
  | @cons next nextItem parts items second later ih =>
      obtain ⟨fuel, rfl⟩ := Nat.exists_eq_add_one_of_ne_zero (Nat.ne_zero_of_lt enough)
      have follows := ((begins second).intercalate (',' :: blanks) parts).append (close :: left)
      rw [List.intercalate_cons_cons] at enough ⊢
      simp only [List.length_append, List.length_cons] at enough
      simp only [List.append_assoc, List.cons_append]
      rw [goes_on first (by omega), skip_blanks blank follows]
      exact ih second _ (by omega)

theorem endsNumber_cons {c : Char} {left : List Char} (sign : c ∈ [',', ']', '\x7d']) :
    EndsNumber (c :: left) := by
  intro d member
  obtain rfl := Option.some.inj member
  revert sign
  simp only [List.mem_cons, List.not_mem_nil, or_false]
  rintro (rfl | rfl | rfl) <;> decide

section

variable {separator : List Char} {depth : Nat}

/-- The items of an array are read, after those already read. -/
theorem readItems_intercalate (comma : IsSeparator ',' separator) {part : List Char}
    {parts : List (List Char)} {item : Value} {items : List Value}
    (denote : List.Forall₂ (Denotes depth) (part :: parts) (item :: items)) {fuel : Nat}
    (enough : 2 * (separator.intercalate (part :: parts)).length < fuel) (left : List Char) :
    readItems .values depth fuel [] (separator.intercalate (part :: parts) ++ ']' :: left) =
      .ok (.arr (item :: items), left) := by
  obtain ⟨first, later⟩ := List.forall₂_cons.1 denote
  have read := @loop_intercalate (List Value) Value (readItems .values depth) (Denotes depth)
    (fun before item => item :: before) (fun items => .arr items.reverse) ']' separator comma
    Denotes.begins ?_ ?_ part item first parts items later fuel enough [] left
  · rw [read]
    simp
  all_goals
    intro part item denotes fuel enough before left
    rw [readItems, denotes.read enough (endsNumber_cons (by decide)), Outcome.ok_bind]
    rfl

/-- Behind an opening bracket, the items of an array are read. -/
theorem readValue_bracket {chars : List Char} (begins : BeginsValue chars) (fuel : Nat) :
    readValue .values (depth + 1) (fuel + 1) ('[' :: chars) =
      readItems .values depth fuel [] chars := by
  rw [readValue]
  simp only [Nat.succ_ne_zero, if_false, Nat.add_sub_cancel, begins.skip_eq]
  obtain ⟨-, no_end, -⟩ := begins
  split
  · rename_i same
    exact absurd (List.cons.inj same).1 no_end
  · rfl

/-- An array is read whose items are. -/
theorem denotes_arr (comma : IsSeparator ',' separator) {parts : List (List Char)}
    {items : List Value} (denote : List.Forall₂ (Denotes depth) parts items) :
    Denotes (depth + 1) ('[' :: separator.intercalate parts ++ [']']) (.arr items) := by
  refine ⟨.cons rfl (by decide) (by decide), fun {fuel left} enough ends => ?_⟩
  simp only [List.length_cons, List.length_append, List.cons_append] at enough
  obtain ⟨fuel, rfl⟩ := Nat.exists_eq_add_of_le' (by omega : 1 ≤ fuel)
  rw [List.append_assoc, List.cons_append, List.singleton_append]
  cases denote with
  | nil => rfl
  | @cons part item parts items first later =>
      rw [readValue_bracket ((first.begins.intercalate separator parts).append _)]
      exact readItems_intercalate comma (.cons first later) (by omega) left

/-- A text denotes a field: its name, a colon and its value. -/
inductive DenotesField (colon : List Char) (depth : Nat) : List Char → Name × Value → Prop where
  | intro (style : Style) (name : String) {part : List Char} {value : Value}
      (denotes : Denotes depth part value) :
      DenotesField colon depth
        ('"' :: (name.toList.flatMap (escapeChar style) ++ '"' :: (colon ++ part)))
        (.text name, value)

/-- The fields of an object are read, after those already read. -/
theorem readMembers_intercalate (comma : IsSeparator ',' separator) {colon : List Char}
    (is_colon : IsSeparator ':' colon) {part : List Char} {parts : List (List Char)}
    {field : Name × Value} {fields : Object}
    (denote : List.Forall₂ (DenotesField colon depth) (part :: parts) (field :: fields)) {fuel : Nat}
    (enough : 2 * (separator.intercalate (part :: parts)).length < fuel) (left : List Char) :
    readMembers .values depth fuel [] (separator.intercalate (part :: parts) ++ '\x7d' :: left) =
      .ok (.obj (Object.ofFields (field :: fields)), left) := by
  obtain ⟨first, later⟩ := List.forall₂_cons.1 denote
  obtain ⟨blanks, rfl, blank⟩ := is_colon
  refine @loop_intercalate Object (Name × Value) (readMembers .values depth)
    (DenotesField (':' :: blanks) depth) (fun before field => Object.set before field.1 field.2) .obj
    '\x7d' separator comma ?_ ?_ ?_ part field first parts fields later fuel enough [] left
  · rintro _ _ ⟨style, name, denotes⟩
    exact .cons rfl (by decide) (by decide)
  all_goals
    rintro _ _ @⟨style, name, text, value, denotes⟩ fuel enough before left
    have fits : 2 * text.length ≤ fuel := by
      simp only [List.length_append, List.length_cons] at enough
      omega
    have no_blank (chars : List Char) : skip (':' :: chars) = ':' :: chars := rfl
    simp only [List.append_assoc, List.cons_append]
    rw [readMembers, readString_escaped, Outcome.ok_bind]
    simp only [no_blank]
    rw [skip_blanks blank (denotes.begins.append _),
      denotes.read fits (endsNumber_cons (by decide)), Outcome.ok_bind]
    rfl

/-- Behind an opening brace and a quote, the fields of an object are read. -/
theorem readValue_brace (chars : List Char) (fuel : Nat) :
    readValue .values (depth + 1) (fuel + 1) ('\x7b' :: '"' :: chars) =
      readMembers .values depth fuel [] ('"' :: chars) :=
  rfl

/-- An object is read whose fields are, each of its names being single. -/
theorem denotes_obj (comma : IsSeparator ',' separator) {colon : List Char}
    (is_colon : IsSeparator ':' colon) {parts : List (List Char)} {fields : Object}
    (single : (Object.identities fields).Nodup)
    (denote : List.Forall₂ (DenotesField colon depth) parts fields) :
    Denotes (depth + 1) ('\x7b' :: separator.intercalate parts ++ ['\x7d']) (.obj fields) := by
  refine ⟨.cons rfl (by decide) (by decide), fun {fuel left} enough ends => ?_⟩
  simp only [List.length_cons, List.length_append, List.cons_append] at enough
  obtain ⟨fuel, rfl⟩ := Nat.exists_eq_add_of_le' (by omega : 1 ≤ fuel)
  rw [List.append_assoc, List.cons_append, List.singleton_append]
  cases denote with
  | nil => rfl
  | @cons part field parts fields first later =>
      have read := @readMembers_intercalate separator depth comma colon is_colon part parts field
        fields (.cons first later) fuel (by omega) left
      rw [Object.ofFields_of_nodup single] at read
      obtain ⟨style, name, denotes⟩ := first
      obtain ⟨chars, chars_eq⟩ := exists_intercalate_cons separator '"' _ parts
      rw [chars_eq] at read ⊢
      exact (readValue_brace _ fuel).trans read

end

/-! ## Writing and reading -/

/-- The text of a scalar is read in one step. -/
theorem denotes_of_readValue {depth : Nat} {chars : List Char} {value : Value}
    (begins : BeginsValue chars)
    (read : ∀ fuel {left}, EndsNumber left →
      readValue .values depth (fuel + 1) (chars ++ left) = .ok (value, left)) :
    Denotes depth chars value := by
  refine ⟨begins, fun {fuel left} enough ends => ?_⟩
  obtain ⟨fuel, rfl⟩ : ∃ more, fuel = more + 1 := by
    cases begins
    exact Nat.exists_eq_add_of_le' (by simp only [List.length_cons] at enough; omega)
  exact read fuel ends

variable {style : Style} {depth writing reading : Nat}

theorem BeginsNumber.beginsValue {chars : List Char} (begins : BeginsNumber chars) :
    BeginsValue chars := by
  cases begins with
  | minus => exact .cons rfl (by decide) (by decide)
  | @digit c rest digit =>
      have no_space : isSpace c = false := by
        rw [isSpace]
        by_contra space
        simp only [Bool.not_eq_false, Bool.or_eq_true, decide_eq_true_eq] at space
        rcases space with ((rfl | rfl) | rfl) | rfl <;> cases digit
      refine .cons no_space ?_ ?_ <;> (rintro rfl; cases digit)

theorem denotes_int {number : Int} (short : Number.tooLong number = false) :
    Denotes depth (Number.intText number).toList (.int number) := by
  have begins := beginsNumber_intText number
  have here := (begins []).beginsValue
  rw [List.append_nil] at here
  refine denotes_of_readValue here fun fuel left ends => ?_
  rw [readValue_of_beginsNumber (begins left), readNumber_intText short ends]

theorem denotes_float (faithful : style.IsFaithful) {number : Number.Double}
    (finite : number.isFinite = true) : Denotes depth (style.double number).toList (.float number) := by
  have here := (faithful.begins finite []).beginsValue
  rw [List.append_nil] at here
  refine denotes_of_readValue here fun fuel left ends => ?_
  rw [readValue_of_beginsNumber (faithful.begins finite left), faithful.read finite ends]

theorem toList_writeString (style : Style) (text : String) :
    (writeString style text).toList = '"' :: (text.toList.flatMap (escapeChar style) ++ ['"']) := by
  rw [writeString, String.toList_ofList]
  rfl

theorem denotes_str (style : Style) (text : String) :
    Denotes depth (writeString style text).toList (.str text) := by
  rw [toList_writeString]
  refine denotes_of_readValue (.cons rfl (by decide) (by decide)) fun fuel left ends => ?_
  rw [List.cons_append, List.append_assoc, List.singleton_append, readValue, readString_escaped]
  rfl

theorem denotes_null : Denotes depth "null".toList .null :=
  denotes_of_readValue (.cons rfl (by decide) (by decide)) fun _ _ _ => rfl

theorem denotes_bool (flag : Bool) :
    Denotes depth (if flag then "true" else "false").toList (.bool flag) := by
  cases flag <;> exact
    denotes_of_readValue (.cons rfl (by decide) (by decide)) fun _ _ _ => rfl

/-- The items of an array are written when each of them is. -/
theorem exists_writeItems {items : List Value}
    (each : ∀ item ∈ items, ∃ text, writeWith style writing item = .ok text ∧
      Denotes reading text.toList item) :
    ∃ texts, writeItems style writing items = .ok texts ∧
      List.Forall₂ (Denotes reading) (texts.map String.toList) items := by
  induction items with
  | nil => exact ⟨[], rfl, .nil⟩
  | cons item rest ih =>
      obtain ⟨⟨text, written, denotes⟩, others⟩ := List.forall_mem_cons.1 each
      obtain ⟨texts, all_written, denote⟩ := ih others
      refine ⟨text :: texts, ?_, .cons denotes denote⟩
      rw [writeItems, written, all_written]
      rfl

/-- The fields of an object are written when the value of each is, and its names are texts. -/
theorem exists_writeFields {fields : Object}
    (named : ∀ name ∈ Object.names fields, ∃ text, name = .text text)
    (each : ∀ field ∈ fields, ∃ text, writeWith style writing field.2 = .ok text ∧
      Denotes reading text.toList field.2) :
    ∃ texts, writeFields style writing fields = .ok texts ∧
      List.Forall₂ (DenotesField style.field.toList reading) (texts.map String.toList) fields := by
  induction fields with
  | nil => exact ⟨[], rfl, .nil⟩
  | cons field rest ih =>
      obtain ⟨name, value⟩ := field
      obtain ⟨⟨text, written, denotes⟩, others⟩ := List.forall_mem_cons.1 each
      obtain ⟨⟨word, rfl⟩, others_named⟩ := List.forall_mem_cons.1 named
      obtain ⟨texts, all_written, denote⟩ := ih others_named others
      refine ⟨(writeString style word ++ style.field ++ text) :: texts, ?_, .cons ?_ denote⟩
      · rw [writeFields, written, all_written]
        rfl
      · rw [String.toList_append, String.toList_append, toList_writeString, List.append_assoc,
          List.cons_append, List.append_assoc, List.singleton_append]
        exact .intro style word denotes

/-- A value that JSON carries is written, and its text denotes it. -/
theorem exists_writeWith (faithful : style.IsFaithful) {value : Value} (portable : value.IsPortable)
    (written_low : value.nesting ≤ writing) (read_low : value.nesting ≤ reading) :
    ∃ text, writeWith style writing value = .ok text ∧ Denotes reading text.toList value := by
  induction portable generalizing writing reading with
  | null => exact ⟨_, rfl, denotes_null⟩
  | bool flag => exact ⟨_, rfl, denotes_bool flag⟩
  | @int number short =>
      refine ⟨Number.intText number, ?_, denotes_int short⟩
      rw [writeWith, Value.integerText, short]
      rfl
  | float finite => exact ⟨_, rfl, denotes_float faithful finite⟩
  | str text => exact ⟨_, rfl, denotes_str style text⟩
  | @arr items _ ih =>
      rw [Value.nesting, Nat.add_comm] at written_low read_low
      obtain ⟨writing, rfl⟩ := Nat.exists_eq_add_one_of_ne_zero (Nat.ne_zero_of_lt written_low)
      obtain ⟨reading, rfl⟩ := Nat.exists_eq_add_one_of_ne_zero (Nat.ne_zero_of_lt read_low)
      have items_written := Value.itemsNesting_le_iff.1 (Nat.le_of_succ_le_succ written_low)
      have items_read := Value.itemsNesting_le_iff.1 (Nat.le_of_succ_le_succ read_low)
      obtain ⟨texts, written, denote⟩ := exists_writeItems fun item member =>
        ih item member (items_written item member) (items_read item member)
      refine ⟨"[" ++ style.item.intercalate texts ++ "]", ?_, ?_⟩
      · rw [writeWith, if_neg (Nat.succ_ne_zero writing), Nat.add_sub_cancel, written]
        rfl
      · rw [String.toList_append, String.toList_append, String.toList_intercalate]
        exact denotes_arr faithful.item denote
  | @obj fields named _ ih =>
      obtain ⟨are_texts, single⟩ := Name.areTexts_iff.1 named
      rw [Object.names, List.map_map] at single
      rw [Value.nesting, Nat.add_comm] at written_low read_low
      obtain ⟨writing, rfl⟩ := Nat.exists_eq_add_one_of_ne_zero (Nat.ne_zero_of_lt written_low)
      obtain ⟨reading, rfl⟩ := Nat.exists_eq_add_one_of_ne_zero (Nat.ne_zero_of_lt read_low)
      have fields_written := Value.fieldsNesting_le_iff.1 (Nat.le_of_succ_le_succ written_low)
      have fields_read := Value.fieldsNesting_le_iff.1 (Nat.le_of_succ_le_succ read_low)
      obtain ⟨texts, written, denote⟩ := exists_writeFields are_texts fun field member =>
        ih field member (fields_written field member) (fields_read field member)
      refine ⟨"\x7b" ++ style.item.intercalate texts ++ "\x7d", ?_, ?_⟩
      · rw [writeWith, if_neg (Nat.succ_ne_zero writing), Nat.add_sub_cancel, written]
        rfl
      · rw [String.toList_append, String.toList_append, String.toList_intercalate]
        exact denotes_obj faithful.item faithful.field single denote

/-- A text that denotes a value is read as the value. -/
theorem readChars_of_denotes {chars : List Char} {value : Value}
    (denotes : Denotes depth chars value) : readChars .values depth chars = .ok value := by
  have read := denotes.read (Nat.le_add_right _ 2) (show EndsNumber [] from nofun)
  rw [List.append_nil] at read
  have no_mark : chars.head? ≠ some '\ufeff' := by
    cases denotes.begins with
    | cons _ _ no_mark => exact fun same => no_mark (Option.some.inj same)
  rw [readChars, if_neg no_mark, denotes.begins.skip_eq, read]
  rfl

/-- A value that JSON carries is read back from its text, in every faithful style, where there is room
enough to write it and to read it. -/
theorem exists_read_eq (faithful : style.IsFaithful) {value : Value} (portable : value.IsPortable)
    (written_low : value.nesting ≤ writing) (read_low : value.nesting ≤ reading) :
    ∃ text, writeWith style writing value = .ok text ∧ read text reading = .ok value := by
  obtain ⟨text, written, denotes⟩ := exists_writeWith faithful portable written_low read_low
  refine ⟨text, written, ?_⟩
  rw [read, readWith, readChars_of_denotes denotes]
  rfl

/-- So whatever text such a value has is read as the value. -/
theorem read_of_writeWith (faithful : style.IsFaithful) {value : Value} (portable : value.IsPortable)
    (written_low : value.nesting ≤ writing) (read_low : value.nesting ≤ reading) {text : String}
    (written : writeWith style writing value = .ok text) : read text reading = .ok value := by
  obtain ⟨other, same, read⟩ := exists_read_eq faithful portable written_low read_low
  rwa [Except.ok.inj (written.symm.trans same)]

end Json

end Workflow
