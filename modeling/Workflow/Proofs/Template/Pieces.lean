import Mathlib.Data.List.TakeWhile
import Workflow.Template.Basic

/-!
# Pieces of templates

A list of pieces is settled when it is what its own characters are read as: the contents of its
slots are nonempty runs without braces, and no slot begins at one of its plain characters.  Reading
yields settled pieces, and settled pieces stay settled when the contents of slots are replaced by
other such runs.
-/

namespace Workflow.Template

open Text (isBlank)

/-- The characters of a list of pieces. -/
def charsOf (pieces : List Piece) : List Char := pieces.flatMap Piece.chars

@[simp]
theorem charsOf_nil : charsOf [] = [] :=
  rfl

@[simp]
theorem charsOf_char (c : Char) (rest : List Piece) : charsOf (.char c :: rest) = c :: charsOf rest :=
  rfl

@[simp]
theorem charsOf_slot (content : List Char) (rest : List Piece) :
    charsOf (.slot content :: rest) = '{' :: '{' :: (content ++ '}' :: '}' :: charsOf rest) := by
  simp [charsOf, Piece.chars]

/-- A nonempty run without braces. -/
def IsContent (content : List Char) : Prop := content ≠ [] ∧ ∀ c ∈ content, isBrace c = false

/-- A slot is read exactly where a content stands before two closing braces. -/
theorem slot?_eq_some_iff {chars content left : List Char} :
    slot? chars = some (content, left) ↔
      IsContent content ∧ chars = content ++ '}' :: '}' :: left := by
  constructor
  · intro read
    refine ⟨?_, slot?_chars read⟩
    unfold slot? at read
    split at read
    · rename_i c run rest run_eq _
      obtain ⟨rfl, rfl⟩ := Prod.mk.inj (Option.some.inj read)
      refine ⟨List.cons_ne_nil c run, ?_⟩
      intro d member
      rw [← run_eq] at member
      simpa using List.mem_takeWhile_imp member
    · cases read
  · rintro ⟨⟨nonempty, free⟩, rfl⟩
    have run : (content ++ '}' :: '}' :: left).takeWhile (!isBrace ·) = content := by
      rw [List.takeWhile_append_of_pos (by simpa using free)]
      simp [isBrace]
    have rest : (content ++ '}' :: '}' :: left).dropWhile (!isBrace ·) = '}' :: '}' :: left := by
      rw [List.dropWhile_append_of_pos (by simpa using free)]
      simp [isBrace]
    unfold slot?
    rw [run, rest]
    cases content with
    | nil => exact absurd rfl nonempty
    | cons c run => rfl

/-! ## Reading one piece after the other -/

@[simp]
theorem scan_nil : scan [] = [] := by
  rw [scan]

theorem scan_slot {content : List Char} (clean : IsContent content) (left : List Char) :
    scan ('{' :: '{' :: (content ++ '}' :: '}' :: left)) = .slot content :: scan left := by
  have read : slot? (content ++ '}' :: '}' :: left) = some (content, left) :=
    slot?_eq_some_iff.2 ⟨clean, rfl⟩
  rw [scan]
  split
  · rename_i other rest found
    rw [read] at found
    obtain ⟨rfl, rfl⟩ := Prod.mk.inj (Option.some.inj found)
    rfl
  · rename_i found
    rw [read] at found
    cases found

/-- Whether a slot begins with the first character. -/
def beginsSlot : List Char → Bool
  | '{' :: '{' :: rest => (slot? rest).isSome
  | _ => false

theorem scan_cons {c : Char} {rest : List Char} (plain : beginsSlot (c :: rest) = false) :
    scan (c :: rest) = .char c :: scan rest := by
  rw [scan.eq_def]
  split
  · rename_i same
    cases same
  · rename_i tail same
    obtain ⟨rfl, rfl⟩ := List.cons.inj same
    split
    · rename_i content left found
      simp [beginsSlot, found] at plain
    · rfl
  · rename_i same
    obtain ⟨rfl, rfl⟩ := List.cons.inj same
    rfl

/-- Plain characters that are no opening braces are read one by one. -/
theorem scan_append {front : List Char} (plain : '{' ∉ front) (rest : List Char) :
    scan (front ++ rest) = front.map .char ++ scan rest := by
  induction front with
  | nil => rfl
  | cons c front ih =>
      simp only [List.mem_cons, not_or] at plain
      have here : beginsSlot (c :: (front ++ rest)) = false := by
        unfold beginsSlot
        split
        · rename_i same
          exact absurd (List.cons.inj same).1.symm plain.1
        · rfl
      rw [List.cons_append, scan_cons here, ih plain.2]
      rfl

theorem scan_of_plain {chars : List Char} (plain : '{' ∉ chars) : scan chars = chars.map .char := by
  simpa using scan_append plain []

/-! ## Settled pieces -/

/-- The contents of slots are contents, and no slot begins at a plain character. -/
def Settled : List Piece → Prop
  | [] => True
  | .char c :: rest => beginsSlot (c :: charsOf rest) = false ∧ Settled rest
  | .slot content :: rest => IsContent content ∧ Settled rest

theorem settled_scan (chars : List Char) : Settled (scan chars) := by
  fun_induction scan chars with
  | case1 => trivial
  | case2 rest content left found _ ih => exact ⟨(slot?_eq_some_iff.1 found).1, ih⟩
  | case3 rest found ih =>
      have same : charsOf (scan ('{' :: rest)) = '{' :: rest := flatMap_chars_scan ('{' :: rest)
      exact ⟨by rw [same]; simp [beginsSlot, found], ih⟩
  | case4 c rest plain ih =>
      have same : charsOf (scan rest) = rest := flatMap_chars_scan rest
      refine ⟨?_, ih⟩
      rw [same]
      unfold beginsSlot
      split
      · rename_i tail equal
        obtain ⟨rfl, rfl⟩ := List.cons.inj equal
        exact absurd rfl (plain _ rfl)
      · rfl

/-- Settled pieces are what their characters are read as. -/
theorem Settled.scan_charsOf {pieces : List Piece} (settled : Settled pieces) :
    scan (charsOf pieces) = pieces := by
  induction pieces with
  | nil => exact scan_nil
  | cons piece rest ih =>
      cases piece with
      | char c =>
          obtain ⟨plain, settledRest⟩ := settled
          rw [charsOf_char, scan_cons plain, ih settledRest]
      | slot content =>
          obtain ⟨clean, settledRest⟩ := settled
          rw [charsOf_slot, scan_slot clean, ih settledRest]

theorem Settled.isContent {pieces : List Piece} (settled : Settled pieces) {content : List Char}
    (member : .slot content ∈ pieces) : IsContent content := by
  induction pieces with
  | nil => cases member
  | cons piece rest ih =>
      rcases List.mem_cons.1 member with rfl | later
      · exact settled.1
      · cases piece <;> exact ih settled.2 later

/-! ## Replacing contents -/

/-- A piece with the content of its slot replaced. -/
def Piece.replace (change : List Char → List Char) : Piece → Piece
  | .char c => .char c
  | .slot content => .slot (change content)

/-- Whether a run without braces, which may be empty, stands before two closing braces. -/
def closesSlot (chars : List Char) : Bool :=
  match chars.dropWhile (!isBrace ·) with
  | '}' :: '}' :: _ => true
  | _ => false

theorem isSome_slot?_cons (c : Char) (rest : List Char) :
    (slot? (c :: rest)).isSome = (!isBrace c && closesSlot rest) := by
  unfold slot? closesSlot
  cases brace : isBrace c with
  | true => simp [brace]
  | false =>
      simp only [List.takeWhile_cons, List.dropWhile_cons, brace, Bool.not_false, if_true,
        Bool.true_and]
      split <;> split <;> simp_all

theorem closesSlot_cons (c : Char) (rest : List Char) :
    closesSlot (c :: rest) =
      if isBrace c then c == '}' && rest.head? == some '}' else closesSlot rest := by
  cases brace : isBrace c with
  | false => simp [closesSlot, brace]
  | true =>
      simp only [closesSlot, List.dropWhile_cons, brace, Bool.not_true, Bool.false_eq_true, if_false,
        if_true]
      cases rest with
      | nil => simp
      | cons d tail => by_cases first : c = '}' <;> by_cases second : d = '}' <;> simp [first, second]

section Replace

variable (change : List Char → List Char)

theorem head?_charsOf_replace (pieces : List Piece) :
    (charsOf (pieces.map (Piece.replace change))).head? = (charsOf pieces).head? := by
  cases pieces with
  | nil => rfl
  | cons piece rest => cases piece <;> simp [Piece.replace]

theorem closesSlot_charsOf_replace (pieces : List Piece) :
    closesSlot (charsOf (pieces.map (Piece.replace change))) = closesSlot (charsOf pieces) := by
  induction pieces with
  | nil => rfl
  | cons piece rest ih =>
      cases piece with
      | char c =>
          simp only [List.map_cons, Piece.replace, charsOf_char, closesSlot_cons, ih,
            head?_charsOf_replace]
      | slot content => simp [Piece.replace, closesSlot_cons, isBrace]

theorem isSome_slot?_charsOf_replace (pieces : List Piece) :
    (slot? (charsOf (pieces.map (Piece.replace change)))).isSome =
      (slot? (charsOf pieces)).isSome := by
  cases pieces with
  | nil => rfl
  | cons piece rest =>
      cases piece with
      | char c =>
          simp only [List.map_cons, Piece.replace, charsOf_char, isSome_slot?_cons,
            closesSlot_charsOf_replace]
      | slot content => simp [Piece.replace, isSome_slot?_cons, isBrace]

/-- What a slot holds does not matter to whether a slot begins before it. -/
theorem beginsSlot_charsOf_replace (c : Char) (pieces : List Piece) :
    beginsSlot (c :: charsOf (pieces.map (Piece.replace change))) =
      beginsSlot (c :: charsOf pieces) := by
  by_cases opening : c = '{'
  · subst opening
    cases pieces with
    | nil => rfl
    | cons piece rest =>
        cases piece with
        | char d =>
            by_cases second : d = '{'
            · subst second
              exact isSome_slot?_charsOf_replace change rest
            · simp [Piece.replace, beginsSlot, second]
        | slot content => simp [Piece.replace, beginsSlot, isSome_slot?_cons, isBrace]
  · simp [beginsSlot, opening]

/-- Pieces stay settled when contents are replaced by contents. -/
theorem Settled.replace {pieces : List Piece}
    (settled : Settled pieces)
    (clean : ∀ content, .slot content ∈ pieces → IsContent (change content)) :
    Settled (pieces.map (Piece.replace change)) := by
  induction pieces with
  | nil => trivial
  | cons piece rest ih =>
      have cleanRest : ∀ content, .slot content ∈ rest → IsContent (change content) :=
        fun content member => clean content (List.mem_cons_of_mem _ member)
      cases piece with
      | char c =>
          refine ⟨?_, ih settled.2 cleanRest⟩
          rw [beginsSlot_charsOf_replace]
          exact settled.1
      | slot content => exact ⟨clean content List.mem_cons_self, ih settled.2 cleanRest⟩

end Replace

/-! ## Lone slots -/

/-- The pieces of a slot with nothing but blanks around it. -/
def IsLone (content : List Char) (pieces : List Piece) : Prop :=
  ∃ before after : List Char, (∀ c ∈ before, isBlank c) ∧ (∀ c ∈ after, isBlank c) ∧
    pieces = before.map .char ++ .slot content :: after.map .char

theorem not_isBlank_of_isBrace {c : Char} (brace : isBrace c = true) : isBlank c = false := by
  simp only [isBrace, Bool.or_eq_true, decide_eq_true_eq] at brace
  rcases brace with rfl | rfl <;> decide

theorem opening_notMem_of_blank {chars : List Char} (blank : ∀ c ∈ chars, isBlank c) :
    '{' ∉ chars := by
  intro member
  have blankBrace := blank _ member
  rw [not_isBlank_of_isBrace rfl] at blankBrace
  cases blankBrace

theorem charsOf_map_char (chars : List Char) : charsOf (chars.map .char) = chars := by
  induction chars with
  | nil => rfl
  | cons c rest ih => rw [List.map_cons, charsOf_char, ih]

theorem charsOf_append (first second : List Piece) :
    charsOf (first ++ second) = charsOf first ++ charsOf second :=
  List.flatMap_append

/-- A text has a lone path exactly when its pieces are a slot with blanks around it. -/
theorem lone?_eq_some_iff (text path : String) :
    lone? text = some path ↔
      ∃ content, IsLone content (pieces text) ∧ slotPath content = path := by
  have whole := List.takeWhile_append_dropWhile (p := isBlank) (l := text.toList)
  constructor
  · intro lone
    unfold lone? at lone
    split at lone
    · rename_i rest rest_eq
      split at lone
      · rename_i content left found
        split at lone
        · rename_i blankAfter
          obtain ⟨clean, rfl⟩ := slot?_eq_some_iff.1 found
          have blankBefore : ∀ c ∈ text.toList.takeWhile isBlank, isBlank c := fun c member =>
            List.mem_takeWhile_imp member
          have blankAfter : ∀ c ∈ left, isBlank c := by simpa using blankAfter
          refine ⟨content, ⟨_, left, blankBefore, blankAfter, ?_⟩, Option.some.inj lone⟩
          rw [rest_eq] at whole
          rw [pieces, ← scan_of_plain (opening_notMem_of_blank blankAfter), ← scan_slot clean,
            ← scan_append (opening_notMem_of_blank blankBefore), whole]
        · cases lone
      · cases lone
    · cases lone
  · rintro ⟨content, ⟨before, after, blankBefore, blankAfter, pieces_eq⟩, rfl⟩
    have clean : IsContent content :=
      (settled_scan text.toList).isContent (by
        rw [← pieces, pieces_eq]
        exact List.mem_append_right _ List.mem_cons_self)
    have chars_eq : text.toList = before ++ '{' :: '{' :: (content ++ '}' :: '}' :: after) := by
      have same : charsOf (pieces text) = text.toList := flatMap_chars_scan text.toList
      rw [← same, pieces_eq, charsOf_append, charsOf_slot, charsOf_map_char, charsOf_map_char]
    have read : slot? (content ++ '}' :: '}' :: after) = some (content, after) :=
      slot?_eq_some_iff.2 ⟨clean, rfl⟩
    have rest_eq : text.toList.dropWhile isBlank =
        '{' :: '{' :: (content ++ '}' :: '}' :: after) := by
      rw [chars_eq, List.dropWhile_append_of_pos blankBefore,
        List.dropWhile_cons_of_neg (by simp [@not_isBlank_of_isBrace '{' rfl])]
    unfold lone?
    simp only [rest_eq, read]
    rw [if_pos (List.all_eq_true.2 blankAfter)]

theorem eq_map_char_of_map_replace {change : List Char → List Char} {pieces : List Piece}
    {chars : List Char} (replaced : pieces.map (Piece.replace change) = chars.map Piece.char) :
    pieces = chars.map Piece.char := by
  induction pieces generalizing chars with
  | nil => simpa using replaced
  | cons piece rest ih =>
      obtain ⟨c, tail, rfl, piece_eq, rest_eq⟩ := List.map_eq_cons_iff.1 replaced.symm
      cases piece with
      | char d =>
          obtain rfl : c = d := Piece.char.inj piece_eq
          rw [ih rest_eq.symm, List.map_cons]
      | slot content => cases piece_eq

/-- Replacing contents makes no slot lone that was not. -/
theorem IsLone.of_replace {change : List Char → List Char} {pieces : List Piece}
    {content : List Char} (lone : IsLone content (pieces.map (Piece.replace change))) :
    ∃ original, IsLone original pieces := by
  obtain ⟨before, after, blankBefore, blankAfter, replaced⟩ := lone
  obtain ⟨front, back, rfl, front_eq, back_eq⟩ := List.map_eq_append_iff.1 replaced
  obtain ⟨piece, rest, rfl, piece_eq, rest_eq⟩ := List.map_eq_cons_iff.1 back_eq
  cases piece with
  | char c => cases piece_eq
  | slot original =>
      refine ⟨original, before, after, blankBefore, blankAfter, ?_⟩
      rw [eq_map_char_of_map_replace front_eq, eq_map_char_of_map_replace rest_eq]

end Workflow.Template
