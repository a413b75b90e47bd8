import Workflow.Proofs.Template.Pieces
import Workflow.Proofs.Text.Trim

/-!
# Templates by patterns

The two ways to read a template, as a lone slot and piece by piece, are given by two patterns: a slot
is two opening braces, blanks, a path without braces, blanks and two closing braces, and a lone slot
is a slot with nothing but blanks around it.  A matcher tries the ways to match a pattern in an order,
blanks as many as possible and the path as short as possible, and takes the first; all matches in a
text are found from left to right.

The order of the ways decides how the blanks inside of a slot are divided between its parts, and
nothing else: where a match ends and which path it has, once trimmed, is the same for all of them.
-/

namespace Workflow.Template

open Text (isBlank trimChars trimChars_append)

/-! ## Matching a pattern -/

/-- What a pattern asks for next. -/
inductive Part where
  | char (c : Char)
  /-- Blanks, as many as possible. -/
  | blanks
  /-- Characters other than braces, at least one and as few as possible.  They are remembered. -/
  | path
  /-- The end of the text; a line feed may stand before it. -/
  | finish

/-- A pattern asks for one thing after the other. -/
abbrev Pattern := List Part

/-- The ways to take allowed characters from the front, with what is left by each, shortest first. -/
def splits (allowed : Char → Bool) : List Char → List (List Char × List Char)
  | [] => [([], [])]
  | c :: rest =>
    ([], c :: rest) ::
      if allowed c then (splits allowed rest).map fun (taken, left) => (c :: taken, left) else []

/-- The ways to match a pattern at the front, in the order in which they are tried: what is remembered
and what is left by each. -/
def Pattern.ways : Pattern → List Char → List (List Char × List Char)
  | [], chars => [([], chars)]
  | .char _ :: _, [] => []
  | .char c :: parts, d :: rest => if d = c then ways parts rest else []
  | .blanks :: parts, chars =>
    (splits isBlank chars).reverse.flatMap fun (_, left) => ways parts left
  | .path :: parts, chars =>
    (splits (!isBrace ·) chars).tail.flatMap fun (taken, rest) =>
      (ways parts rest).map fun (_, left) => (taken, left)
  | .finish :: parts, chars => if chars = [] ∨ chars = ['\n'] then ways parts chars else []

/-- The match at the front. -/
def Pattern.first? (pattern : Pattern) (chars : List Char) : Option (List Char × List Char) :=
  (pattern.ways chars).head?

/-- A match: where it begins, the characters it takes and those it remembers. -/
structure Found where
  start : Nat
  chars : List Char
  path : List Char

/-- All matches of a pattern that takes characters, from left to right and without overlap.  `start`
is the position of the text, and its first `skip` characters belong to a match before it. -/
def Pattern.findFrom (pattern : Pattern) (start skip : Nat) : List Char → List Found
  | [] => []
  | c :: rest =>
    match skip with
    | skip + 1 => findFrom pattern (start + 1) skip rest
    | 0 =>
      match pattern.first? (c :: rest) with
      | none => findFrom pattern (start + 1) 0 rest
      | some (path, left) =>
        let length := (c :: rest).length - left.length
        ⟨start, (c :: rest).take length, path⟩ :: findFrom pattern (start + 1) (length - 1) rest

/-- All matches of a pattern in a text. -/
def Pattern.find (pattern : Pattern) (text : String) : List Found :=
  pattern.findFrom 0 0 text.toList

/-- The pattern of a slot. -/
def slotPattern : Pattern :=
  [.char '{', .char '{', .blanks, .path, .blanks, .char '}', .char '}']

/-- The pattern of a text that is a lone slot. -/
def lonePattern : Pattern := .blanks :: slotPattern ++ [.blanks, .finish]

/-! ## The ways to match -/

theorem mem_splits_iff {allowed : Char → Bool} {chars taken left : List Char} :
    (taken, left) ∈ splits allowed chars ↔
      chars = taken ++ left ∧ ∀ c ∈ taken, allowed c = true := by
  induction chars generalizing taken with
  | nil =>
      simp only [splits, List.mem_singleton, Prod.mk.injEq]
      constructor
      · rintro ⟨rfl, rfl⟩
        exact ⟨rfl, List.forall_mem_nil _⟩
      · rintro ⟨whole, -⟩
        exact List.append_eq_nil_iff.1 whole.symm
  | cons c rest ih =>
      cases taken with
      | nil =>
          have longer : ([], left) ∉
              (splits allowed rest).map fun (taken, left) => (c :: taken, left) := by simp
          rw [splits, List.mem_cons, Prod.mk.injEq]
          constructor
          · rintro (⟨-, rfl⟩ | later)
            · exact ⟨rfl, List.forall_mem_nil _⟩
            · split at later
              · exact absurd later longer
              · cases later
          · rintro ⟨whole, -⟩
            exact Or.inl ⟨rfl, whole.symm⟩
      | cons d taken =>
          simp only [splits, List.mem_cons, Prod.mk.injEq, reduceCtorEq, false_and, false_or,
            List.cons_append, List.cons.injEq, forall_eq_or_imp]
          split
          · rename_i here
            simp only [List.mem_map, Prod.mk.injEq, List.cons.injEq, Prod.exists]
            constructor
            · rintro ⟨others, _, among, ⟨rfl, rfl⟩, rfl⟩
              obtain ⟨rfl, all⟩ := ih.1 among
              exact ⟨⟨rfl, rfl⟩, here, all⟩
            · rintro ⟨⟨rfl, whole⟩, -, all⟩
              exact ⟨taken, left, ih.2 ⟨whole, all⟩, ⟨rfl, rfl⟩, rfl⟩
          · rename_i other
            constructor
            · intro impossible
              cases impossible
            · rintro ⟨⟨rfl, -⟩, here, -⟩
              exact absurd here other

theorem mem_tail_splits_iff {allowed : Char → Bool} {chars taken left : List Char} :
    (taken, left) ∈ (splits allowed chars).tail ↔
      taken ≠ [] ∧ chars = taken ++ left ∧ ∀ c ∈ taken, allowed c = true := by
  have longer : ∀ split ∈ (splits allowed chars).tail, split.1 ≠ [] := by
    cases chars with
    | nil => simp [splits]
    | cons c rest =>
        rw [splits, List.tail_cons]
        split
        · intro split among
          obtain ⟨_, _, rfl⟩ := List.mem_map.1 among
          exact List.cons_ne_nil _ _
        · simp
  have first : ∃ others, splits allowed chars = ([], chars) :: others := by
    cases chars <;> exact ⟨_, rfl⟩
  obtain ⟨others, splits_eq⟩ := first
  rw [splits_eq] at longer
  rw [← mem_splits_iff, splits_eq]
  constructor
  · intro among
    exact ⟨longer (taken, left) among, List.mem_cons_of_mem _ among⟩
  · rintro ⟨nonempty, among⟩
    rcases List.mem_cons.1 among with same | later
    · exact absurd (Prod.mk.inj same).1 nonempty
    · exact later

namespace Pattern

variable {parts : Pattern} {chars path left : List Char}

theorem mem_ways_char {c : Char} :
    (path, left) ∈ ways (.char c :: parts) chars ↔
      ∃ rest, chars = c :: rest ∧ (path, left) ∈ ways parts rest := by
  cases chars with
  | nil => simp [ways]
  | cons d rest =>
      by_cases same : d = c
      · simp [ways, same]
      · simp [ways, same]

theorem mem_ways_blanks :
    (path, left) ∈ ways (.blanks :: parts) chars ↔
      ∃ blanks rest, (∀ c ∈ blanks, isBlank c = true) ∧ chars = blanks ++ rest ∧
        (path, left) ∈ ways parts rest := by
  simp only [ways, List.mem_flatMap, List.mem_reverse, Prod.exists, mem_splits_iff]
  constructor
  · rintro ⟨blanks, rest, ⟨whole, all⟩, among⟩
    exact ⟨blanks, rest, all, whole, among⟩
  · rintro ⟨blanks, rest, all, whole, among⟩
    exact ⟨blanks, rest, ⟨whole, all⟩, among⟩

theorem mem_ways_path :
    (path, left) ∈ ways (.path :: parts) chars ↔
      IsContent path ∧ ∃ rest, chars = path ++ rest ∧ ∃ other, (other, left) ∈ ways parts rest := by
  simp only [ways, List.mem_flatMap, List.mem_map, Prod.exists, Prod.mk.injEq,
    mem_tail_splits_iff]
  constructor
  · rintro ⟨taken, rest, ⟨nonempty, whole, free⟩, other, _, among, rfl, rfl⟩
    exact ⟨⟨nonempty, by simpa using free⟩, rest, whole, other, among⟩
  · rintro ⟨⟨nonempty, free⟩, rest, whole, other, among⟩
    exact ⟨path, rest, ⟨nonempty, whole, by simpa using free⟩, other, left, among, rfl, rfl⟩

theorem mem_ways_finish :
    (path, left) ∈ ways (.finish :: parts) chars ↔
      (chars = [] ∨ chars = ['\n']) ∧ (path, left) ∈ ways parts chars := by
  rw [ways]
  split <;> simp_all

theorem mem_ways_nil : (path, left) ∈ ways [] chars ↔ path = [] ∧ left = chars := by
  simp [ways]

end Pattern

open Pattern

/-! ## Slots -/

theorem IsContent.append_blanks {path before after : List Char} (content : IsContent path)
    (blankBefore : ∀ c ∈ before, isBlank c = true) (blankAfter : ∀ c ∈ after, isBlank c = true) :
    IsContent (before ++ (path ++ after)) := by
  have free_of_blank {chars : List Char} (blank : ∀ c ∈ chars, isBlank c = true) :
      ∀ c ∈ chars, isBrace c = false := by
    intro c member
    by_contra brace
    have missed := not_isBlank_of_isBrace (by simpa using brace : isBrace c = true)
    rw [blank c member] at missed
    cases missed
  refine ⟨by simp [content.1], ?_⟩
  simp only [List.forall_mem_append]
  exact ⟨free_of_blank blankBefore, content.2, free_of_blank blankAfter⟩

/-- The path of a slot does not depend on how the blanks inside of the slot are divided. -/
theorem slotPath_append_blanks {path before after : List Char}
    (blankBefore : ∀ c ∈ before, isBlank c = true) (blankAfter : ∀ c ∈ after, isBlank c = true) :
    slotPath (before ++ (path ++ after)) = slotPath path := by
  rw [slotPath, slotPath, trimChars_append blankBefore blankAfter]

/-- A way to match a pattern that begins with that of a slot takes a slot first. -/
theorem mem_ways_slotPattern {parts : Pattern} {chars path left : List Char} :
    (path, left) ∈ ways (slotPattern ++ parts) chars ↔
      ∃ before after rest other, IsContent path ∧ (∀ c ∈ before, isBlank c = true) ∧
        (∀ c ∈ after, isBlank c = true) ∧
        chars = '{' :: '{' :: (before ++ (path ++ after) ++ '}' :: '}' :: rest) ∧
        (other, left) ∈ ways parts rest := by
  simp only [slotPattern, List.cons_append, List.nil_append, mem_ways_char, mem_ways_blanks,
    mem_ways_path]
  constructor
  · rintro ⟨_, rfl, _, rfl, before, _, blankBefore, rfl, content, _, rfl, other, after, _,
      blankAfter, rfl, _, rfl, rest, rfl, among⟩
    exact ⟨before, after, rest, other, content, blankBefore, blankAfter, by simp, among⟩
  · rintro ⟨before, after, rest, other, content, blankBefore, blankAfter, rfl, among⟩
    exact ⟨_, rfl, _, rfl, before, path ++ (after ++ '}' :: '}' :: rest), blankBefore, by simp,
      content, _, rfl, other, after, _, blankAfter, rfl, _, rfl, rest, rfl, among⟩

/-- Every way to match a slot ends where the slot ends and has its path. -/
theorem first?_slotPattern {chars path left : List Char}
    (matched : slotPattern.first? chars = some (path, left)) :
    ∃ content, IsContent content ∧ chars = '{' :: '{' :: (content ++ '}' :: '}' :: left) ∧
      slotPath path = slotPath content := by
  have among : (path, left) ∈ ways (slotPattern ++ []) chars := List.mem_of_mem_head? matched
  obtain ⟨before, after, rest, other, content, blankBefore, blankAfter, whole, last⟩ :=
    mem_ways_slotPattern.1 among
  obtain ⟨-, rfl⟩ := mem_ways_nil.1 last
  exact ⟨_, content.append_blanks blankBefore blankAfter, whole,
    (slotPath_append_blanks blankBefore blankAfter).symm⟩

/-- A slot closes at its first two braces. -/
theorem IsContent.eq_of_closed {content other left rest : List Char} (clean : IsContent content)
    (otherClean : IsContent other)
    (same : content ++ '}' :: '}' :: left = other ++ '}' :: '}' :: rest) :
    content = other ∧ left = rest := by
  have read :=
    (slot?_eq_some_iff.2 ⟨clean, rfl⟩).symm.trans (slot?_eq_some_iff.2 ⟨otherClean, same⟩)
  exact Prod.mk.inj (Option.some.inj read)

/-- Where a slot begins, the pattern matches. -/
theorem exists_first?_slotPattern {content : List Char} (clean : IsContent content)
    (left : List Char) :
    ∃ path, slotPattern.first? ('{' :: '{' :: (content ++ '}' :: '}' :: left)) =
      some (path, left) := by
  have among : (content, left) ∈
      ways (slotPattern ++ []) ('{' :: '{' :: (content ++ '}' :: '}' :: left)) :=
    mem_ways_slotPattern.2 ⟨[], [], left, [], clean, by simp, by simp, by simp,
      mem_ways_nil.2 ⟨rfl, rfl⟩⟩
  rw [List.append_nil] at among
  obtain ⟨⟨path, others⟩, matched⟩ :=
    Option.isSome_iff_exists.1 (List.isSome_head?.2 (List.ne_nil_of_mem among))
  obtain ⟨other, otherClean, same, -⟩ := first?_slotPattern matched
  simp only [List.cons.injEq, true_and] at same
  obtain ⟨-, rfl⟩ := clean.eq_of_closed otherClean same
  exact ⟨path, matched⟩

/-- The blanks in front of a path are taken first, and those behind it are left to the blanks there. -/
example : slotPattern.first? "\x7b\x7b  a.b  \x7d\x7dx".toList = some ("a.b".toList, ['x']) := by
  decide

/-- The pattern matches exactly where a slot begins. -/
theorem first?_slotPattern_eq_none_iff {chars : List Char} :
    slotPattern.first? chars = none ↔ beginsSlot chars = false := by
  constructor
  · intro unmatched
    by_contra begins
    rw [Bool.not_eq_false] at begins
    unfold beginsSlot at begins
    split at begins
    · obtain ⟨⟨content, left⟩, read⟩ := Option.isSome_iff_exists.1 begins
      obtain ⟨clean, rfl⟩ := slot?_eq_some_iff.1 read
      obtain ⟨path, matched⟩ := exists_first?_slotPattern clean left
      rw [unmatched] at matched
      cases matched
    · cases begins
  · intro plain
    cases matched : slotPattern.first? chars with
    | none => rfl
    | some found =>
        obtain ⟨content, clean, rfl, -⟩ := first?_slotPattern matched
        simp [beginsSlot, slot?_eq_some_iff.2 ⟨clean, rfl⟩] at plain

/-! ## All slots of a text -/

/-- The slots among pieces, with their positions. -/
def slotsFrom (start : Nat) : List Piece → List (Nat × List Char)
  | [] => []
  | .char _ :: rest => slotsFrom (start + 1) rest
  | .slot content :: rest => (start, content) :: slotsFrom (start + (content.length + 4)) rest

theorem findFrom_skip (pattern : Pattern) (start : Nat) (front chars : List Char) :
    pattern.findFrom start front.length (front ++ chars) =
      pattern.findFrom (start + front.length) 0 chars := by
  induction front generalizing start with
  | nil => rfl
  | cons c front ih =>
      rw [List.cons_append, List.length_cons, findFrom, ih, Nat.add_right_comm, Nat.add_assoc]

theorem findFrom_of_plain {c : Char} {rest : List Char} (plain : beginsSlot (c :: rest) = false)
    (start : Nat) :
    slotPattern.findFrom start 0 (c :: rest) = slotPattern.findFrom (start + 1) 0 rest := by
  rw [findFrom, first?_slotPattern_eq_none_iff.2 plain]

theorem exists_findFrom_slot {content : List Char} (clean : IsContent content) (start : Nat)
    (left : List Char) :
    ∃ path, slotPath path = slotPath content ∧
      slotPattern.findFrom start 0 ('{' :: '{' :: (content ++ '}' :: '}' :: left)) =
        ⟨start, Piece.chars (.slot content), path⟩ ::
          slotPattern.findFrom (start + (content.length + 4)) 0 left := by
  obtain ⟨path, matched⟩ := exists_first?_slotPattern clean left
  obtain ⟨other, otherClean, same, path_eq⟩ := first?_slotPattern matched
  simp only [List.cons.injEq, true_and] at same
  obtain ⟨rfl, -⟩ := clean.eq_of_closed otherClean same
  refine ⟨path, path_eq, ?_⟩
  have front_eq : '{' :: '{' :: (content ++ '}' :: '}' :: left) =
      Piece.chars (.slot content) ++ left := by
    simp [Piece.chars]
  rw [findFrom, matched]
  dsimp only
  rw [front_eq, List.length_append, Nat.add_sub_cancel, List.take_left]
  -- The characters of the slot behind its first one are skipped.
  have behind : '{' :: (content ++ '}' :: '}' :: left) =
      ('{' :: (content ++ ['}', '}'])) ++ left := by simp
  have skipped : (Piece.chars (.slot content)).length - 1 =
      ('{' :: (content ++ ['}', '}'])).length := by simp [Piece.chars]
  have position_eq : start + 1 + ('{' :: (content ++ ['}', '}'])).length =
      start + (content.length + 4) := by
    simp only [List.length_cons, List.length_append, List.length_nil]
    omega
  rw [behind, skipped, findFrom_skip, position_eq]

/-- The matches of the pattern are the slots among the pieces. -/
theorem findFrom_slotPattern (start : Nat) (chars : List Char) :
    (slotPattern.findFrom start 0 chars).map
        (fun found => (found.start, found.chars, slotPath found.path)) =
      (slotsFrom start (scan chars)).map
        fun slot => (slot.1, Piece.chars (.slot slot.2), slotPath slot.2) := by
  fun_induction scan chars generalizing start with
  | case1 => rfl
  | case2 rest content left found _ ih =>
      obtain ⟨clean, rfl⟩ := slot?_eq_some_iff.1 found
      obtain ⟨path, path_eq, found_eq⟩ := exists_findFrom_slot clean start left
      rw [found_eq, slotsFrom, List.map_cons, List.map_cons, ih, path_eq]
  | case3 rest found ih =>
      rw [findFrom_of_plain (by simp [beginsSlot, found]), slotsFrom, ih]
  | case4 c rest plain ih =>
      have here : beginsSlot (c :: rest) = false := by
        unfold beginsSlot
        split
        · rename_i same
          obtain ⟨rfl, rfl⟩ := List.cons.inj same
          exact absurd rfl (plain _ rfl)
        · rfl
      rw [findFrom_of_plain here, slotsFrom, ih]

/-- A slot within a text with a slot at the front is that slot or stands behind it. -/
theorem exists_behind_of_append {content left before rest : List Char}
    (free : ∀ c ∈ content, isBrace c = false)
    (same : content ++ '}' :: '}' :: left = before ++ '{' :: rest) :
    ∃ behind, before = content ++ '}' :: '}' :: behind ∧ left = behind ++ '{' :: rest := by
  induction content generalizing before with
  | nil =>
      rcases before with _ | ⟨c, _ | ⟨d, behind⟩⟩
      · simp at same
      · simp at same
      · simp only [List.nil_append, List.cons_append, List.cons.injEq] at same
        obtain ⟨rfl, rfl, rfl⟩ := same
        exact ⟨behind, rfl, rfl⟩
  | cons c content ih =>
      obtain ⟨here, freeRest⟩ := List.forall_mem_cons.1 free
      cases before with
      | nil =>
          obtain ⟨rfl, -⟩ := List.cons.inj same
          cases here
      | cons d before =>
          simp only [List.cons_append, List.cons.injEq] at same
          obtain ⟨rfl, tails⟩ := same
          obtain ⟨behind, rfl, left_eq⟩ := ih freeRest tails
          exact ⟨behind, rfl, left_eq⟩

/-- The slots of a text are all its contents between two opening and two closing braces. -/
theorem mem_slotsFrom_scan_iff (start : Nat) {position : Nat} {chars content : List Char} :
    (position, content) ∈ slotsFrom start (scan chars) ↔
      ∃ before after, IsContent content ∧ position = start + before.length ∧
        chars = before ++ '{' :: '{' :: (content ++ '}' :: '}' :: after) := by
  -- A character at which no slot begins stands before every slot.
  have plain_iff {c : Char} {rest : List Char} (plain : beginsSlot (c :: rest) = false)
      (ih : ∀ start, (position, content) ∈ slotsFrom start (scan rest) ↔
        ∃ before after, IsContent content ∧ position = start + before.length ∧
          rest = before ++ '{' :: '{' :: (content ++ '}' :: '}' :: after)) (start : Nat) :
      (position, content) ∈ slotsFrom (start + 1) (scan rest) ↔
        ∃ before after, IsContent content ∧ position = start + before.length ∧
          c :: rest = before ++ '{' :: '{' :: (content ++ '}' :: '}' :: after) := by
    rw [ih]
    constructor
    · rintro ⟨before, after, clean, rfl, rfl⟩
      exact ⟨c :: before, after, clean, by rw [List.length_cons]; omega, rfl⟩
    · rintro ⟨before, after, clean, rfl, whole⟩
      cases before with
      | nil =>
          rw [whole] at plain
          simp [beginsSlot, slot?_eq_some_iff.2 ⟨clean, rfl⟩] at plain
      | cons d before =>
          obtain ⟨rfl, rfl⟩ := List.cons.inj whole
          exact ⟨before, after, clean, by rw [List.length_cons]; omega, rfl⟩
  fun_induction scan chars generalizing start with
  | case1 => simp [slotsFrom]
  | case2 rest slot left found _ ih =>
      obtain ⟨clean, rfl⟩ := slot?_eq_some_iff.1 found
      rw [slotsFrom, List.mem_cons, Prod.mk.injEq]
      refine (or_congr Iff.rfl (ih _)).trans ?_
      constructor
      · rintro (⟨rfl, rfl⟩ | ⟨before, after, otherClean, rfl, rfl⟩)
        · exact ⟨[], left, clean, rfl, rfl⟩
        · refine ⟨'{' :: '{' :: (slot ++ '}' :: '}' :: before), after, otherClean, ?_, by simp⟩
          simp only [List.length_cons, List.length_append]
          omega
      · rintro ⟨before, after, otherClean, rfl, whole⟩
        rcases before with _ | ⟨c, _ | ⟨d, before⟩⟩
        · simp only [List.nil_append, List.cons.injEq, true_and] at whole
          obtain ⟨rfl, -⟩ := clean.eq_of_closed otherClean whole
          exact Or.inl ⟨rfl, rfl⟩
        · -- The content of the slot in front does not begin with a brace.
          obtain ⟨e, others, rfl⟩ := List.exists_cons_of_ne_nil clean.1
          simp only [List.cons_append, List.nil_append, List.cons.injEq] at whole
          obtain ⟨-, -, rfl, -⟩ := whole
          cases clean.2 '{' List.mem_cons_self
        · simp only [List.cons_append, List.cons.injEq] at whole
          obtain ⟨behind, rfl, rfl⟩ := exists_behind_of_append clean.2 whole.2.2
          refine Or.inr ⟨behind, after, otherClean, ?_, rfl⟩
          simp only [List.length_cons, List.length_append]
          omega
  | case3 rest found ih => exact plain_iff (by simp [beginsSlot, found]) ih start
  | case4 c rest plain ih =>
      have here : beginsSlot (c :: rest) = false := by
        unfold beginsSlot
        split
        · rename_i same
          obtain ⟨rfl, rfl⟩ := List.cons.inj same
          exact absurd rfl (plain _ rfl)
        · rfl
      exact plain_iff here ih start

theorem start_le_of_mem_slotsFrom {start : Nat} {pieces : List Piece} :
    ∀ slot ∈ slotsFrom start pieces, start ≤ slot.1 := by
  induction pieces generalizing start with
  | nil => simp [slotsFrom]
  | cons piece rest ih =>
      cases piece with
      | char c => exact fun slot member => Nat.le_of_succ_le (ih slot member)
      | slot content =>
          refine List.forall_mem_cons.2 ⟨Nat.le_refl _, fun slot member => ?_⟩
          exact Nat.le_trans (Nat.le_add_right _ _) (ih slot member)

/-- Slots stand one after the other. -/
theorem pairwise_slotsFrom (start : Nat) (pieces : List Piece) :
    (slotsFrom start pieces).Pairwise
      fun first second => first.1 + (first.2.length + 4) ≤ second.1 := by
  induction pieces generalizing start with
  | nil => exact List.Pairwise.nil
  | cons piece rest ih =>
      cases piece with
      | char c => exact ih (start + 1)
      | slot content => exact List.Pairwise.cons start_le_of_mem_slotsFrom (ih _)

theorem slotsFrom_append (start : Nat) (chars : List Char) (pieces : List Piece) :
    slotsFrom start (chars.map .char ++ pieces) = slotsFrom (start + chars.length) pieces := by
  induction chars generalizing start with
  | nil => rfl
  | cons c rest ih =>
      rw [List.map_cons, List.cons_append, slotsFrom, ih, List.length_cons, Nat.add_assoc,
        Nat.add_comm 1]

/-! ## Lone slots -/

/-- A match of the pattern of a lone slot has its path. -/
theorem lone?_of_first?_lonePattern {text : String} {path left : List Char}
    (matched : lonePattern.first? text.toList = some (path, left)) :
    lone? text = some (slotPath path) := by
  have among : (path, left) ∈ ways lonePattern text.toList := List.mem_of_mem_head? matched
  obtain ⟨outerBefore, _, blankOuter, whole, slot⟩ := mem_ways_blanks.1 among
  obtain ⟨before, after, rest, other, content, blankBefore, blankAfter, rfl, last⟩ :=
    mem_ways_slotPattern.1 slot
  obtain ⟨outerAfter, finish, blankRest, rfl, ended⟩ := mem_ways_blanks.1 last
  have blankFinish : ∀ c ∈ outerAfter ++ finish, isBlank c = true := by
    have blank : ∀ c ∈ finish, isBlank c = true := by
      rcases (mem_ways_finish.1 ended).1 with rfl | rfl
      · simp
      · simp [isBlank, Text.blankRanges, Text.Ranges.contains]
    exact List.forall_mem_append.2 ⟨blankRest, blank⟩
  have clean := content.append_blanks blankBefore blankAfter
  refine (lone?_eq_some_iff text _).2 ⟨_, ⟨outerBefore, _, blankOuter, blankFinish, ?_⟩,
    slotPath_append_blanks blankBefore blankAfter⟩
  rw [pieces, whole, scan_append (opening_notMem_of_blank blankOuter), scan_slot clean,
    scan_of_plain (opening_notMem_of_blank blankFinish)]

/-- A text is a lone slot exactly when the pattern of one matches, and the path is the one matched. -/
theorem lone?_eq_first?_lonePattern (text : String) :
    lone? text = (lonePattern.first? text.toList).map fun found => slotPath found.1 := by
  cases matched : lonePattern.first? text.toList with
  | some found => exact lone?_of_first?_lonePattern matched
  | none =>
      by_contra lone
      obtain ⟨path, read⟩ := Option.ne_none_iff_exists'.1 lone
      obtain ⟨content, ⟨before, after, blankBefore, blankAfter, pieces_eq⟩, -⟩ :=
        (lone?_eq_some_iff text path).1 read
      have clean : IsContent content := (settled_scan text.toList).isContent (by
        rw [← pieces, pieces_eq]
        exact List.mem_append_right _ List.mem_cons_self)
      have whole : text.toList = before ++ '{' :: '{' :: (content ++ '}' :: '}' :: after) := by
        have same : charsOf (pieces text) = text.toList := flatMap_chars_scan text.toList
        rw [← same, pieces_eq, charsOf_append, charsOf_slot, charsOf_map_char, charsOf_map_char]
      have ended : ([], []) ∈ ways [.blanks, .finish] after :=
        mem_ways_blanks.2 ⟨after, [], blankAfter, by simp,
          mem_ways_finish.2 ⟨Or.inl rfl, mem_ways_nil.2 ⟨rfl, rfl⟩⟩⟩
      have among : (content, []) ∈ ways lonePattern text.toList :=
        mem_ways_blanks.2 ⟨before, _, blankBefore, whole,
          mem_ways_slotPattern.2 ⟨[], [], after, [], clean, by simp, by simp, by simp, ended⟩⟩
      have nothing : ways lonePattern text.toList = [] := List.head?_eq_none_iff.1 matched
      rw [nothing] at among
      cases among

/-- A slot is lone exactly when it is the only one and only blanks stand around it. -/
theorem isLone_iff {text : String} {content : List Char} :
    IsLone content (pieces text) ↔
      ∃ start, slotsFrom 0 (pieces text) = [(start, content)] ∧
        ∀ c ∈ text.toList.take start ++ text.toList.drop (start + (content.length + 4)),
          isBlank c = true := by
  -- What stands around a slot can be told from the text and the place of the slot.
  have around {before after : List Char}
      (whole : text.toList = before ++ '{' :: '{' :: (content ++ '}' :: '}' :: after)) :
      text.toList.take before.length ++ text.toList.drop (before.length + (content.length + 4)) =
        before ++ after := by
    have parts : before ++ '{' :: '{' :: (content ++ '}' :: '}' :: after) =
        (before ++ Piece.chars (.slot content)) ++ after := by simp [Piece.chars]
    have length_eq : before.length + (content.length + 4) =
        (before ++ Piece.chars (.slot content)).length := by
      simp only [Piece.chars, List.length_append, List.length_cons, List.length_nil]
    rw [whole, List.take_left, parts, length_eq, List.drop_left]
  constructor
  · rintro ⟨before, after, blankBefore, blankAfter, pieces_eq⟩
    have whole : text.toList = before ++ '{' :: '{' :: (content ++ '}' :: '}' :: after) := by
      have same : charsOf (pieces text) = text.toList := flatMap_chars_scan text.toList
      rw [← same, pieces_eq, charsOf_append, charsOf_slot, charsOf_map_char, charsOf_map_char]
    have none_after (start : Nat) : slotsFrom start (after.map .char) = [] := by
      simpa [slotsFrom] using slotsFrom_append start after []
    refine ⟨before.length, ?_, ?_⟩
    · rw [pieces_eq, slotsFrom_append, slotsFrom, none_after, Nat.zero_add]
    · rw [around whole]
      exact List.forall_mem_append.2 ⟨blankBefore, blankAfter⟩
  · rintro ⟨start, single, blank⟩
    have member : (start, content) ∈ slotsFrom 0 (scan text.toList) := by
      rw [← pieces, single]
      exact List.mem_singleton_self _
    obtain ⟨before, after, clean, start_eq, whole⟩ := (mem_slotsFrom_scan_iff 0).1 member
    rw [Nat.zero_add] at start_eq
    rw [start_eq, around whole] at blank
    obtain ⟨blankBefore, blankAfter⟩ := List.forall_mem_append.1 blank
    refine ⟨before, after, blankBefore, blankAfter, ?_⟩
    rw [pieces, whole, scan_append (opening_notMem_of_blank blankBefore), scan_slot clean,
      scan_of_plain (opening_notMem_of_blank blankAfter)]

/-! ## Both patterns -/

/-- A run without braces that goes on in neither direction: around it stand braces or nothing. -/
structure IsMaximalRun (before run after : List Char) : Prop where
  nonempty : run ≠ []
  free : ∀ c ∈ run, isBrace c = false
  left : ∀ c ∈ before.getLast?, isBrace c = true
  right : ∀ c ∈ after.head?, isBrace c = true

/-- The matches of the pattern of a slot are the slots that a text is read as having. -/
theorem find_slotPattern (text : String) :
    (slotPattern.find text).map (fun found => (found.start, found.chars, slotPath found.path)) =
      (slotsFrom 0 (pieces text)).map
        fun slot => (slot.1, Piece.chars (.slot slot.2), slotPath slot.2) :=
  findFrom_slotPattern 0 text.toList

/-- What the matches of a slot are, without their paths. -/
theorem find_slotPattern_places (text : String) :
    (slotPattern.find text).map (fun found => (found.start, found.chars)) =
      (slotsFrom 0 (pieces text)).map fun slot => (slot.1, Piece.chars (.slot slot.2)) := by
  have slots_eq := congrArg (List.map fun shown => (shown.1, shown.2.1)) (find_slotPattern text)
  simpa [Function.comp_def] using slots_eq

/-- The pattern of a lone slot matches exactly when the other one matches once and nothing but blanks
stands around that. -/
theorem lonePattern_iff_single (text path : String) :
    (∃ taken left, lonePattern.first? text.toList = some (taken, left) ∧ slotPath taken = path) ↔
      ∃ found, slotPattern.find text = [found] ∧ slotPath found.path = path ∧
        ∀ c ∈ text.toList.take found.start ++
            text.toList.drop (found.start + found.chars.length), isBlank c = true := by
  have slots_eq := find_slotPattern text
  have lone_iff : (∃ taken left, lonePattern.first? text.toList = some (taken, left) ∧
      slotPath taken = path) ↔ lone? text = some path := by
    rw [lone?_eq_first?_lonePattern, Option.map_eq_some_iff]
    simp
  rw [lone_iff, lone?_eq_some_iff]
  simp only [isLone_iff]
  constructor
  · rintro ⟨content, ⟨start, single, blank⟩, rfl⟩
    rw [single, List.map_singleton, List.map_eq_singleton_iff] at slots_eq
    obtain ⟨found, found_eq, same⟩ := slots_eq
    obtain ⟨start_eq, chars_eq, path_eq⟩ : found.start = start ∧
        found.chars = Piece.chars (.slot content) ∧ slotPath found.path = slotPath content := by
      simpa using same
    refine ⟨found, found_eq, path_eq, ?_⟩
    rw [start_eq, chars_eq]
    simpa [Piece.chars] using blank
  · rintro ⟨found, found_eq, rfl, blank⟩
    rw [found_eq, List.map_singleton, eq_comm, List.map_eq_singleton_iff] at slots_eq
    obtain ⟨⟨start, content⟩, single, same⟩ := slots_eq
    obtain ⟨start_eq, chars_eq, path_eq⟩ : start = found.start ∧
        Piece.chars (.slot content) = found.chars ∧ slotPath content = slotPath found.path := by
      simpa using same
    refine ⟨content, ⟨start, single, ?_⟩, path_eq⟩
    rw [← start_eq, ← chars_eq] at blank
    simpa [Piece.chars] using blank

/-- The pattern of a slot matches the maximal runs between two braces on either side. -/
theorem mem_find_slotPattern_iff (text : String) (start : Nat) (chars : List Char) :
    (∃ found ∈ slotPattern.find text, found.start = start ∧ found.chars = chars) ↔
      ∃ before run after,
        text.toList = (before ++ ['{', '{']) ++ run ++ (['}', '}'] ++ after) ∧
        IsMaximalRun (before ++ ['{', '{']) run (['}', '}'] ++ after) ∧
        start = before.length ∧ chars = ['{', '{'] ++ run ++ ['}', '}'] := by
  have found_iff : (∃ found ∈ slotPattern.find text, found.start = start ∧ found.chars = chars) ↔
      ∃ content, (start, content) ∈ slotsFrom 0 (scan text.toList) ∧
        Piece.chars (.slot content) = chars := by
    have place_iff := Iff.of_eq (congrArg ((start, chars) ∈ ·) (find_slotPattern_places text))
    simpa [pieces] using place_iff
  rw [found_iff]
  simp only [mem_slotsFrom_scan_iff, Nat.zero_add]
  constructor
  · rintro ⟨content, ⟨before, after, clean, rfl, whole⟩, rfl⟩
    refine ⟨before, content, after, by simpa using whole, ⟨clean.1, clean.2, ?_, ?_⟩, rfl,
      by simp [Piece.chars]⟩
    · simp [isBrace]
    · simp [isBrace]
  · rintro ⟨before, run, after, whole, maximal, rfl, rfl⟩
    exact ⟨run, ⟨before, after, ⟨maximal.nonempty, maximal.free⟩, rfl, by simpa using whole⟩,
      by simp [Piece.chars]⟩

/-- No two matches of a slot overlap. -/
theorem pairwise_find_slotPattern (text : String) :
    (slotPattern.find text).Pairwise
      fun first second => first.start + first.chars.length ≤ second.start := by
  have apart : ((slotsFrom 0 (pieces text)).map
      fun slot => (slot.1, Piece.chars (.slot slot.2))).Pairwise
        fun first second => first.1 + first.2.length ≤ second.1 := by
    rw [List.pairwise_map]
    simpa [Piece.chars] using pairwise_slotsFrom 0 (pieces text)
  rw [← find_slotPattern_places text] at apart
  exact List.pairwise_map.1 apart

/-- A text is read by the two patterns: it is a lone slot when the one matches it, and its slots are
the matches of the other.  The one matches exactly when the other has a single match and nothing but
blanks stands around that, with the same path.  The matches of the other are all maximal runs without
braces that have two opening braces right before them and two closing ones right behind, with these
braces, and no two of them overlap. -/
theorem patterns_agree (text : String) :
    lone? text = (lonePattern.first? text.toList).map (fun found => slotPath found.1) ∧
    (slotPattern.find text).map (fun found => (found.start, found.chars, slotPath found.path)) =
      (slotsFrom 0 (pieces text)).map
        (fun slot => (slot.1, Piece.chars (.slot slot.2), slotPath slot.2)) ∧
    (∀ path,
      (∃ taken left, lonePattern.first? text.toList = some (taken, left) ∧ slotPath taken = path) ↔
        ∃ found, slotPattern.find text = [found] ∧ slotPath found.path = path ∧
          ∀ c ∈ text.toList.take found.start ++
              text.toList.drop (found.start + found.chars.length), isBlank c = true) ∧
    (∀ start chars,
      (∃ found ∈ slotPattern.find text, found.start = start ∧ found.chars = chars) ↔
        ∃ before run after,
          text.toList = (before ++ ['{', '{']) ++ run ++ (['}', '}'] ++ after) ∧
          IsMaximalRun (before ++ ['{', '{']) run (['}', '}'] ++ after) ∧
          start = before.length ∧ chars = ['{', '{'] ++ run ++ ['}', '}']) ∧
    (slotPattern.find text).Pairwise
      fun first second => first.start + first.chars.length ≤ second.start :=
  ⟨lone?_eq_first?_lonePattern text, find_slotPattern text, lonePattern_iff_single text,
    mem_find_slotPattern_iff text, pairwise_find_slotPattern text⟩

end Workflow.Template
