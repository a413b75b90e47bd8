import Workflow.Proofs.Template.Evaluation

/-!
# Canonical form

A text is in canonical form when it is no lone slot and each of its slots has a path without blanks
around it that starts at no declared variable.  Making a template canonical brings every text in it
into this form and leaves those that have it alone, so doing it once more changes nothing, as long
as `input` is not declared itself.

A blank slot that no declaration moves leaves four braces, which are no slot any more.  They do not
make one with the characters around them either, since what a slot holds does not matter to whether
a slot begins before it.
-/

namespace Workflow

namespace Template

open Text (isBlank)

/-! ## Reading replaced contents -/

section Reread

variable (change : List Char → List Char)

/-- What a piece is read as once the content of its slot was replaced; a slot without content is
read as its four braces. -/
def Piece.reread : Piece → List Piece
  | .char c => [.char c]
  | .slot content =>
    if change content = [] then [.char '{', .char '{', .char '}', .char '}']
    else [.slot (change content)]

theorem scan_braces (rest : List Char) :
    scan ('{' :: '{' :: '}' :: '}' :: rest) =
      .char '{' :: .char '{' :: .char '}' :: .char '}' :: scan rest := by
  have closing : scan ('}' :: '}' :: rest) = .char '}' :: .char '}' :: scan rest :=
    scan_append (by decide : '{' ∉ ['}', '}']) rest
  have second : beginsSlot ('{' :: '}' :: '}' :: rest) = false := by simp [beginsSlot]
  have first : beginsSlot ('{' :: '{' :: '}' :: '}' :: rest) = false := by
    simp [beginsSlot, isSome_slot?_cons, isBrace]
  rw [scan_cons first, scan_cons second, closing]

variable {change}

/-- Settled pieces whose contents are replaced by contents, or by nothing, are read again one by
one. -/
theorem Settled.scan_charsOf_replace {pieces : List Piece} (settled : Settled pieces)
    (clean : ∀ content, .slot content ∈ pieces → ∀ c ∈ change content, isBrace c = false) :
    scan (charsOf (pieces.map (Piece.replace change))) = pieces.flatMap (Piece.reread change) := by
  induction pieces with
  | nil => exact scan_nil
  | cons piece rest ih =>
      have later := fun settledRest =>
        ih settledRest fun content member => clean content (List.mem_cons_of_mem _ member)
      rw [List.map_cons, List.flatMap_cons]
      cases piece with
      | char c =>
          have plain := settled.1
          rw [← beginsSlot_charsOf_replace change] at plain
          rw [Piece.replace, charsOf_char, scan_cons plain, later settled.2]
          rfl
      | slot content =>
          rw [Piece.replace, charsOf_slot, Piece.reread]
          split
          · rename_i gone
            rw [gone, List.nil_append, scan_braces, later settled.2]
            rfl
          · rename_i given
            rw [scan_slot ⟨given, clean content List.mem_cons_self⟩, later settled.2]
            rfl

theorem mem_flatMap_reread {pieces : List Piece} {content : List Char}
    (member : .slot content ∈ pieces.flatMap (Piece.reread change)) :
    ∃ original, .slot original ∈ pieces ∧ change original = content := by
  obtain ⟨piece, listed, read⟩ := List.mem_flatMap.1 member
  cases piece with
  | char c => simp [Piece.reread] at read
  | slot original =>
      refine ⟨original, listed, ?_⟩
      rw [Piece.reread] at read
      split at read
      · simp at read
      · exact (Piece.slot.inj (List.mem_singleton.1 read)).symm

/-- Where no opening brace is read as a plain character, every content was replaced by a content. -/
theorem flatMap_reread_eq_map {pieces : List Piece}
    (plain : .char '{' ∉ pieces.flatMap (Piece.reread change)) :
    pieces.flatMap (Piece.reread change) = pieces.map (Piece.replace change) := by
  rw [List.map_eq_flatMap]
  refine List.flatMap_congr fun piece member => ?_
  cases piece with
  | char c => rfl
  | slot content =>
      rw [Piece.reread, if_neg, Piece.replace]
      intro gone
      apply plain
      rw [List.mem_flatMap]
      exact ⟨_, member, by simp [Piece.reread, gone]⟩

theorem isLone_of_flatMap_reread {pieces : List Piece} {content : List Char}
    (lone : IsLone content (pieces.flatMap (Piece.reread change))) :
    ∃ original, IsLone original pieces := by
  have plain : .char '{' ∉ pieces.flatMap (Piece.reread change) := by
    obtain ⟨before, after, blankBefore, blankAfter, pieces_eq⟩ := lone
    simp only [pieces_eq, List.mem_append, List.mem_cons, List.mem_map, Piece.char.injEq,
      exists_eq_right, reduceCtorEq, false_or, not_or]
    exact ⟨opening_notMem_of_blank blankBefore, opening_notMem_of_blank blankAfter⟩
  rw [flatMap_reread_eq_map plain] at lone
  exact lone.of_replace

end Reread

/-! ## Texts in canonical form -/

/-- A text is in canonical form. -/
structure IsCanonical (declared : List String) (text : String) : Prop where
  /-- It is no lone slot. -/
  amid : lone? text = none
  /-- No slot has blanks around its path. -/
  trimmed : ∀ content, .slot content ∈ pieces text → Text.IsTrimmed isBlank content
  /-- No slot has a path that starts at a declared variable. -/
  moved : ∀ content, .slot content ∈ pieces text → Path.root (slotPath content) ∉ declared

variable {declared : List String}

theorem canonicalPath_of_not_mem {path : String} (unknown : Path.root path ∉ declared) :
    canonicalPath path declared = path := by
  rw [canonicalPath, if_neg (by simpa using unknown)]

/-- A canonical path starts at no declared variable, unless `input` is one. -/
theorem root_canonicalPath_not_mem (fresh : "input" ∉ declared) (path : String) :
    Path.root (canonicalPath path declared) ∉ declared := by
  unfold canonicalPath
  split
  · rwa [root_input_append]
  · rename_i unknown
    simpa using unknown

/-- A text in canonical form is left alone. -/
theorem IsCanonical.canonicalText_eq {text : String} (form : IsCanonical declared text) :
    canonicalText declared text = text := by
  apply canonicalText_of_fixed form.amid
  intro content member
  rw [canonicalContent, canonicalPath_of_not_mem (form.moved content member), toList_slotPath,
    (form.trimmed content member).trimChars_eq]

/-- A text without braces is in canonical form. -/
theorem isCanonical_of_plain {text : String} (plain : ∀ c ∈ text.toList, isBrace c = false) :
    IsCanonical declared text := by
  obtain ⟨noSlot, notLone⟩ := hasSlot_eq_false_of_plain plain
  have none_listed (content : List Char) : .slot content ∉ pieces text := by
    intro member
    rw [(hasSlot_iff text).2 ⟨content, member⟩] at noSlot
    cases noSlot
  exact ⟨notLone, fun content member => absurd member (none_listed content),
    fun content member => absurd member (none_listed content)⟩

/-- The pieces of a canonical text are those of the written one, read again. -/
theorem pieces_canonicalText_eq_flatMap (declared : List String) {text : String}
    (amid : lone? text = none) :
    pieces (canonicalText declared text) =
      (pieces text).flatMap (Piece.reread (canonicalContent declared)) := by
  have settled : Settled (pieces text) := settled_scan text.toList
  rw [canonicalText, amid]
  dsimp only
  rw [pieces, toList_join_canonical]
  exact settled.scan_charsOf_replace fun content member =>
    isBrace_canonicalContent declared (settled.isContent member)

/-- Every text is brought into canonical form. -/
theorem isCanonical_canonicalText (fresh : "input" ∉ declared) (text : String) :
    IsCanonical declared (canonicalText declared text) := by
  cases lone : lone? text with
  | some path =>
      obtain ⟨content, member, rfl⟩ := exists_slot_of_lone lone
      have clean : IsContent content := (settled_scan text.toList).isContent member
      rw [canonicalText, lone]
      exact isCanonical_of_plain (isBrace_canonicalContent declared clean)
  | none =>
      have pieces_eq := pieces_canonicalText_eq_flatMap declared lone
      refine ⟨?_, ?_, ?_⟩
      · cases loneNow : lone? (canonicalText declared text) with
        | none => rfl
        | some path =>
            obtain ⟨content, isLone, -⟩ := (lone?_eq_some_iff _ path).1 loneNow
            rw [pieces_eq] at isLone
            obtain ⟨original, isLone⟩ := isLone_of_flatMap_reread isLone
            rw [(lone?_eq_some_iff text _).2 ⟨original, isLone, rfl⟩] at lone
            cases lone
      · intro content member
        rw [pieces_eq] at member
        obtain ⟨original, -, rfl⟩ := mem_flatMap_reread member
        exact isTrimmed_canonicalContent declared original
      · intro content member
        rw [pieces_eq] at member
        obtain ⟨original, -, rfl⟩ := mem_flatMap_reread member
        rw [slotPath_canonicalContent]
        exact root_canonicalPath_not_mem fresh _

/-! ## Values in canonical form -/

mutual

/-- The texts of a canonical value are those of the written one, made canonical. -/
theorem texts_canonical : ∀ value : Value,
    (canonical declared value).texts = value.texts.map (canonicalText declared)
  | .str text => rfl
  | .arr items => by rw [canonical, Value.texts, Value.texts, textsOfItems_canonicalItems items]
  | .obj fields => by rw [canonical, Value.texts, Value.texts, textsOfFields_canonicalFields fields]
  | .null | .bool _ | .int _ | .float _ => rfl

theorem textsOfItems_canonicalItems : ∀ items : List Value,
    Value.textsOfItems (canonicalItems declared items) =
      (Value.textsOfItems items).map (canonicalText declared)
  | [] => rfl
  | item :: rest => by
      rw [canonicalItems, Value.textsOfItems, Value.textsOfItems, texts_canonical item,
        textsOfItems_canonicalItems rest, List.map_append]

theorem textsOfFields_canonicalFields : ∀ fields : List (Name × Value),
    Value.textsOfFields (canonicalFields declared fields) =
      (Value.textsOfFields fields).map (canonicalText declared)
  | [] => rfl
  | (name, value) :: rest => by
      rw [canonicalFields, Value.textsOfFields, Value.textsOfFields, texts_canonical value,
        textsOfFields_canonicalFields rest, List.map_append]

end

mutual

/-- A value whose texts are all in canonical form is left alone. -/
theorem canonical_of_isCanonical : ∀ value : Value,
    (∀ text ∈ value.texts, IsCanonical declared text) → canonical declared value = value
  | .str text, form => by
      rw [canonical, (form text (List.mem_singleton.2 rfl)).canonicalText_eq]
  | .arr items, form => by rw [canonical, canonicalItems_of_isCanonical items form]
  | .obj fields, form => by rw [canonical, canonicalFields_of_isCanonical fields form]
  | .null, _ | .bool _, _ | .int _, _ | .float _, _ => rfl

theorem canonicalItems_of_isCanonical : ∀ items : List Value,
    (∀ text ∈ Value.textsOfItems items, IsCanonical declared text) →
      canonicalItems declared items = items
  | [], _ => rfl
  | item :: rest, form => by
      rw [Value.textsOfItems, List.forall_mem_append] at form
      rw [canonicalItems, canonical_of_isCanonical item form.1,
        canonicalItems_of_isCanonical rest form.2]

theorem canonicalFields_of_isCanonical : ∀ fields : List (Name × Value),
    (∀ text ∈ Value.textsOfFields fields, IsCanonical declared text) →
      canonicalFields declared fields = fields
  | [], _ => rfl
  | (name, value) :: rest, form => by
      rw [Value.textsOfFields, List.forall_mem_append] at form
      rw [canonicalFields, canonical_of_isCanonical value form.1,
        canonicalFields_of_isCanonical rest form.2]

end

theorem isCanonical_of_mem_texts (fresh : "input" ∉ declared) {value : Value} {text : String}
    (member : text ∈ (canonical declared value).texts) : IsCanonical declared text := by
  rw [texts_canonical] at member
  obtain ⟨written, -, rfl⟩ := List.mem_map.1 member
  exact isCanonical_canonicalText fresh written

/-- Making templates canonical is idempotent when `input` is not declared: it brings every text in a
value into canonical form, and leaves exactly those values alone in which all texts have it. -/
theorem canonical_canonical (declared : List String) (fresh : "input" ∉ declared) (value : Value) :
    canonical declared (canonical declared value) = canonical declared value ∧
      (∀ text ∈ (canonical declared value).texts, IsCanonical declared text) ∧
      (canonical declared value = value ↔ ∀ text ∈ value.texts, IsCanonical declared text) := by
  have formed : ∀ text ∈ (canonical declared value).texts, IsCanonical declared text :=
    fun _ member => isCanonical_of_mem_texts fresh member
  refine ⟨canonical_of_isCanonical _ formed, formed, ?_, canonical_of_isCanonical value⟩
  intro same
  rwa [same] at formed

/-- Stray, nested, adjacent and blank slots in one value. -/
theorem canonical_canonical_adjacent :
    let value : Value := .obj
      [("to", .str " \x7b\x7b email \x7d\x7d "),
        ("body", .arr [.str "\x7b\x7b\x7b email \x7d\x7d\x7d\x7b\x7b \x7d\x7d\x7b\x7buser\x7d\x7d",
          .str "\x7b\x7b a \x7b\x7b email\x7d\x7d\x7d\x7d", .bool true])]
    let result : Value := .obj
      [("to", .str "input.email"),
        ("body", .arr
          [.str "\x7b\x7b\x7binput.email\x7d\x7d\x7d\x7b\x7b\x7d\x7d\x7b\x7buser\x7d\x7d",
          .str "\x7b\x7b a \x7b\x7binput.email\x7d\x7d\x7d\x7d", .bool true])]
    "input" ∉ ["email"] ∧ canonical ["email"] value = result ∧
      canonical ["email"] result = result ∧ ∀ text ∈ result.texts, IsCanonical ["email"] text := by
  intro value result
  have fresh : "input" ∉ ["email"] := by decide
  have made : canonical ["email"] value = result := by with_unfolding_all rfl
  obtain ⟨twice, formed, -⟩ := canonical_canonical ["email"] fresh value
  rw [made] at twice formed
  exact ⟨fresh, made, twice, formed⟩

end Template

end Workflow
