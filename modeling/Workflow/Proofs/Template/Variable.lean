import Workflow.Proofs.Template.Filling

/-!
# Placeholders for variables

A name without points is a path of one segment, and one without braces can stand in a placeholder.
Where such a name is that of a declared input variable, no text becomes it when its templates are
made canonical but the name itself: whatever a placeholder becomes has another root.
-/

namespace Workflow

namespace Path

/-- A path is split at its first point. -/
theorem splitPoints_append {front : List Char} (plain : '.' ∉ front) (rest : List Char) :
    splitPoints (front ++ '.' :: rest) = front :: splitPoints rest := by
  induction front with
  | nil => rfl
  | cons c front ih =>
      simp only [List.mem_cons, not_or] at plain
      rw [List.cons_append, splitPoints, if_neg (Ne.symm plain.1), ih plain.2]

theorem splitPoints_of_plain {chars : List Char} (plain : '.' ∉ chars) :
    splitPoints chars = [chars] := by
  induction chars with
  | nil => rfl
  | cons c rest ih =>
      simp only [List.mem_cons, not_or] at plain
      rw [splitPoints, if_neg (Ne.symm plain.1), ih plain.2]

variable {name : String}

/-- A name without points is a path of one segment. -/
theorem segments_of_plain (plain : '.' ∉ name.toList) : segments name = [name] := by
  rw [segments, splitPoints_of_plain plain, List.map_singleton, String.ofList_toList]

theorem root_of_plain (plain : '.' ∉ name.toList) : root name = name := by
  have head := head?_segments name
  rw [segments_of_plain plain] at head
  exact (Option.some.inj head).symm

theorem segments_input_append (plain : '.' ∉ name.toList) :
    segments ("input." ++ name) = ["input", name] := by
  have chars_eq : ("input." ++ name).toList = "input".toList ++ '.' :: name.toList := by simp
  rw [segments, chars_eq, splitPoints_append (by decide), splitPoints_of_plain plain]
  simp

end Path

namespace Template

open Text (isBlank strip trimChars)

variable {declared : List String} {name : String}

/-! ## The placeholder of a name -/

/-- The text that is nothing but a slot with a name in it. -/
def placeholder (name : String) : String := "\x7b\x7b" ++ name ++ "\x7d\x7d"

/-- The placeholder of a trimmed name without braces has the name as its path. -/
theorem lone?_placeholder (given : name ≠ "") (trimmed : Text.IsTrimmed isBlank name.toList)
    (plain : ∀ c ∈ name.toList, isBrace c = false) : lone? (placeholder name) = some name := by
  have clean : IsContent name.toList := ⟨by simpa using given, plain⟩
  have pieces_eq : pieces (placeholder name) = [.slot name.toList] := by
    have chars_eq : (placeholder name).toList =
        '{' :: '{' :: (name.toList ++ '}' :: '}' :: []) := by simp [placeholder]
    rw [pieces, chars_eq, scan_slot clean, scan_nil]
  rw [lone?_eq_some_iff, pieces_eq]
  exact ⟨name.toList, ⟨[], [], by simp, by simp, rfl⟩, slotPath_toList_eq trimmed⟩

/-- A declared name without points is moved into the input namespace. -/
theorem canonicalPath_of_declared (known : name ∈ declared) (pointless : '.' ∉ name.toList) :
    canonicalPath name declared = "input." ++ name := by
  rw [canonicalPath, Path.root_of_plain pointless, if_pos (by simpa using known)]

/-- Where an object is bound to `input`, a lone slot with a declared name stands for the field of that
name. -/
theorem resolve_canonical_of_declared {environment input : Object} {written : String}
    (lone : lone? written = some name) (given : name ≠ "") (known : name ∈ declared)
    (pointless : '.' ∉ name.toList) (bound : Value.field environment "input" = .obj input) :
    resolve environment (canonical declared (.str written)) = .ok (Value.field input name) := by
  have path_eq := canonicalPath_of_declared known pointless
  obtain ⟨noSlot, notLone⟩ := hasSlot_canonicalPath lone given declared
  rw [path_eq] at noSlot notLone
  rw [canonical_of_lone lone, path_eq]
  exact resolve_pair (Path.segments_input_append pointless) bound notLone noSlot

/-! ## Texts that become a name -/

theorem toList_strip (text : String) : (strip text).toList = trimChars isBlank text.toList :=
  String.toList_ofList

/-- Stripping leaves all characters there that are not blank. -/
theorem mem_strip_of_mem {text : String} {c : Char} (member : c ∈ text.toList)
    (solid : isBlank c = false) : c ∈ (strip text).toList := by
  rw [toList_strip]
  exact Text.mem_trimChars_of_mem member solid

/-- A text with slots around which more stands still has braces when it is made canonical. -/
theorem opening_mem_canonicalText {text : String} (amid : lone? text = none)
    (slotted : hasSlot text = true) : '{' ∈ (canonicalText declared text).toList := by
  obtain ⟨content, member⟩ := (hasSlot_iff text).1 slotted
  rw [canonicalText, amid, toList_join_canonical, charsOf, List.mem_flatMap]
  exact ⟨_, List.mem_map_of_mem member, List.mem_cons_self⟩

/-- A text that strips to a name without braces is left as it is. -/
theorem canonicalText_of_strip {text : String}
    (plain : ∀ c ∈ (strip text).toList, isBrace c = false) :
    canonicalText declared text = text := by
  have free : ∀ c ∈ text.toList, isBrace c = false := by
    intro c member
    by_contra brace
    have solid := not_isBlank_of_isBrace (by simpa using brace)
    exact brace (plain c (mem_strip_of_mem member solid))
  obtain ⟨noSlot, notLone⟩ := hasSlot_eq_false_of_plain free
  exact canonicalText_of_no_slot notLone noSlot

/-- What a lone slot becomes is no declared name without points. -/
theorem strip_canonicalPath_ne {text path : String} (lone : lone? text = some path)
    (known : name ∈ declared) (pointless : '.' ∉ name.toList) :
    strip (canonicalPath path declared) ≠ name := by
  rintro rfl
  by_cases moved : Path.root path ∈ declared
  · -- The point after `input` is not stripped.
    rw [canonicalPath, if_pos (by simpa using moved)] at pointless
    exact pointless (mem_strip_of_mem (by simp) (by decide))
  · -- The path is the name, and so is its root, which is declared.
    obtain ⟨content, -, path_eq⟩ := exists_slot_of_lone lone
    have trimmed : Text.IsTrimmed isBlank path.toList := by
      rw [← path_eq, toList_slotPath]
      exact Text.isTrimmed_trimChars isBlank content
    have strip_eq : strip path = path := slotPath_toList_eq trimmed
    rw [canonicalPath, if_neg (by simpa using moved), strip_eq] at known pointless
    rw [Path.root_of_plain pointless] at moved
    exact moved known

/-- When the templates of a text are made canonical, the text becomes a declared name exactly if it
is the name. -/
theorem strip_canonicalText_eq_iff (known : name ∈ declared) (pointless : '.' ∉ name.toList)
    (plain : ∀ c ∈ name.toList, isBrace c = false) (text : String) :
    strip (canonicalText declared text) = name ↔ strip text = name := by
  constructor
  · intro strip_eq
    cases lone : lone? text with
    | some path =>
        have text_eq : canonicalText declared text = canonicalPath path declared := by
          rw [canonicalText, lone]
        rw [text_eq] at strip_eq
        exact absurd strip_eq (strip_canonicalPath_ne lone known pointless)
    | none =>
        cases slotted : hasSlot text with
        | true =>
            have opening : '{' ∈ (strip (canonicalText declared text)).toList :=
              mem_strip_of_mem (opening_mem_canonicalText lone slotted) (not_isBlank_of_isBrace rfl)
            rw [strip_eq] at opening
            cases plain '{' opening
        | false => rwa [canonicalText_of_no_slot lone slotted] at strip_eq
  · rintro rfl
    rw [canonicalText_of_strip plain]

end Template

end Workflow
