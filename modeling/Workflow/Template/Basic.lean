import Workflow.Text.Blank

/-!
# Templates

A template is a text with slots.  A slot is a non-empty run without braces, with two opening braces
right before it and two closing braces right after it; the slot's path is that run without the
blanks around it.  Every other character, other braces included, is plain text.
-/

namespace Workflow.Template

open Text (isBlank trimChars)

/-- A part of a template. -/
inductive Piece where
  | char (c : Char)
  | slot (content : List Char)
deriving DecidableEq

/-- The characters of a piece. -/
def Piece.chars : Piece → List Char
  | .char c => [c]
  | .slot content => '{' :: '{' :: content ++ ['}', '}']

/-- Braces end a run. -/
def isBrace (c : Char) : Bool := c = '{' || c = '}'

/-- Read a slot whose two opening braces have been read: its content and what follows it. -/
def slot? (chars : List Char) : Option (List Char × List Char) :=
  match chars.takeWhile (!isBrace ·), chars.dropWhile (!isBrace ·) with
  | c :: run, '}' :: '}' :: left => some (c :: run, left)
  | _, _ => none

/-- A slot is its content and two closing braces. -/
theorem slot?_chars {chars content left : List Char} (h : slot? chars = some (content, left)) :
    chars = content ++ '}' :: '}' :: left := by
  unfold slot? at h
  split at h
  · rename_i c run rest run_eq rest_eq
    simp only [Option.some.injEq, Prod.mk.injEq] at h
    obtain ⟨rfl, rfl⟩ := h
    have whole := List.takeWhile_append_dropWhile (p := (!isBrace ·)) (l := chars)
    rw [run_eq, rest_eq] at whole
    exact whole.symm
  · cases h

/-- What follows a slot is shorter than the slot with it. -/
theorem slot?_length {chars content left : List Char} (h : slot? chars = some (content, left)) :
    left.length < chars.length := by
  rw [slot?_chars h]
  simp
  omega

/-- The pieces of a template, in order. -/
def scan : List Char → List Piece
  | [] => []
  | '{' :: '{' :: rest =>
    match h : slot? rest with
    | some (content, left) =>
      have : left.length < rest.length := slot?_length h
      .slot content :: scan left
    | none => .char '{' :: scan ('{' :: rest)
  | c :: rest => .char c :: scan rest
termination_by chars => chars.length

/-- The pieces of a template make it up: nothing is lost. -/
theorem flatMap_chars_scan (chars : List Char) : (scan chars).flatMap Piece.chars = chars := by
  fun_induction scan chars with
  | case1 => rfl
  | case2 rest content left h _ ih => simp [Piece.chars, ih, slot?_chars h]
  | case3 rest h ih => simp [Piece.chars, ih]
  | case4 c rest _ ih => simp [Piece.chars, ih]

/-- The pieces of a text. -/
def pieces (text : String) : List Piece := scan text.toList

/-- The path of a slot. -/
def slotPath (content : List Char) : String := String.ofList (trimChars isBlank content)

/-- The path of a text that is a lone slot, up to blanks around it. -/
def lone? (text : String) : Option String :=
  match text.toList.dropWhile isBlank with
  | '{' :: '{' :: rest =>
    match slot? rest with
    | some (content, left) => if left.all isBlank then some (slotPath content) else none
    | none => none
  | _ => none

/-- Whether a text has a slot. -/
def hasSlot (text : String) : Bool :=
  (pieces text).any fun
    | .slot _ => true
    | .char _ => false

end Workflow.Template
