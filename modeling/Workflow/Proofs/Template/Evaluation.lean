import Workflow.Proofs.Outcome
import Workflow.Proofs.Template.Pieces
import Workflow.Proofs.Text.Trim
import Workflow.Template.Canonical
import Workflow.Template.Resolve

/-!
# Evaluating templates in one pass

A template is made canonical when a graph is compiled and resolved when a step runs.  The two passes
together come to one evaluation of the template as it was written, with the declared variables and
the environment at hand: the walk keeps arrays, objects and their names, and says of each text what
becomes of it.

Blank slots are left out, since a slot with an empty path is no slot any more once it is canonical.
-/

namespace Workflow

namespace Value

mutual

/-- The texts in a value, in order. -/
def texts : Value → List String
  | .str text => [text]
  | .arr items => textsOfItems items
  | .obj fields => textsOfFields fields
  | _ => []

/-- The texts in the items of an array. -/
def textsOfItems : List Value → List String
  | [] => []
  | item :: rest => texts item ++ textsOfItems rest

/-- The texts in the fields of an object; names do not count. -/
def textsOfFields : List (Name × Value) → List String
  | [] => []
  | (_, value) :: rest => texts value ++ textsOfFields rest

end

mutual

/-- One value is like another outside the texts of the first: it has the same arrays, names and other
values, and anything where the first has a text. -/
def SameOutsideTexts : Value → Value → Prop
  | .str _, _ => True
  | .arr items, .arr others => SameOutsideTextsOfItems items others
  | .obj fields, .obj others => SameOutsideTextsOfFields fields others
  | .null, .null => True
  | .bool flag, .bool other => flag = other
  | .int number, .int other => number = other
  | .float number, .float other => number = other
  | _, _ => False

/-- The items of one array are like those of another outside texts. -/
def SameOutsideTextsOfItems : List Value → List Value → Prop
  | [], [] => True
  | item :: rest, other :: others =>
    SameOutsideTexts item other ∧ SameOutsideTextsOfItems rest others
  | _, _ => False

/-- The fields of one object have the names of those of another and are like them outside texts. -/
def SameOutsideTextsOfFields : List (Name × Value) → List (Name × Value) → Prop
  | [], [] => True
  | (name, value) :: rest, (otherName, other) :: others =>
    name = otherName ∧ SameOutsideTexts value other ∧ SameOutsideTextsOfFields rest others
  | _, _ => False

end

end Value

namespace Template

open Text (isBlank)

/-- Whether a piece is a slot with an empty path. -/
def Piece.isBlankSlot : Piece → Bool
  | .char _ => false
  | .slot content => slotPath content = ""

/-- No slot of a text has an empty path. -/
def HasNoBlankSlot (text : String) : Prop := ∀ piece ∈ pieces text, piece.isBlankSlot = false

instance (text : String) : Decidable (HasNoBlankSlot text) :=
  inferInstanceAs (Decidable (∀ piece ∈ pieces text, piece.isBlankSlot = false))

theorem HasNoBlankSlot.slotPath_ne {text : String} (given : HasNoBlankSlot text)
    {content : List Char} (member : .slot content ∈ pieces text) : slotPath content ≠ "" := by
  simpa [Piece.isBlankSlot] using given _ member

/-! ## The evaluation -/

/-- What a piece of a written template stands for. -/
def Piece.evaluate (environment : Object) (declared : List String) : Piece → Except Fault String
  | .char c => .ok c.toString
  | .slot content =>
    Template.fill (Path.lookup environment (canonicalPath (slotPath content) declared))

/-- What a written text stands for.  A lone slot is an input variable if its root is declared, a
reference if its root is bound, and its bare path if neither; a text with other slots has them filled
in; and a text without slots is a reference if its root is bound, or else itself. -/
def evaluateText (environment : Object) (declared : List String) (text : String) :
    Except Fault Value :=
  match lone? text with
  | some path =>
    if declared.contains (Path.root path) then .ok (Path.lookup environment ("input." ++ path))
    else if Object.contains environment (Path.root path) then .ok (Path.lookup environment path)
    else .ok (.str path)
  | none =>
    if hasSlot text then do
      let parts ← (pieces text).mapM (Piece.evaluate environment declared)
      return .str (String.join parts)
    else if Object.contains environment (Path.root text) then .ok (Path.lookup environment text)
    else .ok (.str text)

mutual

/-- Evaluate the texts in a written value; all else stays. -/
def evaluate (environment : Object) (declared : List String) : Value → Except Fault Value
  | .str text => evaluateText environment declared text
  | .arr items => do
    let evaluated ← evaluateItems environment declared items
    return .arr evaluated
  | .obj fields => do
    let evaluated ← evaluateFields environment declared fields
    return .obj evaluated
  | value => .ok value

/-- Evaluate the items of an array in order. -/
def evaluateItems (environment : Object) (declared : List String) :
    List Value → Except Fault (List Value)
  | [] => .ok []
  | item :: rest => do
    let first ← evaluate environment declared item
    let others ← evaluateItems environment declared rest
    return first :: others

/-- Evaluate the fields of an object in order, under their names. -/
def evaluateFields (environment : Object) (declared : List String) :
    List (Name × Value) → Except Fault (List (Name × Value))
  | [] => .ok []
  | (name, value) :: rest => do
    let first ← evaluate environment declared value
    let others ← evaluateFields environment declared rest
    return (name, first) :: others

end

/-! ## Canonical contents -/

/-- The content of a slot after its path was made canonical. -/
def canonicalContent (declared : List String) (content : List Char) : List Char :=
  (canonicalPath (slotPath content) declared).toList

theorem toList_slotPath (content : List Char) :
    (slotPath content).toList = Text.trimChars isBlank content :=
  String.toList_ofList

theorem slotPath_toList_eq {path : String} (trimmed : Text.IsTrimmed isBlank path.toList) :
    slotPath path.toList = path := by
  rw [slotPath, trimmed.trimChars_eq, String.ofList_toList]

section Canonical

variable (declared : List String) {content : List Char}

/-- A canonical path is trimmed. -/
theorem isTrimmed_canonicalContent (content : List Char) :
    Text.IsTrimmed isBlank (canonicalContent declared content) := by
  have trimmed : Text.IsTrimmed isBlank (slotPath content).toList := by
    rw [toList_slotPath]
    exact Text.isTrimmed_trimChars isBlank content
  have begins : ∀ c ∈ "input.".toList.head?, isBlank c = false := by
    intro c isHead
    obtain rfl : 'i' = c := by simpa using isHead
    decide
  unfold canonicalContent canonicalPath
  split
  · rw [String.toList_append]
    by_cases given : (slotPath content).toList = []
    · rw [given, List.append_nil]
      refine ⟨begins, ?_⟩
      intro c isLast
      obtain rfl : '.' = c := by simpa using isLast
      decide
    · exact trimmed.append begins given
  · exact trimmed

/-- A canonical path has no braces. -/
theorem isBrace_canonicalContent (clean : IsContent content) :
    ∀ c ∈ canonicalContent declared content, isBrace c = false := by
  have free : ∀ c ∈ (slotPath content).toList, isBrace c = false := by
    intro c member
    rw [toList_slotPath] at member
    exact clean.2 c (Text.mem_of_mem_trimChars member)
  unfold canonicalContent canonicalPath
  split
  · rw [String.toList_append]
    have freePrefix : ∀ c ∈ "input.".toList, isBrace c = false := by simp [isBrace]
    intro c member
    rcases List.mem_append.1 member with inPrefix | inPath
    · exact freePrefix c inPrefix
    · exact free c inPath
  · exact free

theorem isContent_canonicalContent (clean : IsContent content) (given : slotPath content ≠ "") :
    IsContent (canonicalContent declared content) := by
  refine ⟨?_, isBrace_canonicalContent declared clean⟩
  unfold canonicalContent canonicalPath
  split
  · simp
  · simpa using given

/-- Making a path canonical is not undone by reading the slot again. -/
theorem slotPath_canonicalContent (content : List Char) :
    slotPath (canonicalContent declared content) = canonicalPath (slotPath content) declared :=
  slotPath_toList_eq (isTrimmed_canonicalContent declared content)

end Canonical

/-! ## Canonical texts -/

theorem toList_join_canonical (declared : List String) (pieces : List Piece) :
    (String.join (pieces.map (Piece.canonical declared))).toList =
      charsOf (pieces.map (Piece.replace (canonicalContent declared))) := by
  rw [String.toList_join, charsOf, List.flatMap_map, List.flatMap_map]
  congr 1
  funext piece
  cases piece with
  | char c => simp [Piece.canonical, Piece.replace, Piece.chars]
  | slot content =>
      simp [Piece.canonical, Piece.replace, Piece.chars, canonicalContent]

/-- Read again, a canonical text has the pieces of the written one with their paths canonical. -/
theorem pieces_canonicalText {declared : List String} {text : String} (amid : lone? text = none)
    (given : HasNoBlankSlot text) :
    pieces (canonicalText declared text) =
      (pieces text).map (Piece.replace (canonicalContent declared)) := by
  have settled : Settled (pieces text) := settled_scan text.toList
  have replaced := settled.replace (canonicalContent declared) fun _ member =>
    isContent_canonicalContent declared (settled.isContent member) (given.slotPath_ne member)
  unfold canonicalText
  rw [amid]
  dsimp only
  rw [pieces, toList_join_canonical]
  exact replaced.scan_charsOf

theorem hasSlot_iff (text : String) : hasSlot text = true ↔ ∃ content, .slot content ∈ pieces text := by
  unfold hasSlot
  rw [List.any_eq_true]
  constructor
  · rintro ⟨piece, member, isSlot⟩
    cases piece with
    | char c => cases isSlot
    | slot content => exact ⟨content, member⟩
  · rintro ⟨content, member⟩
    exact ⟨.slot content, member, rfl⟩

/-- A text without braces has no slot and is not lone. -/
theorem hasSlot_eq_false_of_plain {text : String} (plain : ∀ c ∈ text.toList, isBrace c = false) :
    hasSlot text = false ∧ lone? text = none := by
  have noOpening : '{' ∉ text.toList := fun member => by simpa [isBrace] using plain _ member
  have onlyChars : ∀ content, .slot content ∉ pieces text := by
    intro content member
    rw [pieces, scan_of_plain noOpening] at member
    obtain ⟨c, _, impossible⟩ := List.mem_map.1 member
    cases impossible
  constructor
  · by_contra slotted
    obtain ⟨content, member⟩ := (hasSlot_iff text).1 (by simpa using slotted)
    exact onlyChars content member
  · cases lone : lone? text with
    | none => rfl
    | some path =>
        obtain ⟨content, ⟨before, after, _, _, pieces_eq⟩, _⟩ := (lone?_eq_some_iff text path).1 lone
        refine absurd ?_ (onlyChars content)
        rw [pieces_eq]
        exact List.mem_append_right _ List.mem_cons_self

theorem lone?_canonicalText {declared : List String} {text : String} (amid : lone? text = none)
    (given : HasNoBlankSlot text) : lone? (canonicalText declared text) = none := by
  cases lone : lone? (canonicalText declared text) with
  | none => rfl
  | some path =>
      obtain ⟨content, isLone, _⟩ := (lone?_eq_some_iff _ path).1 lone
      rw [pieces_canonicalText amid given] at isLone
      obtain ⟨original, isLone⟩ := isLone.of_replace
      have := (lone?_eq_some_iff text _).2 ⟨original, isLone, rfl⟩
      rw [amid] at this
      cases this

theorem hasSlot_canonicalText {declared : List String} {text : String} (amid : lone? text = none)
    (given : HasNoBlankSlot text) : hasSlot (canonicalText declared text) = hasSlot text := by
  unfold hasSlot
  rw [pieces_canonicalText amid given, List.any_map]
  congr 1
  funext piece
  cases piece <;> rfl

/-- A text that is not lone is canonical as it is when the paths of its slots are. -/
theorem canonicalText_of_fixed {declared : List String} {text : String}
    (amid : lone? text = none)
    (fixed : ∀ content, .slot content ∈ pieces text → canonicalContent declared content = content) :
    canonicalText declared text = text := by
  have same : (pieces text).map (Piece.replace (canonicalContent declared)) = pieces text := by
    conv => rhs; rw [← List.map_id (pieces text)]
    refine List.map_congr_left fun piece member => ?_
    cases piece with
    | char c => rfl
    | slot content => rw [Piece.replace, fixed content member, id_eq]
  unfold canonicalText
  rw [amid]
  apply String.toList_injective
  dsimp only
  rw [toList_join_canonical, same]
  exact flatMap_chars_scan text.toList

/-- A text without slots is canonical as it is. -/
theorem canonicalText_of_no_slot {declared : List String} {text : String}
    (amid : lone? text = none) (none : hasSlot text = false) :
    canonicalText declared text = text := by
  apply canonicalText_of_fixed amid
  intro content member
  have slotted := (hasSlot_iff text).2 ⟨content, member⟩
  rw [none] at slotted
  cases slotted

/-! ## Two passes in one -/

theorem fillPieces_replace (environment : Object) (declared : List String) (pieces : List Piece) :
    fillPieces environment (pieces.map (Piece.replace (canonicalContent declared))) =
      (pieces.mapM (Piece.evaluate environment declared)).map String.join := by
  induction pieces with
  | nil => rfl
  | cons piece rest ih =>
      have here : (piece.replace (canonicalContent declared)).fill environment =
          piece.evaluate environment declared := by
        cases piece with
        | char c => rfl
        | slot content =>
            simp only [Piece.replace, Piece.fill, Piece.evaluate]
            rw [slotPath_canonicalContent]
      rw [List.map_cons, fillPieces, here, List.mapM_cons, ih]
      cases piece.evaluate environment declared with
      | error fault => rfl
      | ok first =>
          cases rest.mapM (Piece.evaluate environment declared) with
          | error fault => rfl
          | ok others => simp [Except.map, pure, Except.pure]

theorem resolveText_of_no_slot {environment : Object} {text : String} (amid : lone? text = none)
    (none : hasSlot text = false) :
    resolveText environment text =
      if Object.contains environment (Path.root text) then .ok (Path.lookup environment text)
      else .ok (.str text) := by
  simp [resolveText, amid, none]

theorem root_input_append (path : String) : Path.root ("input." ++ path) = "input" := by
  simp [Path.root]

theorem exists_slot_of_lone {text path : String} (lone : lone? text = some path) :
    ∃ content, .slot content ∈ pieces text ∧ slotPath content = path := by
  obtain ⟨content, ⟨before, after, -, -, pieces_eq⟩, path_eq⟩ := (lone?_eq_some_iff text path).1 lone
  refine ⟨content, ?_, path_eq⟩
  rw [pieces_eq]
  exact List.mem_append_right _ List.mem_cons_self

/-- The path of a lone slot is a text without slots once it is canonical. -/
theorem hasSlot_canonicalPath {text path : String} (lone : lone? text = some path)
    (given : path ≠ "") (declared : List String) :
    hasSlot (canonicalPath path declared) = false ∧ lone? (canonicalPath path declared) = none := by
  obtain ⟨content, member, rfl⟩ := exists_slot_of_lone lone
  have clean : IsContent content := (settled_scan text.toList).isContent member
  exact hasSlot_eq_false_of_plain (isContent_canonicalContent declared clean given).2

theorem resolveText_canonicalText {environment : Object} {declared : List String} {text : String}
    (bound : Object.contains environment "input" = true) (given : HasNoBlankSlot text) :
    resolveText environment (canonicalText declared text) =
      evaluateText environment declared text := by
  cases lone : lone? text with
  | some path =>
      obtain ⟨content, member, path_eq⟩ := exists_slot_of_lone lone
      obtain ⟨noSlot, notLone⟩ :=
        hasSlot_canonicalPath lone (path_eq ▸ given.slotPath_ne member) declared
      have canonical_eq : canonicalText declared text = canonicalPath path declared := by
        simp [canonicalText, lone]
      rw [canonical_eq, resolveText_of_no_slot notLone noSlot, evaluateText, lone]
      unfold canonicalPath
      dsimp only
      split
      · rw [root_input_append, if_pos bound]
      · rfl
  | none =>
      cases slotted : hasSlot text with
      | true =>
          have still : hasSlot (canonicalText declared text) = true := by
            rw [hasSlot_canonicalText lone given, slotted]
          have filled := fillPieces_replace environment declared (pieces text)
          simp only [resolveText, lone?_canonicalText lone given, still, if_true, interpolate,
            pieces_canonicalText lone given, filled, evaluateText, lone, slotted]
          cases (pieces text).mapM (Piece.evaluate environment declared) <;> rfl
      | false =>
          rw [canonicalText_of_no_slot lone slotted, resolveText_of_no_slot lone slotted,
            evaluateText, lone, slotted]
          rfl

section Tree

variable {environment : Object} {declared : List String}

mutual

theorem resolve_canonical_of_bound (bound : Object.contains environment "input" = true) :
    ∀ value : Value, (∀ text ∈ value.texts, HasNoBlankSlot text) →
      resolve environment (canonical declared value) = evaluate environment declared value
  | .str text, given => resolveText_canonicalText bound (given text (by simp [Value.texts]))
  | .arr items, given => by
      simp only [canonical, resolve, evaluate,
        resolveItems_canonicalItems bound items (by simpa [Value.texts] using given)]
  | .obj fields, given => by
      simp only [canonical, resolve, evaluate,
        resolveFields_canonicalFields bound fields (by simpa [Value.texts] using given)]
  | .null, _ => rfl
  | .bool _, _ => rfl
  | .int _, _ => rfl
  | .float _, _ => rfl

theorem resolveItems_canonicalItems (bound : Object.contains environment "input" = true) :
    ∀ items : List Value, (∀ text ∈ Value.textsOfItems items, HasNoBlankSlot text) →
      resolveItems environment (canonicalItems declared items) =
        evaluateItems environment declared items
  | [], _ => rfl
  | item :: rest, given => by
      simp only [Value.textsOfItems, List.mem_append] at given
      simp only [canonicalItems, resolveItems, evaluateItems,
        resolve_canonical_of_bound bound item fun text member => given text (Or.inl member),
        resolveItems_canonicalItems bound rest fun text member => given text (Or.inr member)]

theorem resolveFields_canonicalFields (bound : Object.contains environment "input" = true) :
    ∀ fields : List (Name × Value), (∀ text ∈ Value.textsOfFields fields, HasNoBlankSlot text) →
      resolveFields environment (canonicalFields declared fields) =
        evaluateFields environment declared fields
  | [], _ => rfl
  | (name, value) :: rest, given => by
      simp only [Value.textsOfFields, List.mem_append] at given
      simp only [canonicalFields, resolveFields, evaluateFields,
        resolve_canonical_of_bound bound value fun text member => given text (Or.inl member),
        resolveFields_canonicalFields bound rest fun text member => given text (Or.inr member)]

end

mutual

theorem evaluate_sameOutsideTexts : ∀ {value result : Value},
    evaluate environment declared value = .ok result → value.SameOutsideTexts result
  | .str _, _, _ => trivial
  | .arr items, _, evaluated => by
      simp only [evaluate, Outcome.bind_eq_ok_iff, Outcome.pure_eq_ok_iff] at evaluated
      obtain ⟨others, evaluatedItems, rfl⟩ := evaluated
      exact evaluateItems_sameOutsideTexts evaluatedItems
  | .obj fields, _, evaluated => by
      simp only [evaluate, Outcome.bind_eq_ok_iff, Outcome.pure_eq_ok_iff] at evaluated
      obtain ⟨others, evaluatedFields, rfl⟩ := evaluated
      exact evaluateFields_sameOutsideTexts evaluatedFields
  | .null, _, rfl => trivial
  | .bool _, _, rfl => rfl
  | .int _, _, rfl => rfl
  | .float _, _, rfl => rfl

theorem evaluateItems_sameOutsideTexts : ∀ {items results : List Value},
    evaluateItems environment declared items = .ok results →
      Value.SameOutsideTextsOfItems items results
  | [], _, rfl => trivial
  | item :: rest, _, evaluated => by
      simp only [evaluateItems, Outcome.bind_eq_ok_iff, Outcome.pure_eq_ok_iff] at evaluated
      obtain ⟨first, evaluatedFirst, others, evaluatedRest, rfl⟩ := evaluated
      exact ⟨evaluate_sameOutsideTexts evaluatedFirst, evaluateItems_sameOutsideTexts evaluatedRest⟩

theorem evaluateFields_sameOutsideTexts : ∀ {fields results : List (Name × Value)},
    evaluateFields environment declared fields = .ok results →
      Value.SameOutsideTextsOfFields fields results
  | [], _, rfl => trivial
  | (name, value) :: rest, _, evaluated => by
      simp only [evaluateFields, Outcome.bind_eq_ok_iff, Outcome.pure_eq_ok_iff] at evaluated
      obtain ⟨first, evaluatedFirst, others, evaluatedRest, rfl⟩ := evaluated
      exact ⟨rfl, evaluate_sameOutsideTexts evaluatedFirst,
        evaluateFields_sameOutsideTexts evaluatedRest⟩

end

end Tree

/-- Making a template canonical and resolving it comes to evaluating it as it was written, which
changes nothing but texts. -/
theorem resolve_canonical (environment : Object) (declared : List String) (value : Value)
    (bound : Object.contains environment "input" = true)
    (given : ∀ text ∈ value.texts, HasNoBlankSlot text) :
    resolve environment (canonical declared value) = evaluate environment declared value ∧
      ∀ result, resolve environment (canonical declared value) = .ok result →
        value.SameOutsideTexts result := by
  have onePass : resolve environment (canonical declared value) =
      evaluate environment declared value := resolve_canonical_of_bound bound value given
  refine ⟨onePass, fun result resolved => ?_⟩
  rw [onePass] at resolved
  exact evaluate_sameOutsideTexts resolved

/-- Lone slots, slots amid braces, references and literals in one value. -/
theorem resolve_canonical_mixed :
    let environment : Object :=
      [("input", .obj [("email", .str "a@b.c")]), ("user", .obj [("tags", .arr [.str "x"])])]
    let value : Value := .obj
      [("to", .str " \x7b\x7b email \x7d\x7d "),
        ("body", .str "\x7bHi \x7b\x7bemail\x7d\x7d: \x7b\x7b user.tags \x7d\x7d\x7d"),
        ("more", .arr [.str "user.tags", .str "plain", .str "\x7b\x7bplain\x7d\x7d", .bool true])]
    let result : Value := .obj
      [("to", .str "a@b.c"), ("body", .str "\x7bHi a@b.c: [\"x\"]\x7d"),
        ("more", .arr [.arr [.str "x"], .str "plain", .str "plain", .bool true])]
    Object.contains environment "input" = true ∧ (∀ text ∈ value.texts, HasNoBlankSlot text) ∧
      resolve environment (canonical ["email"] value) = .ok result ∧
      evaluate environment ["email"] value = .ok result ∧ value.SameOutsideTexts result := by
  intro environment value result
  have bound : Object.contains environment "input" = true := rfl
  have given : ∀ text ∈ value.texts, HasNoBlankSlot text := by decide +kernel
  obtain ⟨onePass, outside⟩ := resolve_canonical environment ["email"] value bound given
  have evaluated : evaluate environment ["email"] value = .ok result := by with_unfolding_all rfl
  have resolved := onePass.trans evaluated
  exact ⟨bound, given, resolved, evaluated, outside result resolved⟩

end Template

end Workflow
