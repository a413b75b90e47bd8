import Workflow.Value.Basic
import Workflow.Number.Literal

/-!
# Dotted paths

A path names a place inside an environment: its segments, set apart by points, are followed one
after the other through objects and arrays.  Whatever is not there is null.
-/

namespace Workflow.Path

/-- Split at points; there is always at least one segment. -/
def splitPoints : List Char → List (List Char)
  | [] => [[]]
  | c :: rest =>
    if c = '.' then [] :: splitPoints rest
    else
      match splitPoints rest with
      | [] => [[c]]
      | segment :: segments => (c :: segment) :: segments

/-- The segments of a path. -/
def segments (path : String) : List String := (splitPoints path.toList).map String.ofList

/-- The first segment of a path. -/
def root (path : String) : String := String.ofList (path.toList.takeWhile (· ≠ '.'))

/-- An item of an array; a negative index counts from the end. -/
def item (items : List Value) (index : Int) : Value :=
  if 0 ≤ index then (items[index.toNat]?).getD .null
  else if index.natAbs ≤ items.length then (items[items.length - index.natAbs]?).getD .null
  else .null

/-- Follow one segment: a field of an object, or an item of an array when the segment denotes an
integer. -/
def follow : Value → String → Value
  | .obj fields, segment => Value.field fields segment
  | .arr items, segment =>
    match Number.readInt segment with
    | .ok index => item items index
    | .error _ => .null
  | _, _ => .null

/-- The value at a path, null when the path is empty or leads nowhere. -/
def lookup (environment : Object) (path : String) : Value :=
  if path = "" then .null else (segments path).foldl follow (.obj environment)

theorem splitPoints_ne_nil (chars : List Char) : splitPoints chars ≠ [] := by
  cases chars with
  | nil => simp [splitPoints]
  | cons c rest =>
    unfold splitPoints
    split
    · simp
    · split <;> simp

/-- The segments with points between them are the path. -/
theorem intercalate_splitPoints (chars : List Char) :
    ['.'].intercalate (splitPoints chars) = chars := by
  induction chars with
  | nil => simp [splitPoints]
  | cons c rest ih =>
    unfold splitPoints
    split
    · rename_i same
      subst same
      cases parts : splitPoints rest with
      | nil => exact absurd parts (splitPoints_ne_nil rest)
      | cons first others =>
        rw [parts] at ih
        simp [List.intercalate_cons_cons, ih]
    · split
      · rename_i empty
        exact absurd empty (splitPoints_ne_nil rest)
      · rename_i first others parts
        rw [parts] at ih
        rw [← ih]
        cases others <;> simp [List.intercalate]

theorem head?_splitPoints (chars : List Char) :
    (splitPoints chars).head? = some (chars.takeWhile (· ≠ '.')) := by
  induction chars with
  | nil => simp [splitPoints]
  | cons c rest ih =>
    unfold splitPoints
    split
    · rename_i same
      simp [same]
    · rename_i other
      split
      · rename_i empty
        exact absurd empty (splitPoints_ne_nil rest)
      · rename_i first others parts
        rw [parts] at ih
        simp_all

/-- The root of a path is its first segment. -/
theorem head?_segments (path : String) : (segments path).head? = some (root path) := by
  simp [segments, root, head?_splitPoints]

end Workflow.Path
