import Workflow.Proofs.Outcome
import Workflow.Proofs.Template.Reference

/-!
# References and pieces

A reference of two segments stands for a field of a bound object, and a text is filled in one part
after the other.
-/

namespace Workflow

/-- A path of two segments leads to a field of a bound object. -/
theorem Path.lookup_pair {environment fields : Object} {path first second : String}
    (segmented : segments path = [first, second])
    (bound : Value.field environment first = .obj fields) :
    lookup environment path = Value.field fields second := by
  have given : path ≠ "" := by
    rintro rfl
    cases segmented
  rw [lookup_eq_foldl given segmented, bound, List.foldl_cons, follow, List.foldl_nil]

namespace Template

variable {environment : Object}

/-- A reference of two segments stands for a field of a bound object. -/
theorem resolve_pair {fields : Object} {path first second : String}
    (segmented : Path.segments path = [first, second])
    (bound : Value.field environment first = .obj fields) (amid : lone? path = none)
    (plain : hasSlot path = false) :
    resolve environment (.str path) = .ok (Value.field fields second) := by
  have root_eq : Path.root path = first := by
    have head := Path.head?_segments path
    rw [segmented] at head
    exact (Option.some.inj head).symm
  have present : Object.contains environment first = true := by
    unfold Value.field at bound
    unfold Object.contains
    cases found : Object.get? environment first with
    | none => rw [found] at bound; cases bound
    | some value => rfl
  rw [resolve, resolveText_of_no_slot amid plain, root_eq, if_pos present,
    Path.lookup_pair segmented bound]

/-- Plain characters are filled in as they are. -/
theorem fillPieces_chars (chars : List Char) :
    fillPieces environment (chars.map .char) = .ok (String.ofList chars) := by
  induction chars with
  | nil => rfl
  | cons c rest ih =>
      rw [List.map_cons, fillPieces, ih]
      refine congrArg Except.ok (String.toList_injective ?_)
      simp

theorem fillPieces_append {first second : List Piece} {beginning ending : String}
    (begun : fillPieces environment first = .ok beginning)
    (ended : fillPieces environment second = .ok ending) :
    fillPieces environment (first ++ second) = .ok (beginning ++ ending) := by
  induction first generalizing beginning with
  | nil =>
      obtain rfl := Except.ok.inj begun
      simpa using ended
  | cons piece rest ih =>
      rw [fillPieces] at begun
      obtain ⟨filled, piece_eq, begun⟩ := Outcome.bind_eq_ok_iff.1 begun
      obtain ⟨others, rest_eq, begun⟩ := Outcome.bind_eq_ok_iff.1 begun
      obtain rfl := Outcome.pure_eq_ok_iff.1 begun
      rw [List.cons_append, fillPieces, piece_eq, ih rest_eq, String.append_assoc]
      rfl

/-- A slot is filled in with what its path leads to. -/
theorem fillPieces_slot {content : List Char} {path shown : String}
    (path_eq : slotPath content = path) (filled : fill (Path.lookup environment path) = .ok shown) :
    fillPieces environment [.slot content] = .ok shown := by
  rw [fillPieces, Piece.fill, path_eq, filled, fillPieces]
  exact congrArg Except.ok String.append_empty

end Template

end Workflow
