import Workflow.Proofs.Template.Evaluation

/-!
# References

A lone slot in the field of a node is a reference in the field of its step: a path that starts at its
root.  What a reference stands for depends on nothing but the value that its root is bound to.
-/

namespace Workflow

namespace Path

theorem exists_segments_eq (path : String) : ∃ rest, segments path = root path :: rest := by
  have head := head?_segments path
  cases parts : segments path with
  | nil =>
      rw [parts] at head
      cases head
  | cons first rest =>
      rw [parts] at head
      exact ⟨rest, by rw [Option.some.inj head]⟩

/-- A path with one segment is its root. -/
theorem eq_root_of_segments {path first : String} (single : segments path = [first]) :
    path = first := by
  obtain ⟨chars, parts, rfl⟩ : ∃ chars, splitPoints path.toList = [chars] ∧
      String.ofList chars = first := by
    simpa [segments, List.map_eq_singleton_iff] using single
  have whole := intercalate_splitPoints path.toList
  rw [parts, List.intercalate_singleton] at whole
  rw [whole, String.ofList_toList]

/-- Below null there is nothing. -/
theorem foldl_follow_null (segments : List String) : segments.foldl follow .null = .null := by
  induction segments with
  | nil => rfl
  | cons segment rest ih => exact ih

variable {environment other : Object} {path first : String} {rest : List String}

/-- A path is followed from the value of its root. -/
theorem lookup_eq_foldl (given : path ≠ "") (segmented : segments path = first :: rest) :
    lookup environment path = rest.foldl follow (Value.field environment first) := by
  rw [lookup, if_neg given, segmented, List.foldl_cons, follow]

/-- A path leads to the same in environments that bind its root to the same. -/
theorem lookup_congr_root
    (same : Value.field environment (root path) = Value.field other (root path)) :
    lookup environment path = lookup other path := by
  obtain ⟨rest, segmented⟩ := exists_segments_eq path
  by_cases given : path = ""
  · rw [lookup, lookup, if_pos given, if_pos given]
  · rw [lookup_eq_foldl given segmented, lookup_eq_foldl given segmented, same]

/-- A path that does not lead to null has a root that is bound. -/
theorem contains_root (found : lookup environment path ≠ .null) :
    Object.contains environment (root path) = true := by
  by_contra unbound
  have absent : Value.field environment (root path) = .null := by
    have missing : Object.get? environment (root path) = none := by
      simpa [Object.contains] using unbound
    rw [Value.field, missing, Option.getD_none]
  obtain ⟨rest, segmented⟩ := exists_segments_eq path
  apply found
  by_cases given : path = ""
  · rw [lookup, if_pos given]
  · rw [lookup_eq_foldl given segmented, absent, foldl_follow_null]

end Path

namespace Template

variable {declared : List String}

/-- The fields of an object keep their names when their templates are made canonical. -/
theorem field_canonicalFields (declared : List String) (fields : Object) (name : Name) :
    Value.field (canonicalFields declared fields) name =
      canonical declared (Value.field fields name) := by
  induction fields with
  | nil => rfl
  | cons field rest ih =>
      obtain ⟨known, value⟩ := field
      by_cases same : known.identity = name.identity
      · simp [canonicalFields, Value.field, Object.get?, same]
      · simpa [canonicalFields, Value.field, Object.get?, same] using ih

/-- The items of an array are made canonical one by one. -/
theorem canonicalItems_eq_map (declared : List String) (items : List Value) :
    canonicalItems declared items = items.map (canonical declared) := by
  induction items with
  | nil => rfl
  | cons item rest ih => rw [canonicalItems, ih, List.map_cons]

theorem mem_canonicalItems {items : List Value} {item : Value} (member : item ∈ items) :
    canonical declared item ∈ canonicalItems declared items := by
  rw [canonicalItems_eq_map]
  exact List.mem_map_of_mem member

theorem canonicalPath_ne {path : String} (given : path ≠ "") (declared : List String) :
    canonicalPath path declared ≠ "" := by
  unfold canonicalPath
  split
  · simp
  · exact given

/-- A lone slot becomes its canonical path. -/
theorem canonical_of_lone {text path : String} (lone : lone? text = some path) :
    canonical declared (.str text) = .str (canonicalPath path declared) := by
  rw [canonical, canonicalText, lone]

/-- A lone slot, made canonical, stands for the value at its canonical path when the root of the path
is bound. -/
theorem resolve_canonical_of_lone {environment : Object} {text path : String}
    (lone : lone? text = some path) (given : path ≠ "")
    (bound : Object.contains environment (Path.root (canonicalPath path declared)) = true) :
    resolve environment (canonical declared (.str text)) =
      .ok (Path.lookup environment (canonicalPath path declared)) := by
  obtain ⟨noSlot, notLone⟩ := hasSlot_canonicalPath lone given declared
  rw [canonical_of_lone lone, resolve, resolveText_of_no_slot notLone noSlot, if_pos bound]

end Template

end Workflow
