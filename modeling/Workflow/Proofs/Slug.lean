import Mathlib.Computability.Language
import Workflow.Proofs.Text.Trim
import Workflow.Slug

/-!
# Slugs in canonical form

The slug of a name is made of the maximal runs of letters and digits of its lowercase form, joined by
single hyphens.  Its own runs are the same again, and neither trimming nor lowercasing changes it, so
it is its own slug.
-/

namespace Workflow

namespace Text

variable {kept : Char → Bool}

/-- The maximal runs of kept characters in a text, in order.  Between them stand gaps without kept
characters; a run begins behind a gap, which may be empty only at the beginning of the text, and goes
on as far as the kept characters do. -/
inductive Runs (kept : Char → Bool) : List Char → List (List Char) → Prop where
  | done {gap : List Char} (free : ∀ c ∈ gap, kept c = false) : Runs kept gap []
  | run {gap run rest : List Char} {runs : List (List Char)} (free : ∀ c ∈ gap, kept c = false)
      (nonempty : run ≠ []) (all : ∀ c ∈ run, kept c = true)
      (ends : ∀ c ∈ rest.head?, kept c = false) (others : Runs kept rest runs) :
      Runs kept (gap ++ (run ++ rest)) (run :: runs)

theorem Runs.behind_gap {c : Char} {chars : List Char} {runs : List (List Char)}
    (other : kept c = false) (listed : Runs kept chars runs) : Runs kept (c :: chars) runs := by
  cases listed with
  | done free => exact .done (List.forall_mem_cons.2 ⟨other, free⟩)
  | run free nonempty all ends others =>
      exact .run (List.forall_mem_cons.2 ⟨other, free⟩) nonempty all ends others

/-- A kept character in front of a text joins the run that the text begins with, or is a run. -/
theorem Runs.exists_behind_kept {c : Char} {chars : List Char} {runs : List (List Char)}
    (here : kept c = true) (listed : Runs kept chars runs) :
    ∃ more, Runs kept (c :: chars) more := by
  have single : ∀ d ∈ [c], kept d = true := by simpa using here
  have alone (ends : ∀ d ∈ chars.head?, kept d = false) : Runs kept (c :: chars) ([c] :: runs) :=
    .run (List.forall_mem_nil _) (List.cons_ne_nil c []) single ends listed
  cases listed with
  | done free => exact ⟨_, alone fun d first => free d (List.mem_of_mem_head? first)⟩
  | @run gap run rest runs free nonempty all ends others =>
      cases gap with
      | nil =>
          exact ⟨(c :: run) :: runs, .run free (List.cons_ne_nil c run)
            (List.forall_mem_cons.2 ⟨here, all⟩) ends others⟩
      | cons d gap => exact ⟨_, alone (by simpa using free d List.mem_cons_self)⟩

theorem exists_runs (kept : Char → Bool) (chars : List Char) : ∃ runs, Runs kept chars runs := by
  induction chars with
  | nil => exact ⟨[], .done (List.forall_mem_nil _)⟩
  | cons c rest ih =>
      obtain ⟨runs, listed⟩ := ih
      cases here : kept c with
      | false => exact ⟨runs, listed.behind_gap here⟩
      | true => exact listed.exists_behind_kept here

/-- The gap, the run and the rest of a text can be told from the text. -/
theorem dropWhile_gap {gap run rest : List Char} (free : ∀ c ∈ gap, kept c = false)
    (nonempty : run ≠ []) (all : ∀ c ∈ run, kept c = true)
    (ends : ∀ c ∈ rest.head?, kept c = false) :
    (gap ++ (run ++ rest)).dropWhile (!kept ·) = run ++ rest ∧
      (run ++ rest).takeWhile kept = run ∧ (run ++ rest).dropWhile kept = rest := by
  have begins : (run ++ rest).dropWhile (!kept ·) = run ++ rest := by
    cases run with
    | nil => exact absurd rfl nonempty
    | cons c run => simp [all c List.mem_cons_self]
  have stops : rest.takeWhile kept = [] ∧ rest.dropWhile kept = rest := by
    cases rest with
    | nil => exact ⟨rfl, rfl⟩
    | cons c rest => simp [ends c rfl]
  refine ⟨?_, ?_, ?_⟩
  · rw [List.dropWhile_append_of_pos (by simpa using free), begins]
  · rw [List.takeWhile_append_of_pos all, stops.1, List.append_nil]
  · rw [List.dropWhile_append_of_pos all, stops.2]

theorem Runs.unique {chars : List Char} {runs others : List (List Char)}
    (listed : Runs kept chars runs) (also : Runs kept chars others) : runs = others := by
  induction listed generalizing others with
  | @done gap free =>
      generalize same : gap = chars at also
      cases also with
      | done => rfl
      | @run gap' run rest _ _ nonempty all =>
          obtain ⟨c, among⟩ := List.exists_mem_of_ne_nil run nonempty
          have missed := free c (by simp [same, among])
          rw [all c among] at missed
          cases missed
  | @run gap run rest runs free nonempty all ends _ ih =>
      obtain ⟨run_rest, run_eq, rest_eq⟩ := dropWhile_gap free nonempty all ends
      generalize same : gap ++ (run ++ rest) = chars at also run_rest
      cases also with
      | done free' =>
          obtain ⟨c, among⟩ := List.exists_mem_of_ne_nil run nonempty
          have missed := free' c (by simp [← same, among])
          rw [all c among] at missed
          cases missed
      | @run gap' run' rest' runs' free' nonempty' all' ends' others' =>
          obtain ⟨run_rest', run_eq', rest_eq'⟩ := dropWhile_gap free' nonempty' all' ends'
          have both : run ++ rest = run' ++ rest' := run_rest.symm.trans run_rest'
          rw [both] at run_eq rest_eq
          obtain rfl : run = run' := run_eq.symm.trans run_eq'
          obtain rfl : rest = rest' := rest_eq.symm.trans rest_eq'
          rw [ih others']

theorem Runs.nonempty_and_all {chars : List Char} {runs : List (List Char)}
    (listed : Runs kept chars runs) : ∀ run ∈ runs, run ≠ [] ∧ ∀ c ∈ run, kept c = true := by
  induction listed with
  | done => simp
  | run _ nonempty all _ _ ih => exact List.forall_mem_cons.2 ⟨⟨nonempty, all⟩, ih⟩

/-- Joined runs are a first run and the others with the joint in front of each. -/
theorem intercalate_cons_eq (joint : Char) (first : List Char) (others : List (List Char)) :
    [joint].intercalate (first :: others) = first ++ others.flatMap (joint :: ·) := by
  induction others generalizing first with
  | nil => simp
  | cons second others ih =>
      rw [List.intercalate_cons_cons, ih, List.flatMap_cons]
      simp

/-- Runs that are joined by a character that is not kept are the runs of the whole. -/
theorem runs_intercalate {joint : Char} (apart : kept joint = false) {runs : List (List Char)}
    (each : ∀ run ∈ runs, run ≠ [] ∧ ∀ c ∈ run, kept c = true) :
    Runs kept ([joint].intercalate runs) runs := by
  have behind (others : List (List Char))
      (each : ∀ run ∈ others, run ≠ [] ∧ ∀ c ∈ run, kept c = true) :
      (∀ c ∈ (others.flatMap (joint :: ·)).head?, kept c = false) ∧
        Runs kept (others.flatMap (joint :: ·)) others := by
    induction others with
    | nil => exact ⟨by simp, .done (by simp)⟩
    | cons run others ih =>
        obtain ⟨⟨nonempty, all⟩, eachOther⟩ := List.forall_mem_cons.1 each
        obtain ⟨ends, listed⟩ := ih eachOther
        have gap : ∀ c ∈ [joint], kept c = false := by simpa using apart
        exact ⟨by simpa using apart, .run gap nonempty all ends listed⟩
  cases runs with
  | nil => exact .done (by simp)
  | cons first others =>
      obtain ⟨⟨nonempty, all⟩, eachOther⟩ := List.forall_mem_cons.1 each
      obtain ⟨ends, listed⟩ := behind others eachOther
      rw [intercalate_cons_eq]
      exact .run (List.forall_mem_nil _) nonempty all ends listed

end Text

namespace Slug

open Text (Runs lowercase lowerChar strip isBlank)
open scoped Computability

/-! ## Runs and hyphens -/

theorem eq_hyphen_or_isKept_of_mem_hyphenate {c : Char} {inGap : Bool} {chars : List Char}
    (member : c ∈ hyphenate inGap chars) : c = '-' ∨ isKept c = true := by
  induction chars generalizing inGap with
  | nil => simp [hyphenate] at member
  | cons first rest inductionHypothesis =>
      unfold hyphenate at member
      split at member
      · rename_i kept
        rcases List.mem_cons.1 member with rfl | later
        · exact .inr kept
        · exact inductionHypothesis later
      · split at member
        · exact inductionHypothesis member
        · rcases List.mem_cons.1 member with rfl | later
          · exact .inl rfl
          · exact inductionHypothesis later

theorem eq_hyphen_or_isKept_of_mem_ofName {c : Char} {name : String}
    (member : c ∈ (ofName name).toList) : c = '-' ∨ isKept c = true := by
  rw [ofName, String.toList_ofList] at member
  exact eq_hyphen_or_isKept_of_mem_hyphenate (Text.mem_of_mem_trimChars member)

/-- A slug has no slash. -/
theorem slash_not_mem_ofName (name : String) : '/' ∉ (ofName name).toList := by
  intro member
  rcases eq_hyphen_or_isKept_of_mem_ofName member with same | kept
  · exact absurd same (by decide)
  · exact absurd kept (by decide)

theorem hyphenate_gap {gap : List Char} (free : ∀ c ∈ gap, isKept c = false) (rest : List Char) :
    hyphenate true (gap ++ rest) = hyphenate true rest := by
  induction gap with
  | nil => rfl
  | cons c gap ih =>
      obtain ⟨other, freeRest⟩ := List.forall_mem_cons.1 free
      simpa [hyphenate, other] using ih freeRest

/-- A gap becomes one hyphen. -/
theorem hyphenate_cons_gap {c : Char} {gap : List Char} (free : ∀ d ∈ c :: gap, isKept d = false)
    (rest : List Char) : hyphenate false (c :: gap ++ rest) = '-' :: hyphenate true rest := by
  obtain ⟨other, freeRest⟩ := List.forall_mem_cons.1 free
  simpa [hyphenate, other] using hyphenate_gap freeRest rest

/-- A run stays. -/
theorem hyphenate_run {run : List Char} (nonempty : run ≠ []) (all : ∀ c ∈ run, isKept c = true)
    (inGap : Bool) (rest : List Char) :
    hyphenate inGap (run ++ rest) = run ++ hyphenate false rest := by
  induction run generalizing inGap with
  | nil => exact absurd rfl nonempty
  | cons c run ih =>
      obtain ⟨here, allRest⟩ := List.forall_mem_cons.1 all
      rw [List.cons_append, hyphenate, if_pos here, List.cons_append]
      cases run with
      | nil => rfl
      | cons d run => rw [ih (List.cons_ne_nil d run) allRest]

theorem hyphenate_free {gap : List Char} (free : ∀ c ∈ gap, isKept c = false) :
    ∀ c ∈ hyphenate false gap, c = '-' := by
  cases gap with
  | nil => simp [hyphenate]
  | cons d gap =>
      have single := hyphenate_cons_gap free []
      rw [List.append_nil] at single
      rw [single]
      simp [hyphenate]

/-- Behind a run every further run has one hyphen in front, and a gap at the end leaves another. -/
theorem exists_hyphenate_eq {chars : List Char} {runs : List (List Char)}
    (listed : Runs isKept chars runs) (ends : ∀ c ∈ chars.head?, isKept c = false) :
    ∃ back : List Char, (∀ c ∈ back, c = '-') ∧
      hyphenate false chars = runs.flatMap ('-' :: ·) ++ back := by
  induction listed with
  | done free => exact ⟨_, hyphenate_free free, rfl⟩
  | @run gap run rest runs free nonempty all restEnds _ ih =>
      obtain ⟨back, hyphens, rest_eq⟩ := ih restEnds
      refine ⟨back, hyphens, ?_⟩
      cases gap with
      | nil =>
          -- No run begins right behind another.
          obtain ⟨c, run, rfl⟩ := List.exists_cons_of_ne_nil nonempty
          have missed := ends c rfl
          rw [all c List.mem_cons_self] at missed
          cases missed
      | cons c gap =>
          rw [hyphenate_cons_gap free, hyphenate_run nonempty all, rest_eq]
          simp

theorem not_hyphen_of_isKept {c : Char} (here : isKept c = true) : c ≠ '-' := by
  rintro rfl
  cases here

/-- Joined runs neither begin nor end with a hyphen. -/
theorem isTrimmed_intercalate {runs : List (List Char)}
    (each : ∀ run ∈ runs, run ≠ [] ∧ ∀ c ∈ run, isKept c = true) :
    Text.IsTrimmed (· = '-') (['-'].intercalate runs) := by
  cases runs with
  | nil => simp [Text.IsTrimmed]
  | cons first others =>
      have kept_last : ∀ c ∈ (['-'].intercalate (first :: others)).getLast?, isKept c = true := by
        induction others generalizing first with
        | nil =>
            intro c last
            rw [List.intercalate_singleton] at last
            exact (each first List.mem_cons_self).2 c (List.mem_of_getLast? last)
        | cons second others ih =>
            intro c last
            have later := ih second fun run member => each run (List.mem_cons_of_mem _ member)
            have filled : ['-'].intercalate (second :: others) ≠ [] := by
              rw [Text.intercalate_cons_eq]
              simpa using fun blank => absurd blank (each second (by simp)).1
            rw [List.intercalate_cons_cons, List.getLast?_append_of_ne_nil _ filled] at last
            exact later c last
      constructor
      · intro c isHead
        obtain ⟨nonempty, all⟩ := each first List.mem_cons_self
        obtain ⟨d, run, rfl⟩ := List.exists_cons_of_ne_nil nonempty
        obtain rfl : d = c := by simpa [Text.intercalate_cons_eq] using isHead
        simpa using not_hyphen_of_isKept (all d List.mem_cons_self)
      · intro c isLast
        simpa using not_hyphen_of_isKept (kept_last c isLast)

/-- A slug consists of the runs of the lowercase form, joined by hyphens. -/
theorem toList_ofName {name : String} {runs : List (List Char)}
    (listed : Runs isKept (lowercase (strip name)).toList runs) :
    (ofName name).toList = ['-'].intercalate runs := by
  have trimmed := isTrimmed_intercalate listed.nonempty_and_all
  rw [ofName, String.toList_ofList]
  generalize (lowercase (strip name)).toList = chars at listed
  -- What stands around the joined runs is hyphens.
  obtain ⟨front, back, before, after, whole⟩ : ∃ front back : List Char,
      (∀ c ∈ front, c = '-') ∧ (∀ c ∈ back, c = '-') ∧
        hyphenate false chars = front ++ (['-'].intercalate runs ++ back) := by
    cases listed with
    | done free => exact ⟨_, [], hyphenate_free free, by simp, by simp⟩
    | @run gap run rest runs free nonempty all ends others =>
        obtain ⟨back, hyphens, rest_eq⟩ := exists_hyphenate_eq others ends
        have tail : ∀ inGap, hyphenate inGap (run ++ rest) =
            ['-'].intercalate (run :: runs) ++ back := by
          intro inGap
          rw [hyphenate_run nonempty all, rest_eq, Text.intercalate_cons_eq, List.append_assoc]
        cases gap with
        | nil => exact ⟨[], back, by simp, hyphens, tail false⟩
        | cons c gap =>
            refine ⟨['-'], back, by simp, hyphens, ?_⟩
            rw [hyphenate_cons_gap free, tail]
            rfl
  rw [whole]
  exact (Text.trimChars_append (by simpa using before) (by simpa using after) _).trans
    trimmed.trimChars_eq

/-! ## Slugs of slugs -/

/-- The characters of slugs are their own lowercase forms and no blanks. -/
theorem lowerChar_eq_self {c : Char} (member : c = '-' ∨ isKept c = true) :
    lowerChar c = c ∧ isBlank c = false ∧ c ≠ '\u03a3' ∧ c ≠ '\u0130' := by
  have range : 97 ≤ c.toNat ∧ c.toNat ≤ 122 ∨ 48 ≤ c.toNat ∧ c.toNat ≤ 57 ∨ c.toNat = 45 := by
    rcases member with rfl | kept
    · exact Or.inr (Or.inr rfl)
    · simp only [isKept, Bool.or_eq_true, Bool.and_eq_true, decide_eq_true_eq] at kept
      exact kept.imp id Or.inl
  have small : c.toNat < 0x80 := by omega
  have no_capital : ¬ (65 ≤ c.toNat ∧ c.toNat ≤ 90) := by omega
  refine ⟨?_, ?_, ?_, ?_⟩
  · rw [lowerChar, if_pos small]
    exact dif_neg no_capital
  · simp only [isBlank, Text.blankRanges, Text.Ranges.contains, List.any_cons, List.any_nil,
      Bool.or_false, Bool.or_eq_false_iff, Bool.and_eq_false_iff, decide_eq_false_iff_not]
    omega
  · rintro rfl
    revert small
    decide
  · rintro rfl
    revert small
    decide

theorem lowercase_strip_eq_self {slug : String}
    (members : ∀ c ∈ slug.toList, c = '-' ∨ isKept c = true) : lowercase (strip slug) = slug := by
  have trimmed : Text.IsTrimmed isBlank slug.toList := by
    constructor
    · exact fun c first => (lowerChar_eq_self (members c (List.mem_of_mem_head? first))).2.1
    · exact fun c last => (lowerChar_eq_self (members c (List.mem_of_getLast? last))).2.1
  have lowered (before chars : List Char) (members : ∀ c ∈ chars, c = '-' ∨ isKept c = true) :
      Text.lowerFrom before chars = chars := by
    induction chars generalizing before with
    | nil => rfl
    | cons c rest ih =>
        obtain ⟨here, later⟩ := List.forall_mem_cons.1 members
        obtain ⟨same, -, no_sigma, no_dotted⟩ := lowerChar_eq_self here
        rw [Text.lowerFrom, ih (c :: before) later]
        simp [no_sigma, no_dotted, same]
  rw [strip, trimmed.trimChars_eq, String.ofList_toList, lowercase, lowered [] _ members,
    String.ofList_toList]

/-! ## The form of slugs -/

/-- The words of a slug. -/
def word : Language Char :=
  {chars | chars ≠ [] ∧ ∀ c ∈ chars, 'a' ≤ c ∧ c ≤ 'z' ∨ '0' ≤ c ∧ c ≤ '9'}

theorem mem_word_iff {chars : List Char} :
    chars ∈ word ↔ chars ≠ [] ∧ ∀ c ∈ chars, isKept c = true := by
  change (chars ≠ [] ∧ ∀ c ∈ chars, 'a' ≤ c ∧ c ≤ 'z' ∨ '0' ≤ c ∧ c ≤ '9') ↔ _
  simp [isKept]

theorem intercalate_mem {first : List Char} {others : List (List Char)}
    (each : ∀ run ∈ first :: others, run ≠ [] ∧ ∀ c ∈ run, isKept c = true) :
    ['-'].intercalate (first :: others) ∈ word * ({['-']} * word)∗ := by
  obtain ⟨here, later⟩ := List.forall_mem_cons.1 each
  rw [Text.intercalate_cons_eq]
  refine Language.append_mem_mul (mem_word_iff.2 here) (Language.mem_kstar.2
    ⟨others.map ('-' :: ·), List.flatMap_def .., ?_⟩)
  intro chars member
  obtain ⟨run, among, rfl⟩ := List.mem_map.1 member
  exact Language.append_mem_mul (Set.mem_singleton _) (mem_word_iff.2 (later run among))

/-- The slug of a name is made of the maximal runs of ASCII letters and digits in the lowercase form
of the trimmed name, joined by single hyphens.  So it is empty or a word with further words behind
hyphens, and it is its own slug. -/
theorem ofName_canonical (name : String) :
    (∃ runs, (∀ others, Runs isKept (lowercase (strip name)).toList others ↔ others = runs) ∧
      ofName name = String.ofList (['-'].intercalate runs)) ∧
    (ofName name = "" ∨ (ofName name).toList ∈ word * ({['-']} * word)∗) ∧
    ofName (ofName name) = ofName name := by
  obtain ⟨runs, listed⟩ := Text.exists_runs isKept (lowercase (strip name)).toList
  have each := listed.nonempty_and_all
  have slug_eq := toList_ofName listed
  refine ⟨⟨runs, fun others => ⟨fun also => also.unique listed, fun same => same ▸ listed⟩, ?_⟩,
    ?_, ?_⟩
  · rw [← slug_eq, String.ofList_toList]
  · cases runs with
    | nil =>
        left
        rw [← String.ofList_toList (s := ofName name), slug_eq]
        rfl
    | cons first others =>
        right
        rw [slug_eq]
        exact intercalate_mem each
  · have again : Runs isKept (ofName name).toList runs := by
      rw [slug_eq]
      exact Text.runs_intercalate rfl each
    rw [← lowercase_strip_eq_self fun c => eq_hyphen_or_isKept_of_mem_ofName] at again
    rw [← String.toList_inj, toList_ofName again, slug_eq]

/-- The sign for kelvin has a letter as its lowercase form. -/
example : ofName " Sign--up, \u212a2! " = "sign-up-k2" := by decide +kernel

end Slug

end Workflow
