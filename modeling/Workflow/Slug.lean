import Workflow.Text.Blank
import Workflow.Text.Lowercase

/-!
# Slugs

The slug of a name is made of the runs of ASCII letters and digits in its lowercase form, joined by
single hyphens.
-/

namespace Workflow.Slug

/-- The characters that a slug keeps. -/
def isKept (c : Char) : Bool := ('a' ≤ c && c ≤ 'z') || ('0' ≤ c && c ≤ '9')

/-- Replace every run of other characters by one hyphen.  `inGap` tells that the character before
belongs to such a run. -/
def hyphenate (inGap : Bool) : List Char → List Char
  | [] => []
  | c :: rest =>
    if isKept c then c :: hyphenate false rest
    else if inGap then hyphenate true rest
    else '-' :: hyphenate true rest

/-- The slug of a name. -/
def ofName (name : String) : String :=
  let lowered := Text.lowercase (Text.strip name)
  String.ofList (Text.trimChars (· = '-') (hyphenate false lowered.toList))

end Workflow.Slug
