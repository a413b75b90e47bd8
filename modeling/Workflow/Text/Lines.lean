/-!
# Lines

A line ends at a character that ends lines; a carriage return and a line feed after it end it
together.
-/

namespace Workflow.Text

/-- The characters that end a line. -/
def isLineEnd (c : Char) : Bool :=
  (0x0a ≤ c.toNat && c.toNat ≤ 0x0d) || (0x1c ≤ c.toNat && c.toNat ≤ 0x1e) ||
    c.toNat = 0x85 || c.toNat = 0x2028 || c.toNat = 0x2029

/-- The lines of characters, of which `line` begins the first, last character first.  What follows
the last end is a line only if there is something. -/
def linesFrom (line : List Char) : List Char → List (List Char)
  | [] => if line.isEmpty then [] else [line.reverse]
  | '\r' :: '\n' :: rest => line.reverse :: linesFrom [] rest
  | c :: rest =>
    if isLineEnd c then line.reverse :: linesFrom [] rest else linesFrom (c :: line) rest

/-- The lines of a text, without what ends them. -/
def lines (text : String) : List String := (linesFrom [] text.toList).map String.ofList

end Workflow.Text
