import Workflow.Proofs.Text.Base64
import Workflow.Proofs.Value.ReadBack
import Workflow.Token.Basic

/-!
# Segments of a token

No segment has a point in it, so a token comes apart at the points that were put into it, and each of
its segments is decoded to what was encoded.
-/

namespace Workflow.Token

open Text (Base64.encode)

/-! ## Splitting -/

/-- Bytes are split at their last point. -/
theorem splitLast_append {back : List UInt8} (absent : point ∉ back) (front : List UInt8) :
    splitLast (front ++ point :: back) = some (front, back) := by
  have others : ∀ byte ∈ back.reverse, (byte ≠ point : Bool) = true := by
    intro byte member
    exact decide_eq_true fun same => absent (same ▸ List.mem_reverse.1 member)
  have reversed : (front ++ point :: back).reverse = back.reverse ++ point :: front.reverse := by
    simp
  simp only [splitLast, reversed]
  rw [List.dropWhile_append_of_pos others, List.takeWhile_append_of_pos others,
    List.dropWhile_cons_of_neg (by simp), List.takeWhile_cons_of_neg (by simp)]
  simp

/-- Bytes are split at their first point. -/
theorem splitFirst_append {front : List UInt8} (absent : point ∉ front) (back : List UInt8) :
    splitFirst (front ++ point :: back) = some (front, back) := by
  have others : ∀ byte ∈ front, (byte ≠ point : Bool) = true := by
    intro byte member
    exact decide_eq_true fun same => absent (same ▸ member)
  simp only [splitFirst]
  rw [List.dropWhile_append_of_pos others, List.takeWhile_append_of_pos others,
    List.dropWhile_cons_of_neg (by simp), List.takeWhile_cons_of_neg (by simp), List.append_nil]

/-- The bytes of a segment. -/
def segment (bytes : List UInt8) : List UInt8 := Text.Utf8.encode (Base64.encode bytes)

theorem point_not_mem_segment (bytes : List UInt8) : point ∉ segment bytes :=
  Text.Base64.point_not_mem_encode bytes

theorem decode_segment (bytes : List UInt8) : Text.Base64.decode (segment bytes) = .ok bytes :=
  Text.Base64.decode_encode bytes

theorem encode_point : Text.Utf8.encode "." = [point] := rfl

/-- The part of a token that is signed has two segments. -/
theorem encode_signedText (header payload : String) :
    Text.Utf8.encode (signedText header payload) =
      segment (Text.Utf8.encode header) ++ point :: segment (Text.Utf8.encode payload) := by
  rw [signedText, Text.Utf8.encode_append, Text.Utf8.encode_append, encode_point,
    List.append_assoc, List.singleton_append, segment, segment]

/-- A token comes apart at its two points. -/
theorem split?_eq (header payload : String) (signature : List UInt8) :
    split? (signedText header payload ++ "." ++ Base64.encode signature) =
      some (Text.Utf8.encode (signedText header payload), segment (Text.Utf8.encode header),
        segment (Text.Utf8.encode payload), segment signature) := by
  have token_eq : Text.Utf8.encode (signedText header payload ++ "." ++ Base64.encode signature) =
      Text.Utf8.encode (signedText header payload) ++ point :: segment signature := by
    rw [Text.Utf8.encode_append, Text.Utf8.encode_append, encode_point, List.append_assoc,
      List.singleton_append, segment]
  rw [split?, token_eq, splitLast_append (point_not_mem_segment signature)]
  dsimp only [Option.bind_eq_bind, Option.bind_some]
  rw [encode_signedText, splitFirst_append (point_not_mem_segment _), Option.bind_some,
    Option.pure_def]

/-! ## Reading -/

/-- A text that was read as a value is read as it from its bytes. -/
theorem readJson_encode {depth : Nat} {text : String} {value : Value}
    (read : Json.read text depth = .ok value) (refuse : String → Refusal) :
    readJson depth refuse (Text.Utf8.encode text) = .ok value := by
  rw [readJson, Text.Utf8.decode_encode]
  dsimp only
  rw [read]
  rfl

/-- The fields of a header. -/
def headerFields (algorithm : String) : Object :=
  [("alg", .str algorithm), ("typ", .str "JWT")]

theorem writeWith_headerFields (algorithm : String) :
    Json.writeWith Json.compact 1 (.obj (headerFields algorithm)) = .ok (headerText algorithm) := by
  have joined (first second : String) :
      ",".intercalate [first, second] = first ++ "," ++ second := rfl
  simp only [Json.writeWith, headerFields, Json.writeFields, Json.nameText, Outcome.ok_bind,
    pure_bind, Json.compact, joined, headerText, String.append_assoc]
  rfl

/-- A header is read as its fields where an object can be read at all. -/
theorem read_headerText (algorithm : String) {depth : Nat} (positive : 1 ≤ depth) :
    Json.read (headerText algorithm) depth = .ok (.obj (headerFields algorithm)) := by
  have portable : (Value.obj (headerFields algorithm)).IsPortable := by
    refine .obj rfl ?_
    rintro field (_ | ⟨_, (_ | ⟨_, ⟨⟩⟩)⟩)
    · exact .str algorithm
    · exact .str "JWT"
  obtain ⟨text, written, read⟩ :=
    Json.exists_read_eq Json.isFaithful_compact portable (show 1 ≤ 1 by decide) positive
  rw [writeWith_headerFields] at written
  rwa [Except.ok.inj written]

/-! ## Tokens -/

/-- The token with a payload and a signature, for an algorithm. -/
def tokenText (algorithm payload : String) (signature : List UInt8) : String :=
  signedText (headerText algorithm) payload ++ "." ++ Base64.encode signature

/-- The bytes of a token that are signed. -/
def signedBytes (algorithm payload : String) : List UInt8 :=
  Text.Utf8.encode (signedText (headerText algorithm) payload)

/-- The parts of the token with a payload and a signature. -/
def tokenParts (algorithm payload : String) (signature : List UInt8) : Parts where
  header := headerFields algorithm
  payload := Text.Utf8.encode payload
  signed := signedBytes algorithm payload
  signature := signature

/-- A token is taken apart into its parts. -/
theorem Parts.read_tokenText {depth : Nat} (positive : 1 ≤ depth) (algorithm payload : String)
    (signature : List UInt8) :
    Parts.read depth (tokenText algorithm payload signature) =
      .ok (tokenParts algorithm payload signature) := by
  simp only [tokenText, Parts.read, split?_eq, decode_segment]
  rw [readJson_encode (read_headerText algorithm positive), Outcome.ok_bind, tokenParts, signedBytes]

end Workflow.Token
