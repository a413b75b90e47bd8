import Workflow.Proofs.Text.Utf8
import Workflow.Text.Base64

/-!
# Bytes are decoded from their encoding

The characters of an encoding are letters of six-bit values, each of which is read back from its one
byte.  Four values give three bytes back, and padding closes a group of two or three at the end, so
bytes are decoded from their encoding.
-/

namespace Workflow.Text

/-- Characters of ASCII are one byte each. -/
theorem Utf8.encode_ofList {chars : List Char} (ascii : ∀ c ∈ chars, c.toNat < 0x80) :
    encode (String.ofList chars) = chars.map fun c => UInt8.ofNat c.toNat := by
  rw [encode, String.toList_ofList]
  induction chars with
  | nil => rfl
  | cons c rest ih =>
      obtain ⟨here, later⟩ := List.forall_mem_cons.1 ascii
      rw [List.flatMap_cons, encodeCode, if_pos here, ih later]
      rfl

namespace Base64

/-- The six-bit values that bytes are encoded by. -/
def sixes : List UInt8 → List Nat
  | [] => []
  | [a] => [a.toNat / 4, a.toNat % 4 * 16]
  | [a, b] => [a.toNat / 4, a.toNat % 4 * 16 + b.toNat / 16, b.toNat % 16 * 4]
  | a :: b :: c :: rest =>
    a.toNat / 4 :: (a.toNat % 4 * 16 + b.toNat / 16) :: (b.toNat % 16 * 4 + c.toNat / 64) ::
      c.toNat % 64 :: sixes rest

theorem encodeChars_eq (bytes : List UInt8) : encodeChars bytes = (sixes bytes).map letter := by
  fun_induction sixes bytes with
  | case1 => rfl
  | case2 a =>
      have first : a.toNat * 16 / 64 = a.toNat / 4 := by omega
      have second : a.toNat * 16 % 64 = a.toNat % 4 * 16 := by omega
      simp only [encodeChars, first, second, List.map_cons, List.map_nil]
  | case3 a b =>
      have := b.toNat_lt
      have first : (a.toNat * 256 + b.toNat) * 4 / 4096 = a.toNat / 4 := by omega
      have second : (a.toNat * 256 + b.toNat) * 4 / 64 % 64 = a.toNat % 4 * 16 + b.toNat / 16 := by
        omega
      have third : (a.toNat * 256 + b.toNat) * 4 % 64 = b.toNat % 16 * 4 := by omega
      simp only [encodeChars, first, second, third, List.map_cons, List.map_nil]
  | case4 a b c rest ih =>
      have := b.toNat_lt
      have := c.toNat_lt
      have first : ((a.toNat * 256 + b.toNat) * 256 + c.toNat) / 262144 = a.toNat / 4 := by omega
      have second : ((a.toNat * 256 + b.toNat) * 256 + c.toNat) / 4096 % 64 =
          a.toNat % 4 * 16 + b.toNat / 16 := by omega
      have third : ((a.toNat * 256 + b.toNat) * 256 + c.toNat) / 64 % 64 =
          b.toNat % 16 * 4 + c.toNat / 64 := by omega
      have fourth : ((a.toNat * 256 + b.toNat) * 256 + c.toNat) % 64 = c.toNat % 64 := by omega
      simp only [encodeChars, first, second, third, fourth, ih, List.map_cons]

theorem lt_of_mem_sixes {bytes : List UInt8} {value : Nat} (member : value ∈ sixes bytes) :
    value < 64 := by
  fun_induction sixes bytes with
  | case1 => cases member
  | case2 a =>
      have := a.toNat_lt
      simp only [List.mem_cons, List.not_mem_nil, or_false] at member
      omega
  | case3 a b =>
      have := a.toNat_lt
      have := b.toNat_lt
      simp only [List.mem_cons, List.not_mem_nil, or_false] at member
      omega
  | case4 a b c rest ih =>
      have := a.toNat_lt
      have := b.toNat_lt
      have := c.toNat_lt
      simp only [List.mem_cons] at member
      rcases member with rfl | rfl | rfl | rfl | later
      · omega
      · omega
      · omega
      · omega
      · exact ih later

/-- The byte of the letter of a six-bit value. -/
def letterByte (value : Nat) : UInt8 := UInt8.ofNat (letter value).toNat

theorem letter_ascii {value : Nat} (small : value < 64) : (letter value).toNat < 0x80 := by
  have all : ∀ value : Fin 64, (letter value).toNat < 0x80 := by decide
  exact all ⟨value, small⟩

/-- The bytes of an encoding are those of its letters. -/
theorem utf8_encode (bytes : List UInt8) :
    Utf8.encode (encode bytes) = (sixes bytes).map letterByte := by
  rw [encode, encodeChars_eq, Utf8.encode_ofList, List.map_map]
  · rfl
  · intro c member
    obtain ⟨value, here, rfl⟩ := List.mem_map.1 member
    exact letter_ascii (lt_of_mem_sixes here)

/-- Letters are neither points nor padding. -/
theorem letterByte_ne {value : Nat} (small : value < 64) :
    letterByte value ≠ 0x2e ∧ letterByte value ≠ 0x3d := by
  have all : ∀ value : Fin 64, letterByte value ≠ 0x2e ∧ letterByte value ≠ 0x3d := by decide
  exact all ⟨value, small⟩

theorem point_not_mem_encode (bytes : List UInt8) : 0x2e ∉ Utf8.encode (encode bytes) := by
  rw [utf8_encode]
  intro member
  obtain ⟨value, here, same⟩ := List.mem_map.1 member
  exact (letterByte_ne (lt_of_mem_sixes here)).1 same

theorem value?_letterByte {value : Nat} (small : value < 64) :
    Alphabet.url.value? (letterByte value) = some value := by
  have all : ∀ value : Fin 64, Alphabet.url.value? (letterByte value) = some value.val := by decide
  exact all ⟨value, small⟩

/-! ## Decoding -/

section

variable {v w x y before : Nat} {rest : List UInt8}

/-- A letter is one more value of its group, which four values close. -/
theorem decodeFrom_letterByte (small : y < 64) (values : List Nat) :
    decodeFrom .url { values, before } (letterByte y :: rest) =
      if (values ++ [y]).length = 4 then
        (decodeFrom .url { before := before + 1 } rest).map (Group.bytes (values ++ [y]) ++ ·)
      else decodeFrom .url { values := values ++ [y], before } rest := by
  rw [decodeFrom, if_neg (letterByte_ne small).2, value?_letterByte small]

theorem decodeFrom_two_letters (first : v < 64) (second : w < 64) :
    decodeFrom .url { before } (letterByte v :: letterByte w :: rest) =
      decodeFrom .url { values := [v, w], before } rest :=
  (decodeFrom_letterByte first []).trans (decodeFrom_letterByte second [v])

theorem decodeFrom_three_letters (first : v < 64) (second : w < 64) (third : x < 64) :
    decodeFrom .url { before } (letterByte v :: letterByte w :: letterByte x :: rest) =
      decodeFrom .url { values := [v, w, x], before } rest :=
  (decodeFrom_two_letters first second).trans (decodeFrom_letterByte third [v, w])

theorem decodeFrom_four_letters (first : v < 64) (second : w < 64) (third : x < 64)
    (fourth : y < 64) :
    decodeFrom .url { before }
        (letterByte v :: letterByte w :: letterByte x :: letterByte y :: rest) =
      (decodeFrom .url { before := before + 1 } rest).map (Group.bytes [v, w, x, y] ++ ·) :=
  (decodeFrom_three_letters first second third).trans (decodeFrom_letterByte fourth [v, w, x])

end

/-- The padding of an encoding with a number of letters. -/
def padding (count : Nat) : List UInt8 := List.replicate ((4 - count % 4) % 4) 0x3d

/-- Bytes are decoded from their letters and padding. -/
theorem decodeFrom_sixes (bytes : List UInt8) (before : Nat) :
    decodeFrom .url { before } ((sixes bytes).map letterByte ++ padding (sixes bytes).length) =
      .ok bytes := by
  have back {number : Nat} {byte : UInt8} (same : number = byte.toNat) :
      UInt8.ofNat number = byte := by rw [same, UInt8.ofNat_toNat]
  fun_induction sixes bytes generalizing before with
  | case1 => rfl
  | case2 a =>
      have := a.toNat_lt
      have closed : Group.bytes [a.toNat / 4, a.toNat % 4 * 16] = [a] := by
        simp only [Group.bytes, List.cons.injEq, and_true]
        exact back (by omega)
      simp only [List.map_cons, List.map_nil, List.cons_append, List.nil_append]
      rw [decodeFrom_two_letters (by omega) (by omega)]
      exact congrArg Except.ok closed
  | case3 a b =>
      have := a.toNat_lt
      have := b.toNat_lt
      have closed : Group.bytes
          [a.toNat / 4, a.toNat % 4 * 16 + b.toNat / 16, b.toNat % 16 * 4] = [a, b] := by
        simp only [Group.bytes, List.cons.injEq, and_true]
        exact ⟨back (by omega), back (by omega)⟩
      simp only [List.map_cons, List.map_nil, List.cons_append, List.nil_append]
      rw [decodeFrom_three_letters (by omega) (by omega) (by omega)]
      exact congrArg Except.ok closed
  | case4 a b c rest ih =>
      have := a.toNat_lt
      have := b.toNat_lt
      have := c.toNat_lt
      have closed : Group.bytes [a.toNat / 4, a.toNat % 4 * 16 + b.toNat / 16,
          b.toNat % 16 * 4 + c.toNat / 64, c.toNat % 64] = [a, b, c] := by
        simp only [Group.bytes, List.cons.injEq, and_true]
        exact ⟨back (by omega), back (by omega), back (by omega)⟩
      have padding_eq : padding ((sixes rest).length + 4) = padding (sixes rest).length := by
        rw [padding, padding, Nat.add_mod_right]
      simp only [List.map_cons, List.cons_append, List.length_cons]
      rw [decodeFrom_four_letters (by omega) (by omega) (by omega) (by omega), padding_eq, ih,
        closed]
      rfl

/-- Bytes are decoded from their encoding. -/
theorem decode_encode (bytes : List UInt8) : decode (Utf8.encode (encode bytes)) = .ok bytes := by
  rw [utf8_encode, decode, List.length_map]
  exact decodeFrom_sixes bytes 0

end Base64

end Workflow.Text
