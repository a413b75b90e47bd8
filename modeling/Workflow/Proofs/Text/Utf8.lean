import Workflow.Text.Utf8

/-!
# Texts are decoded from their bytes

The first byte of a character tells how many follow it, and the ranges of those that follow leave out
exactly the forms that encode no character.  Every text is therefore read back from its bytes.
-/

namespace Workflow.Text.Utf8

theorem toNat_ofNat_of_lt {number : Nat} (small : number < 0x100) :
    (UInt8.ofNat number).toNat = number :=
  UInt8.toNat_ofNat_of_lt' small

/-- A further byte is taken when it lies in its range. -/
theorem continueFrom_ofNat {code low high byte : Nat} (inside : low ≤ byte ∧ byte ≤ high)
    (small : byte < 0x100) (seen : List UInt8) (more : Nat) (rest : List UInt8) :
    continueFrom code seen low high (more + 1) (UInt8.ofNat byte :: rest) =
      continueFrom (code * 0x40 + (byte - 0x80)) (seen ++ [UInt8.ofNat byte]) 0x80 0xbf more
        rest := by
  rw [continueFrom, toNat_ofNat_of_lt small, if_pos inside]

/-- What a number below 0x100 announces as a first byte. -/
theorem lead?_ofNat {number : Nat} (small : number < 0x100) :
    lead? (UInt8.ofNat number) =
      if number < 0x80 then some ⟨0, number, 0, 0⟩
      else if number < 0xc2 then none
      else if number < 0xe0 then some ⟨1, number - 0xc0, 0x80, 0xbf⟩
      else if number < 0xf0 then
        some ⟨2, number - 0xe0, if number = 0xe0 then 0xa0 else 0x80,
          if number = 0xed then 0x9f else 0xbf⟩
      else if number < 0xf5 then
        some ⟨3, number - 0xf0, if number = 0xf0 then 0x90 else 0x80,
          if number = 0xf4 then 0x8f else 0xbf⟩
      else none := by
  rw [lead?, toNat_ofNat_of_lt small]

/-- A character is decoded once the bytes that its first byte announces have been taken. -/
theorem decodeFrom_cons {byte : UInt8} {lead : Lead} {rest left : List UInt8} {c : Char}
    (announced : lead? byte = some lead)
    (taken : continueFrom lead.bits [byte] lead.low lead.high lead.more rest = .ok (c.toNat, left))
    (position fuel : Nat) :
    decodeFrom position (fuel + 1) (byte :: rest) =
      (decodeFrom (position + (lead.more + 1)) fuel left).map (c :: ·) := by
  rw [decodeFrom, announced]
  dsimp only
  rw [taken]
  dsimp only
  rw [Char.ofNat_toNat, Nat.add_comm lead.more, Nat.add_assoc]

/-- The first character is decoded from its bytes. -/
theorem decodeFrom_encodeCode (c : Char) (position fuel : Nat) (rest : List UInt8) :
    decodeFrom position (fuel + 1) (encodeCode c.toNat ++ rest) =
      (decodeFrom (position + (encodeCode c.toNat).length) fuel rest).map (c :: ·) := by
  have valid : c.toNat < 0xd800 ∨ 0xdfff < c.toNat ∧ c.toNat < 0x110000 := c.valid
  have taken {code : Nat} (same : code = c.toNat) (seen : List UInt8) (low high : Nat) :
      continueFrom code seen low high 0 rest = .ok (c.toNat, rest) := by rw [continueFrom, same]
  rw [encodeCode]
  split
  · have announced := lead?_ofNat (show c.toNat < 0x100 by omega)
    rw [if_pos (by omega)] at announced
    exact decodeFrom_cons announced (taken rfl _ _ _) position fuel
  split
  · have announced := lead?_ofNat (show 0xc0 + c.toNat / 0x40 < 0x100 by omega)
    rw [if_neg (by omega), if_neg (by omega), if_pos (by omega)] at announced
    refine decodeFrom_cons announced ?_ position fuel
    dsimp only
    exact (continueFrom_ofNat (by omega) (by omega) _ _ _).trans (taken (by omega) _ _ _)
  split
  · have announced := lead?_ofNat (show 0xe0 + c.toNat / 0x1000 < 0x100 by omega)
    rw [if_neg (by omega), if_neg (by omega), if_neg (by omega), if_pos (by omega)] at announced
    refine decodeFrom_cons announced ?_ position fuel
    dsimp only
    refine (continueFrom_ofNat (by constructor <;> split <;> omega) (by omega) _ _ _).trans ?_
    exact (continueFrom_ofNat (by omega) (by omega) _ _ _).trans (taken (by omega) _ _ _)
  · have announced := lead?_ofNat (show 0xf0 + c.toNat / 0x40000 < 0x100 by omega)
    rw [if_neg (by omega), if_neg (by omega), if_neg (by omega), if_neg (by omega),
      if_pos (by omega)] at announced
    refine decodeFrom_cons announced ?_ position fuel
    dsimp only
    refine (continueFrom_ofNat (by constructor <;> split <;> omega) (by omega) _ _ _).trans ?_
    refine (continueFrom_ofNat (by omega) (by omega) _ _ _).trans ?_
    exact (continueFrom_ofNat (by omega) (by omega) _ _ _).trans (taken (by omega) _ _ _)

theorem length_encodeCode_pos (code : Nat) : 0 < (encodeCode code).length := by
  rw [encodeCode]
  repeat' split
  all_goals exact Nat.succ_pos _

theorem length_le_length_flatMap (chars : List Char) :
    chars.length ≤ (chars.flatMap fun c => encodeCode c.toNat).length := by
  induction chars with
  | nil => exact Nat.zero_le _
  | cons c rest ih =>
      have := length_encodeCode_pos c.toNat
      rw [List.flatMap_cons, List.length_append, List.length_cons]
      omega

theorem decodeFrom_flatMap {chars : List Char} {fuel : Nat} (enough : chars.length ≤ fuel)
    (position : Nat) :
    decodeFrom position fuel (chars.flatMap fun c => encodeCode c.toNat) = .ok chars := by
  induction chars generalizing position fuel with
  | nil => cases fuel <;> rfl
  | cons c rest ih =>
      obtain ⟨fuel, rfl⟩ := Nat.exists_eq_add_one_of_ne_zero (Nat.ne_zero_of_lt enough)
      rw [List.flatMap_cons, decodeFrom_encodeCode, ih (Nat.le_of_succ_le_succ enough)]
      rfl

/-- A text is decoded from its bytes. -/
theorem decode_encode (text : String) : decode (encode text) = .ok text := by
  rw [decode, encode, decodeFrom_flatMap (length_le_length_flatMap _)]
  exact congrArg Except.ok String.ofList_toList

theorem encode_append (text more : String) :
    encode (text ++ more) = encode text ++ encode more := by
  rw [encode, String.toList_append, List.flatMap_append]
  rfl

end Workflow.Text.Utf8
