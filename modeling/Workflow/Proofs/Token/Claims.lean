import Workflow.Proofs.Token.Segments

/-!
# Claims of an issued token

A token expires its lifetime after the moment at which it is issued, as long as both have a date.  Its
claims pass every check up to the second at which it expires.
-/

namespace Workflow

/-- A moment in the years 1 to 9999. -/
def Moment.HasDate (moment : Moment) : Prop := 1 ≤ moment.year ∧ moment.year ≤ 9999

/-- The start of a second since the start of 1970. -/
def Moment.ofSecond (second : Int) : Moment := ⟨second * 1000000⟩

/-- Two million days before the start of 1970 there are no dates, nor are there three million days
after it. -/
theorem Moment.HasDate.days {moment : Moment} (dated : moment.HasDate) :
    -2000000 ≤ moment.micros.fdiv dayMicros ∧ moment.micros.fdiv dayMicros < 3000000 := by
  obtain ⟨first, last⟩ := dated
  rw [year] at first last
  generalize moment.micros.fdiv dayMicros = days at *
  simp (disch := decide) only [dateOfDays, Int.fdiv_eq_ediv_of_nonneg] at first last
  constructor
  · split at first <;> omega
  · split at last <;> omega

/-- Seconds that have dates are not far apart. -/
theorem Moment.HasDate.seconds {second : Int} (dated : (ofSecond second).HasDate) :
    -172800000000 ≤ second ∧ second < 259200000000 := by
  have days := dated.days
  rw [dayMicros, Int.fdiv_eq_ediv_of_nonneg _ (by decide)] at days
  simp only [ofSecond] at days
  omega

namespace Token

/-! ## Expiry -/

/-- A token expires a number of minutes after it is issued. -/
theorem expiry_eq {now lifetime : Int} {minutes : Value}
    (whole : microsOfMinutes minutes = .ok (lifetime * minuteMicros))
    (issued : (Moment.ofSecond now).HasDate)
    (expires : (Moment.ofSecond (now + 60 * lifetime)).HasDate) :
    expiry now minutes = .ok (now + 60 * lifetime) := by
  have start := issued.seconds
  have stop := expires.seconds
  have span_eq : checkSpan (lifetime * minuteMicros) = .ok (lifetime * minuteMicros) := by
    have days : -5000000 ≤ (lifetime * minuteMicros).fdiv Moment.dayMicros ∧
        (lifetime * minuteMicros).fdiv Moment.dayMicros < 5000000 := by
      rw [minuteMicros, Moment.dayMicros, Int.fdiv_eq_ediv_of_nonneg _ (by decide)]
      omega
    have most : maxSpanDays = 999999999 := rfl
    simp only [checkSpan]
    rw [if_neg (by omega), if_neg (by omega)]
  have moment_eq : now * 1000000 + lifetime * minuteMicros = (now + 60 * lifetime) * 1000000 := by
    rw [minuteMicros]
    omega
  rw [expiry, whole, Outcome.ok_bind, span_eq, Outcome.ok_bind, moment_eq]
  have inside := expires
  rw [Moment.HasDate, Moment.ofSecond] at inside
  simp only
  rw [if_neg (by omega), Int.mul_fdiv_cancel _ (by decide)]
  rfl

/-- The second at which a token expires is not too long a number. -/
theorem tooLong_expiry {second : Int} (dated : (Moment.ofSecond second).HasDate) :
    Number.tooLong second = false := by
  have bounds := dated.seconds
  rw [Number.tooLong, decide_eq_false_iff_not, Nat.not_le]
  have small : second.natAbs < 10 ^ 12 := by omega
  exact Nat.lt_of_lt_of_le small (Nat.pow_le_pow_right (by decide) (by decide))

/-! ## Claims -/

/-- Claims that are read back from a token and pass its checks: JSON carries them, none of them is a
time or an audience to be checked, and the subject and the identifier are texts if they are there. -/
structure AreIssuable (claims : Object) : Prop where
  portable : (Value.obj claims).IsPortable
  unchecked : ∀ name ∈ ["aud", "nbf", "iat", "at_hash"], Object.get? claims (.text name) = none
  texts : ∀ name ∈ ["sub", "jti"], ∀ claim ∈ Object.get? claims (.text name), isText claim = true

section

variable {claims : Object} {identifier : String} {expiry : Int}

/-- The claims of an issued token are those given, but for the expiry and a missing identifier. -/
theorem get?_issuedClaims (wanted : String) :
    Object.get? (issuedClaims claims identifier expiry) wanted =
      if wanted = "exp" then some (.int expiry)
      else if wanted = "jti" then some ((Object.get? claims "jti").getD (.str identifier))
      else Object.get? claims wanted := by
  rw [issuedClaims, Object.get?_set, Object.get?_setDefault]
  simp only [Name.identity_text, Name.Identity.text.injEq, eq_comm]

/-- The claims of an issued token are carried by JSON and nested no deeper than those given. -/
theorem isPortable_issuedClaims (carried : (Value.obj claims).IsPortable)
    (short : Number.tooLong expiry = false) :
    (Value.obj (issuedClaims claims identifier expiry)).IsPortable ∧
      (Value.obj (issuedClaims claims identifier expiry)).nesting ≤ (Value.obj claims).nesting := by
  rw [issuedClaims]
  by_cases present : Object.contains claims "jti" = true
  · rw [Object.setDefault_of_contains present]
    exact ⟨carried.set (.int short) "exp", Value.nesting_set_le rfl _⟩
  · rw [Object.setDefault_of_not_contains present]
    exact ⟨(carried.set (.str identifier) "jti").set (.int short) "exp",
      Nat.le_trans (Value.nesting_set_le rfl _) (Value.nesting_set_le rfl _)⟩

/-- Claims pass every check but that of the expiry. -/
theorem checkClaims_issuedClaims (issuable : AreIssuable claims) (now : Int) :
    checkClaims now (issuedClaims claims identifier expiry) =
      if expiry < now then .error (.refused .expired) else .ok () := by
  have absent (name : String) (member : name ∈ ["aud", "nbf", "iat", "at_hash"]) :
      Object.get? (issuedClaims claims identifier expiry) name = none := by
    rw [get?_issuedClaims, ← issuable.unchecked name member]
    simp only [List.mem_cons, List.not_mem_nil, or_false] at member
    rcases member with rfl | rfl | rfl | rfl <;> rfl
  have time {name : String} (member : name ∈ ["aud", "nbf", "iat", "at_hash"]) (refusal : Refusal)
      (problem? : Int → Option Refusal) :
      checkTime (issuedClaims claims identifier expiry) name refusal problem? = .ok () := by
    rw [checkTime, absent name member]
  have expiry_found := @get?_issuedClaims claims identifier expiry "exp"
  rw [if_pos rfl] at expiry_found
  have subject_ok : checkText (issuedClaims claims identifier expiry) "sub" .subjectNotText =
      .ok () := by
    rw [checkText, get?_issuedClaims, if_neg (by decide), if_neg (by decide)]
    split
    · rfl
    · rename_i claim found
      exact if_pos (issuable.texts "sub" (by decide) claim found)
  have identifier_ok : checkText (issuedClaims claims identifier expiry) "jti" .identifierNotText =
      .ok () := by
    rw [checkText, get?_issuedClaims, if_neg (by decide), if_pos rfl]
    refine if_pos ?_
    cases found : Object.get? claims "jti" with
    | none => rfl
    | some claim => exact issuable.texts "jti" (by decide) claim found
  rw [checkClaims, time (by decide), Outcome.ok_bind, time (by decide), Outcome.ok_bind, checkTime,
    expiry_found]
  simp only [wholeSeconds]
  by_cases expired : expiry < now
  · rw [if_pos expired, if_pos expired]
    rfl
  · rw [if_neg expired, if_neg expired]
    simp only [Outcome.ok_bind]
    rw [checkAudience, absent "aud" (by decide), Outcome.ok_bind, subject_ok, Outcome.ok_bind,
      identifier_ok, Outcome.ok_bind, Object.contains, absent "at_hash" (by decide)]
    rfl

end

end Token

end Workflow
