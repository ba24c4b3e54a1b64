import EdgeFleet.Proofs.Attempt
import EdgeFleet.Proofs.Credentials
/-!
# What verification accepts

A token is any text, and whoever presents it has chosen it. `verify_eq_done_iff` says which texts are
accepted: those whose last part is the written keyed hash of everything before it, whose header names
the one algorithm, and whose payload carries claims of this issuer for this audience and environment
that the clock has not passed. The steps of the verification each get the condition under which they
go through, and the condition of the whole is put together from these.
-/

namespace EdgeFleet

/-! ## The parts of a token -/

/-- Whether a part of a token is a written header that names an algorithm. -/
def TokenHeader.Declares (part : List Char) (algorithm : Algorithm) : Prop :=
  ∃ (bytes : List UInt8) (header : TokenHeader), part = Base64.encode .urlSafe bytes ∧
    TokenHeader.codec.decode bytes = .ok header ∧ header.algorithm = algorithm

/-- Whether a part of a token is a written object that reads as some claims, and whose times read as
times of which the end of validity is not negative. -/
def Payload.Carries (part : List Char) (claims : Claims) : Prop :=
  ∃ bytes : List UInt8, part = Base64.encode .urlSafe bytes ∧ Claims.codec.decode bytes = .ok claims ∧
    Payload.isArray bytes = false ∧ Payload.times.decode bytes = .ok () ∧ 0 ≤ claims.expiresAt

namespace Payload

theorem read_eq_ok_iff {bytes : List UInt8} {claims : Claims} :
    read bytes = .ok (claims, true) ↔ Claims.codec.decode bytes = .ok claims ∧ isArray bytes = false ∧
      times.decode bytes = .ok () ∧ 0 ≤ claims.expiresAt := by
  unfold read
  rw [bind_eq_ok_iff]
  constructor
  · rintro ⟨c, hc, h⟩
    cases harray : isArray bytes with
    | true => simp [harray] at h
    | false =>
      simp only [harray, Bool.false_eq_true, if_false] at h
      obtain ⟨_, htimes, h⟩ := bind_eq_ok_iff.1 h
      obtain ⟨rfl, hend⟩ := Prod.mk.inj (Except.ok.inj h)
      exact ⟨hc, rfl, htimes, of_decide_eq_true hend⟩
  · rintro ⟨hc, harray, htimes, hend⟩
    refine ⟨claims, hc, ?_⟩
    simp only [harray, Bool.false_eq_true, if_false]
    exact bind_eq_ok_iff.2 ⟨(), htimes, by rw [decide_eq_true hend]⟩

end Payload

namespace Issuer

variable {i : Issuer} {token message header payload signature : List Char} {claims : Claims}

theorem partBytes_eq_ok_iff {part : List Char} {bytes : List UInt8} :
    partBytes part = .ok bytes ↔ part = Base64.encode .urlSafe bytes := by
  rw [partBytes, mapError_eq_ok_iff, Base64.decode_eq_ok_iff]

theorem algorithmOf_eq_ok_iff {algorithm : Algorithm} :
    algorithmOf header = .ok algorithm ↔ TokenHeader.Declares header algorithm := by
  unfold algorithmOf TokenHeader.Declares
  simp only [bind_eq_ok_iff, mapError_eq_ok_iff, partBytes_eq_ok_iff, Except.ok.injEq, exists_and_left]

theorem claimsOf_eq_ok_iff : claimsOf payload = .ok claims ↔ Payload.Carries payload claims := by
  unfold claimsOf Payload.Carries
  simp only [bind_eq_ok_iff, mapError_eq_ok_iff, partBytes_eq_ok_iff, ← Payload.read_eq_ok_iff, Prod.exists]
  constructor
  · rintro ⟨bytes, hpart, c, hasEnd, hread, h⟩
    cases hasEnd with
    | false => cases h
    | true =>
      obtain rfl : c = claims := Except.ok.inj h
      exact ⟨bytes, hpart, hread⟩
  · rintro ⟨bytes, hpart, hread⟩
    exact ⟨bytes, hpart, claims, true, hread, rfl⟩

theorem parts_eq_some_iff : parts token = some (message, header, payload, signature) ↔
    token = message ++ '.' :: signature ∧ '.' ∉ signature ∧ message = header ++ '.' :: payload ∧ '.' ∉ payload := by
  unfold parts
  simp only [Option.bind_eq_bind, Option.bind_eq_some_iff, Prod.exists, Text.splitLast_eq_some_iff,
    Option.some.injEq, Prod.mk.injEq]
  constructor
  · rintro ⟨_, _, ⟨htoken, hsignature⟩, _, _, ⟨hmessage, hpayload⟩, rfl, rfl, rfl, rfl⟩
    exact ⟨htoken, hsignature, hmessage, hpayload⟩
  · rintro ⟨htoken, hsignature, hmessage, hpayload⟩
    exact ⟨message, signature, ⟨htoken, hsignature⟩, header, payload, ⟨hmessage, hpayload⟩, rfl, rfl, rfl, rfl⟩

/-- The signed claims of a token are those in its payload, if its header names the one algorithm and its
last part is the written keyed hash of what stands before it. -/
theorem signedClaims_eq_ok_iff : i.signedClaims token = .ok claims ↔
    ∃ message header payload, token = message ++ '.' :: i.signature message ∧ message = header ++ '.' :: payload ∧
      '.' ∉ payload ∧ TokenHeader.Declares header .hs256 ∧ Payload.Carries payload claims := by
  unfold signedClaims
  constructor
  · intro h
    cases hparts : parts token with
    | none => simp [hparts] at h
    | some found =>
      obtain ⟨message, header, payload, signature⟩ := found
      obtain ⟨htoken, -, hmessage, hdot⟩ := parts_eq_some_iff.1 hparts
      simp only [hparts] at h
      obtain ⟨algorithm, halgorithm, hchecked⟩ := bind_eq_ok_iff.1 h
      split at hchecked
      · cases hchecked
      · rename_i hname
        split at hchecked
        · cases hchecked
        · rename_i hsignature
          obtain rfl := Decidable.not_not.1 hname
          obtain rfl := Decidable.not_not.1 hsignature
          exact ⟨message, header, payload, htoken, hmessage, hdot, algorithmOf_eq_ok_iff.1 halgorithm,
            claimsOf_eq_ok_iff.1 hchecked⟩
  · rintro ⟨message, header, payload, htoken, hmessage, hdot, hheader, hpayload⟩
    have hsignature : '.' ∉ i.signature message := Base64.dot_not_mem_encode _ _
    simp only [parts_eq_some_iff.2 ⟨htoken, hsignature, hmessage, hdot⟩, bind_eq_ok_iff]
    refine ⟨.hs256, algorithmOf_eq_ok_iff.2 hheader, ?_⟩
    rw [if_neg (by simp), if_neg (by simp)]
    exact claimsOf_eq_ok_iff.2 hpayload

end Issuer

/-- Claims name an environment when their subject is a literal of its number. -/
theorem Claims.environmentId?_eq_some_iff {c : Claims} {id : EnvironmentId} :
    c.environmentId? = some id ↔ Decimal.read Decimal.signed32 c.subject.toList = .ok id.number.toInt := by
  unfold Claims.environmentId?
  constructor
  · intro h
    cases hr : Decimal.read Decimal.signed32 c.subject.toList with
    | error fault => simp [hr] at h
    | ok n =>
      have hholds := Decimal.holds_of_read (by decide) (by decide) hr
      rw [Decimal.Range.holds, Bool.and_eq_true, decide_eq_true_eq, decide_eq_true_eq] at hholds
      obtain ⟨hl, hm⟩ : -0x80000000 ≤ n ∧ n ≤ 0x7fffffff := hholds
      rw [hr] at h
      obtain rfl := Option.some.inj h
      rw [Int32.toInt_ofInt_of_le hl (by omega)]
  · intro h
    rw [h]
    exact congrArg (fun n => some (EnvironmentId.mk n)) (Int32.ofInt_toInt _)

namespace Issuer

/-- A token is accepted for an environment with some claims exactly when it is a message, a dot and the written
keyed hash of the message under the secret, where the message is a header that names the one algorithm, a
dot and these claims; when the clock can be read and its second is not past the end of validity; and when
the claims are of this issuer, for this audience, and their subject is the number of the environment. -/
theorem verify_eq_done_iff (i : Issuer) (now : Instant) (token : String) (id : EnvironmentId) (claims : Claims) :
    i.verify now token id = .done claims ↔
      (∃ message header payload : List Char,
        token.toList = message ++ '.' :: Base64.encode .urlSafe (Hmac.sign i.secret (Utf8.encode message)) ∧
        message = header ++ '.' :: payload ∧ '.' ∉ payload ∧
        TokenHeader.Declares header .hs256 ∧ Payload.Carries payload claims) ∧
      now.isReadable = true ∧ now.seconds ≤ claims.expiresAt.toInt ∧
      claims.issuer = "edgeward" ∧ claims.audience = "edgeward-tunnel" ∧
      Decimal.read Decimal.signed32 claims.subject.toList = .ok id.number.toInt := by
  have hsigned := @signedClaims_eq_ok_iff i token.toList claims
  unfold signature at hsigned
  rw [← hsigned, ← Claims.environmentId?_eq_some_iff, verify]
  cases i.signedClaims token.toList with
  | error fault => simp
  | ok c =>
    simp only [Outcome.ite_refused_eq_done_iff, Outcome.ite_crashed_eq_done_iff, Outcome.done.injEq, Except.ok.injEq,
      ne_eq, Decidable.not_not, Bool.not_eq_true', Bool.not_eq_false]
    constructor
    · rintro ⟨-, hend, hissuer, haudience, hreadable, hid, rfl⟩
      have hend : ¬ c.expiresAt.toInt < now.seconds := by simpa [Claims.isExpired] using hend
      exact ⟨rfl, hreadable, Int.not_lt.1 hend, hissuer, haudience, hid⟩
    · rintro ⟨rfl, hreadable, hend, hissuer, haudience, hid⟩
      have hepoch : ¬ now < .epoch := Int.not_lt.2 (Instant.isReadable_iff.1 hreadable).1
      have hend : ¬ c.expiresAt.toInt < now.seconds := Int.not_lt.2 hend
      exact ⟨hepoch, by simpa [Claims.isExpired] using hend, hissuer, haudience, hreadable, hid, rfl⟩

end Issuer

end EdgeFleet
