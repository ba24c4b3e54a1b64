import EdgeFleet.Proofs.Decimal
import EdgeFleet.Proofs.Tokens
import EdgeFleet.Tunnel.Board
/-!
# Credentials that are issued and verified

The claims of issued credentials name the environment and the two times in whole seconds (`issued`).
What the verification of their token comes to depends on the claims alone (`verify_token`): they are
expired, or name another environment, or are accepted.
-/

namespace EdgeFleet

namespace Instant

theorem isReadable_iff {t : Instant} : t.isReadable = true ↔ 0 ≤ t.nanos ∧ t.nanos ≤ 8210266876799999999999 := by
  rw [isReadable, Bool.and_eq_true, decide_eq_true_iff, decide_eq_true_iff]
  rfl

theorem plus?_eq_some_iff {t u : Instant} {d : Span} :
    t.plus? d = some u ↔ u.nanos = t.nanos + d.nanos ∧ u.onCalendar = true := by
  unfold plus?
  change (if (⟨t.nanos + d.nanos⟩ : Instant).onCalendar then _ else none) = _ ↔ _
  split
  · rename_i h
    constructor
    · rintro ⟨⟩
      exact ⟨rfl, h⟩
    · rintro ⟨hn, -⟩
      rw [← hn]
  · rename_i h
    constructor
    · rintro ⟨⟩
    · rintro ⟨hn, hc⟩
      rw [← hn] at h
      exact absurd hc h

theorem seconds_of_onCalendar {t : Instant} (h : t.onCalendar = true) :
    -8334601228800 ≤ t.seconds ∧ t.seconds ≤ 8210266876799 := by
  rw [onCalendar, Bool.and_eq_true, decide_eq_true_iff, decide_eq_true_iff] at h
  obtain ⟨hl, hm⟩ : -8334601228800 * 1000000000 ≤ t.nanos ∧ t.nanos ≤ 8210266876799999999999 := h
  unfold seconds
  omega

theorem onCalendar_of_isReadable {t : Instant} (h : t.isReadable = true) : t.onCalendar = true := by
  obtain ⟨hl, hm⟩ := isReadable_iff.1 h
  rw [onCalendar, Bool.and_eq_true, decide_eq_true_iff, decide_eq_true_iff]
  refine ⟨?_, hm⟩
  change -8334601228800 * 1000000000 ≤ t.nanos
  omega

/-- The seconds that a clock shows have 64 bits. -/
theorem toInt_seconds {t : Instant} (h : t.isReadable = true) : (Int64.ofInt t.seconds).toInt = t.seconds := by
  obtain ⟨hl, hm⟩ := seconds_of_onCalendar (onCalendar_of_isReadable h)
  exact Int64.toInt_ofInt_of_le (by omega) (by omega)

end Instant

namespace Claims

/-- Whether claims are the ones that are issued for an environment, with the times of issue and of the
end of validity in whole seconds. -/
structure AreFor (c : Claims) (id : EnvironmentId) (issuedAt expiresAt : Int) : Prop where
  subject : c.subject = id.text
  issuedAt : c.issuedAt.toInt = issuedAt
  expiresAt : c.expiresAt.toInt = expiresAt
  issuer : c.issuer = "edgeward"
  audience : c.audience = "edgeward-tunnel"

theorem AreFor.environmentId? {c : Claims} {id : EnvironmentId} {s e : Int} (h : c.AreFor id s e) :
    c.environmentId? = some id := by
  have hread : Decimal.read Decimal.signed32 c.subject.toList = .ok id.number.toInt := by
    rw [h.subject, EnvironmentId.text, Decimal.toList_toString, Decimal.read_write _ _ (Decimal.holds_toInt _)]
  unfold Claims.environmentId?
  rw [hread]
  change some (EnvironmentId.mk (Int32.ofInt id.number.toInt)) = some id
  rw [Int32.ofInt_toInt]

end Claims

namespace Issuer

variable {i : Issuer} {now t e : Instant} {a b : EnvironmentId} {c : Credentials}

/-- Issuing makes claims for the environment, and they end in the second in which the credentials do. -/
theorem issued (hnow : now.isReadable = true) (he : now.plus? i.validity = some e) :
    ∃ claims : Claims, claims.AreFor a now.seconds e.seconds ∧
      i.issue? now a = some ⟨String.ofList (i.token claims), .ofSeconds e.seconds⟩ := by
  have hs := Instant.seconds_of_onCalendar (Instant.onCalendar_of_isReadable hnow)
  have hes := Instant.seconds_of_onCalendar (Instant.plus?_eq_some_iff.1 he).2
  have hexp : (Int64.ofInt e.seconds).toInt = e.seconds := Int64.toInt_ofInt_of_le (by omega) (by omega)
  refine ⟨⟨a.text, Int64.ofInt now.seconds, Int64.ofInt e.seconds, Claims.ownIssuer, Claims.ownAudience⟩,
    ⟨rfl, Int64.toInt_ofInt_of_le (by omega) (by omega), hexp, rfl, rfl⟩, ?_⟩
  unfold issue? Claims.make?
  rw [if_pos hnow, he, Option.map_some, Option.map_some, hexp]

/-- What the verification of a token comes to whose claims were issued, by a clock that is not before
the epoch. -/
theorem verify_token {claims : Claims} {s u : Int} (hclaims : claims.AreFor a s u) (hlatest : u ≤ 8210266876799)
    (hexp : 0 ≤ u) (ht : .epoch ≤ t) :
    i.verify t (String.ofList (i.token claims)) b =
      if u < t.seconds then .refused .expired
      else if a ≠ b then .refused (.wrongEnvironment b a.text)
      else .done claims := by
  have hnonneg : 0 ≤ claims.expiresAt := by
    rw [Int64.le_iff_toInt_le, hclaims.expiresAt]
    exact hexp
  have hnanos : 0 ≤ t.nanos := ht
  have hepoch : ¬ t < .epoch := by
    rw [Instant.lt_iff]
    exact Int.not_lt.2 hnanos
  unfold verify
  rw [String.toList_ofList, signedClaims_token, if_pos hnonneg]
  change (if t < .epoch then _ else if claims.isExpired t then _ else _) = _
  rw [if_neg hepoch, Claims.isExpired, hclaims.expiresAt]
  by_cases hlt : u < t.seconds
  · rw [if_pos (decide_eq_true hlt), if_pos hlt]
  · -- The end of validity is on the calendar, so a clock that is not past it can be read.
    have hreadable : t.isReadable = true := by
      unfold Instant.seconds at hlt
      exact Instant.isReadable_iff.2 ⟨hnanos, by omega⟩
    rw [if_neg (by simpa using hlt), if_neg hlt, if_neg (by rw [hclaims.issuer]; decide),
      if_neg (by rw [hclaims.audience]; decide), if_neg (by rw [hreadable]; decide), hclaims.environmentId?,
      hclaims.subject]
    by_cases hab : a = b
    · rw [if_neg (by rw [hab]; simp), if_neg (by simpa using hab)]
    · rw [if_pos (by simpa using hab), if_pos hab]

/-- Credentials that are issued for an environment verify as expired once the second is past in which
they end, else as those of another environment unless it is this one, else with the claims that they
were issued with. Credentials that do not count as expired are accepted, and so are those that a tunnel
keeps as good ones. -/
theorem verify_issued (i : Issuer) (now e t : Instant) (a b : EnvironmentId) (hnow : now.isReadable = true)
    (he : now.plus? i.validity = some e) (hexp : 0 ≤ e.seconds) (ht : .epoch ≤ t) :
    ∃ (c : Credentials) (claims : Claims), i.issue? now a = some c ∧ claims.AreFor a now.seconds e.seconds ∧
      i.verify t c.token b =
        (if e.seconds < t.seconds then .refused .expired
        else if a ≠ b then .refused (.wrongEnvironment b a.text)
        else .done claims) ∧
      (c.isExpiredAt t = false → i.verify t c.token a = .done claims) ∧
      ∀ u : Tunnel, u.credentials = some c → u.hasFreshCredentials t = true → i.verify t c.token a = .done claims := by
  obtain ⟨claims, hclaims, hissue⟩ := issued (a := a) hnow he
  have hlatest := (Instant.seconds_of_onCalendar (Instant.plus?_eq_some_iff.1 he).2).2
  have hfresh : ∀ c : Credentials, c = ⟨String.ofList (i.token claims), .ofSeconds e.seconds⟩ →
      c.isExpiredAt t = false → i.verify t c.token a = .done claims := by
    rintro c rfl hfresh
    -- The end is kept in whole seconds, so before it the clock shows an earlier second.
    have hend : ¬ e.seconds * 1000000000 ≤ t.nanos := of_decide_eq_false hfresh
    have hlt : ¬ e.seconds < t.seconds := by
      unfold Instant.seconds at hend ⊢
      omega
    rw [verify_token hclaims hlatest hexp ht, if_neg hlt, if_neg (by simp)]
  refine ⟨_, claims, hissue, hclaims, verify_token hclaims hlatest hexp ht, hfresh _ rfl, fun u hu hf => ?_⟩
  unfold Tunnel.hasFreshCredentials at hf
  rw [hu] at hf
  exact hfresh _ rfl (by simpa using hf)

/-- Credentials that are issued at the epoch for an hour are accepted a minute later. -/
theorem verify_issued_at_epoch : ∃ (c : Credentials) (claims : Claims),
    (⟨[], .ofSeconds 3600⟩ : Issuer).issue? .epoch ⟨7⟩ = some c ∧ claims.AreFor ⟨7⟩ 0 3600 ∧
      (⟨[], .ofSeconds 3600⟩ : Issuer).verify (.ofSeconds 60) c.token ⟨7⟩ = .done claims := by
  obtain ⟨c, claims, hissue, hclaims, hverify, -⟩ := verify_issued ⟨[], .ofSeconds 3600⟩ .epoch
    (.ofSeconds 3600) (.ofSeconds 60) ⟨7⟩ ⟨7⟩ (by decide) (by decide) (by decide) (by decide)
  exact ⟨c, claims, hissue, hclaims, hverify⟩

end Issuer

end EdgeFleet
