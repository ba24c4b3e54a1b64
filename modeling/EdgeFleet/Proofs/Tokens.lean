import EdgeFleet.Credential.Issuer
import EdgeFleet.Proofs.Base64
import EdgeFleet.Proofs.Json.Codec
/-!
# Tokens read back

A token that was made from claims falls apart into its parts again, its header names the algorithm,
its signature is the one of its signed part, and both readings of its payload go through: the first
gives the claims, the second finds the end of validity.
-/

namespace EdgeFleet

open Json

namespace Text

/-- A text is cut at a character that does not occur behind it. -/
theorem splitLast_append {c : Char} (s : List Char) {t : List Char} (h : c ∉ t) :
    splitLast c (s ++ c :: t) = some (s, t) := by
  have hne : ∀ d ∈ t.reverse, decide (d ≠ c) = true := by
    intro d hd
    rw [decide_eq_true_eq]
    rintro rfl
    exact h (List.mem_reverse.1 hd)
  unfold splitLast
  rw [List.reverse_append, List.reverse_cons, List.append_assoc, List.dropWhile_append_of_pos hne,
    List.takeWhile_append_of_pos hne]
  simp

/-- The parts are what stands around the last occurrence of the character. -/
theorem splitLast_eq_some_iff {c : Char} {s t u : List Char} :
    splitLast c s = some (t, u) ↔ s = t ++ c :: u ∧ c ∉ u := by
  constructor
  · intro h
    unfold splitLast at h
    cases hd : s.reverse.dropWhile (· ≠ c) with
    | nil => rw [hd] at h; cases h
    | cons d before =>
      rw [hd] at h
      obtain ⟨rfl, rfl⟩ := Prod.mk.inj (Option.some.inj h)
      have hne : s.reverse.dropWhile (· ≠ c) ≠ [] := by rw [hd]; simp
      have hlast : d = c := by
        have hhead := List.head_dropWhile_not _ hne
        simp only [hd, List.head_cons] at hhead
        simpa using hhead
      subst hlast
      have hbehind : ∀ e ∈ s.reverse.takeWhile (· ≠ d), decide (e ≠ d) = true :=
        List.all_eq_true.1 List.all_takeWhile
      refine ⟨?_, fun hmem => of_decide_eq_true (hbehind d (List.mem_reverse.1 hmem)) rfl⟩
      rw [← List.reverse_inj, List.reverse_append, List.reverse_cons, List.reverse_reverse, List.reverse_reverse,
        List.append_assoc, List.singleton_append, ← hd, List.takeWhile_append_dropWhile]
  · rintro ⟨rfl, h⟩
    exact splitLast_append t h

end Text

/-! ## The parts of a token -/

namespace TokenHeader

theorem standard_readsBack : codec.ReadsBack standard := by
  refine Fields.rename_readsBack rfl (by decide) ⟨?_, ?_, rfl, rfl, rfl, rfl, rfl, rfl, rfl, rfl, trivial⟩
  · exact Codec.option_string_readsBack (some "JWT")
  · exact Codec.oneOf_readsBack rfl

end TokenHeader

namespace Json.Codec

theorem int64_readsBack (n : Int64) : int64.ReadsBack n :=
  int_rename_readsBack (by decide) (by decide) (Int64.ofInt_toInt n) ⟨n.le_toInt, Int.le_sub_one_of_lt n.toInt_lt⟩

end Json.Codec

namespace Claims

theorem readsBack (c : Claims) : codec.ReadsBack c :=
  Fields.rename_readsBack rfl (by decide) ⟨Codec.string_readsBack _, Codec.int64_readsBack _,
    Codec.int64_readsBack _, Codec.string_readsBack _, Codec.string_readsBack _, trivial⟩

/-- The members of written claims. -/
def members (c : Claims) : List (String × Value) :=
  [("sub", .str c.subject), ("iat", .int c.issuedAt.toInt), ("exp", .int c.expiresAt.toInt), ("iss", .str c.issuer),
    ("aud", .str c.audience)]

theorem bytes_encode (c : Claims) :
    Utf8.bytes (codec.encode c) = Json.bytes (Value.obj c.members).compact ++ [] := by
  rw [Utf8.bytes, Codec.encode, Value.text, String.toList_ofList, List.append_nil]
  rfl

end Claims

namespace Payload

/-- The fields of the second reading. -/
def timeFields : Fields (Unit × Unit × Unit × Unit × Unit × Unit) :=
  .and (once "exp" passed) <| .and (once "nbf" tried) <| .and (once "sub" passed) <| .and (once "iss" passed) <|
    .and (once "aud" passed) .done

/-- What is found of the fields, where the beginning of validity is not. -/
def found (exp sub iss aud : Option Unit) : timeFields.Found := (exp, none, sub, iss, aud, ())

/-- Whether what is found with a key is that something was passed over. -/
def Passes (f : timeFields.Found) (k : String) (g : timeFields.Found) : Prop :=
  ∀ s, timeFields.take f k s = (Json.pass s).map (fun r => (g, r))

theorem passes_sub : Passes timeFields.nothing "sub" (found none (some ()) none none) := by
  intro s
  change Except.map _ (Except.map _ (Except.map _ (Except.map _ (Json.pass s)))) = _
  cases Json.pass s <;> rfl

theorem passes_iat (exp sub iss aud : Option Unit) : Passes (found exp sub iss aud) "iat" (found exp sub iss aud) :=
  fun _ => rfl

theorem passes_exp (sub iss aud : Option Unit) :
    Passes (found none sub iss aud) "exp" (found (some ()) sub iss aud) := by
  intro s
  change Except.map _ (Except.map _ (Json.pass s)) = _
  cases Json.pass s <;> rfl

theorem passes_iss (exp sub aud : Option Unit) :
    Passes (found exp sub none aud) "iss" (found exp sub (some ()) aud) := by
  intro s
  change Except.map _ (Except.map _ (Except.map _ (Except.map _ (Except.map _ (Json.pass s))))) = _
  cases Json.pass s <;> rfl

theorem passes_aud (exp sub iss : Option Unit) :
    Passes (found exp sub iss none) "aud" (found exp sub iss (some ())) := by
  intro s
  change Except.map _ (Except.map _ (Except.map _ (Except.map _ (Except.map _ (Except.map _ (Json.pass s)))))) = _
  cases Json.pass s <;> rfl

theorem Passes.readMembers {f g : timeFields.Found} {k : String} (h : Passes f k g) {v : Value}
    {ms : List (String × Value)} (hv : Json.pass (Json.bytes v.compact ++ (Json.bytes (Value.moreMembers ms) ++ [])) =
      .ok (Json.bytes (Value.moreMembers ms) ++ [])) (first : Bool) :
    timeFields.readMembers f first (Json.bytes (Value.membersFrom first ((k, v) :: ms)) ++ []) =
      timeFields.readMembers g false (Json.bytes (Value.membersFrom false ms) ++ []) := by
  refine Fields.readMembers_cons ?_ first
  rw [h, hv]
  rfl

/-- The second reading of written claims passes over every member. -/
theorem readMembers_claims (c : Claims) :
    timeFields.readMembers timeFields.nothing true (Json.bytes (Value.membersFrom true c.members) ++ []) =
      timeFields.readMembers (found (some ()) (some ()) (some ()) (some ())) false [byte '}'] := by
  unfold Claims.members
  rw [passes_sub.readMembers (pass_str _ _),
    (passes_iat _ _ _ _).readMembers (pass_int _ (endsNumber_moreMembers _ _)),
    (passes_exp _ _ _).readMembers (pass_int _ (endsNumber_moreMembers _ _)),
    (passes_iss _ _ _).readMembers (pass_str _ _), (passes_aud _ _ _).readMembers (pass_str _ _)]
  rfl

theorem decode_times (c : Claims) : times.decode (Utf8.bytes (Claims.codec.encode c)) = .ok () := by
  have hread :
      timeFields.codec.read (Json.bytes (Value.obj c.members).compact ++ []) = .ok (((), (), (), (), (), ()), []) :=
    Fields.read_obj (readMembers_claims c) rfl
  have htimes : times.read (Json.bytes (Value.obj c.members).compact ++ []) = .ok ((), []) := by
    change (timeFields.codec.read _).map _ = _
    rw [hread]
    rfl
  unfold Codec.decode
  rw [Claims.bytes_encode, htimes]
  rfl

/-- Written claims are read with whether their end of validity is a time. -/
theorem read_encode (c : Claims) :
    read (Utf8.bytes (Claims.codec.encode c)) = .ok (c, decide (0 ≤ c.expiresAt)) := by
  have harray : isArray (Utf8.bytes (Claims.codec.encode c)) = false := by
    rw [Claims.bytes_encode, Value.compact, bytes_cons_ascii (by decide), List.cons_append, isArray,
      skipBlanks_cons (by decide)]
    rfl
  unfold read
  rw [c.readsBack.decode_encode]
  simp only [harray, decode_times, bind, Except.bind]
  rfl

end Payload

namespace Issuer

theorem partBytes_part (s : String) : partBytes (part s) = .ok (Utf8.bytes s) := by
  unfold partBytes part
  rw [Base64.decode_encode]
  rfl

theorem algorithmOf_part : algorithmOf (part (TokenHeader.codec.encode .standard)) = .ok .hs256 := by
  unfold algorithmOf
  rw [partBytes_part]
  simp only [bind, Except.bind, TokenHeader.standard_readsBack.decode_encode]
  rfl

theorem claimsOf_part (c : Claims) :
    claimsOf (part (Claims.codec.encode c)) = if 0 ≤ c.expiresAt then .ok c else .error .noExpiry := by
  unfold claimsOf
  rw [partBytes_part]
  simp only [bind, Except.bind, Payload.read_encode]
  by_cases h : 0 ≤ c.expiresAt
  · rw [decide_eq_true h, if_pos h]; rfl
  · rw [decide_eq_false h, if_neg h]; rfl

/-- A token falls apart into what it was put together from. -/
theorem parts_token (i : Issuer) (c : Claims) :
    parts (i.token c) = some (message c, part (TokenHeader.codec.encode .standard), part (Claims.codec.encode c),
      i.signature (message c)) := by
  have hsignature : '.' ∉ i.signature (message c) := Base64.dot_not_mem_encode _ _
  have hpayload : '.' ∉ part (Claims.codec.encode c) := Base64.dot_not_mem_encode _ _
  have hmessage : Text.splitLast '.' (message c) = _ := Text.splitLast_append _ hpayload
  unfold parts token
  rw [Text.splitLast_append _ hsignature]
  simp only [bind, Option.bind, hmessage]

/-- The claims of a token are those that it was made from. -/
theorem signedClaims_token (i : Issuer) (c : Claims) :
    i.signedClaims (i.token c) = if 0 ≤ c.expiresAt then .ok c else .error .noExpiry := by
  unfold signedClaims
  rw [parts_token]
  simp only [bind, Except.bind, algorithmOf_part, ne_eq, not_true_eq_false, if_false, claimsOf_part]

end Issuer

end EdgeFleet
