import EdgeFleet.Json.Codec
import EdgeFleet.Proofs.Json.Numeral
/-!
# What a codec writes it reads back

`Codec.Reads` is the law of a codec at a document and a value: the written document is read as the
value off the front of whatever follows it, as long as that ends a number. At the document that the
codec writes it is `Codec.ReadsBack`. Each way to make a codec has a lemma that gives the law from the
laws of its parts; for a record, whose fields are read by their names, it is an induction on the fields
that follows what was found so far.
-/

namespace EdgeFleet.Json

namespace Codec

variable {α β : Type} {c : Codec α} {v : Value} {a : α}

/-- Whether a document is read as a value off the front of whatever may follow it. -/
def Reads (c : Codec α) (v : Value) (a : α) : Prop :=
  ∀ rest, EndsNumber rest → c.read (bytes v.compact ++ rest) = .ok (a, rest)

/-- Whether a written value is read back. -/
def ReadsBack (c : Codec α) (a : α) : Prop := c.Reads (c.write a) a

/-- The text of a document is decoded as what the document is read as. -/
theorem Reads.decode_text (h : c.Reads v a) : c.decode (Utf8.bytes v.text) = .ok a := by
  have hread : c.read (Utf8.bytes v.text) = .ok (a, []) := by
    rw [← h [] endsNumber_nil, List.append_nil, Utf8.bytes, Value.text, String.toList_ofList]
  unfold decode
  rw [hread]
  rfl

/-- The written text of a value reads back as the value. -/
theorem ReadsBack.decode_encode (h : c.ReadsBack a) : c.decode (Utf8.bytes (c.encode a)) = .ok a :=
  Reads.decode_text h

theorem Reads.rename (h : c.Reads v a) (into : α → β) (back : β → α) : (c.rename into back).Reads v (into a) := by
  intro rest hrest
  change (c.read (bytes v.compact ++ rest)).map (fun p => (into p.1, p.2)) = _
  rw [h rest hrest]
  rfl

theorem ReadsBack.rename {b : β} {into : α → β} {back : β → α} (h : c.ReadsBack (back b)) (hb : into (back b) = b) :
    (c.rename into back).ReadsBack b := by
  have hread := Reads.rename h into back
  rw [hb] at hread
  exact hread

/-! ## Scalars -/

theorem ofKind_cons {starts : UInt8 → Bool} {read : UInt8 → Reader α} {b : UInt8} (hb : isBlank b = false)
    (hs : starts b = true) (r : List UInt8) : ofKind starts read (b :: r) = read b r := by
  unfold ofKind
  rw [skipBlanks_cons hb]
  exact if_pos hs

theorem string_readsBack (s : String) : Codec.string.ReadsBack s := by
  intro rest _
  change ofKind (fun b => b = byte '"') (fun _ r => text r) (bytes (Value.str s).compact ++ rest) = _
  rw [Value.compact, bytes_quote, ofKind_cons (by decide) (by decide), text_escapes]

theorem isBlank_of_digit {b : UInt8} (h : (Numeral.digit? b).isSome = true) : isBlank b = false := by
  rw [← Bool.not_eq_true]
  intro hb
  simp only [isBlank, Bool.or_eq_true, beq_iff_eq] at hb
  rcases hb with ((rfl | rfl) | rfl) | rfl <;> cases h

/-- How the bytes of a number start. -/
theorem bytes_write (n : Int) (rest : List UInt8) : ∃ b r, bytes (Decimal.write n) ++ rest = b :: r ∧
    isBlank b = false ∧ (b = byte '-' ∨ (Numeral.digit? b).isSome = true) := by
  obtain ⟨c, s, hw, hc, hs⟩ := Numeral.write_eq_cons n
  refine ⟨byte c, bytes s ++ rest, by rw [hw, bytes_cons_ascii hc]; rfl, ?_⟩
  rcases hs with ⟨hm, -, -⟩ | ⟨-, -, hd, -⟩
  · rw [hm]; exact ⟨rfl, .inl rfl⟩
  · exact ⟨isBlank_of_digit hd, .inr hd⟩

/-- A byte that starts a number is no other mark. -/
theorem ne_of_number {b : UInt8} (h : b = byte '-' ∨ (Numeral.digit? b).isSome = true) {c : Char}
    (hd : Numeral.digit? (byte c) = none) (hm : byte c ≠ byte '-') : b ≠ byte c := by
  rintro rfl
  rcases h with h | h
  · exact hm h
  · rw [hd] at h; cases h

/-- A number of a range of at most 64 bits is read behind its first byte. -/
theorem readInt_write {range : Decimal.Range} (hl : -0x8000000000000000 ≤ range.least)
    (hm : range.most < 0x10000000000000000) {n : Int} (h : range.holds n = true) {rest : List UInt8}
    (hrest : EndsNumber rest) : ∃ b r, bytes (Decimal.write n) ++ rest = b :: r ∧ isBlank b = false ∧
      (b = byte '-' ∨ (Numeral.digit? b).isSome = true) ∧ readInt range b r = .ok (n, rest) := by
  have hread := Numeral.read_write .cutOff n hrest
  obtain ⟨b, r, he, hb, hs⟩ := bytes_write n rest
  refine ⟨b, r, he, hb, hs, ?_⟩
  have hin : range.least ≤ n ∧ n ≤ range.most := by
    simpa only [Decimal.Range.holds, Bool.and_eq_true, decide_eq_true_eq] using h
  rw [he] at hread
  rw [readInt, hread]
  simp only [Numeral.value_ofInt (show -0x8000000000000000 ≤ n by omega) (show n < 0x10000000000000000 by omega), bind,
    Except.bind]
  exact if_pos h

theorem int_readsBack {range : Decimal.Range} (hl : -0x8000000000000000 ≤ range.least)
    (hm : range.most < 0x10000000000000000) {n : Int} (h : range.holds n = true) : (Codec.int range).ReadsBack n := by
  intro rest hrest
  change ofKind _ _ (bytes (Value.int n).compact ++ rest) = _
  obtain ⟨b, r, he, hb, hs, hread⟩ := readInt_write hl hm h hrest
  rw [Value.compact, he, ofKind_cons hb (by simpa using hs), hread]

/-- Machine integers of a range read back. -/
theorem int_rename_readsBack {range : Decimal.Range} (hl : -0x8000000000000000 ≤ range.least)
    (hm : range.most < 0x10000000000000000) {into : Int → α} {back : α → Int} (hb : into (back a) = a)
    (h : range.least ≤ back a ∧ back a ≤ range.most) : ((Codec.int range).rename into back).ReadsBack a := by
  refine ReadsBack.rename (int_readsBack hl hm ?_) hb
  rw [Decimal.Range.holds, Bool.and_eq_true, decide_eq_true_eq, decide_eq_true_eq]
  exact h

theorem bool_readsBack (b : Bool) : Codec.bool.ReadsBack b := by
  intro rest _
  change Codec.bool.read (bytes (Value.bool b).compact ++ rest) = _
  cases b with
  | true =>
    rw [Value.compact]
    change Codec.bool.read (byte 't' :: byte 'r' :: byte 'u' :: byte 'e' :: rest) = _
    unfold Codec.bool ofKind
    simp only [skipBlanks_cons (show isBlank (byte 't') = false by decide)]
    rfl
  | false =>
    rw [Value.compact]
    change Codec.bool.read (byte 'f' :: byte 'a' :: byte 'l' :: byte 's' :: byte 'e' :: rest) = _
    unfold Codec.bool ofKind
    simp only [skipBlanks_cons (show isBlank (byte 'f') = false by decide)]
    rfl

/-- How the bytes of a document start: with no blank, not as an array closes, and as `null` starts only
if the document is that. -/
theorem bytes_compact (v : Value) : ∃ b r, bytes v.compact = b :: r ∧ isBlank b = false ∧ b ≠ byte ']' ∧
    (b = byte 'n' → v = .null) := by
  have hmark : ∀ (c : Char) (s : List Char), c.toNat < 128 → isBlank (byte c) = false → byte c ≠ byte ']' →
      byte c ≠ byte 'n' → ∃ b r, bytes (c :: s) = b :: r ∧ isBlank b = false ∧ b ≠ byte ']' ∧
        (b = byte 'n' → v = .null) := by
    intro c s hc hb hclose hn
    exact ⟨byte c, bytes s, bytes_cons_ascii hc s, hb, hclose, fun h => absurd h hn⟩
  cases v with
  | null => rw [Value.compact]; exact ⟨byte 'n', _, rfl, by decide, by decide, fun _ => rfl⟩
  | bool b =>
    cases b with
    | true => rw [Value.compact]; exact hmark 't' _ (by decide) (by decide) (by decide) (by decide)
    | false => rw [Value.compact]; exact hmark 'f' _ (by decide) (by decide) (by decide) (by decide)
  | int n =>
    obtain ⟨b, r, he, hb, hs⟩ := bytes_write n []
    rw [List.append_nil] at he
    rw [Value.compact]
    exact ⟨b, r, he, hb, ne_of_number hs rfl (by decide), fun h => absurd h (ne_of_number hs rfl (by decide))⟩
  | str s => rw [Value.compact]; exact hmark '"' _ (by decide) (by decide) (by decide) (by decide)
  | arr items => rw [Value.compact]; exact hmark '[' _ (by decide) (by decide) (by decide) (by decide)
  | obj members => rw [Value.compact]; exact hmark '{' _ (by decide) (by decide) (by decide) (by decide)

theorem option_null_reads (c : Codec α) : c.option.Reads .null none := by
  intro rest _
  rw [Value.compact]
  change c.option.read (byte 'n' :: byte 'u' :: byte 'l' :: byte 'l' :: rest) = _
  unfold Codec.option
  simp only [skipBlanks_cons (show isBlank (byte 'n') = false by decide)]
  rfl

/-- A value that may be `null` and is not. -/
theorem Reads.option (h : c.Reads v a) (hv : v ≠ .null) : c.option.Reads v (some a) := by
  intro rest hrest
  obtain ⟨b, r, he, hb, -, hn⟩ := bytes_compact v
  have hread := h rest hrest
  rw [he, List.cons_append] at hread ⊢
  unfold Codec.option
  simp only [skipBlanks_cons hb, if_neg (mt hn hv), hread]
  rfl

theorem option_readsBack {a? : Option α} (h : ∀ a, a? = some a → c.ReadsBack a ∧ c.write a ≠ .null) :
    c.option.ReadsBack a? := by
  cases a? with
  | none => exact option_null_reads c
  | some a => exact Reads.option (h a rfl).1 (h a rfl).2

theorem option_string_readsBack (s : Option String) : Codec.string.option.ReadsBack s :=
  option_readsBack (fun s _ => ⟨string_readsBack s, Value.noConfusion⟩)

theorem spelled_readsBack {write : α → String} {read : String → Option α} (h : read (write a) = some a) :
    (Codec.spelled write read).ReadsBack a := by
  intro rest hrest
  change (Codec.spelled write read).read (bytes (Value.str (write a)).compact ++ rest) = _
  have hread : Codec.string.read (bytes (Value.str (write a)).compact ++ rest) = .ok (write a, rest) :=
    string_readsBack (write a) rest hrest
  unfold Codec.spelled
  simp only [hread, h, bind, Except.bind]

theorem oneOf_readsBack {name : α → String} {all : List α} (h : pick name all (name a) = .ok a) :
    (Codec.oneOf name all).ReadsBack a := by
  intro rest _
  change (Codec.oneOf name all).read (bytes (Value.str (name a)).compact ++ rest) = _
  rw [Value.compact, bytes_quote]
  unfold Codec.oneOf
  simp only [skipBlanks_cons (show isBlank (byte '"') = false by decide), if_true, text_escapes, h, bind, Except.bind]

end Codec

/-! ## Passing over scalars -/

theorem pass_of_opening {s rest : List UInt8} (h : passOpening s = .ok (none, rest)) : pass s = .ok rest := by
  unfold pass passValues
  rw [h]
  rfl

theorem pass_str (s : String) (rest : List UInt8) : pass (bytes (Value.str s).compact ++ rest) = .ok rest := by
  apply pass_of_opening
  rw [Value.compact, bytes_quote, passOpening, skipBlanks_cons (by decide)]
  change (passText _).map _ = _
  rw [passText_escapes]
  rfl

theorem pass_int (n : Int) {rest : List UInt8} (h : EndsNumber rest) :
    pass (bytes (Value.int n).compact ++ rest) = .ok rest := by
  apply pass_of_opening
  have hread := Numeral.read_write .malformed n h
  obtain ⟨b, r, he, hb, hs⟩ := Codec.bytes_write n rest
  rw [Value.compact]
  rw [he] at hread ⊢
  rw [passOpening, skipBlanks_cons hb]
  change (if b = byte 'n' then _ else _) = _
  have hne : ∀ c, Numeral.digit? (byte c) = none → byte c ≠ byte '-' → b ≠ byte c := fun _ => Codec.ne_of_number hs
  rw [if_neg (hne 'n' rfl (by decide)), if_neg (hne 't' rfl (by decide)), if_neg (hne 'f' rfl (by decide)),
    if_neg (hne '"' rfl (by decide)), if_pos hs, hread]
  rfl

/-! ## Members of written objects -/

/-- Written members that others precede, up to the closing brace. -/
def Value.moreMembers : List (String × Value) → List Char
  | [] => ['}']
  | m :: r => ',' :: compactMembers (m :: r)

/-- Written members behind the opening brace, or behind other members. -/
def Value.membersFrom (first : Bool) (ms : List (String × Value)) : List Char :=
  if first then compactMembers ms else moreMembers ms

/-- What stands before a member. -/
def lead (first : Bool) : List UInt8 := if first then [] else [byte ',']

theorem bytes_membersFrom_cons (first : Bool) (k : String) (v : Value) (ms : List (String × Value))
    (rest : List UInt8) :
    bytes (Value.membersFrom first ((k, v) :: ms)) ++ rest = lead first ++ byte '"' ::
      (bytes (k.toList.flatMap escape) ++ byte '"' :: byte ':' ::
        (bytes v.compact ++ (bytes (Value.moreMembers ms) ++ rest))) := by
  have hmore : ∀ rest, bytes (Value.compactMembers ((k, v) :: ms)) ++ rest = byte '"' ::
      (bytes (k.toList.flatMap escape) ++ byte '"' :: byte ':' ::
        (bytes v.compact ++ (bytes (Value.moreMembers ms) ++ rest))) := by
    intro rest
    have he : Value.compactMembers ((k, v) :: ms) = quote k ++ ':' :: (v.compact ++ Value.moreMembers ms) := by
      cases ms with
      | nil => rw [Value.compactMembers, List.append_assoc]; rfl
      | cons m ms => rw [Value.compactMembers, List.append_assoc]; rfl
    rw [he, bytes, Utf8.encode_append, List.append_assoc, bytes_quote]
    change _ = byte '"' :: (_ ++ byte '"' :: byte ':' :: (Utf8.encode _ ++ (Utf8.encode _ ++ rest)))
    rw [← List.append_assoc (Utf8.encode v.compact), ← Utf8.encode_append]
    rfl
  cases first with
  | true => exact hmore rest
  | false =>
    change bytes (',' :: Value.compactMembers ((k, v) :: ms)) ++ rest = byte ',' :: _
    rw [bytes_cons_ascii (by decide), List.cons_append, hmore]
    rfl

theorem endsNumber_moreMembers (ms : List (String × Value)) (rest : List UInt8) :
    EndsNumber (bytes (Value.moreMembers ms) ++ rest) := by
  cases ms with
  | nil => exact endsNumber_cons (by decide) rest
  | cons m ms =>
    rw [Value.moreMembers, bytes_cons_ascii (by decide)]
    exact endsNumber_cons (by decide) _

theorem nextKey_lead (first : Bool) (r : List UInt8) :
    Codec.nextKey first (lead first ++ byte '"' :: r) = .ok (some r) := by
  cases first with
  | true =>
    change Codec.nextKey true (byte '"' :: r) = _
    unfold Codec.nextKey
    rw [skipBlanks_cons (by decide)]
    rfl
  | false =>
    change Codec.nextKey false (byte ',' :: byte '"' :: r) = _
    unfold Codec.nextKey
    rw [skipBlanks_cons (by decide)]
    change (mark '"' (byte '"' :: r)).map some = _
    rw [mark_cons (by decide)]
    rfl

theorem nextKey_close (first : Bool) (r : List UInt8) : Codec.nextKey first (byte '}' :: r) = .ok none := by
  unfold Codec.nextKey
  rw [skipBlanks_cons (by decide)]
  rfl

namespace Fields

variable {τ σ : Type}

/-! ## Reading member by member -/

/-- What is found with a member, given by its key, its value and what follows. -/
def take (fs : Fields τ) (found : fs.Found) (key : String) (s : List UInt8) : Except Fault (fs.Found × List UInt8) :=
  match fs.slot key found with
  | .taken => .error .unfitting
  | .free read => read s
  | .unknown => (pass s).map (fun r => (found, r))

/-- A member is read for what its key makes of it. -/
theorem readMembers_cons {fs : Fields τ} {found found' : fs.Found} {k : String} {v : Value}
    {ms : List (String × Value)} {rest : List UInt8}
    (h : fs.take found k (bytes v.compact ++ (bytes (Value.moreMembers ms) ++ rest)) =
      .ok (found', bytes (Value.moreMembers ms) ++ rest)) (first : Bool) :
    fs.readMembers found first (bytes (Value.membersFrom first ((k, v) :: ms)) ++ rest) =
      fs.readMembers found' false (bytes (Value.membersFrom false ms) ++ rest) := by
  rw [bytes_membersFrom_cons]
  change _ = fs.readMembers found' false (bytes (Value.moreMembers ms) ++ rest)
  generalize bytes (Value.moreMembers ms) ++ rest = s at h ⊢
  have hmark : mark ':' (byte ':' :: (bytes v.compact ++ s)) = .ok (bytes v.compact ++ s) := mark_cons (by decide) _
  have hlen : s.length < (lead first ++ byte '"' :: (bytes (k.toList.flatMap escape) ++ byte '"' :: byte ':' ::
      (bytes v.compact ++ s))).length := by
    simp only [List.length_append, List.length_cons]
    omega
  unfold take at h
  rw [readMembers, nextKey_lead]
  cases hs : fs.slot k found with
  | taken => rw [hs] at h; cases h
  | free read =>
    rw [hs] at h
    simp only [text_escapes, hs, hmark, bind, Except.bind, h]
    exact dif_pos hlen
  | unknown =>
    rw [hs] at h
    cases hp : pass (bytes v.compact ++ s) with
    | error f => rw [hp] at h; cases h
    | ok r =>
      rw [hp] at h
      cases h
      simp only [text_escapes, hs, hmark, bind, Except.bind, hp]
      exact dif_pos hlen

/-! ## Reading a written record -/

/-- The names of the fields. -/
def names : {τ : Type} → Fields τ → List String
  | _, done => []
  | _, .and field rest => field.name :: rest.names

/-- Whether members are a record's: in the order of the fields, each with a document that is read as
the field's value, but for fields left out whose values their absence stands for. -/
inductive Reads : {τ : Type} → Fields τ → List (String × Value) → τ → Prop where
  | done : Reads .done [] ()
  | absent {α β : Type} {field : Field α} {rest : Fields β} {ms : List (String × Value)} {a : α} {b : β}
      (h : field.absent = some a) (more : Reads rest ms b) : Reads (.and field rest) ms (a, b)
  | member {α β : Type} {field : Field α} {rest : Fields β} {v : Value} {ms : List (String × Value)} {a : α} {b : β}
      (h : field.codec.Reads v a) (more : Reads rest ms b) : Reads (.and field rest) ((field.name, v) :: ms) (a, b)

/-- Whether every value of a record is read back by the codec of its field, or is what a missing field
stands for if it is left out. -/
def ReadsBack : {τ : Type} → Fields τ → τ → Prop
  | _, done, _ => True
  | _, .and field rest, (a, b) =>
    (if field.leavesOut a then field.absent = some a else field.codec.ReadsBack a) ∧ rest.ReadsBack b

theorem ReadsBack.reads {fs : Fields τ} {a : τ} (h : fs.ReadsBack a) : fs.Reads (fs.writeMembers a) a := by
  induction fs with
  | done => exact .done
  | and field rest ih =>
    obtain ⟨a, b⟩ := a
    obtain ⟨ha, hb⟩ := h
    cases hl : field.leavesOut a with
    | true =>
      rw [hl] at ha
      simp only [writeMembers, hl, if_true]
      exact .absent ha (ih hb)
    | false =>
      rw [hl] at ha
      simp only [writeMembers, hl, Bool.false_eq_true, if_false]
      exact .member ha (ih hb)

/-- Whether what is found for some fields is a part of what is found for more, so that a key of these
fields is looked up there. -/
def IsPart (fs : Fields τ) (all : Fields σ) (into : fs.Found → all.Found) : Prop :=
  ∀ key ∈ fs.names, ∀ found, all.slot key (into found) = (fs.slot key found).map into

theorem isPart_self (fs : Fields τ) : fs.IsPart fs id := by
  intro key _ found
  change fs.slot key found = _
  cases fs.slot key found with
  | unknown => rfl
  | taken => rfl
  | free read =>
    refine congrArg Slot.free (funext fun s => ?_)
    cases read s <;> rfl

theorem IsPart.rest {α β : Type} {field : Field α} {rest : Fields β} {all : Fields σ}
    {into : (and field rest).Found → all.Found} (h : (and field rest).IsPart all into) (hn : field.name ∉ rest.names)
    (a : Option α) : rest.IsPart all (fun more => into (a, more)) := by
  intro key hkey found
  have hne : field.name ≠ key := fun he => hn (he ▸ hkey)
  rw [h key (List.mem_cons_of_mem _ hkey) (a, found)]
  change Slot.map into (if field.name = key then _ else _) = _
  rw [if_neg hne]
  cases rest.slot key found with
  | unknown => rfl
  | taken => rfl
  | free read =>
    refine congrArg Slot.free (funext fun s => ?_)
    change Except.map _ (Except.map _ (read s)) = Except.map _ (read s)
    cases read s <;> rfl

/-- The members of a record fill in what is found so far, field by field, until the record is complete. -/
theorem Reads.readMembers {fs : Fields τ} {ms : List (String × Value)} {a : τ} (h : fs.Reads ms a) {all : Fields σ}
    {into : fs.Found → all.Found} (hpart : fs.IsPart all into) (hn : fs.names.Nodup) (first : Bool)
    (rest : List UInt8) :
    ∃ found first', fs.complete found = some a ∧
      all.readMembers (into fs.nothing) first (bytes (Value.membersFrom first ms) ++ rest) =
        all.readMembers (into found) first' (byte '}' :: rest) := by
  induction h generalizing first with
  | done => exact ⟨(), first, rfl, by cases first <;> rfl⟩
  | @absent _ _ field more ms a b h _ ih =>
    obtain ⟨hname, hn⟩ := List.nodup_cons.1 hn
    obtain ⟨found, first', hc, hread⟩ := ih (hpart.rest hname none) hn first
    refine ⟨(none, found), first', ?_, hread⟩
    change (do
      let a ← field.absent
      let b ← more.complete found
      some (a, b)) = _
    rw [h, hc]
    rfl
  | @member _ _ field more v ms a b h _ ih =>
    obtain ⟨hname, hn⟩ := List.nodup_cons.1 hn
    obtain ⟨found, first', hc, hread⟩ := ih (hpart.rest hname (some a)) hn false
    refine ⟨(some a, found), first', ?_, ?_⟩
    · change (do
        let a ← some a
        let b ← more.complete found
        some (a, b)) = _
      rw [hc]
      rfl
    · have htake : all.take (into (none, more.nothing)) field.name
          (bytes v.compact ++ (bytes (Value.moreMembers ms) ++ rest)) =
            .ok (into (some a, more.nothing), bytes (Value.moreMembers ms) ++ rest) := by
        unfold take
        rw [hpart field.name List.mem_cons_self (none, more.nothing)]
        change (match Slot.map into (if field.name = field.name then _ else _) with
          | .taken => _
          | .free read => read _
          | .unknown => _) = _
        rw [if_pos rfl]
        change Except.map _ (Except.map _ (field.codec.read _)) = _
        rw [h _ (endsNumber_moreMembers _ rest)]
        rfl
      rw [← hread]
      exact readMembers_cons htake first

/-- A written object is read as the record of what is found in its members. -/
theorem read_obj {fs : Fields τ} {a : τ} {ms : List (String × Value)} {rest : List UInt8} {first : Bool}
    {found : fs.Found}
    (h : fs.readMembers fs.nothing true (bytes (Value.membersFrom true ms) ++ rest) =
      fs.readMembers found first (byte '}' :: rest)) (ha : fs.complete found = some a) :
    fs.codec.read (bytes (Value.obj ms).compact ++ rest) = .ok (a, rest) := by
  change Codec.ofKind (fun b => b = byte '{' ∨ b = byte '[') (fun b r =>
    if b = byte '{' then fs.readMembers fs.nothing true r else fs.readItems true r)
      (bytes (Value.obj ms).compact ++ rest) = _
  rw [Value.compact, bytes_cons_ascii (by decide), List.cons_append, Codec.ofKind_cons (by decide) (by decide),
    if_pos rfl]
  apply h.trans
  rw [readMembers, nextKey_close]
  simp only [ha]
  rw [Codec.closeObject, mark_cons (by decide)]
  rfl

/-- An object with the members of a record whose fields have different names is read as the record. -/
theorem codec_reads {fs : Fields τ} (hn : fs.names.Nodup) {ms : List (String × Value)} {a : τ} (h : fs.Reads ms a) :
    fs.codec.Reads (.obj ms) a := by
  intro rest _
  obtain ⟨found, first, hc, hread⟩ := h.readMembers fs.isPart_self hn true rest
  exact read_obj hread hc

/-- A record whose fields have different names and read back reads back. -/
theorem codec_readsBack (fs : Fields τ) {a : τ} (hn : fs.names.Nodup) (ha : fs.ReadsBack a) :
    fs.codec.ReadsBack a :=
  codec_reads hn ha.reads

/-- A record under another name reads back if its fields do. -/
theorem rename_readsBack {ρ : Type} {fs : Fields τ} {into : τ → ρ} {back : ρ → τ} {r : ρ} (hr : into (back r) = r)
    (hn : fs.names.Nodup) (h : fs.ReadsBack (back r)) : (fs.codec.rename into back).ReadsBack r :=
  (codec_readsBack fs hn h).rename hr

end Fields

end EdgeFleet.Json
