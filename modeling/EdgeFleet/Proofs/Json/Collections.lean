import EdgeFleet.Proofs.Json.Codec
import EdgeFleet.Proofs.Table
import Mathlib.Data.List.Forall2
/-!
# Lists and tables read back

The items of an array are read one by one, each with the codec of the items, and so are the members of
an object that stands for a table, each with its key. In what order the entries of a table are written
does not matter.
-/

namespace EdgeFleet.Json

/-! ## Items of written arrays -/

/-- Written items that others precede, up to the closing bracket. -/
def Value.moreItems : List Value → List Char
  | [] => [']']
  | v :: r => ',' :: compactItems (v :: r)

/-- Written items behind the opening bracket, or behind other items. -/
def Value.itemsFrom (first : Bool) (vs : List Value) : List Char := if first then compactItems vs else moreItems vs

theorem bytes_itemsFrom_cons (first : Bool) (v : Value) (vs : List Value) (rest : List UInt8) :
    bytes (Value.itemsFrom first (v :: vs)) ++ rest =
      lead first ++ (bytes v.compact ++ (bytes (Value.moreItems vs) ++ rest)) := by
  have hmore :
      bytes (Value.compactItems (v :: vs)) ++ rest = bytes v.compact ++ (bytes (Value.moreItems vs) ++ rest) := by
    have he : Value.compactItems (v :: vs) = v.compact ++ Value.moreItems vs := by
      cases vs with
      | nil => rw [Value.compactItems]; rfl
      | cons w vs => rw [Value.compactItems]; rfl
    rw [he, bytes, Utf8.encode_append, List.append_assoc]
  cases first with
  | true => exact hmore
  | false =>
    change bytes (',' :: Value.compactItems (v :: vs)) ++ rest = byte ',' :: _
    rw [bytes_cons_ascii (by decide), List.cons_append, hmore]
    rfl

theorem endsNumber_moreItems (vs : List Value) (rest : List UInt8) :
    EndsNumber (bytes (Value.moreItems vs) ++ rest) := by
  cases vs with
  | nil => exact endsNumber_cons (by decide) rest
  | cons v vs =>
    rw [Value.moreItems, bytes_cons_ascii (by decide)]
    exact endsNumber_cons (by decide) _

namespace Codec

variable {α β κ : Type}

theorem nextItem_lead (first : Bool) {b : UInt8} (hb : isBlank b = false) (hc : b ≠ byte ']') (r : List UInt8) :
    nextItem first (lead first ++ b :: r) = .ok (some (b :: r)) := by
  cases first with
  | true =>
    change nextItem true (b :: r) = _
    unfold nextItem
    simp only [skipBlanks_cons hb, if_neg hc, if_true]
  | false =>
    change nextItem false (byte ',' :: b :: r) = _
    unfold nextItem
    simp only [skipBlanks_cons (show isBlank (byte ',') = false by decide), skipBlanks_cons hb, if_neg hc]
    rfl

theorem items_close (read : Reader α) (first : Bool) (rest : List UInt8) :
    items read first (byte ']' :: rest) = .ok ([], rest) := by
  have hnext : nextItem first (byte ']' :: rest) = .ok none := by
    unfold nextItem
    rw [skipBlanks_cons (by decide)]
    rfl
  rw [items, hnext]
  simp only [closeArray, mark_cons (show isBlank (byte ']') = false by decide)]
  rfl

/-- Written items are read one by one. -/
theorem items_reads {c : Codec α} {vs : List Value} {as : List α} (h : List.Forall₂ c.Reads vs as) (first : Bool)
    (rest : List UInt8) : items c.read first (bytes (Value.itemsFrom first vs) ++ rest) = .ok (as, rest) := by
  induction h generalizing first with
  | nil =>
    have hclose : bytes (Value.itemsFrom first []) ++ rest = byte ']' :: rest := by cases first <;> rfl
    rw [hclose, items_close]
  | @cons v a vs as hv _ ih =>
    -- By its first byte the item is told from the close of the array.
    obtain ⟨b, r, he, hb, hc, -⟩ := bytes_compact v
    have hread := hv _ (endsNumber_moreItems vs rest)
    have hlen : (bytes (Value.moreItems vs) ++ rest).length <
        (lead first ++ (bytes v.compact ++ (bytes (Value.moreItems vs) ++ rest))).length := by
      simp only [he, List.length_append, List.length_cons]
      omega
    rw [bytes_itemsFrom_cons]
    rw [he, List.cons_append] at hread hlen ⊢
    rw [items, nextItem_lead first hb hc]
    simp only [hread, dif_pos hlen]
    rw [show bytes (Value.moreItems vs) ++ rest = bytes (Value.itemsFrom false vs) ++ rest from rfl, ih false]
    rfl

/-- An array is read as the list of what its items are read as. -/
theorem list_reads {c : Codec α} {vs : List Value} {as : List α} (h : List.Forall₂ c.Reads vs as) :
    c.list.Reads (.arr vs) as := by
  intro rest _
  change ofKind (fun b => b = byte '[') (fun _ r => items c.read true r) (bytes (Value.arr vs).compact ++ rest) = _
  rw [Value.compact, bytes_cons_ascii (by decide), List.cons_append, ofKind_cons (by decide) (by decide)]
  exact items_reads h true rest

theorem list_readsBack {c : Codec α} {as : List α} (h : ∀ a ∈ as, c.ReadsBack a) : c.list.ReadsBack as := by
  refine list_reads ?_
  rw [List.forall₂_map_left_iff, List.forall₂_same]
  exact h

/-! ## Tables -/

theorem escape_of_mem_write {n : Int} {c : Char} (h : c ∈ Decimal.write n) : escape c = [c] := by
  have hall : ∀ d < 10, escape (Decimal.digit d) = [Decimal.digit d] := by decide
  have hdigits : ∀ {m : Nat}, c ∈ Decimal.digits m → escape c = [c] := by
    intro m hm
    rw [Numeral.digits_eq_map, List.mem_map] at hm
    obtain ⟨d, hd, rfl⟩ := hm
    exact hall d (Numeral.lt_of_mem_digitsOf hd)
  unfold Decimal.write at h
  split at h
  · rcases List.mem_cons.1 h with rfl | h
    · rfl
    · exact hdigits h
  · exact hdigits h

/-- A number is written as a key as it is. -/
theorem escapes_text (n : Int) : (Decimal.text n).toList.flatMap escape = Decimal.write n := by
  have hsingle : (Decimal.write n).flatMap escape = (Decimal.write n).flatMap (fun c => [c]) :=
    List.flatMap_congr (fun c hc => escape_of_mem_write hc)
  rw [Decimal.text, String.toList_ofList, hsingle, List.flatMap_singleton']

theorem intKey_text {range : Decimal.Range} (hl : -0x8000000000000000 ≤ range.least)
    (hm : range.most < 0x10000000000000000) {n : Int} (h : range.holds n = true) (rest : List UInt8) :
    intKey range (bytes ((Decimal.text n).toList.flatMap escape) ++ byte '"' :: rest) = .ok (n, rest) := by
  obtain ⟨b, r, he, -, hs, hread⟩ := readInt_write hl hm h (endsNumber_cons (b := byte '"') (by decide) rest)
  rw [escapes_text, he, intKey, if_pos hs, hread]
  rfl

theorem members_close (key : Reader κ) (read : Reader β) (first : Bool) (rest : List UInt8) :
    members key read first (byte '}' :: rest) = .ok ([], rest) := by
  rw [members, nextKey_close]
  simp only [closeObject, mark_cons (show isBlank (byte '}') = false by decide)]
  rfl

/-- Whether a member is read as an entry. -/
def ReadsEntry (key : Reader κ) (c : Codec β) (m : String × Value) (e : κ × β) : Prop :=
  (∀ rest, key (bytes (m.1.toList.flatMap escape) ++ byte '"' :: rest) = .ok (e.1, rest)) ∧ c.Reads m.2 e.2

/-- Written members are read one by one. -/
theorem members_reads {key : Reader κ} {c : Codec β} {ms : List (String × Value)} {es : List (κ × β)}
    (h : List.Forall₂ (ReadsEntry key c) ms es) (first : Bool) (rest : List UInt8) :
    members key c.read first (bytes (Value.membersFrom first ms) ++ rest) = .ok (es, rest) := by
  induction h generalizing first with
  | nil =>
    have hclose : bytes (Value.membersFrom first []) ++ rest = byte '}' :: rest := by cases first <;> rfl
    rw [hclose, members_close]
  | @cons m e ms es hm _ ih =>
    obtain ⟨k, v⟩ := m
    obtain ⟨hkey, hv⟩ := hm
    have hread := hv _ (endsNumber_moreMembers ms rest)
    have hmark : mark ':' (byte ':' :: (bytes v.compact ++ (bytes (Value.moreMembers ms) ++ rest))) = .ok _ :=
      mark_cons (by decide) _
    have hlen : (bytes (Value.moreMembers ms) ++ rest).length < (lead first ++ byte '"' ::
        (bytes (k.toList.flatMap escape) ++ byte '"' :: byte ':' ::
          (bytes v.compact ++ (bytes (Value.moreMembers ms) ++ rest)))).length := by
      simp only [List.length_append, List.length_cons]
      omega
    rw [bytes_membersFrom_cons, members, nextKey_lead]
    simp only [hkey, hmark, hread, bind, Except.bind, dif_pos hlen]
    rw [show bytes (Value.moreMembers ms) ++ rest = bytes (Value.membersFrom false ms) ++ rest from rfl, ih false]
    rfl

/-- The members that entries are written as. -/
def tableMembers (number : κ → Int) (c : Codec β) (es : List (κ × β)) : List (String × Value) :=
  es.map (fun e => (Decimal.text (number e.1), c.write e.2))

variable [Ord κ] [Std.TransOrd κ] [Std.LawfulEqOrd κ]

/-- An object with the entries of a table for members, in any order, is read as the table. -/
theorem table_reads {range : Decimal.Range} (hl : -0x8000000000000000 ≤ range.least)
    (hm : range.most < 0x10000000000000000) {key : Int → κ} {number : κ → Int} (hkey : ∀ k, key (number k) = k)
    (hin : ∀ k, range.holds (number k) = true) {c : Codec β} (hc : ∀ b, c.ReadsBack b) {t : Table κ β}
    {es : List (κ × β)} (h : es.Perm t.entries) :
    (Codec.table range key number c).Reads (.obj (tableMembers number c es)) t := by
  intro rest _
  have hentries : List.Forall₂ (ReadsEntry (intKey range) c) (tableMembers number c es)
      (es.map (fun e => (number e.1, e.2))) := by
    unfold tableMembers
    rw [List.forall₂_map_left_iff, List.forall₂_map_right_iff, List.forall₂_same]
    exact fun e _ => ⟨intKey_text hl hm (hin e.1), hc e.2⟩
  have hback : (es.map (fun e => (number e.1, e.2))).map (fun m => (key m.1, m.2)) = es := by
    rw [List.map_map]
    exact List.map_id'' (fun e => by simp only [Function.comp, hkey]) es
  change ofKind (fun b => b = byte '{') (fun _ r => (members (intKey range) c.read true r).map (fun p =>
    (Table.ofList (p.1.map (fun m => (key m.1, m.2))), p.2)))
      (bytes (Value.obj (tableMembers number c es)).compact ++ rest) = _
  rw [Value.compact, bytes_cons_ascii (by decide), List.cons_append, ofKind_cons (by decide) (by decide)]
  change (members (intKey range) c.read true
    (bytes (Value.membersFrom true (tableMembers number c es)) ++ rest)).map _ = _
  rw [members_reads hentries]
  change Except.ok (Table.ofList ((es.map (fun e => (number e.1, e.2))).map (fun m => (key m.1, m.2))), rest) = _
  rw [hback, Table.ofList_of_perm h]

end Codec

end EdgeFleet.Json
