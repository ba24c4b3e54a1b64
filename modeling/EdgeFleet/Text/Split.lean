/-!
# Cutting texts

A text cut at every occurrence of a character, or at the last one.
-/

namespace EdgeFleet.Text

/-- The pieces between the occurrences of a character; there is one more than there are of those. -/
def splitAll (c : Char) : List Char → List (List Char)
  | [] => [[]]
  | d :: r =>
    if d = c then [] :: splitAll c r
    else match splitAll c r with
      | [] => [[d]]
      | piece :: more => (d :: piece) :: more

/-- What stands before and after the last occurrence of a character. -/
def splitLast (c : Char) (s : List Char) : Option (List Char × List Char) :=
  match s.reverse.dropWhile (· ≠ c) with
  | [] => none
  | _ :: before => some (before.reverse, (s.reverse.takeWhile (· ≠ c)).reverse)

theorem splitAll_ne_nil (c : Char) (s : List Char) : splitAll c s ≠ [] := by
  cases s with
  | nil => simp [splitAll]
  | cons d r =>
    simp only [splitAll]
    split
    · simp
    · split <;> simp

end EdgeFleet.Text
