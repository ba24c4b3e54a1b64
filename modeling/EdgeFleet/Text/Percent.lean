import EdgeFleet.Text.Hex
import EdgeFleet.Text.Split
import EdgeFleet.Text.Utf8
/-!
# Percent signs

In a URL a byte may be written as a percent sign with two hexadecimal digits; a percent sign with
anything else behind it stands for itself. The query of a URL is a list of fields between
ampersands, each a name and a value around the first equals sign, where a plus sign is a space.
-/

namespace EdgeFleet.Percent

/-- The byte of a percent sign. -/
def sign : UInt8 := 37

/-- The bytes that a byte sequence with percent signs stands for. -/
def decode : List UInt8 → List UInt8
  | [] => []
  | b :: r =>
    if b = sign then
      match r with
      | x :: y :: t =>
        match Hex.value? x, Hex.value? y with
        | some x, some y => (x * 16 + y).toUInt8 :: decode t
        | _, _ => b :: decode (x :: y :: t)
      | r => b :: decode r
    else b :: decode r

/-- A name or a value in a query. -/
def fieldPart (s : List Char) : String :=
  let spaced := s.map (fun c => if c = '+' then ' ' else c)
  String.ofList (Utf8.decodeLossy (decode (Utf8.encode spaced)))

/-- The fields of a query; a name without an equals sign has an empty value. -/
def fields (query : List Char) : List (String × String) :=
  ((Text.splitAll '&' query).filter (fun f => f ≠ [])).map (fun f =>
    (fieldPart (f.takeWhile (· ≠ '=')), fieldPart (f.dropWhile (· ≠ '=')).tail))

end EdgeFleet.Percent
