import Std.Time.DateTime

/-!
# Moments

A moment of universal time: the date, the letter T, the time, and the offset from universal time, which is zero. The part of
a second that has passed is written in groups of three digits, as many as are needed.
-/

namespace SheetQuery.Text

/-- A number with so many digits at least, zeros in front. -/
def padded (width n : Nat) : String :=
  let digits := Nat.toDigits 10 n
  String.ofList (List.replicate (width - digits.length) '0' ++ digits)

/-- The nanoseconds of a second that have passed, behind a point. -/
def fraction (nanoseconds : Nat) : String :=
  if nanoseconds = 0 then ""
  else if nanoseconds % 1000000 = 0 then "." ++ padded 3 (nanoseconds / 1000000)
  else if nanoseconds % 1000 = 0 then "." ++ padded 6 (nanoseconds / 1000)
  else "." ++ padded 9 nanoseconds

/-- A moment of universal time as a text. -/
def moment (t : Std.Time.PlainDateTime) : String :=
  padded 4 (t.year : Int).toNat ++ "-" ++ padded 2 t.month.val.toNat ++ "-" ++ padded 2 t.day.val.toNat
    ++ "T" ++ padded 2 t.hour.val.toNat ++ ":" ++ padded 2 t.minute.val.toNat ++ ":" ++ padded 2 t.second.val.toNat
    ++ fraction t.nanosecond.val.toNat ++ "+00:00"

end SheetQuery.Text
