/-!
# Widths of integers

The integers that a number of bits can hold, with a sign or without one.
-/

namespace SheetQuery.Decimal

/-- How many bits an integer has, and whether one of them is a sign. -/
inductive IntWidth where
  | i8 | u8 | i16 | u16 | i32 | u32 | i64 | u64
  deriving Repr, DecidableEq

namespace IntWidth

/-- Whether the width has a sign. -/
def signed : IntWidth → Bool
  | .i8 | .i16 | .i32 | .i64 => true
  | .u8 | .u16 | .u32 | .u64 => false

/-- The name of the width. -/
def name : IntWidth → String
  | .i8 => "i8"
  | .u8 => "u8"
  | .i16 => "i16"
  | .u16 => "u16"
  | .i32 => "i32"
  | .u32 => "u32"
  | .i64 => "i64"
  | .u64 => "u64"

/-- The least integer of the width. -/
def least : IntWidth → Int
  | .i8 => -128
  | .i16 => -32768
  | .i32 => -2147483648
  | .i64 => -9223372036854775808
  | .u8 | .u16 | .u32 | .u64 => 0

/-- The greatest integer of the width. -/
def greatest : IntWidth → Int
  | .i8 => 127
  | .u8 => 255
  | .i16 => 32767
  | .u16 => 65535
  | .i32 => 2147483647
  | .u32 => 4294967295
  | .i64 => 9223372036854775807
  | .u64 => 18446744073709551615

/-- Whether an integer has the width. -/
def holds (w : IntWidth) (i : Int) : Bool :=
  w.least ≤ i && i ≤ w.greatest

end IntWidth

end SheetQuery.Decimal
