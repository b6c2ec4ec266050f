/-!
# UTF-8

Bytes written for characters, and characters read back from bytes. A fault is reported with the number of bytes before
the faulty sequence and the number of bytes that make it faulty; a sequence that is right as far as the bytes go has no
such number.
-/

namespace SheetQuery.Text

/-- Why bytes are not UTF-8. -/
inductive Utf8Error where
  /-- The `length` bytes after the first `start` ones begin no character. -/
  | invalid (start length : Nat)
  /-- The bytes end inside the character that begins after the first `start` ones. -/
  | incomplete (start : Nat)
  deriving Repr, DecidableEq

/-- The wording of a fault. -/
def Utf8Error.message : Utf8Error → String
  | .invalid start length =>
    "invalid utf-8 sequence of " ++ toString length ++ " bytes from index " ++ toString start
  | .incomplete start => "incomplete utf-8 byte sequence from index " ++ toString start

/-- A byte that can only follow another one inside a character. -/
def isContinuation (b : UInt8) : Bool :=
  0x80 ≤ b && b ≤ 0xbf

/-- The bytes that may come second after the first byte of a character of three bytes. -/
def secondOfThree (lead b : UInt8) : Bool :=
  if lead = 0xe0 then 0xa0 ≤ b && b ≤ 0xbf
  else if lead = 0xed then 0x80 ≤ b && b ≤ 0x9f
  else isContinuation b

/-- The bytes that may come second after the first byte of a character of four bytes. -/
def secondOfFour (lead b : UInt8) : Bool :=
  if lead = 0xf0 then 0x90 ≤ b && b ≤ 0xbf
  else if lead = 0xf4 then 0x80 ≤ b && b ≤ 0x8f
  else isContinuation b

/-- The six low bits of a byte. -/
def payload (b : UInt8) : Nat :=
  b.toNat % 64

/-- The characters that bytes stand for, the first byte being number `start` of the whole text. -/
def decodeFrom (start : Nat) : List UInt8 → Except Utf8Error (List Char)
  | [] => .ok []
  | a :: rest =>
    if a < 0x80 then (Char.ofNat a.toNat :: ·) <$> decodeFrom (start + 1) rest
    else if 0xc2 ≤ a && a ≤ 0xdf then
      match rest with
      | [] => .error (.incomplete start)
      | b :: rest =>
        if isContinuation b then
          (Char.ofNat (a.toNat % 32 * 64 + payload b) :: ·) <$> decodeFrom (start + 2) rest
        else .error (.invalid start 1)
    else if 0xe0 ≤ a && a ≤ 0xef then
      match rest with
      | [] => .error (.incomplete start)
      | b :: rest =>
        if secondOfThree a b then
          match rest with
          | [] => .error (.incomplete start)
          | c :: rest =>
            if isContinuation c then
              (Char.ofNat ((a.toNat % 16 * 64 + payload b) * 64 + payload c) :: ·) <$> decodeFrom (start + 3) rest
            else .error (.invalid start 2)
        else .error (.invalid start 1)
    else if 0xf0 ≤ a && a ≤ 0xf4 then
      match rest with
      | [] => .error (.incomplete start)
      | b :: rest =>
        if secondOfFour a b then
          match rest with
          | [] => .error (.incomplete start)
          | c :: rest =>
            if isContinuation c then
              match rest with
              | [] => .error (.incomplete start)
              | d :: rest =>
                if isContinuation d then
                  (Char.ofNat (((a.toNat % 8 * 64 + payload b) * 64 + payload c) * 64 + payload d) :: ·)
                    <$> decodeFrom (start + 4) rest
                else .error (.invalid start 3)
            else .error (.invalid start 2)
        else .error (.invalid start 1)
    else .error (.invalid start 1)

/-- The text that bytes stand for. -/
def decodeUtf8 (bytes : List UInt8) : Except Utf8Error String :=
  String.ofList <$> decodeFrom 0 bytes

/-- The character that stands where there is none. -/
def replacement : Char := Char.ofNat 0xfffd

/-- The characters of the bytes before the first fault. -/
def decodePrefix (bytes : List UInt8) : List Char :=
  match decodeFrom 0 bytes with
  | .ok chars => chars
  | .error _ => []

/-- The characters that bytes stand for, with a replacement for each fault, of which there are fewer than `fuel`. -/
def decodeLossyFrom : Nat → List UInt8 → List Char
  | 0, _ => []
  | fuel + 1, bytes =>
    match decodeFrom 0 bytes with
    | .ok chars => chars
    | .error (.invalid start length) =>
      decodePrefix (bytes.take start) ++ replacement :: decodeLossyFrom fuel (bytes.drop (start + length))
    | .error (.incomplete start) => decodePrefix (bytes.take start) ++ [replacement]

/-- The text that bytes stand for, with a replacement for each fault. -/
def decodeLossy (bytes : List UInt8) : String :=
  String.ofList (decodeLossyFrom (bytes.length + 1) bytes)

/-- The bytes of a text. -/
def encodeUtf8 (s : String) : List UInt8 :=
  s.toList.flatMap String.utf8EncodeChar

end SheetQuery.Text
