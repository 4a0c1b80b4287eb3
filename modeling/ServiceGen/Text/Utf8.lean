/-!
# UTF-8

Reading bytes as UTF-8. `decode` gives a character for each well-formed sequence and `none`
for each stretch of bytes that begins no such sequence: a stretch ends where the bytes stop
to be the beginning of a character. `decode?` accepts well-formed texts only and
`decodeLossy` puts the replacement character for each malformed stretch.
-/

namespace ServiceGen.Text.Utf8

/-- The bytes of a text. -/
def encode (cs : List Char) : List UInt8 :=
  cs.flatMap String.utf8EncodeChar

/-- Whether a byte continues a sequence. -/
def isContinuation (b : UInt8) : Bool :=
  0x80 ≤ b && b ≤ 0xBF

/-- Whether `second` may follow `first` in a sequence of three bytes: surrogates and longer
forms of smaller code points are excluded. -/
def startsThree (first second : UInt8) : Bool :=
  if first == 0xE0 then 0xA0 ≤ second && second ≤ 0xBF
  else if first == 0xED then 0x80 ≤ second && second ≤ 0x9F
  else 0xE1 ≤ first && first ≤ 0xEF && isContinuation second

/-- Whether `second` may follow `first` in a sequence of four bytes: code points past the
last one and longer forms of smaller ones are excluded. -/
def startsFour (first second : UInt8) : Bool :=
  if first == 0xF0 then 0x90 ≤ second && second ≤ 0xBF
  else if first == 0xF4 then 0x80 ≤ second && second ≤ 0x8F
  else 0xF1 ≤ first && first ≤ 0xF3 && isContinuation second

/-- Whether a byte begins a sequence of two bytes. -/
def startsTwo (first : UInt8) : Bool :=
  0xC2 ≤ first && first ≤ 0xDF

/-- The payload of a continuation byte. -/
def payload (b : UInt8) : Nat :=
  b.toNat % 0x40

/-- The characters of a sequence of bytes, with `none` for each malformed stretch. -/
def decode : List UInt8 → List (Option Char)
  | [] => []
  | [a] => if a < 0x80 then [some (Char.ofNat a.toNat)] else [none]
  | [a, b] =>
    if a < 0x80 then some (Char.ofNat a.toNat) :: decode [b]
    else if startsTwo a && isContinuation b then
      [some (Char.ofNat (a.toNat % 0x20 * 0x40 + payload b))]
    else if startsThree a b || startsFour a b then [none]
    else none :: decode [b]
  | [a, b, c] =>
    if a < 0x80 then some (Char.ofNat a.toNat) :: decode [b, c]
    else if startsTwo a && isContinuation b then
      some (Char.ofNat (a.toNat % 0x20 * 0x40 + payload b)) :: decode [c]
    else if startsThree a b then
      if isContinuation c then
        [some (Char.ofNat ((a.toNat % 0x10 * 0x40 + payload b) * 0x40 + payload c))]
      else none :: decode [c]
    else if startsFour a b then
      if isContinuation c then [none] else none :: decode [c]
    else none :: decode [b, c]
  | a :: b :: c :: d :: rest =>
    if a < 0x80 then some (Char.ofNat a.toNat) :: decode (b :: c :: d :: rest)
    else if startsTwo a && isContinuation b then
      some (Char.ofNat (a.toNat % 0x20 * 0x40 + payload b)) :: decode (c :: d :: rest)
    else if startsThree a b then
      if isContinuation c then
        some (Char.ofNat ((a.toNat % 0x10 * 0x40 + payload b) * 0x40 + payload c))
          :: decode (d :: rest)
      else none :: decode (c :: d :: rest)
    else if startsFour a b then
      if isContinuation c then
        if isContinuation d then
          some (Char.ofNat
            (((a.toNat % 0x08 * 0x40 + payload b) * 0x40 + payload c) * 0x40 + payload d))
            :: decode rest
        else none :: decode (d :: rest)
      else none :: decode (c :: d :: rest)
    else none :: decode (b :: c :: d :: rest)

/-- The text of a well-formed sequence of bytes. -/
def decode? (bytes : List UInt8) : Option (List Char) :=
  (decode bytes).mapM id

/-- The text of any bytes, with a replacement character for each malformed stretch. -/
def decodeLossy (bytes : List UInt8) : List Char :=
  (decode bytes).map (·.getD '\uFFFD')

end ServiceGen.Text.Utf8
