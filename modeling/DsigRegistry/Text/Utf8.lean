/-!
# Octets and UTF-8

Binary data is a list of bytes throughout: transforms change it, digests read it, and files hold
it. Where it is text, it is cut into pieces: the scalar values of well-formed sequences, and
maximal ill-formed parts. Strict decoding reports the first ill-formed part and where it starts;
lenient decoding puts U+FFFD in the place of each.
-/

namespace DsigRegistry

/-- A sequence of bytes. -/
abbrev Octets := List UInt8

namespace Text.Utf8

/-- What a stretch of octets stands for. -/
inductive Piece where
  /-- A well-formed sequence. -/
  | scalar (c : Char)
  /-- A part that no continuation makes well formed, of 1 to 3 octets. -/
  | illFormed (length : Nat)
  /-- The end of the octets inside a sequence that is well formed so far. -/
  | truncated
deriving DecidableEq

/-- An octet that continues a sequence. -/
def isTail (b : UInt8) : Bool := 0x80 ≤ b && b ≤ 0xBF

/-- The octets that may follow the lead octet of a sequence of three or four: the others would
spell a shorter sequence, a surrogate or a value above U+10FFFF. -/
def isSecond (lead b : UInt8) : Bool :=
  if lead == 0xE0 then 0xA0 ≤ b && b ≤ 0xBF
  else if lead == 0xED then 0x80 ≤ b && b ≤ 0x9F
  else if lead == 0xF0 then 0x90 ≤ b && b ≤ 0xBF
  else if lead == 0xF4 then 0x80 ≤ b && b ≤ 0x8F
  else isTail b

/-- The six payload bits of a tail octet. -/
def payload (b : UInt8) : Nat := b.toNat % 64

/-- The piece that starts with the octet `a`, and how many octets of what follows belong to it. -/
def firstPiece (a : UInt8) (rest : Octets) : Piece × Nat :=
  if a < 0x80 then (.scalar (Char.ofNat a.toNat), 0)
  else if 0xC2 ≤ a && a ≤ 0xDF then
    match rest with
    | [] => (.truncated, 0)
    | b :: _ =>
      if isTail b then (.scalar (Char.ofNat (a.toNat % 32 * 64 + payload b)), 1)
      else (.illFormed 1, 0)
  else if 0xE0 ≤ a && a ≤ 0xEF then
    match rest with
    | [] => (.truncated, 0)
    | b :: rest =>
      if !isSecond a b then (.illFormed 1, 0)
      else match rest with
        | [] => (.truncated, 1)
        | c :: _ =>
          if isTail c then
            (.scalar (Char.ofNat (a.toNat % 16 * 4096 + payload b * 64 + payload c)), 2)
          else (.illFormed 2, 1)
  else if 0xF0 ≤ a && a ≤ 0xF4 then
    match rest with
    | [] => (.truncated, 0)
    | b :: rest =>
      if !isSecond a b then (.illFormed 1, 0)
      else match rest with
        | [] => (.truncated, 1)
        | c :: rest =>
          if !isTail c then (.illFormed 2, 1)
          else match rest with
            | [] => (.truncated, 2)
            | d :: _ =>
              if isTail d then
                (.scalar (Char.ofNat (a.toNat % 8 * 262144 + payload b * 4096 + payload c * 64
                  + payload d)), 3)
              else (.illFormed 3, 2)
  else (.illFormed 1, 0)

/-- The pieces of the octets behind the first `skip`, from left to right. -/
def piecesAfter : Nat → Octets → List Piece
  | _, [] => []
  | 0, a :: rest => (firstPiece a rest).1 :: piecesAfter (firstPiece a rest).2 rest
  | skip + 1, _ :: rest => piecesAfter skip rest

/-- The pieces of the octets, from left to right. -/
def pieces (bs : Octets) : List Piece :=
  piecesAfter 0 bs

/-- Why octets are not UTF-8, and how many octets precede the fault. -/
inductive Fault where
  | illFormed (length index : Nat)
  | truncated (index : Nat)
deriving DecidableEq

/-- The fault in words. -/
def Fault.message : Fault → String
  | .illFormed length index =>
    "invalid utf-8 sequence of " ++ toString length ++ " bytes from index " ++ toString index
  | .truncated index => "incomplete utf-8 byte sequence from index " ++ toString index

/-- The characters of the pieces, or the first fault; the pieces start at octet `index`. -/
def collect (index : Nat) : List Piece → Except Fault (List Char)
  | [] => .ok []
  | .scalar c :: ps => (collect (index + c.utf8Size) ps).map (c :: ·)
  | .illFormed length :: _ => .error (.illFormed length index)
  | .truncated :: _ => .error (.truncated index)

/-- The characters that the octets encode. -/
def decodeChars (bs : Octets) : Except Fault (List Char) :=
  collect 0 (pieces bs)

/-- The text that the octets encode. -/
def decode (bs : Octets) : Except Fault String :=
  (decodeChars bs).map String.ofList

/-- The text of the octets with U+FFFD for each ill-formed part. -/
def decodeLossy (bs : Octets) : String :=
  String.ofList <| (pieces bs).map fun
    | .scalar c => c
    | .illFormed _ | .truncated => '\uFFFD'

/-- The octets that encode the characters. -/
def encodeChars (cs : List Char) : Octets :=
  cs.flatMap String.utf8EncodeChar

/-- The octets that encode the text. -/
def encode (s : String) : Octets :=
  encodeChars s.toList

end Text.Utf8

end DsigRegistry
