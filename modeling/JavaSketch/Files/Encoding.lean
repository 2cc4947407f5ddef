import JavaSketch.Text.Quote

/-!
Texts as bytes: the variable-length encoding of characters, the faults of byte sequences that
encode no text and of texts that have no encoding, and line ends.
-/

namespace JavaSketch

abbrev Bytes := List UInt8

inductive DecodeReason
  | invalidStart
  | invalidContinuation
  | unexpectedEnd
  deriving DecidableEq, Repr

/-- Where decoding failed: the number of bytes before the fault, the bytes at fault, and why. -/
structure DecodeFault where
  start : Nat
  bytes : Bytes
  reason : DecodeReason
  deriving DecidableEq, Repr

namespace DecodeReason

def message : DecodeReason → Text
  | invalidStart => "invalid start byte"
  | invalidContinuation => "invalid continuation byte"
  | unexpectedEnd => "unexpected end of data"

end DecodeReason

/-- A position of a text in memory. A surrogate is half of a pair, and no character by itself. -/
inductive CodePoint
  | char (c : Char)
  /-- By its number from the first surrogate on. -/
  | surrogate (n : Fin 0x800)
  deriving DecidableEq, Repr

/-- Where encoding failed: the number of characters before the fault, and the surrogates there. -/
structure EncodeFault where
  start : Nat
  surrogates : List (Fin 0x800)
  deriving DecidableEq, Repr

def decimal (n : Nat) : Text := Nat.toDigits 10 n

namespace DecodeFault

def message (f : DecodeFault) : Text :=
  let place :=
    match f.bytes with
    | [b] => "byte 0x" ++ Text.hex 2 b.toNat ++ " in position " ++ decimal f.start
    | bytes =>
      "bytes in position " ++ decimal f.start ++ "-" ++ decimal (f.start + bytes.length - 1)
  "'utf-8' codec can't decode " ++ place ++ ": " ++ f.reason.message

end DecodeFault

namespace EncodeFault

def message (f : EncodeFault) : Text :=
  let place :=
    match f.surrogates with
    | [n] => "character '\\u" ++ Text.hex 4 (0xd800 + n) ++ "' in position " ++ decimal f.start
    | surrogates =>
      "characters in position " ++ decimal f.start ++ "-" ++
        decimal (f.start + surrogates.length - 1)
  "'utf-8' codec can't encode " ++ place ++ ": surrogates not allowed"

end EncodeFault

namespace Encoding

/-- The surrogates at the start. -/
def leadingSurrogates : List CodePoint → List (Fin 0x800)
  | .surrogate n :: s => n :: leadingSurrogates s
  | _ => []

/-- The characters of a text in memory, if it has nothing else; `start` says how many were read. -/
def encodeFrom : Nat → List CodePoint → Except EncodeFault Text
  | _, [] => .ok []
  | start, .char c :: s => (encodeFrom (start + 1) s).map (c :: ·)
  | start, .surrogate n :: s => .error ⟨start, n :: leadingSurrogates s⟩

def encode (s : List CodePoint) : Except EncodeFault Text := encodeFrom 0 s

def isContinuation (b : UInt8) : Bool := 0x80 ≤ b && b < 0xc0

/-- The second byte of a sequence excludes overlong forms, surrogates and too large numbers. -/
def fitsSecond (first second : UInt8) : Bool :=
  isContinuation second &&
    if first = 0xe0 then 0xa0 ≤ second
    else if first = 0xed then second < 0xa0
    else if first = 0xf0 then 0x90 ≤ second
    else if first = 0xf4 then second < 0x90
    else true

/-- The number of continuation bytes after a first byte. -/
def continuations? (first : UInt8) : Option Nat :=
  if first < 0x80 then some 0
  else if 0xc2 ≤ first && first < 0xe0 then some 1
  else if 0xe0 ≤ first && first < 0xf0 then some 2
  else if 0xf0 ≤ first && first < 0xf5 then some 3
  else none

/-- The bits that a first byte contributes. -/
def leadBits (first : UInt8) (count : Nat) : Nat :=
  match count with
  | 0 => first.toNat
  | 1 => first.toNat % 0x20
  | 2 => first.toNat % 0x10
  | _ => first.toNat % 0x08

/-- The longest run of valid continuation bytes after a first byte, at most `count`. -/
def validTail (first : UInt8) (count : Nat) (rest : Bytes) : Bytes :=
  match rest.take count with
  | [] => []
  | second :: more =>
    if fitsSecond first second then second :: more.takeWhile isContinuation else []

def codePoint (first : UInt8) (tail : Bytes) : Nat :=
  tail.foldl (fun n b => n * 0x40 + b.toNat % 0x40) (leadBits first tail.length)

/-- The text that bytes encode; the counter says how many bytes of a character are still to be
passed over, and `start` how many bytes were read. -/
def decodeFrom : Nat → Nat → Bytes → Except DecodeFault Text
  | _, _, [] => .ok []
  | start, n + 1, _ :: rest => decodeFrom (start + 1) n rest
  | start, 0, first :: rest =>
    match continuations? first with
    | none => .error ⟨start, [first], .invalidStart⟩
    | some count =>
      let tail := validTail first count rest
      if tail.length = count then
        (decodeFrom (start + 1) count rest).map (Char.ofNat (codePoint first tail) :: ·)
      else if tail.length = rest.length then .error ⟨start, first :: tail, .unexpectedEnd⟩
      else .error ⟨start, first :: tail, .invalidContinuation⟩

def decode (bytes : Bytes) : Except DecodeFault Text := decodeFrom 0 0 bytes

/-- Every line end becomes a line feed. -/
def feedLines : Text → Text
  | [] => []
  | '\r' :: '\n' :: s => '\n' :: feedLines s
  | '\r' :: s => '\n' :: feedLines s
  | c :: s => c :: feedLines s

end Encoding

end JavaSketch
