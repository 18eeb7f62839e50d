/-!
UTF-8. Decoding never fails: where the bytes are not well formed, the longest start of a character
that was read (or one single byte) becomes U+FFFD and reading goes on behind it.
-/
namespace IdentitySync.Text

def utf8Char (c : Char) : List Nat :=
  let n := c.toNat
  if n < 0x80 then [n]
  else if n < 0x800 then [0xC0 + n / 64, 0x80 + n % 64]
  else if n < 0x10000 then [0xE0 + n / 4096, 0x80 + n / 64 % 64, 0x80 + n % 64]
  else [0xF0 + n / 262144, 0x80 + n / 4096 % 64, 0x80 + n / 64 % 64, 0x80 + n % 64]

def utf8 (s : String) : List Nat := s.toList.flatMap utf8Char

/-- A character that has begun: the bits so far, the continuation bytes still owed, and the range
    that the next of them must be in. -/
structure Begun where
  bits : Nat
  owed : Nat
  low : Nat
  high : Nat
deriving DecidableEq, Repr

def replacement : Char := Char.ofNat 0xFFFD

def utf8Start (b : Nat) : Char ⊕ Option Begun :=
  if b < 0x80 then .inl (Char.ofNat b)
  else if 0xC2 ≤ b ∧ b ≤ 0xDF then .inr (some ⟨b % 32, 1, 0x80, 0xBF⟩)
  else if 0xE0 ≤ b ∧ b ≤ 0xEF then
    .inr (some ⟨b % 16, 2, if b = 0xE0 then 0xA0 else 0x80, if b = 0xED then 0x9F else 0xBF⟩)
  else if 0xF0 ≤ b ∧ b ≤ 0xF4 then
    .inr (some ⟨b % 8, 3, if b = 0xF0 then 0x90 else 0x80, if b = 0xF4 then 0x8F else 0xBF⟩)
  else .inr none

def decodeFirst (b : Nat) : List Char × Option Begun :=
  match utf8Start b with
  | .inl c => ([c], none)
  | .inr none => ([replacement], none)
  | .inr (some begun) => ([], some begun)

def decodeByte (state : Option Begun) (b : Nat) : List Char × Option Begun :=
  match state with
  | none => decodeFirst b
  | some begun =>
    if begun.low ≤ b ∧ b ≤ begun.high then
      let bits := begun.bits * 64 + b % 64
      if begun.owed ≤ 1 then ([Char.ofNat bits], none)
      else ([], some ⟨bits, begun.owed - 1, 0x80, 0xBF⟩)
    else
      let next := decodeFirst b
      (replacement :: next.1, next.2)

def decodeBytes (state : Option Begun) : List Nat → List Char
  | [] => if state.isSome then [replacement] else []
  | b :: bs =>
    let step := decodeByte state b
    step.1 ++ decodeBytes step.2 bs

def ofUtf8 (bytes : List Nat) : String := String.ofList (decodeBytes none bytes)

end IdentitySync.Text
