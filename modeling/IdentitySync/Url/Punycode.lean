/-!
Punycode, the ASCII form of a label of a domain name that has other characters. The ASCII characters
come first. Then each other character is written, from the smallest on, as the number of steps from
the one before it through all points and all places in the label; the base of the digits changes
with their place and with the sizes of the numbers so far.
-/
namespace IdentitySync.Url

namespace Punycode

def base : Nat := 36

def threshold (k bias : Nat) : Nat := if k ≤ bias then 1 else if bias + 26 ≤ k then 26 else k - bias

def adaptFrom (delta k : Nat) : Nat :=
  if 455 < delta then adaptFrom (delta / 35) (k + base) else k + 36 * delta / (delta + 38)
termination_by delta
decreasing_by omega

def adapt (delta points : Nat) (isFirst : Bool) : Nat :=
  let delta := if isFirst then delta / 700 else delta / 2
  adaptFrom (delta + delta / points) 0

def digitOf (n : Nat) : Char := if n < 26 then Char.ofNat (97 + n) else Char.ofNat (22 + n)

def valueOf? (c : Char) : Option Nat :=
  let n := c.toNat
  if 97 ≤ n ∧ n ≤ 122 then some (n - 97)
  else if 65 ≤ n ∧ n ≤ 90 then some (n - 65)
  else if 48 ≤ n ∧ n ≤ 57 then some (n - 22)
  else none

theorem threshold_pos (k bias : Nat) : 0 < threshold k bias := by
  unfold threshold
  split
  · omega
  · split <;> omega

/-- A number in digits whose base changes with the place. -/
def writeNumber (q k bias : Nat) : List Char :=
  let t := threshold k bias
  if q < t then [digitOf q]
  else digitOf (t + (q - t) % (base - t)) :: writeNumber ((q - t) / (base - t)) (k + base) bias
termination_by q
decreasing_by
  have pos := threshold_pos k bias
  have le : (q - threshold k bias) / (base - threshold k bias) ≤ q - threshold k bias :=
    Nat.div_le_self _ _
  omega

structure Progress where
  written : List Char
  delta : Nat
  bias : Nat
  handled : Nat

def encodePoint (basic n : Nat) (p : Progress) (c : Nat) : Progress :=
  if c < n then { p with delta := p.delta + 1 }
  else if c = n then
    ⟨p.written ++ writeNumber p.delta base p.bias, 0,
      adapt p.delta (p.handled + 1) (p.handled = basic), p.handled + 1⟩
  else p

def encodeFrom (points : List Nat) (basic : Nat) :
    (fuel n : Nat) → Progress → List Char
  | 0, _, p => p.written
  | fuel + 1, n, p =>
    match (points.filter fun c => n ≤ c).min? with
    | none => p.written
    | some m =>
      let p := { p with delta := p.delta + (m - n) * (p.handled + 1) }
      let p := points.foldl (encodePoint basic m) p
      encodeFrom points basic fuel (m + 1) { p with delta := p.delta + 1 }

def encode (cs : List Char) : List Char :=
  let basic := cs.filter fun c => c.toNat < 128
  let start := if basic.isEmpty then [] else basic ++ ['-']
  encodeFrom (cs.map Char.toNat) basic.length (cs.length + 1) 128 ⟨start, 0, 72, basic.length⟩

def numberBound : Nat := UInt32.size

def readNumber (bias : Nat) : (i w k : Nat) → List Char → Option (Nat × List Char)
  | _, _, _, [] => none
  | i, w, k, c :: cs =>
    match valueOf? c with
    | none => none
    | some d =>
      let t := threshold k bias
      if numberBound ≤ i + d * w then none
      else if d < t then some (i + d * w, cs)
      else if numberBound ≤ w * (base - t) then none
      else readNumber bias (i + d * w) (w * (base - t)) (k + base) cs

theorem readNumber_shorter (bias : Nat) (cs : List Char) (i w k : Nat) (r : Nat × List Char)
    (h : readNumber bias i w k cs = some r) : r.2.length < cs.length := by
  induction cs generalizing i w k with
  | nil => simp [readNumber] at h
  | cons c cs ih =>
    rw [readNumber] at h
    split at h
    · simp at h
    · simp only at h
      split at h
      · simp at h
      · split at h
        · cases h; simp
        · split at h
          · simp at h
          · have shorter := ih _ _ _ h
            simp only [List.length_cons]
            omega

def decodeFrom (n i bias : Nat) (out : List Char) (cs : List Char) : Option (List Char) :=
  if cs.isEmpty then some out
  else match _h : readNumber bias i 1 base cs with
    | none => none
    | some (i', rest) =>
      let count := out.length + 1
      let point := n + i' / count
      if 0x10FFFF < point ∨ (0xD800 ≤ point ∧ point ≤ 0xDFFF) then none
      else
        let place := i' % count
        decodeFrom point (place + 1) (adapt (i' - i) count (i = 0))
          (out.take place ++ Char.ofNat point :: out.drop place) rest
termination_by cs.length
decreasing_by exact readNumber_shorter bias cs i 1 base (i', rest) (by assumption)

/-- The characters before the last hyphen, if there are any, stand for themselves. -/
def decode (cs : List Char) : Option (List Char) :=
  let tail := (cs.reverse.takeWhile (· ≠ '-')).reverse
  let basic := cs.length - tail.length - 1
  if basic = 0 then decodeFrom 128 0 72 [] cs
  else decodeFrom 128 0 72 (cs.take basic) tail

end Punycode

end IdentitySync.Url
