import IdentitySync.Text.Hexadecimal

/-!
A JSON string under way, after its opening quotation mark: its characters in reverse, whether it
still has a value, the first half of a surrogate pair that waits for the second, and the escape
that is being read.
-/
namespace IdentitySync.Json

inductive Escape where
  | none
  | started
  | hex (count : Nat) (code : Nat)

structure Quote where
  done : List Char
  readable : Bool
  half : Option Nat
  escape : Escape
  isKey : Bool

namespace Quote

def begin (isKey : Bool) : Quote := ⟨[], true, none, .none, isKey⟩

/-- A character that stands for itself. A waiting half of a surrogate pair stays alone. -/
def add (q : Quote) (c : Char) : Quote :=
  { q with done := c :: q.done, readable := q.readable && q.half.isNone, half := none,
           escape := .none }

def addUnit (q : Quote) (code : Nat) : Quote :=
  match q.half with
  | some high =>
    if 0xDC00 ≤ code ∧ code ≤ 0xDFFF then
      { q with done := Char.ofNat (0x10000 + (high - 0xD800) * 1024 + (code - 0xDC00)) :: q.done,
               half := none, escape := .none }
    else { q with readable := false, half := none, escape := .none }
  | none =>
    if 0xD800 ≤ code ∧ code ≤ 0xDBFF then { q with half := some code, escape := .none }
    else if 0xDC00 ≤ code ∧ code ≤ 0xDFFF then { q with readable := false, escape := .none }
    else q.add (Char.ofNat code)

def shortEscape? (c : Char) : Option Char :=
  if c = '"' then some '"'
  else if c = '\\' then some '\\'
  else if c = '/' then some '/'
  else if c = 'b' then some (Char.ofNat 8)
  else if c = 'f' then some (Char.ofNat 12)
  else if c = 'n' then some '\n'
  else if c = 'r' then some '\r'
  else if c = 't' then some '\t'
  else none

inductive Next where
  | ended
  | more (q : Quote)
  | refused

def next (q : Quote) (c : Char) : Next :=
  match q.escape with
  | .none =>
    if c = '"' then .ended
    else if c = '\\' then .more { q with escape := .started }
    else if c.toNat < 32 then .refused
    else .more (q.add c)
  | .started =>
    if c = 'u' then .more { q with escape := .hex 0 0 }
    else match shortEscape? c with
      | some d => .more (q.add d)
      | none => .refused
  | .hex count code =>
    match Text.hexValue? c with
    | some d =>
      if count = 3 then .more (q.addUnit (code * 16 + d))
      else .more { q with escape := .hex (count + 1) (code * 16 + d) }
    | none => .refused

def text? (q : Quote) : Option String :=
  if q.readable && q.half.isNone then some (String.ofList q.done.reverse) else none

end Quote

end IdentitySync.Json
