import IdentitySync.Json.Document
import IdentitySync.Json.NumberScan
import IdentitySync.Json.Quote

/-!
Reading JSON text, one character at a time, with the open lists and objects on a stack. Where the
text stops being JSON the machine halts and what it has so far becomes the document.
-/
namespace IdentitySync.Json

/-- A list or object that is open; items and members in reverse. -/
inductive Frame where
  | list (done : List Document)
  | record (done : List (Option String × Document))
  | member (done : List (Option String × Document)) (key : Option String)

inductive Mode where
  | value
  | firstItem
  | firstKey
  | key
  | colon
  | separator
  | quote (q : Quote)
  | number (n : NumberScan)
  | word (rest : List Char) (result : Document)
  | finished (result : Document)
  | followed (result : Document)
  | halted (result : Document)

structure Machine where
  stack : List Frame
  mode : Mode

namespace Machine

def start : Machine := ⟨[], .value⟩

/-- Deeper lists and objects have no value. -/
def depthLimit : Nat := 127

def withinDepth (below : List Frame) (d : Document) : Document :=
  if below.length < depthLimit then d else .unreadable

/-- What is there when the text stops being JSON: the innermost part, then all that is around. -/
def abandon (inner : Option Document) : List Frame → Document
  | [] => inner.getD .broken
  | .list done :: below =>
    abandon (some (.list (inner.toList.reverse ++ done).reverse false)) below
  | .record done :: below => abandon (some (.record done.reverse false)) below
  | .member done key :: below =>
    abandon (some (.record ((key, inner.getD .broken) :: done).reverse false)) below

def halt (m : Machine) : Machine := ⟨[], .halted (abandon none m.stack)⟩

def deliver (d : Document) : List Frame → Machine
  | [] => ⟨[], .finished d⟩
  | .list done :: below => ⟨.list (d :: done) :: below, .separator⟩
  | .member done key :: below => ⟨.record ((key, d) :: done) :: below, .separator⟩
  | .record done :: below => halt ⟨.record done :: below, .separator⟩

def closeList (m : Machine) : Machine :=
  match m.stack with
  | .list done :: below => deliver (withinDepth below (.list done.reverse true)) below
  | _ => m.halt

def closeRecord (m : Machine) : Machine :=
  match m.stack with
  | .record done :: below => deliver (withinDepth below (.record done.reverse true)) below
  | _ => m.halt

def isSpace (c : Char) : Bool := c = ' ' || c = '\n' || c = '\t' || c = '\r'

def beginValue (m : Machine) (c : Char) : Machine :=
  if c = '"' then ⟨m.stack, .quote (.begin false)⟩
  else if c = '[' then ⟨.list [] :: m.stack, .firstItem⟩
  else if c = '\x7b' then ⟨.record [] :: m.stack, .firstKey⟩
  else if c = 'n' then ⟨m.stack, .word ['u', 'l', 'l'] .null⟩
  else if c = 't' then ⟨m.stack, .word ['r', 'u', 'e'] (.bool true)⟩
  else if c = 'f' then ⟨m.stack, .word ['a', 'l', 's', 'e'] (.bool false)⟩
  else match NumberScan.begin? c with
    | some n => ⟨m.stack, .number n⟩
    | none => m.halt

def separate (m : Machine) (c : Char) : Machine :=
  match m.stack with
  | .list done :: below =>
    if c = ',' then ⟨.list done :: below, .value⟩
    else if c = ']' then m.closeList else m.halt
  | .record done :: below =>
    if c = ',' then ⟨.record done :: below, .key⟩
    else if c = '\x7d' then m.closeRecord else m.halt
  | _ => m.halt

def beginKey (m : Machine) (c : Char) : Machine :=
  if c = '"' then ⟨m.stack, .quote (.begin true)⟩ else m.halt

def endQuote (m : Machine) (q : Quote) : Machine :=
  if q.isKey then
    match m.stack with
    | .record done :: below => ⟨.member done q.text? :: below, .colon⟩
    | _ => m.halt
  else deliver (match q.text? with | some s => .string s | none => .unreadable) m.stack

def quoteStep (m : Machine) (q : Quote) (c : Char) : Machine :=
  match q.next c with
  | .ended => m.endQuote q
  | .more q' => ⟨m.stack, .quote q'⟩
  | .refused => m.halt

def plainStep (m : Machine) (c : Char) : Machine :=
  if isSpace c then m
  else match m.mode with
    | .value => m.beginValue c
    | .firstItem => if c = ']' then m.closeList else m.beginValue c
    | .firstKey => if c = '\x7d' then m.closeRecord else m.beginKey c
    | .key => m.beginKey c
    | .colon => if c = ':' then ⟨m.stack, .value⟩ else m.halt
    | .separator => m.separate c
    | .finished d => ⟨m.stack, .followed d⟩
    | _ => m

def numberDocument (n : NumberScan) : Document :=
  match n.parts.value? with
  | some v => .number v
  | none => .unreadable

def numberStep (m : Machine) (n : NumberScan) (c : Char) : Machine :=
  match n.next c with
  | some n' => ⟨m.stack, .number n'⟩
  | none =>
    if n.complete && !Text.isDigit c then (deliver (numberDocument n) m.stack).plainStep c
    else m.halt

def wordStep (m : Machine) (rest : List Char) (result : Document) (c : Char) : Machine :=
  match rest with
  | [] => m.halt
  | [last] => if c = last then deliver result m.stack else m.halt
  | next :: rest => if c = next then ⟨m.stack, .word rest result⟩ else m.halt

def step (m : Machine) (c : Char) : Machine :=
  match m.mode with
  | .quote q => m.quoteStep q c
  | .number n => m.numberStep n c
  | .word rest result => m.wordStep rest result c
  | .followed _ => m
  | .halted _ => m
  | _ => m.plainStep c

/-- The document, and whether nothing but blanks came after it. -/
def result (m : Machine) : Document × Bool :=
  match m.mode with
  | .finished d => (d, true)
  | .followed d => (d, false)
  | .halted d => (d, false)
  | .number n =>
    if n.complete then
      if m.stack.isEmpty then (numberDocument n, true)
      else (abandon (some (numberDocument n)) m.stack, false)
    else (abandon none m.stack, false)
  | _ => (abandon none m.stack, false)

end Machine

/-- Reads a text as far as it is JSON. The flag says that it was one whole value. -/
def scan (s : String) : Document × Bool := (s.toList.foldl Machine.step Machine.start).result

def parse? (s : String) : Option Value :=
  match scan s with
  | (d, true) => d.value?
  | _ => none

end IdentitySync.Json
