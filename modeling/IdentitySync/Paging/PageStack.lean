import IdentitySync.Failure
import IdentitySync.Json.Writer

/-!
Page tokens. A token is a stack of places in listings, written as JSON, so that a listing can be
taken up again with nothing but its token. The empty stack has the empty token.
-/
namespace IdentitySync

/-- A token together with the page size asked for; size zero leaves it to the connector. -/
structure PageToken where
  token : String
  size : UInt32
deriving DecidableEq, Repr

namespace PageToken

def isFirst (t : PageToken) : Bool := t.token = ""

def fields :=
  Fields.cons (.defaulted "token" .string "") <| .cons (.defaulted "size" .word32 0) .nil

def view (t : PageToken) := (t.token, t.size, ())

def codec : Codec PageToken :=
  .record "struct PageToken" fields view fun (token, size, ()) => ⟨token, size⟩

end PageToken

/-- A place in the listing of one resource type; an empty token is its first page. -/
structure PageState where
  resourceType : String
  token : String
deriving DecidableEq, Repr

namespace PageState

def fields := Fields.cons (.required "resource_type_id" .string) <|
  .cons (.defaulted "token" .string "") .nil

def view (s : PageState) := (s.resourceType, s.token, ())

def codec : Codec PageState :=
  .record "struct PageState" fields view fun (resourceType, token, ()) => ⟨resourceType, token⟩

end PageState

/-- The place last pushed is the current one and stands last. -/
structure PageStack where
  states : List PageState
deriving DecidableEq, Repr

namespace PageStack

def empty : PageStack := ⟨[]⟩

def fields := Fields.cons (.defaulted "states" (.list PageState.codec) []) .nil

def view (b : PageStack) := (b.states, ())

def codec : Codec PageStack := .record "struct Bag" fields view fun (states, ()) => ⟨states⟩

def isEmpty (b : PageStack) : Bool := b.states.isEmpty

def current? (b : PageStack) : Option PageState := b.states.getLast?

def push (b : PageStack) (s : PageState) : PageStack := ⟨b.states ++ [s]⟩

def pop (b : PageStack) : PageStack := ⟨b.states.dropLast⟩

/-- Moves the current place to another token; with no token it is left. -/
def advance (b : PageStack) (token : String) : PageStack :=
  if token = "" then b.pop
  else match b.current? with
    | some s => b.pop.push { s with token := token }
    | none => b

def token (b : PageStack) : String := if b.isEmpty then "" else (codec.encode b).text

def ofToken (token : String) : Except Failure PageStack :=
  if token = "" then .ok empty
  else match codec.read token with
    | .ok b => .ok b
    | .error e => .error (.invalidPageToken e.message)

/-- The stack of a token, on the first page of a resource type when there is none yet. -/
def resume (token resourceType : String) : Except Failure PageStack :=
  (ofToken token).map fun b => if b.isEmpty then b.push ⟨resourceType, ""⟩ else b

end PageStack

/-- One page of a listing; it is the last when it has no token for the next. -/
structure SyncPage (α : Type) where
  items : List α
  nextToken : String
  annotations : Annotations

namespace SyncPage

def empty : SyncPage α := ⟨[], "", []⟩

def isLast (p : SyncPage α) : Bool := p.nextToken = ""

end SyncPage

end IdentitySync
