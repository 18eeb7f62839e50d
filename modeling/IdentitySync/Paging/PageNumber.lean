import IdentitySync.Paging.PageStack

/-!
Pages by number. Numbers start at one, a page has at most a hundred records.
-/
namespace IdentitySync

def greatestPageSize : UInt32 := 100

/-- Zero and sizes that are too large become the greatest one. -/
def clampPageSize (size : UInt32) : UInt32 :=
  if size = 0 ∨ greatestPageSize < size then greatestPageSize else size

structure PageRequest where
  page : UInt32
  perPage : UInt32
deriving DecidableEq, Repr

/-- The number in a token; the empty token is the first page. -/
def readPage (token : String) : Except Failure UInt32 :=
  if token = "" then .ok 1
  else match Text.readWord32? token with
    | some n => .ok n
    | none => .error (.invalidPageToken ("expected a page number, got '" ++ token ++ "'"))

def pageToken (next : Option UInt32) : String :=
  match next with
  | some n => Text.numeral n.toNat
  | none => ""

namespace PageRequest

def first : PageRequest := ⟨1, greatestPageSize⟩

/-- Page zero is the first page. -/
def new (page perPage : UInt32) : PageRequest := ⟨max page 1, clampPageSize perPage⟩

def ofToken (token : String) (perPage : UInt32) : Except Failure PageRequest :=
  (readPage token).map fun page => new page perPage

def query (p : PageRequest) : List (String × String) :=
  [("page", Text.numeral p.page.toNat), ("per_page", Text.numeral p.perPage.toNat)]

end PageRequest

namespace PageStack

def request (b : PageStack) (perPage : UInt32) : Except Failure PageRequest :=
  PageRequest.ofToken ((b.current?.map PageState.token).getD "") perPage

def nextToken (b : PageStack) (next : Option UInt32) : String := (b.advance (pageToken next)).token

end PageStack

end IdentitySync
