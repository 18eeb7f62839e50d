import IdentitySync.Text.Numeral
import IdentitySync.Url.Form
import IdentitySync.Url.Host

/-!
Reading absolute URLs the way the URL standard does: blanks around and line breaks inside are
passed over, schemes with special rules take backslashes for slashes and always have a host, and
dot segments of paths are resolved.
-/
namespace IdentitySync.Url
open Text

inductive SchemeKind where
  | special
  | file
  | plain
deriving DecidableEq, Repr

def schemeKind (scheme : String) : SchemeKind :=
  if scheme = "file" then .file
  else if scheme ∈ ["http", "https", "ws", "wss", "ftp"] then .special
  else .plain

def defaultPort? (scheme : String) : Option Nat :=
  if scheme = "http" ∨ scheme = "ws" then some 80
  else if scheme = "https" ∨ scheme = "wss" then some 443
  else if scheme = "ftp" then some 21
  else none

structure Location where
  scheme : String
  userInfo : Option String
  host : Option Host
  port : Option Nat
  path : String
  query : Option String
  fragment : Option String
deriving DecidableEq, Repr

def isControlOrSpace (c : Char) : Bool := c.toNat ≤ 32

def cleaned (s : String) : List Char :=
  let cs := (s.toList.dropWhile isControlOrSpace).reverse.dropWhile isControlOrSpace
  cs.reverse.filter fun c => !(c = '\t' || c = '\n' || c = '\r')

def isAsciiLetter (c : Char) : Bool := c.isAlpha

def isSchemeChar (c : Char) : Bool := c.isAlphanum || c = '+' || c = '-' || c = '.'

def splitScheme? (cs : List Char) : Option (String × List Char) :=
  match cs with
  | [] => none
  | c :: _ =>
    if !isAsciiLetter c then none
    else match cs.dropWhile isSchemeChar with
      | ':' :: rest => some (String.ofList ((cs.takeWhile isSchemeChar).map Char.toLower), rest)
      | _ => none

def isSlash (kind : SchemeKind) (c : Char) : Bool := c = '/' || (kind != .plain && c = '\\')

def endsAuthority (kind : SchemeKind) (c : Char) : Bool := isSlash kind c || c = '?' || c = '#'

/-- What stands before the last at sign of the authority, if it has one, and what comes after. -/
def splitUserInfo (kind : SchemeKind) (cs : List Char) : Option (List Char) × List Char :=
  let authority := cs.takeWhile fun c => !endsAuthority kind c
  let tail := (authority.reverse.takeWhile (· ≠ '@')).reverse
  if tail.length = authority.length then (none, cs)
  else
    let before := authority.length - tail.length - 1
    (some (cs.take before), cs.drop (before + 1))

def userInfoText (cs : List Char) : Option String :=
  let (name, password) := (splitFirst ':' cs).getD (cs, [])
  let text := encodeWith inUserInfo name ++
    (if password.isEmpty then [] else ':' :: encodeWith inUserInfo password)
  if text.isEmpty then none else some (String.ofList text)

/-- The host ends at a colon outside brackets or where the authority ends. -/
def splitHost (kind : SchemeKind) (inBrackets : Bool) : List Char → List Char × List Char
  | [] => ([], [])
  | c :: cs =>
    if (c = ':' && !inBrackets) || endsAuthority kind c then ([], c :: cs)
    else
      let r := splitHost kind (if c = '[' then true else if c = ']' then false else inBrackets) cs
      (c :: r.1, r.2)

/-- A port and what follows it; the scheme's own port counts as none. -/
def readPort (scheme : String) (cs : List Char) : Except UrlError (Option Nat × List Char) :=
  let ds := cs.takeWhile isDigit
  let rest := cs.drop ds.length
  let fits : Bool := match rest with
    | [] => true
    | c :: _ => endsAuthority .special c
  match value? ds with
  | none => if fits then .ok (none, rest) else .error .badPort
  | some n =>
    if 65535 < n ∨ !fits then .error .badPort
    else .ok (if some n = defaultPort? scheme then none else some n, rest)

def isSingleDot (cs : List Char) : Bool :=
  let s := cs.map Char.toLower
  s = ['.'] || s = ['%', '2', 'e']

def isDoubleDot (cs : List Char) : Bool :=
  let s := cs.map Char.toLower
  s = ['.', '.'] || s = ['.', '%', '2', 'e'] || s = ['%', '2', 'e', '.'] ||
    s = ['%', '2', 'e', '%', '2', 'e']

def isDriveLetter (cs : List Char) : Bool :=
  match cs with
  | [a, b] => isAsciiLetter a && (b = ':' || b = '|')
  | _ => false

/-- Takes back the last segment, unless it is a drive; the segments are in reverse. -/
def withoutLast (done : List (List Char)) : List (List Char) :=
  if done.head?.any isDriveLetter then done else done.tail

def resolveSegments (done : List (List Char)) : List (List Char) → List (List Char)
  | [] => done.reverse
  | s :: rest =>
    if isDoubleDot s then
      resolveSegments (if rest.isEmpty then [] :: withoutLast done else withoutLast done) rest
    else if isSingleDot s then resolveSegments (if rest.isEmpty then [] :: done else done) rest
    else resolveSegments (encodeWith inPath s :: done) rest

def joinSegments (segments : List (List Char)) : List Char := segments.flatMap ('/' :: ·)

def unifySlashes (kind : SchemeKind) (cs : List Char) : List Char :=
  cs.map fun c => if isSlash kind c then '/' else c

def readPath (kind : SchemeKind) (cs : List Char) : List Char :=
  if kind = .plain ∧ cs.isEmpty then []
  else
    let cs := unifySlashes kind cs
    let cs := match cs with
      | '/' :: rest => rest
      | cs => cs
    joinSegments (resolveSegments [] (pieces '/' cs))

def startsTail (c : Char) : Bool := c = '?' || c = '#'

def splitTail (cs : List Char) : List Char × Option (List Char) × Option (List Char) :=
  let path := cs.takeWhile fun c => !startsTail c
  match cs.drop path.length with
  | '?' :: rest =>
    match splitFirst '#' rest with
    | some (query, fragment) => (path, some query, some fragment)
    | none => (path, some rest, none)
  | '#' :: rest => (path, none, some rest)
  | _ => (path, none, none)

def tailTexts (kind : SchemeKind) (query fragment : Option (List Char)) :
    Option String × Option String :=
  (query.map fun q => String.ofList
      (encodeWith (if kind = .plain then inQuery else inSpecialQuery) q),
    fragment.map fun f => String.ofList (encodeWith inFragment f))

def finish (scheme : String) (userInfo : Option String) (host : Option Host) (port : Option Nat)
    (readPath : List Char → List Char) (cs : List Char) : Location :=
  let (path, query, fragment) := splitTail cs
  let texts := tailTexts (schemeKind scheme) query fragment
  ⟨scheme, userInfo, host, port, String.ofList (readPath path), texts.1, texts.2⟩

def isEmptyDomain (h : Host) : Bool := h = .domain ""

def readAnyHost (kind : SchemeKind) (cs : List Char) : Except UrlError Host :=
  if kind = .plain then readOpaqueHost cs
  else if cs.isEmpty then .error .emptyHost
  else readHost cs

def readAuthority (scheme : String) (cs : List Char) : Except UrlError Location :=
  let kind := schemeKind scheme
  let (info, cs) := splitUserInfo kind cs
  let userInfo := info.bind userInfoText
  if info = some [] && (cs.head?.map (endsAuthority kind)).getD false then .error .emptyHost
  else
    let (hostText, rest) := splitHost kind false cs
    match readAnyHost kind hostText with
    | .error e => .error e
    | .ok host =>
      if isEmptyDomain host && (rest.head? = some ':' || userInfo.isSome) then .error .emptyHost
      else
        let port : Except UrlError (Option Nat × List Char) := match rest with
          | ':' :: rest => readPort scheme rest
          | rest => .ok (none, rest)
        match port with
        | .error e => .error e
        | .ok (port, rest) =>
          .ok (finish scheme userInfo (if isEmptyDomain host then none else some host) port
            (readPath kind) rest)

/-- Files have a host only behind two slashes, and none that is a drive or the local one. -/
def readFile (cs : List Char) : Except UrlError Location :=
  match cs with
  | a :: b :: rest =>
    if isSlash .file a && isSlash .file b then
      let hostText := rest.takeWhile fun c => !endsAuthority .file c
      if hostText.isEmpty then
        .ok (finish "file" none none none (readPath .file) (rest.drop hostText.length))
      else if isDriveLetter hostText then
        .ok (finish "file" none none none (readPath .file) rest)
      else match readHost hostText with
        | .error e => .error e
        | .ok host =>
          .ok (finish "file" none (if host = .domain "localhost" then none else some host) none
            (readPath .file) (rest.drop hostText.length))
    else .ok (finish "file" none none none (readPath .file) cs)
  | cs => .ok (finish "file" none none none (readPath .file) cs)

def readPlain (scheme : String) (cs : List Char) : Except UrlError Location :=
  match cs with
  | '/' :: '/' :: rest => readAuthority scheme rest
  | '/' :: _ => .ok (finish scheme none none none (readPath .plain) cs)
  | cs => .ok (finish scheme none none none (encodeWith []) cs)

def parse (s : String) : Except UrlError Location :=
  match splitScheme? (cleaned s) with
  | none => .error .relative
  | some (scheme, rest) =>
    match schemeKind scheme with
    | .file => readFile rest
    | .special => readAuthority scheme (rest.dropWhile (isSlash .special))
    | .plain => readPlain scheme rest

def Location.pairs (l : Location) : List (String × String) :=
  readPairs (l.query.getD "").toList

/-- Path and query as a request names them, with further pairs in the query. A question mark stays
    even when nothing follows it. -/
def Location.target (l : Location) (more : List (String × String)) : String :=
  if l.query.isNone && more.isEmpty then l.path
  else l.path ++ String.ofList ('?' :: appendPairs (l.query.getD "").toList more)

end IdentitySync.Url
