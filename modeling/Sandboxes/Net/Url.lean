import Sandboxes.Net.Host
import Sandboxes.Text.Blank

/-!
# URLs

URLs of web servers in their normal form: scheme and host in lower case, no default port, a path
without dot segments, and percent bytes for characters that may not stand in their part.
-/

namespace Sandboxes.Net

/-- An absolute URL with a host. -/
structure Url where
  scheme : String
  host : String
  port : Option Nat
  path : String
  query : Option String
  fragment : Option String
  deriving DecidableEq, Repr

namespace Url

/-! ### Parts -/

/-- The port that a scheme implies. -/
def defaultPort? (scheme : String) : Option Nat :=
  if scheme = "http" ∨ scheme = "ws" then some 80
  else if scheme = "https" ∨ scheme = "wss" then some 443
  else if scheme = "ftp" then some 21
  else none

/-- Reads a scheme and the colon after it. -/
def scheme? (cs : List Char) : Option (String × List Char) := do
  let (name, rest) ← Text.splitFirst? ':' cs
  match name with
  | [] => none
  | c :: _ =>
    if c.isAlpha && name.all (fun c => c.isAlphanum || c = '+' || c = '-' || c = '.') then
      some (String.ofList (name.map Char.toLower), rest)
    else none

/-- Splits at the first character that satisfies `p`, which begins the second part. -/
def spanUntil (p : Char → Bool) (cs : List Char) : List Char × List Char :=
  (cs.takeWhile (!p ·), cs.dropWhile (!p ·))

/-- Whether the character ends the authority of a web URL. -/
def endsAuthority (c : Char) : Bool :=
  c = '/' || c = '\\' || c = '?' || c = '#'

/-- Splits host and port at the first colon outside of brackets. -/
def splitPort : (inBrackets : Bool) → List Char → List Char × Option (List Char)
  | _, [] => ([], none)
  | inBrackets, c :: cs =>
    if c = ':' && !inBrackets then ([], some cs)
    else
      let inBrackets := if c = '[' then true else if c = ']' then false else inBrackets
      let (host, port) := splitPort inBrackets cs
      (c :: host, port)

/-- Reads a port: none for an empty one and for the default one. -/
def port? (scheme : String) : Option (List Char) → Option (Option Nat)
  | none | some [] => some none
  | some cs =>
    if cs.all Text.isDigit then
      let n := cs.foldl (fun n c => n * 10 + Text.digitValue c) 0
      if 65536 ≤ n then none
      else if defaultPort? scheme = some n then some none
      else some (some n)
    else none

/-! ### Paths -/

/-- Characters escaped in a path. -/
def escapedInPath (c : Char) : Bool :=
  c.toNat ≤ 0x20 || "\"#<>?^`\x7b\x7d".toList.contains c

/-- Characters escaped in a query. -/
def escapedInQuery (c : Char) : Bool :=
  c.toNat ≤ 0x20 || "\"#<>'".toList.contains c

/-- Characters escaped in a fragment. -/
def escapedInFragment (c : Char) : Bool :=
  c.toNat ≤ 0x20 || "\"<>`".toList.contains c

/-- The dots that a segment spells, if it spells nothing else. -/
def dots? : List Char → Option Nat
  | [] => some 0
  | '.' :: cs => (dots? cs).map (· + 1)
  | '%' :: '2' :: c :: cs => if c = 'e' ∨ c = 'E' then (dots? cs).map (· + 1) else none
  | _ => none

/-- Resolves dot segments; `done` holds the segments so far in reverse. -/
def resolve : (done : List (List Char)) → List (List Char) → List (List Char)
  | done, [] => done.reverse
  | done, segment :: rest =>
    let up := dots? segment = some 2
    let stay := dots? segment = some 1
    let done := if up then done.drop 1 else done
    if up ∨ stay then
      if rest = [] then ([] :: done).reverse else resolve done rest
    else resolve (segment :: done) rest

/-- The normal form of a path given without its first slash. -/
def normalPath (isSlash : Char → Bool) (cs : List Char) : String :=
  let unified := cs.map fun c => if isSlash c then '/' else c
  let segments := (Text.fields '/' unified).map (percentEncode escapedInPath)
  String.ofList ((resolve [] segments).flatMap ('/' :: ·))

/-! ### Whole URLs -/

/-- Drops what surrounds a URL, and line breaks and tabs in it. -/
def cleaned (s : String) : List Char :=
  (Text.trimBy (·.toNat ≤ 0x20) s.toList).filter fun c => c ≠ '\t' && c ≠ '\n' && c ≠ '\r'

/-- Reads an absolute URL. -/
def ofText? (s : String) : Option Url := do
  let (scheme, cs) ← scheme? (cleaned s)
  let web := (defaultPort? scheme).isSome
  let afterSlashes ←
    if web then some (cs.dropWhile fun c => c = '/' || c = '\\')
    else Text.dropFront? ['/', '/'] cs
  let (authority, rest) := spanUntil endsAuthority afterSlashes
  let address := match Text.splitLast? '@' authority with
    | some (_, address) => address
    | none => authority
  let (hostText, portText) := splitPort false address
  let host ← host? hostText
  let port ← port? scheme portText
  let (beforeFragment, fragment) := spanUntil (· = '#') rest
  let (path, query) := spanUntil (· = '?') beforeFragment
  let isSlash (c : Char) := c = '/' || (web && c = '\\')
  return {
    scheme, host, port
    path := normalPath isSlash (path.drop 1)
    query := match query with
      | [] => none
      | _ :: q => some (String.ofList (percentEncode escapedInQuery q))
    fragment := match fragment with
      | [] => none
      | _ :: f => some (String.ofList (percentEncode escapedInFragment f)) }

/-- Whether the URL is one of a web server. -/
def isWeb (u : Url) : Bool :=
  u.scheme = "http" || u.scheme = "https"

/-- The normal form of an address that has a scheme but names no server. -/
def unhosted? (s : String) : Option String := do
  let (scheme, cs) ← scheme? (cleaned s)
  if (defaultPort? scheme).isSome || (Text.dropFront? ['/', '/'] cs).isSome then none
  else
    let isControl (c : Char) := c.toNat < 0x20
    return scheme ++ ":" ++ String.ofList (percentEncode isControl cs)

/-- The URL without query and fragment. -/
def bare (u : Url) : String :=
  let port := match u.port with
    | some n => s!":{n}"
    | none => ""
  u.scheme ++ "://" ++ u.host ++ port ++ u.path

/-- The text of a URL. -/
def text (u : Url) : String :=
  let query := match u.query with
    | some q => "?" ++ q
    | none => ""
  let fragment := match u.fragment with
    | some f => "#" ++ f
    | none => ""
  u.bare ++ query ++ fragment

/-- The URL with one more form field in its query. -/
def withField (u : Url) (name value : String) : Url :=
  let field := formEncode name ++ "=" ++ formEncode value
  { u with query := match u.query with
    | none | some "" => some field
    | some q => some (q ++ "&" ++ field) }

end Url

end Sandboxes.Net
