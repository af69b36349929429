import InferenceDispatch.Http.Host
import InferenceDispatch.Text.Blank

namespace InferenceDispatch.Http

structure Credentials where
  user : String
  password : String
deriving DecidableEq

structure Authority where
  credentials : Credentials
  host : String
  port : Option Nat
deriving DecidableEq

inductive Path where
  | plain (text : String)
  | segments (names : List String)
deriving DecidableEq

structure Url where
  scheme : String
  authority : Option Authority
  path : Path
  query : Option String
  fragment : Option String
deriving DecidableEq

namespace Credentials

def none : Credentials := ⟨"", ""⟩

def text (c : Credentials) : String :=
  if c = none then ""
  else c.user ++ (if c.password = "" then "" else ":" ++ c.password) ++ "@"

/-- Whether credentials can be sent: they name a user by a text, or no user but a password that is a
text. -/
def areReadable (c : Credentials) : Bool :=
  let isText := fun (s : String) => (Percent.decode? s.toList).isSome
  isText c.user && (c.user ≠ "" || isText c.password)

def read (s : List Char) : Credentials :=
  let (user, password) := (Text.cutAt? ':' s).getD (s, [])
  ⟨Percent.encode Percent.inCredentials user, Percent.encode Percent.inCredentials password⟩

end Credentials

namespace Authority

def ofHost (host : String) : Authority := ⟨.none, host, none⟩

def text (a : Authority) : String :=
  "//" ++ a.credentials.text ++ a.host ++ (a.port.map fun n => ":" ++ Whole.text n).getD ""

def withoutReadable (a : Authority) : Authority :=
  if a.credentials.areReadable then { a with credentials := .none } else a

end Authority

namespace Path

def text : Path → String
  | plain t => t
  | segments names => String.join (names.map fun n => "/" ++ n)

/-- Whether a path without a host before it would be taken for one with a host. -/
def isAmbiguous : Path → Bool
  | segments ("" :: _ :: _) => true
  | _ => false

end Path

namespace Url

def text (u : Url) : String :=
  let place := match u.authority with
    | some a => a.text
    | none => if u.path.isAmbiguous then "/." else ""
  u.scheme ++ ":" ++ place ++ u.path.text ++ (u.query.map fun q => "?" ++ q).getD "" ++
    (u.fragment.map fun f => "#" ++ f).getD ""

def hasHost (u : Url) : Bool := u.authority.any fun a => a.host ≠ ""

def withoutReadableCredentials (u : Url) : Url :=
  { u with authority := u.authority.map Authority.withoutReadable }

/-- Whether a URL can be asked for over HTTP: it is of the web, every character of its host may
stand in a request, and it is not too long for one. -/
def isFetchable (u : Url) : Bool :=
  ["http", "https"].contains u.scheme
    && u.authority.all (fun a => a.host.toList.all fun c => !"\"\x60\x7b\x7d".toList.contains c)
    && u.text.length < 0xFFFF

inductive Kind where
  | network (usualPort : Nat)
  | file
  | other
deriving DecidableEq

def Kind.ofScheme : String → Kind
  | "http" | "ws" => .network 80
  | "https" | "wss" => .network 443
  | "ftp" => .network 21
  | "file" => .file
  | _ => .other

def Kind.separates (k : Kind) (c : Char) : Bool := c = '/' || (c = '\\' && k ≠ .other)

def split (c : Char) (s : List Char) : List Char × Option (List Char) :=
  match Text.cutAt? c s with
  | some (a, b) => (a, some b)
  | none => (s, none)

/-- The text of a host, and what stands behind it from the first colon outside brackets on. -/
def hostPart (bracketed : Bool) : List Char → List Char × List Char
  | [] => ([], [])
  | c :: r =>
    if c = ':' ∧ !bracketed then ([], c :: r)
    else
      let (host, behind) := hostPart (c = '[' || (bracketed && c ≠ ']')) r
      (c :: host, behind)

def readPort? (k : Kind) : List Char → Option (Option Nat × List Char)
  | [] => some (none, [])
  | _ :: r =>
    let digits := r.takeWhile Whole.isDigit
    let behind := r.dropWhile Whole.isDigit
    let n := Whole.ofDigits digits
    if behind.head?.any (· ≠ '\\') ∨ n ≥ 0x10000 then none
    else some (if digits = [] ∨ k = .network n then none else some n, behind)

def readAuthority? (k : Kind) (s : List Char) : Option (Authority × List Char) := do
  let (before, place) := match Text.cutAt? '@' s.reverse with
    | some (place, before) => (some before.reverse, place.reverse)
    | none => (none, s)
  let (host, behind) := hostPart false place
  let mayBeEmpty := k = .other && behind.isEmpty && before.all (· = [':'])
  if host = [] ∧ !mayBeEmpty then none
  let host ← if k = .other then Host.readPlain? host else Host.read? host
  let (port, behind) ← readPort? k behind
  pure (⟨(before.map Credentials.read).getD .none, host, port⟩, behind)

def dots (segment : List Char) : Bool × Bool :=
  let s := (String.ofList segment).toLower
  ([".", "%2e"].contains s, ["..", ".%2e", "%2e.", "%2e%2e"].contains s)

def isDrive : List Char → Bool
  | [c, d] => c.isAlpha && (d = ':' || d = '|')
  | _ => false

def onDrive (s : List Char) : Bool := isDrive (s.takeWhile (· ≠ '\\'))

/-- A segment behind the given ones. A drive that comes first in the path of a file is marked by a
colon. -/
def segment (k : Kind) (done : List String) (s : List Char) : String :=
  match s with
  | [c, d] => if k = .file && done.isEmpty && isDrive [c, d] then String.ofList [c, ':']
    else Percent.encode Percent.inSegment s
  | s => Percent.encode Percent.inSegment s

/-- Puts the segments of a path in place one by one; `done` holds those in place, the last one in
front. A dot segment at the end leaves an empty segment. No segment leads above a drive. -/
def settle (k : Kind) (done : List String) : List (List Char) → List String
  | [] => done.reverse
  | s :: rest =>
    let (here, above) := dots s
    let bottom := done.head?.any fun d => onDrive d.toList
    let done := if above && !bottom then done.tail else done
    if here || above then settle k (if rest.isEmpty then "" :: done else done) rest
    else settle k (segment k done s :: done) rest

def withSlashes (k : Kind) (s : List Char) : List Char :=
  s.map fun c => if k.separates c then '/' else c

def pieces (k : Kind) (s : List Char) : List (List Char) :=
  let s := withSlashes k s
  Text.pieces '/' ((Text.after? ['/'] s).getD s)

def readNetwork? (k : Kind) (s : List Char) : Option (Option Authority × Path) := do
  let s := s.dropWhile k.separates
  let (a, behind) ← readAuthority? k (s.takeWhile fun c => !k.separates c)
  let path := behind ++ s.dropWhile fun c => !k.separates c
  pure (some a, .segments (settle k [] (pieces k path)))

/-- The place and the path of a file with the given segments on a host. A path that starts with a
drive is on no host, and no empty segments stand in front. -/
def fileAt (host : String) (segments : List (List Char)) : Option Authority × Path :=
  let names := settle .file [] segments
  let onHost := !(names.head?.any fun n => isDrive n.toList)
  let names := names.dropWhile String.isEmpty
  (some (.ofHost (if onHost then host else "")), .segments (if names.isEmpty then [""] else names))

/-- The place and the path of a file URL. Where a host may stand and none does, the slash behind its
place is a segment of its own. -/
def readFile? (s : List Char) : Option (Option Authority × Path) :=
  match Text.after? ['/', '/'] (withSlashes .file s) with
  | none => some (fileAt "" (pieces .file s))
  | some r =>
    let host := r.takeWhile (· ≠ '/')
    let path := r.dropWhile (· ≠ '/')
    if isDrive host then some (fileAt "" (Text.pieces '/' r))
    else if host.isEmpty then some (fileAt "" (Text.pieces '/' path))
    else
      (Host.read? host).map fun h =>
        if h = "localhost" then fileAt "" (Text.pieces '/' path) else fileAt h (pieces .file path)

def readOther? (s : List Char) : Option (Option Authority × Path) :=
  match s with
  | '/' :: '/' :: r => do
    let (a, behind) ← readAuthority? .other (r.takeWhile (· ≠ '/'))
    let path := behind ++ r.dropWhile (· ≠ '/')
    pure (some a, .segments (if path.isEmpty then [] else settle .other [] (pieces .other path)))
  | '/' :: _ => some (none, .segments (settle .other [] (pieces .other s)))
  | s => some (none, .plain (Percent.encode "" s))

/-- Reads a URL. Controls and spaces around it are passed over, and so are line breaks and tabs. -/
def read? (s : String) : Option Url := do
  let s := Text.trimBoth (fun c => c.toNat ≤ 0x20) s.toList
  let s := s.filter fun c => c ≠ '\t' ∧ c ≠ '\n' ∧ c ≠ '\r'
  let (scheme, s) ← Text.cutAt? ':' s
  let first ← scheme.head?
  if !first.isAlpha ∨ !scheme.all (fun c => c.isAlphanum || "+-.".toList.contains c) then none
  let scheme := (String.ofList scheme).toLower
  let kind := Kind.ofScheme scheme
  let (s, fragment) := split '#' s
  let (s, query) := split '?' s
  let (authority, path) ← match kind with
    | .network _ => readNetwork? kind s
    | .file => readFile? s
    | .other => readOther? s
  let inQuery := Percent.inQuery ++ if kind = .other then "" else "\x27"
  pure
    { scheme, authority, path
      query := query.map (Percent.encode inQuery)
      fragment := fragment.map (Percent.encode Percent.inFragment) }

end Url

end InferenceDispatch.Http
