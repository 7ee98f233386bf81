import Provenance.Uri.Host

/-!
# Addresses

The normal form of an absolute address by the URL standard.  The well-known schemes need a host,
take a backslash for a slash, and leave out their usual port; steps up and steps in place are taken
out of the path; and every character that may not stand where it does is written as its bytes.  An
address without a path that begins with a slash names nothing that could be reached, and has no
normal form here.

## Main definitions

* `SchemeClass`, `readScheme` — schemes and what they ask for.
* `Address`, `Address.toText` — an address by its parts.
* `Address.read` — reads an address.
-/

namespace Provenance.Uri

open Text (splitFirst splitLast dropWord)

/-! ### Schemes -/

/-- What the scheme of an address asks for. -/
inductive SchemeClass
  | file
  /-- A well-known scheme with a host. -/
  | special
  | other
  deriving DecidableEq, Repr

/-- The usual port of a well-known scheme. -/
def usualPort : String → Option Nat
  | "http" | "ws" => some 80
  | "https" | "wss" => some 443
  | "ftp" => some 21
  | _ => none

/-- The class of a scheme. -/
def SchemeClass.ofScheme (s : String) : SchemeClass :=
  if s = "file" then .file else if (usualPort s).isSome then .special else .other

/-- Whether a backslash stands for a slash. -/
def SchemeClass.isSpecial : SchemeClass → Bool
  | other => false
  | _ => true

/-- Whether a character may stand in a scheme after its first letter. -/
def isSchemeChar (c : Char) : Bool := c.isAlphanum || c == '+' || c == '-' || c == '.'

/-- Reads a scheme in small letters, up to its colon. -/
def readScheme (cs : List Char) : Option (String × List Char) :=
  match splitFirst ':' cs with
  | some (c :: name, rest) =>
    if c.isAlpha && name.all isSchemeChar then
      some (String.ofList ((c :: name).map Char.toLower), rest)
    else none
  | _ => none

/-! ### Addresses -/

/-- An address by its parts, each in normal form. -/
structure Address where
  scheme : String
  /-- What stands between the slashes and the path, if anything may. -/
  authority : Option (List Char)
  /-- The path, from its first slash on. -/
  path : List Char
  query : Option (List Char)
  fragment : Option (List Char)
  deriving DecidableEq, Repr

/-- The text of an address.  A path that begins with two slashes is kept from being taken for a
host. -/
def Address.toText (a : Address) : String :=
  let authority := match a.authority with
    | some cs => "//" ++ String.ofList cs
    | none => if a.path.take 2 = ['/', '/'] then "/." else ""
  let query := match a.query with
    | some cs => "?" ++ String.ofList cs
    | none => ""
  let fragment := match a.fragment with
    | some cs => "#" ++ String.ofList cs
    | none => ""
  a.scheme ++ ":" ++ authority ++ String.ofList a.path ++ query ++ fragment

/-! ### Paths -/

/-- Whether a character ends a segment of a path. -/
def isSlash (special : Bool) (c : Char) : Bool := c == '/' || (special && c == '\\')

/-- Whether a character ends a path. -/
def isPathEnd (c : Char) : Bool := c == '?' || c == '#'

/-- The segments of a path. -/
def segments (special : Bool) (cs : List Char) : List (List Char) :=
  Text.splitAll '/' (cs.map fun c => if isSlash special c then '/' else c)

/-- Whether a segment is a step in place. -/
def isHere (s : List Char) : Bool :=
  let t := String.ofList (s.map Char.toLower)
  t == "." || t == "%2e"

/-- Whether a segment is a step up. -/
def isUp (s : List Char) : Bool :=
  let t := String.ofList (s.map Char.toLower)
  t == ".." || t == ".%2e" || t == "%2e." || t == "%2e%2e"

/-- Whether a segment is the name of a drive. -/
def isDrive : List Char → Bool
  | [c, d] => c.isAlpha && (d == ':' || d == '|')
  | _ => false

/-- Whether a step up stops at a segment: at the name of a drive, alone or before a backslash. -/
def isDriveRoot : List Char → Bool
  | [] => false
  | [_] => false
  | c :: d :: cs => isDrive [c, d] && (cs.head?.getD '\\') == '\\'

/-- The path after one step up; the name of a drive stays, wherever it stands. -/
def stepUp (path : List (List Char)) : List (List Char) :=
  if (path.getLast?.map isDriveRoot).getD false then path else path.dropLast

/-- The name of a drive with a colon. -/
def normalDrive : List Char → List Char
  | [c, _] => [c, ':']
  | s => s

/-- Takes the segments of a path one after the other; a step at the end leaves an empty segment.
In the path of a file the first segment is written with a colon if it names a drive. -/
def walk (file : Bool) (path : List (List Char)) : List (List Char) → List (List Char)
  | [] => path
  | s :: ss =>
    let next :=
      if isUp s then
        let up := stepUp path
        if ss.isEmpty then up ++ [[]] else up
      else if isHere s then
        if ss.isEmpty then path ++ [[]] else path
      else
        let written := escape pathClass s
        path ++ [if file && path.isEmpty && isDrive written then normalDrive written else written]
    walk file next ss

/-- Segments with a slash before each. -/
def pathText (ss : List (List Char)) : List Char := ss.flatMap fun s => '/' :: s

/-- Drops empty segments in front, but leaves one segment. -/
def dropEmptyFront : List (List Char) → List (List Char)
  | [] => [[]]
  | [s] => [s]
  | [] :: ss => dropEmptyFront ss
  | ss => ss

/-- The segments of a path in normal form, given without its first slash. -/
def normalSegments (c : SchemeClass) (cs : List Char) : List (List Char) :=
  walk (c == .file) [] (segments c.isSpecial cs)

/-- The normal form of a path, given without its first slash. -/
def readPath (c : SchemeClass) (cs : List Char) : List Char :=
  let ss := normalSegments c cs
  pathText (if c == .file then dropEmptyFront ss else ss)

/-! ### What stands before the path -/

/-- Whether a character ends what stands before the path. -/
def isAuthorityEnd (special : Bool) (c : Char) : Bool := isSlash special c || isPathEnd c

/-- The normal form of a user and a password: the first colon divides them, and goes where the
password is empty. -/
def readUser (cs : List Char) : List Char :=
  let (user, password) := match splitFirst ':' cs with
    | some (u, p) => (escape userClass u, escape userClass p)
    | none => (escape userClass cs, [])
  let written := if password.isEmpty then user else user ++ ':' :: password
  if written.isEmpty then [] else written ++ ['@']

/-- Cuts off the port: what follows the first colon outside of brackets. -/
def splitPort : Bool → List Char → List Char × Option (List Char)
  | _, [] => ([], none)
  | inside, c :: cs =>
    if c == ':' && !inside then ([], some cs)
    else
      let within := c == '[' || (c != ']' && inside)
      let (host, port) := splitPort within cs
      (c :: host, port)

/-- Reads a port, which is not written where it is empty or the usual one. -/
def readPort (scheme : String) (cs : List Char) : Option (List Char) :=
  if cs.isEmpty then some []
  else do
    let n ← Text.digitsValue cs
    if 65535 < n then none
    else if usualPort scheme = some n then some []
    else some (':' :: (toString n).toList)

/-- Reads what stands before the path: user, host and port; `closed` if a path, a query or a
fragment follows.  A port ends at a backslash too, which then begins the path. -/
def readAuthority (scheme : String) (c : SchemeClass) (closed : Bool) (cs : List Char) :
    Option (List Char × List Char) := do
  let (user, rest) ← match splitLast '@' cs with
    | some (u, r) => if u.isEmpty && r.isEmpty && closed then none else some (readUser u, r)
    | none => some ([], cs)
  let (host, port) := splitPort false rest
  if host.isEmpty then
    if c.isSpecial || !user.isEmpty || port.isSome then none else some ([], [])
  else
    let name ← if c.isSpecial then readHost host else readOpaqueHost host
    let (digits, beyond) := (port.getD []).span (· != '\\')
    some (user ++ name ++ (← readPort scheme digits), beyond)

/-- The host of a file; the local one is not written. -/
def readFileHost (cs : List Char) : Option (List Char) :=
  if cs.isEmpty then some []
  else (readHost cs).map fun host => if host = "localhost".toList then [] else host

/-! ### Reading -/

/-- Reads a query and a fragment. -/
def readTail (special : Bool) (cs : List Char) : Option (List Char) × Option (List Char) :=
  let (front, fragment) := match splitFirst '#' cs with
    | some (a, b) => (a, some (escape fragmentClass b))
    | none => (cs, none)
  let query := match front with
    | '?' :: q => some (escape (if special then specialQueryClass else queryClass) q)
    | _ => none
  (query, fragment)

/-- Drops the slash in front. -/
def dropSlash (special : Bool) : List Char → List Char
  | [] => []
  | d :: ds => if isSlash special d then ds else d :: ds

/-- The path in normal form of what follows the host, with or without its first slash.  Where the
scheme does not ask for a path, there need not be one. -/
def readRootedPath (c : SchemeClass) (cs : List Char) : List Char :=
  if cs.isEmpty && !c.isSpecial then [] else readPath c (dropSlash c.isSpecial cs)

/-- Reads an address with a host. -/
def readHosted (scheme : String) (c : SchemeClass) (cs : List Char) : Option Address := do
  let ends := isAuthorityEnd c.isSpecial
  let rest := cs.dropWhile fun d => !ends d
  let (authority, beyond) ← readAuthority scheme c (!rest.isEmpty) (cs.takeWhile fun d => !ends d)
  let path := beyond ++ rest.takeWhile fun d => !isPathEnd d
  let (query, fragment) := readTail c.isSpecial (rest.dropWhile fun d => !isPathEnd d)
  some ⟨scheme, some authority, readRootedPath c path, query, fragment⟩

/-- The host of the address of a file, and its path without the first slash.  Where no host is
written between two slashes and a third, the third begins an empty segment. -/
def splitFile (cs : List Char) : Option (List Char × List Char) :=
  match cs with
  | a :: b :: r =>
    if isSlash true a && isSlash true b then
      let ends := isAuthorityEnd true
      let name := r.takeWhile fun d => !ends d
      let rest := r.dropWhile fun d => !ends d
      -- The name of a drive in the place of a host is the first segment of the path.
      if isDrive name then some ([], r)
      else (readFileHost name).map fun h => (h, if h.isEmpty then rest else dropSlash true rest)
    else some ([], dropSlash true cs)
  | _ => some ([], dropSlash true cs)

/-- Reads the address of a file. -/
def readFile (cs : List Char) : Option Address := do
  let (host, rest) ← splitFile cs
  let path := rest.takeWhile fun d => !isPathEnd d
  let (query, fragment) := readTail true (rest.dropWhile fun d => !isPathEnd d)
  -- A path that starts with a drive is on this machine, whatever host was given.
  let onDrive := ((normalSegments .file path).head?.map isDrive).getD false
  some ⟨"file", some (if onDrive then [] else host), readPath .file path, query, fragment⟩

/-- Reads an address of another kind without a host. -/
def readBare (scheme : String) (cs : List Char) : Option Address :=
  match cs with
  | '/' :: r =>
    let (query, fragment) := readTail false (r.dropWhile fun d => !isPathEnd d)
    some ⟨scheme, none, readPath .other (r.takeWhile fun d => !isPathEnd d), query, fragment⟩
  | _ => none

/-- Whether a character is dropped wherever it stands. -/
def isBreak (c : Char) : Bool := c.toNat == 9 || c.toNat == 10 || c.toNat == 13

/-- Whether a character is dropped at both ends. -/
def isEdge (c : Char) : Bool := c.toNat ≤ 32

/-- Reads an address. -/
def Address.read (cs : List Char) : Option Address := do
  let core := ((cs.dropWhile isEdge).reverse.dropWhile isEdge).reverse.filter fun c => !isBreak c
  let (scheme, rest) ← readScheme core
  match SchemeClass.ofScheme scheme with
  | .file => readFile rest
  | .special => readHosted scheme .special (rest.dropWhile (isSlash true))
  | .other =>
    match dropWord "//".toList rest with
    | some r => readHosted scheme .other r
    | none => readBare scheme rest

end Provenance.Uri
