import PriceTracker.Text.Blank
import PriceTracker.Url.Host

/-!
# Reading URLs

`Url.parse` reads an absolute URL and `Url.resolve` a reference against a URL, by the rules of
the web. The text is first cut at the first `#` and the first `?` before it; what is left is the
scheme, the authority behind two slashes, and the path.

The schemes of `Scheme.special` have rules of their own: backslashes count as slashes, a host is
required, and the path is never empty. Files need no host.
-/

namespace PriceTracker.Url

/-! ## Schemes -/

/-- The three ways in which schemes are read. -/
inductive SchemeKind where
  /-- Schemes of the web, which need a host. -/
  | web
  /-- Files. -/
  | file
  /-- All other schemes. -/
  | other
  deriving DecidableEq, Repr

/-- The kind of a scheme. -/
def schemeKind (scheme : String) : SchemeKind :=
  if ["http", "https", "ws", "wss", "ftp"].contains scheme then .web
  else if scheme == "file" then .file
  else .other

/-- Whether backslashes count as slashes. -/
def SchemeKind.isSpecial (k : SchemeKind) : Bool :=
  k != .other

/-- The port that is not written. -/
def usualPort (scheme : String) : Option Nat :=
  match scheme with
  | "http" | "ws" => some 80
  | "https" | "wss" => some 443
  | "ftp" => some 21
  | _ => none

/-- A slash, or a backslash where it counts as one. -/
def SchemeKind.isSlash (k : SchemeKind) (c : Char) : Bool :=
  c == '/' || (k.isSpecial && c == '\\')

/-- The scheme, in lower case, and what stands behind its colon. -/
def splitScheme (cs : List Char) : Option (String × List Char) :=
  let isSchemeChar (c : Char) := c.isAlphanum || c == '+' || c == '-' || c == '.'
  match cs.takeWhile isSchemeChar, cs.dropWhile isSchemeChar with
  | c :: rest, ':' :: after =>
    if c.isAlpha then some (String.ofList ((c :: rest).map Char.toLower), after) else none
  | _, _ => none

/-! ## The outer parts -/

/-- A text cut into what the marks of query and fragment separate. -/
structure Outer where
  main : List Char
  query : Option (List Char)
  fragment : Option (List Char)

/-- The text before a mark and, if the mark is there, the text behind it. -/
def cutAt (mark : Char) (cs : List Char) : List Char × Option (List Char) :=
  match cs.dropWhile (· != mark) with
  | [] => (cs, none)
  | _ :: after => (cs.takeWhile (· != mark), some after)

/-- Cuts off the fragment and then the query. -/
def Outer.ofChars (cs : List Char) : Outer :=
  let (front, fragment) := cutAt '#' cs
  let (main, query) := cutAt '?' front
  ⟨main, query, fragment⟩

/-- Whether nothing stands behind the main part. -/
def Outer.isBare (o : Outer) : Bool :=
  o.query.isNone && o.fragment.isNone

/-- The written query. -/
def Outer.queryText (o : Outer) (k : SchemeKind) : Option String :=
  o.query.map (percentEncode (if k.isSpecial then inSpecialQuerySet else inQuerySet))

/-- The written fragment. -/
def Outer.fragmentText (o : Outer) : Option String :=
  o.fragment.map (percentEncode inFragmentSet)

/-- Drops control characters and spaces at the ends, and tabs and line ends everywhere. -/
def clean (s : String) : List Char :=
  (Text.trimBy (·.toNat ≤ 0x20) s.toList).filter fun c => c != '\t' && c != '\n' && c != '\r'

/-! ## Paths -/

/-- A segment that stands for its own directory. -/
def isSingleDot (s : String) : Bool :=
  s.toLower == "." || s.toLower == "%2e"

/-- A segment that stands for the directory above. -/
def isDoubleDot (s : String) : Bool :=
  ["..", "%2e.", ".%2e", "%2e%2e"].contains s.toLower

/-- A letter and a colon or a bar. -/
def isDriveLetter (cs : List Char) : Bool :=
  match cs with
  | [c, d] => c.isAlpha && (d == ':' || d == '|')
  | _ => false

/-- A letter and a colon. -/
def isPlainDriveLetter (s : String) : Bool :=
  isDriveLetter s.toList && s.toList.getLast? == some ':'

/-- The text starts with a drive letter that is a whole segment. -/
def startsWithDrive (o : Outer) : Bool :=
  isDriveLetter (o.main.take 2) &&
    match o.main.drop 2 with
    | [] => true
    | c :: _ => c == '/' || c == '\\'

/-- The path without its last segment; the drive of a file stays. -/
def shorten (k : SchemeKind) (path : List String) : List String :=
  match path with
  | [drive] => if k == .file && isPlainDriveLetter drive then path else []
  | _ => path.dropLast

/-- The pieces between slashes. -/
def pieces (k : SchemeKind) (cs : List Char) : List (List Char) :=
  cs.splitOnP k.isSlash

/-- The segment that a piece becomes; the drive of a file is written with a colon. -/
def segmentText (k : SchemeKind) (path : List String) (piece : List Char) : String :=
  match k, path, piece with
  | .file, [], [c, '|'] => if c.isAlpha then String.ofList [c, ':'] else percentEncode inPathSet piece
  | _, _, _ => percentEncode inPathSet piece

/-- Follows the pieces of a path from a directory. A dot segment at the end leaves an empty
segment. -/
def follow (k : SchemeKind) : List String → List (List Char) → List String
  | path, [] => path
  | path, piece :: rest =>
    let text := String.ofList piece
    if isDoubleDot text then
      let up := shorten k path
      follow k (if rest.isEmpty then up ++ [""] else up) rest
    else if isSingleDot text then
      follow k (if rest.isEmpty then path ++ [""] else path) rest
    else follow k (path ++ [segmentText k path piece]) rest

/-- Drops empty segments at the front of the path of a file. -/
def collapseFront : List String → List String
  | "" :: s :: rest => collapseFront (s :: rest)
  | path => path

/-- The path that a text names from a directory. -/
def pathFrom (k : SchemeKind) (directory : List String) (cs : List Char) : Path :=
  let path := follow k directory (pieces k cs)
  .segments (if k == .file then collapseFront path else path)

/-- The path that follows a host. -/
def pathAfterHost (k : SchemeKind) (cs : List Char) : Path :=
  match cs with
  | [] => if k.isSpecial then .segments [""] else .segments []
  | c :: rest => pathFrom k [] (if k.isSlash c then rest else c :: rest)

/-! ## The authority -/

/-- The text before the last `@` and the text behind it. -/
def splitUser (cs : List Char) : Option (List Char) × List Char :=
  match cs.reverse.dropWhile (· != '@') with
  | [] => (none, cs)
  | _ :: before => (some before.reverse, (cs.reverse.takeWhile (· != '@')).reverse)

/-- The host and what stands behind it, from the first colon outside brackets. -/
def splitHost (inBrackets : Bool) : List Char → List Char × List Char
  | [] => ([], [])
  | c :: cs =>
    if c == ':' && !inBrackets then ([], c :: cs)
    else
      let inside := if c == '[' then true else if c == ']' then false else inBrackets
      let (host, rest) := splitHost inside cs
      (c :: host, rest)

/-- The port of the digits; the usual port of the scheme is left out. -/
def readPort (scheme : String) (digits : List Char) : Except ParseError (Option Nat) :=
  if !digits.all Char.isDigit then .error .invalidPort
  else if digits.isEmpty then .ok none
  else
    let n := digits.foldl (fun n c => 10 * n + (c.toNat - '0'.toNat)) 0
    if 65535 < n then .error .invalidPort
    else .ok (if usualPort scheme == some n then none else some n)

/-- The user, the password, the host and the port. -/
structure Authority where
  username : String := ""
  password : String := ""
  host : Host
  port : Option Nat := none
  /-- What the port ended at, which belongs to the path. -/
  rest : List Char := []

/-- Reads an authority; `isLast` tells that nothing stands behind it. -/
def readAuthority (scheme : String) (isLast : Bool) (cs : List Char) :
    Except ParseError Authority :=
  let k := schemeKind scheme
  let (user, place) := splitUser cs
  let (name, secret) := cutAt ':' (user.getD [])
  let username := percentEncode inUserSet name
  let password := percentEncode inUserSet (secret.getD [])
  let (hostText, behind) := splitHost false place
  if user == some [] && place.isEmpty && !isLast then .error .emptyHost
  else if hostText.isEmpty && k == .web then .error .emptyHost
  else do
    let host ← if k.isSpecial then Host.parse hostText else Host.parseOther hostText
    if host == .name "" && (!behind.isEmpty || !username.isEmpty || !password.isEmpty) then
      .error .emptyHost
    else
      let portChars := behind.drop 1
      let digits := if k.isSpecial then portChars else portChars.takeWhile (· != '\\')
      let port ← readPort scheme digits
      return { username, password, host, port, rest := portChars.drop digits.length }

/-- The URL of an authority and what follows it. -/
def ofAuthority (scheme : String) (main : List Char) (o : Outer) : Except ParseError Url := do
  let k := schemeKind scheme
  let place := main.takeWhile (!k.isSlash ·)
  let path := main.dropWhile (!k.isSlash ·)
  let a ← readAuthority scheme (path.isEmpty && o.isBare) place
  return {
    scheme
    username := a.username
    password := a.password
    host := some a.host
    port := a.port
    path := pathAfterHost k (a.rest ++ path)
    query := o.queryText k
    fragment := o.fragmentText }

/-! ## Files -/

/-- The URL of a file with the given host and path. -/
def fileUrl (host : Host) (path : Path) (o : Outer) : Url where
  scheme := "file"
  host := some host
  path := path
  query := o.queryText .file
  fragment := o.fragmentText

/-- The segments of a path. -/
def Path.items : Path → List String
  | .segments items => items
  | .undivided _ => []

/-- Reads what follows the scheme of a file, against the URL of another file if there is one. -/
def parseFile (base : Option Url) (o : Outer) : Except ParseError Url := do
  let isSlash := SchemeKind.file.isSlash
  let localHost : Host := .name ""
  match o.main with
  | c :: d :: rest =>
    if isSlash c && isSlash d then
      let place := rest.takeWhile (!isSlash ·)
      if place.isEmpty || isDriveLetter place then
        let path := if place.isEmpty then rest.drop 1 else rest
        return fileUrl localHost (pathFrom .file [] path) o
      let host ← Host.parse place
      let path := pathAfterHost .file (rest.dropWhile (!isSlash ·))
      return fileUrl (if host == .name "localhost" then localHost else host) path o
    else if isSlash c then return rooted (d :: rest)
    else return relative
  | [c] => if isSlash c then return rooted [] else return relative
  | [] => return relative
where
  /-- A path from the root: the host and the drive are those of the base. -/
  rooted (rest : List Char) : Url :=
    match base with
    | some b =>
      if startsWithDrive { o with main := rest } then fileUrl (.name "") (pathFrom .file [] rest) o
      else
        match b.path.items with
        | drive :: _ =>
          if isPlainDriveLetter drive then fileUrl (.name "") (pathFrom .file [drive] rest) o
          else fileUrl (b.host.getD (.name "")) (pathFrom .file [] rest) o
        | [] => fileUrl (b.host.getD (.name "")) (pathFrom .file [] rest) o
    | none => fileUrl (.name "") (pathFrom .file [] rest) o
  /-- A path from the directory of the base. -/
  relative : Url :=
    match base with
    | some b =>
      if o.main.isEmpty then
        { b with
          query := if o.query.isSome then o.queryText .file else b.query
          fragment := o.fragmentText }
      else if startsWithDrive o then fileUrl (.name "") (pathFrom .file [] o.main) o
      else
        fileUrl (b.host.getD (.name ""))
          (pathFrom .file (shorten .file b.path.items) o.main) o
    | none => fileUrl (.name "") (pathFrom .file [] o.main) o

/-! ## References -/

/-- Resolves a reference without a scheme of its own against a URL that is no file. -/
def parseRelative (base : Url) (o : Outer) : Except ParseError Url := do
  let k := schemeKind base.scheme
  let slashes := o.main.takeWhile fun c => c == '/' || c == '\\'
  let query := o.queryText k
  let fragment := o.fragmentText
  match o.main with
  | [] => return { base with query := if o.query.isSome then query else base.query, fragment }
  | c :: rest =>
    if 2 ≤ slashes.length then
      -- Behind `//` a host has to follow; further slashes are passed over in other spellings only.
      let behind := if ['/', '/'].isPrefixOf o.main then o.main.drop 2 else o.main.drop slashes.length
      ofAuthority base.scheme behind o
    else if slashes.length = 1 then
      return { base with path := pathFrom k [] rest, query, fragment }
    else
      let directory := base.path.items.dropLast
      return { base with path := pathFrom k directory (c :: rest), query, fragment }

/-- Reads what follows a scheme of the web. A reference with the scheme of its base and fewer than
two slashes is relative. -/
def parseWeb (base : Option Url) (scheme : String) (o : Outer) : Except ParseError Url :=
  let slashes := o.main.takeWhile SchemeKind.web.isSlash
  match base with
  | some b =>
    if b.scheme == scheme && slashes.length < 2 then parseRelative b o
    else ofAuthority scheme (o.main.drop slashes.length) o
  | none => ofAuthority scheme (o.main.drop slashes.length) o

/-- Reads what follows any other scheme. -/
def parseOther (scheme : String) (o : Outer) : Except ParseError Url :=
  let query := o.queryText .other
  let fragment := o.fragmentText
  match o.main with
  | '/' :: '/' :: rest => ofAuthority scheme rest o
  | '/' :: rest => .ok { scheme, path := pathFrom .other [] rest, query, fragment }
  | text =>
    .ok { scheme, path := .undivided (percentEncode inControlSet text), query, fragment }

/-- Reads a text with a URL that relative references are resolved against. -/
def parseWith (base : Option Url) (s : String) : Except ParseError Url :=
  let cs := clean s
  match splitScheme cs with
  | some (scheme, rest) =>
    let o := Outer.ofChars rest
    match schemeKind scheme with
    | .web => parseWeb base scheme o
    | .file => parseFile (base.filter (·.scheme == "file")) o
    | .other => parseOther scheme o
  | none =>
    let o := Outer.ofChars cs
    match base with
    | none => .error .relativeWithoutBase
    | some b =>
      if cs.head? == some '#' then .ok { b with fragment := o.fragmentText }
      else
        match b.path with
        | .undivided _ => .error .relativeWithUndividedBase
        | .segments _ => if b.scheme == "file" then parseFile base o else parseRelative b o

/-- Reads an absolute URL. -/
def parse (s : String) : Except ParseError Url :=
  parseWith none s

/-- Resolves a reference against a URL. -/
def resolve (base : Url) (reference : String) : Except ParseError Url :=
  parseWith (some base) reference

end PriceTracker.Url
