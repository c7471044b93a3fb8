import ODataBuilder.Url.Basic
/-!
# Reading URLs

A URL read from text, alone or against a base, after trimming controls and spaces and dropping
tabs and newlines. A scheme starts an absolute URL; otherwise the text is a reference resolved
against the base by its first character.
-/
namespace ODataBuilder.Url

/-- A character trimmed from both ends of the input: a C0 control or space. -/
def isTrimmed (c : Char) : Bool := c.toNat ≤ 0x20

def isTabOrNewline (c : Char) : Bool := c == '\t' || c == '\n' || c == '\r'

def clean (input : String) : List Char :=
  let cs := ((input.toList.dropWhile isTrimmed).reverse.dropWhile isTrimmed).reverse
  cs.filter (!isTabOrNewline ·)

def isSchemeChar (c : Char) : Bool := c.isAlphanum || c == '+' || c == '-' || c == '.'

/-- The scheme at the start of the text, lower-cased, and what follows its colon. -/
def readScheme : List Char → Option (String × List Char)
  | c :: rest =>
    if c.isAlpha then
      match rest.dropWhile isSchemeChar with
      | ':' :: after =>
        some (String.ofList ((c :: rest.takeWhile isSchemeChar).map Char.toLower), after)
      | _ => none
    else none
  | [] => none

def isSlashOrBackslash (c : Char) : Bool := c == '/' || c == '\\'

/-- Whether a text starts with a drive letter, a letter and `:` or `|`, that ends the text
or stands before `/`, `\`, `?` or `#`. -/
def startsWithDriveLetter : List Char → Bool
  | a :: b :: rest =>
    a.isAlpha && (b == ':' || b == '|') &&
      (match rest with
       | [] => true
       | c :: _ => c == '/' || c == '\\' || c == '?' || c == '#')
  | _ => false

def isDriveLetter (cs : List Char) : Bool := cs.length == 2 && startsWithDriveLetter cs

def isNormalizedDriveLetter (cs : List Char) : Bool := isDriveLetter cs && cs[1]? == some ':'

/-- Whether a path text starts with a separator and then a drive letter. -/
def pathStartsWithDriveLetter : List Char → Bool
  | c :: rest => (c == '/' || c == '\\' || c == '?' || c == '#') && startsWithDriveLetter rest
  | [] => false

def lowerAscii (cs : List Char) : List Char := cs.map Char.toLower

def isSingleDot (cs : List Char) : Bool :=
  let l := lowerAscii cs
  l == ['.'] || l == "%2e".toList

def isDoubleDot (cs : List Char) : Bool :=
  let l := lowerAscii cs
  l == ['.', '.'] || l == ".%2e".toList || l == "%2e.".toList || l == "%2e%2e".toList

def lastSlash? (cs : List Char) : Option Nat :=
  cs.zipIdx.foldl (fun found (c, i) => if c == '/' then some i else found) none

/-- The path without its last segment: cut after its last `/`, unless what follows is a
drive letter of a file path. -/
def popPath (file : Bool) (path : List Char) : List Char :=
  match lastSlash? path with
  | some i =>
    if file && isNormalizedDriveLetter (path.drop (i + 1)) then path else path.take (i + 1)
  | none => path

def shortenPath (file : Bool) (path : List Char) : List Char :=
  if path.isEmpty then path
  else if file && isNormalizedDriveLetter path then path
  else popPath file path

/-- Whether the `/` that ends a path may be dropped: it is not the root's, and the segment it
ends is not a drive letter. -/
def lastSlashRemovable (path : List Char) : Bool :=
  match lastSlash? path.dropLast with
  | some i => !pathStartsWithDriveLetter (path.drop i)
  | none => false

/-- Reads the characters of one segment onto the path, percent-encoded. Gives the path,
whether a separator ended the segment (it is written as `/`), and the rest from `?` or
`#`. -/
def readSegment (special : Bool) : List Char → List Char → List Char × Bool × List Char
  | path, [] => (path, false, [])
  | path, c :: rest =>
    if c == '/' || (special && c == '\\') then (path ++ ['/'], true, rest)
    else if c == '?' || c == '#' then (path, false, c :: rest)
    else readSegment special (path ++ EncodeSet.path.encodeChar c) rest

/-- Settles the segment that starts at `start`: a `..` goes with the segment before it, a `.`
goes, and a drive letter at the start of a file path is written with `:` and takes the host
away. Gives the path and whether there is still a host. -/
def settleSegment (file : Bool) (path : List Char) (start : Nat) (slash hasHost : Bool) :
    List Char × Bool :=
  let segment := if slash then (path.drop start).dropLast else path.drop start
  if isDoubleDot segment then
    let path := path.take start
    let path :=
      if path.getLast? == some '/' && lastSlashRemovable path then path.dropLast else path
    let path := shortenPath file path
    (if slash && path.getLast? != some '/' then path ++ ['/'] else path, hasHost)
  else if isSingleDot segment then
    let path := path.take start
    (if path.getLast? != some '/' then path ++ ['/'] else path, hasHost)
  else if file && start == 1 && isDriveLetter segment then
    match segment with
    | letter :: _ => (path.take start ++ [letter, ':'] ++ (if slash then ['/'] else []), false)
    | [] => (path, hasHost)
  else (path, hasHost)

def readSegments (special file : Bool) :
    Nat → Bool → List Char → List Char → List Char × Bool × List Char
  | 0, hasHost, path, input => (path, hasHost, input)
  | fuel + 1, hasHost, path, input =>
    let start := path.length
    let (path, slash, rest) := readSegment special path input
    let (path, hasHost) := settleSegment file path start slash hasHost
    if slash then readSegments special file fuel hasHost path rest else (path, hasHost, rest)

/-- Reads a path onto `path`: the path, whether there is still a host, and the rest from `?`
or `#`. A file path keeps one leading `/`. -/
def readPath (special file hasHost : Bool) (path input : List Char) :
    List Char × Bool × List Char :=
  let (path, hasHost, rest) := readSegments special file (input.length + 1) hasHost path input
  (if file then '/' :: path.dropWhile (· == '/') else path, hasHost, rest)

/-- Reads the path after an authority. A special path always starts with `/`, which may be
written as its first slash; another path is empty before `?` or `#`. -/
def pathAfterAuthority (special file hasHost : Bool) (input : List Char) :
    List Char × Bool × List Char :=
  if special then
    match input with
    | c :: rest =>
      if isSlashOrBackslash c then readPath special file hasHost ['/'] rest
      else readPath special file hasHost ['/'] input
    | [] => readPath special file hasHost ['/'] []
  else
    match input with
    | [] => readPath special file hasHost [] []
    | '?' :: _ => ([], hasHost, input)
    | '#' :: _ => ([], hasHost, input)
    | '/' :: _ => readPath special file hasHost [] input
    | _ => readPath special file hasHost ['/'] input

def withFragment (u : Url) (cs : List Char) : Url :=
  match cs with
  | '#' :: rest => { u with fragment := some (EncodeSet.fragment.encode rest) }
  | _ => u

/-- Sets the query and the fragment from a text that starts with `?` or `#`. -/
def withQueryAndFragment (u : Url) (cs : List Char) : Url :=
  match cs with
  | '?' :: rest =>
    let set := if u.isSpecial then EncodeSet.specialQuery else EncodeSet.query
    withFragment { u with query := some (set.encode (rest.takeWhile (· != '#'))) }
      (rest.dropWhile (· != '#'))
  | _ => withFragment u cs

/-- The URL with a path read from `input` onto `path`, then the query and the fragment. -/
def withPath (u : Url) (hasHost : Bool) (path input : List Char) : Url :=
  let (path, _, rest) := readPath u.isSpecial (u.scheme == "file") hasHost path input
  withQueryAndFragment { u with path := String.ofList path, query := none, fragment := none } rest

def verbatimPath (u : Url) (cs : List Char) : Url :=
  let inPath := fun c => c != '?' && c != '#'
  withQueryAndFragment { u with path := EncodeSet.controls.encode (cs.takeWhile inPath) }
    (cs.dropWhile inPath)

def endsAuthority (special : Bool) (c : Char) : Bool :=
  c == '/' || c == '?' || c == '#' || (special && c == '\\')

def lastAt (cs : List Char) : Option Nat :=
  cs.zipIdx.foldl (fun found (c, i) => if c == '@' then some i else found) none

def readUserinfo (special : Bool) (cs : List Char) : Except UrlError (String × String × List Char) :=
  match lastAt (cs.takeWhile (!endsAuthority special ·)) with
  | none => .ok ("", "", cs)
  | some 0 =>
    match cs.drop 1 with
    | c :: more => if endsAuthority special c then .error .emptyHost else .ok ("", "", c :: more)
    | [] => .ok ("", "", [])
  | some k =>
    let info := cs.take k
    let user := info.takeWhile (· != ':')
    let pass := (info.dropWhile (· != ':')).drop 1
    .ok (EncodeSet.userinfo.encode user, EncodeSet.userinfo.encode pass, cs.drop (k + 1))

/-- The host text: up to a `:` outside brackets or the end of the authority. -/
def hostText (special : Bool) : List Char → Bool → List Char × List Char
  | [], _ => ([], [])
  | c :: rest, inside =>
    if (c == ':' && !inside) || endsAuthority special c then ([], c :: rest)
    else
      let inside := if c == '[' then true else if c == ']' then false else inside
      let (more, after) := hostText special rest inside
      (c :: more, after)

/-- Reads the digits of a port, up to `/`, `\`, `?`, `#` or the end. -/
def portDigits : List Char → Nat → Bool → Except UrlError (Option Nat × List Char)
  | [], value, seen => .ok (if seen then some value else none, [])
  | c :: rest, value, seen =>
    if c.isDigit then
      let value := value * 10 + (c.toNat - 48)
      if value > 65535 then .error .invalidPort else portDigits rest value true
    else if c == '/' || c == '\\' || c == '?' || c == '#' then
      .ok (if seen then some value else none, c :: rest)
    else .error .invalidPort

def readPort (scheme : String) (cs : List Char) : Except UrlError (Option Nat × List Char) := do
  let (port, rest) ← portDigits cs 0 false
  .ok (if port == defaultPort? scheme then none else port, rest)

def authority (scheme : String) (cs : List Char) : Except UrlError Url := do
  let special := isSpecialScheme scheme
  let (user, pass, rest) ← readUserinfo special cs
  let (text, rest) := hostText special rest false
  if special && text.isEmpty then throw UrlError.emptyHost
  let host ← if special then Host.parseSpecial text else Host.parseVerbatim text
  if host == .empty && rest.head? == some ':' then throw UrlError.emptyHost
  let (port, rest) ←
    match rest with
    | ':' :: more => readPort scheme more
    | _ => pure (none, rest)
  if host == .empty && (!user.isEmpty || !pass.isEmpty) then throw UrlError.emptyHost
  let (path, _, rest) := pathAfterAuthority special false true rest
  .ok (withQueryAndFragment
    { scheme, username := user, password := pass, host := some host, port,
      path := String.ofList path } rest)

def fileUrl : Url := { scheme := "file", host := some .empty }

def fragmentOnly (b : Url) (cs : List Char) : Url :=
  { b with fragment := some (EncodeSet.fragment.encode cs) }

/-- Reads a file host, after two slashes, then the rest of the URL. A drive letter in place
of the host is the start of the path; `localhost` is no host; a drive letter at the start of
the path takes the host away. -/
def fileHost (cs : List Char) : Except UrlError Url := do
  let isEnd := fun c => isSlashOrBackslash c || c == '?' || c == '#'
  let text := cs.takeWhile (!isEnd ·)
  let (text, rest) := if isDriveLetter text then ([], cs) else (text, cs.dropWhile (!isEnd ·))
  let host ← if text.isEmpty then pure Host.empty else Host.parseSpecial text
  let host := if host == .domain "localhost" then .empty else host
  let hasHost := host != .empty
  let (path, hasHost, rest) :=
    if hasHost then pathAfterAuthority true true true rest else readPath true true false ['/'] rest
  .ok (withQueryAndFragment
    { fileUrl with host := some (if hasHost then host else .empty), path := String.ofList path }
    rest)

/-- Reads a file path that starts with one slash (`cs` is the text after it). Unless a drive
letter follows, the path keeps the drive letter the base's path starts with, or else the
base's host. -/
def fileAfterSlash (slash : Char) (cs : List Char) (base : Option Url) : Url :=
  let (u, path) : Url × List Char :=
    match base with
    | some b =>
      if startsWithDriveLetter cs then (fileUrl, [])
      else if isNormalizedDriveLetter b.firstSegment then (fileUrl, '/' :: b.firstSegment)
      else if b.hostText?.isSome then ({ fileUrl with host := b.host }, [])
      else (fileUrl, [])
    | none => (fileUrl, [])
  withPath u false path (slash :: cs)

/-- Reads a file URL after `file:`, or a reference against a file base. -/
def parseFile (cs : List Char) (base : Option Url) : Except UrlError Url :=
  match cs with
  | c :: rest =>
    if isSlashOrBackslash c then
      match rest with
      | d :: more => if isSlashOrBackslash d then fileHost more else .ok (fileAfterSlash c rest base)
      | [] => .ok (fileAfterSlash c [] base)
    else
      match base with
      | some b =>
        if c == '?' then .ok (withQueryAndFragment { b with query := none, fragment := none } cs)
        else if c == '#' then .ok (fragmentOnly b rest)
        else if startsWithDriveLetter cs then .ok (withPath fileUrl false ['/'] cs)
        else .ok (withPath b true (shortenPath true b.path.toList) cs)
      | none => .ok (withPath fileUrl false ['/'] cs)
  | [] =>
    match base with
    | some b => .ok { b with fragment := none }
    | none => .ok (withPath fileUrl false ['/'] [])

/-- Resolves a reference against a base that can be one and is not a file URL. -/
def relative (b : Url) (cs : List Char) : Except UrlError Url :=
  match cs with
  | [] => .ok { b with fragment := none }
  | '?' :: _ => .ok (withQueryAndFragment { b with query := none, fragment := none } cs)
  | '#' :: rest => .ok (fragmentOnly b rest)
  | c :: rest =>
    if isSlashOrBackslash c then
      if (cs.takeWhile isSlashOrBackslash).length ≥ 2 then
        match cs with
        | '/' :: '/' :: after => authority b.scheme after
        | _ => authority b.scheme (cs.dropWhile isSlashOrBackslash)
      else .ok (withPath b true ['/'] rest)
    else
      let path := popPath false b.path.toList
      let path := if path.isEmpty && (b.isSpecial || !cs.isEmpty) then ['/'] else path
      .ok (withPath b true path cs)

def parseFrom (cs : List Char) (base : Option Url) : Except UrlError Url :=
  match readScheme cs with
  | some (scheme, rest) =>
    if scheme == "file" then parseFile rest (base.filter (·.scheme == "file"))
    else if isSpecialScheme scheme then
      let slashes := (rest.takeWhile isSlashOrBackslash).length
      match base with
      | some b =>
        if slashes < 2 && b.scheme == scheme then relative b rest
        else authority scheme (rest.dropWhile isSlashOrBackslash)
      | none => authority scheme (rest.dropWhile isSlashOrBackslash)
    else
      match rest with
      | '/' :: '/' :: more => authority scheme more
      | '/' :: more => .ok (withPath { scheme } false ['/'] more)
      | _ => .ok (verbatimPath { scheme } rest)
  | none =>
    match base with
    | none => .error .relativeWithoutBase
    | some b =>
      match cs with
      | '#' :: rest => .ok (fragmentOnly b rest)
      | _ =>
        if b.cannotBeABase then .error .relativeWithOpaqueBase
        else if b.scheme == "file" then parseFile cs (some b)
        else relative b cs

def parse (input : String) : Except UrlError Url := parseFrom (clean input) none

def join (base : Url) (input : String) : Except UrlError Url := parseFrom (clean input) (some base)

end ODataBuilder.Url
