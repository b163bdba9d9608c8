import JsonSchema.Uri.Host

/-!
# Reading URIs and references

`Uri.parse` reads an absolute URI and `Uri.join` a reference, relative to a base.  Blanks and controls
around a text and tabs and line ends inside it do not count.  The schemes `http`, `https`, `ws`, `wss`,
`ftp` and `file` are special: they have a normalised host, a path that is never empty, and the
backslash is one more slash.
-/

set_option autoImplicit false

namespace JsonSchema.Uri

/-! ## Schemes -/

/-- The port that a scheme stands for. -/
def defaultPort? (scheme : List Char) : Option Nat :=
  match String.ofList scheme with
  | "http" | "ws" => some 80
  | "https" | "wss" => some 443
  | "ftp" => some 21
  | _ => none

def isFile (scheme : List Char) : Bool := String.ofList scheme == "file"

def isSpecial (scheme : List Char) : Bool := (defaultPort? scheme).isSome || isFile scheme

def isSlash (c : Char) : Bool := c == '/' || c == '\\'

/-- Whether the character divides the path of the scheme. -/
def dividesPath (scheme : List Char) (c : Char) : Bool := c == '/' || (c == '\\' && isSpecial scheme)

/-- Reads a scheme and its colon. -/
def readScheme? (cs : List Char) : Option (List Char × List Char) :=
  let isSchemeChar (c : Char) : Bool := c.isAlphanum || c == '+' || c == '-' || c == '.'
  match cs with
  | [] => none
  | c :: _ =>
    if !c.isAlpha then none
    else match cs.dropWhile isSchemeChar with
      | ':' :: rest => some ((cs.takeWhile isSchemeChar).map Char.toLower, rest)
      | _ => none

/-! ## Characters that each part encodes -/

def inFragmentSet (c : Char) : Bool := Host.isControl c || " \"<>`".toList.contains c

def inPathSet (c : Char) : Bool := inFragmentSet c || "#?\x7b\x7d".toList.contains c

def inUserinfoSet (c : Char) : Bool := inPathSet c || "/:;=@[\\]^|".toList.contains c

def inQuerySet (scheme : List Char) (c : Char) : Bool :=
  Host.isControl c || " \"#<>".toList.contains c || (c == '\'' && isSpecial scheme)

/-! ## Paths -/

/-- Whether a segment is a letter and a colon or bar. -/
def isDriveLetter (segment : List Char) : Bool :=
  match segment with
  | [a, b] => a.isAlpha && (b == ':' || b == '|')
  | _ => false

/-- Whether a segment is a letter and a colon. -/
def isNormalDriveLetter (segment : List Char) : Bool :=
  match segment with
  | [a, ':'] => a.isAlpha
  | _ => false

/-- Whether a text starts with a segment that is a drive letter. -/
def startsWithDriveLetter (cs : List Char) : Bool :=
  match cs with
  | [a, b] => isDriveLetter [a, b]
  | a :: b :: c :: _ => isDriveLetter [a, b] && (isSlash c || c == '?' || c == '#')
  | _ => false

/-- The segments without the last one; in a file URI a drive letter stays. -/
def dropLastSegment (scheme : List Char) (segments : List (List Char)) : List (List Char) :=
  match segments.getLast? with
  | some s => if isFile scheme && isNormalDriveLetter s then segments else segments.dropLast
  | none => []

def isSingleDot (segment : List Char) : Bool :=
  String.ofList (segment.map Char.toLower) == "." || String.ofList (segment.map Char.toLower) == "%2e"

def isDoubleDot (segment : List Char) : Bool :=
  ["..", "%2e%2e", "%2e.", ".%2e"].contains (String.ofList (segment.map Char.toLower))

/-- Adds a segment to a path.  A dot adds nothing and two dots take the last segment away; if no slash
follows them, the path ends in an empty segment. -/
def pushSegment (scheme : List Char) (segments : List (List Char)) (segment : List Char)
    (slashFollows : Bool) : List (List Char) :=
  if isDoubleDot segment then
    let rest := match segments.getLast? with
      | some s => if isDriveLetter s then segments else segments.dropLast
      | none => []
    if slashFollows then rest else rest ++ [[]]
  else if isSingleDot segment then if slashFollows then segments else segments ++ [[]]
  else match isFile scheme && segments.isEmpty, segment with
    | true, [a, '|'] => if a.isAlpha then [[a, ':']] else [segment]
    | true, a :: ':' :: c :: more => if a.isAlpha then [[a, ':'], c :: more] else [segment]
    | _, _ => segments ++ [segment]

/-- Reads a path up to a question mark, a hash or the end.  `current` is the segment being read, in
reverse; the path read so far is `segments`. -/
def readPath (scheme : List Char) (segments : List (List Char)) (current : List Char) :
    List Char → List (List Char) × List Char
  | [] => (pushSegment scheme segments current.reverse false, [])
  | c :: rest =>
    if c = '?' ∨ c = '#' then (pushSegment scheme segments current.reverse false, c :: rest)
    else if dividesPath scheme c then
      readPath scheme (pushSegment scheme segments current.reverse true) [] rest
    else readPath scheme segments ((Percent.encodeChar inPathSet c).reverse ++ current) rest

/-- In a file URI, empty segments in front do not count. -/
def trimFilePath (scheme : List Char) (segments : List (List Char)) : List (List Char) :=
  if isFile scheme then
    match segments.dropWhile List.isEmpty with
    | [] => [[]]
    | ss => ss
  else segments

/-- Reads a path that continues the given segments. -/
def continuePath (scheme : List Char) (segments : List (List Char)) (cs : List Char) :
    List (List Char) × List Char :=
  let (segments, rest) := readPath scheme segments [] cs
  (trimFilePath scheme segments, rest)

/-- Reads the path behind an authority.  Only a scheme that is not special can have an empty one. -/
def readPathStart (scheme : List Char) (cs : List Char) : List (List Char) × List Char :=
  match cs with
  | [] => if isSpecial scheme then ([[]], []) else ([], [])
  | c :: rest =>
    if dividesPath scheme c then continuePath scheme [] rest
    else if !isSpecial scheme && (c = '?' || c = '#') then ([], c :: rest)
    else continuePath scheme [] (c :: rest)

/-! ## Query and fragment -/

/-- Reads the query, behind a question mark, and the fragment, behind a hash. -/
def readTail (scheme : List Char) (cs : List Char) : Option (List Char) × Option (List Char) :=
  let fragment? (cs : List Char) : Option (List Char) :=
    match cs with
    | '#' :: rest => some (Percent.encode inFragmentSet rest)
    | _ => none
  match cs with
  | '?' :: rest =>
    (some (Percent.encode (inQuerySet scheme) (rest.takeWhile (· ≠ '#'))),
      fragment? (rest.dropWhile (· ≠ '#')))
  | cs => (none, fragment? cs)

/-- The URI of its parts up to the path and the text of its query and fragment. -/
def withTail (scheme : List Char) (authority : Option Authority) (path : UriPath) (cs : List Char) : Uri :=
  let (query, fragment) := readTail scheme cs
  ⟨scheme, authority, path, query, fragment⟩

/-! ## Authority -/

/-- Cuts a text at the last occurrence of a character. -/
def cutAtLast? (mark : Char) (cs : List Char) : Option (List Char × List Char) :=
  match cs.reverse.dropWhile (· ≠ mark) with
  | [] => none
  | _ :: before =>
    some (before.reverse, (cs.reverse.takeWhile (· ≠ mark)).reverse)

/-- Whether the character ends the authority of the scheme. -/
def endsAuthority (scheme : List Char) (c : Char) : Bool :=
  dividesPath scheme c || c == '?' || c == '#'

/-- Reads the username and password, up to the last at sign of the authority. -/
def readUserinfo (scheme : List Char) (cs : List Char) :
    Except UriError (List Char × List Char × List Char) :=
  let authority := cs.takeWhile fun c => !endsAuthority scheme c
  let behind := cs.dropWhile fun c => !endsAuthority scheme c
  match cutAtLast? '@' authority with
  | none => .ok ([], [], cs)
  | some (userinfo, host) =>
    if userinfo.isEmpty && host.isEmpty && !behind.isEmpty then .error .emptyHost
    else
      let encode := Percent.encode inUserinfoSet
      .ok (encode (userinfo.takeWhile (· ≠ ':')), encode ((userinfo.dropWhile (· ≠ ':')).drop 1),
        host ++ behind)

/-- The characters of a host: up to a colon outside brackets or the end of the authority. -/
def hostLength (scheme : List Char) (inBrackets : Bool) : List Char → Nat
  | [] => 0
  | c :: rest =>
    if endsAuthority scheme c || (c == ':' && !inBrackets) then 0
    else
      let inBrackets := if c = '[' then true else if c = ']' then false else inBrackets
      hostLength scheme inBrackets rest + 1

/-- Reads a port behind its colon; the default port of the scheme is left out. -/
def readPort (scheme : List Char) (cs : List Char) : Except UriError (Option Nat × List Char) :=
  let digits := cs.takeWhile Char.isDigit
  let rest := cs.dropWhile Char.isDigit
  let n := natOfDigits digits
  let endsPort := match rest with
    | [] => true
    | c :: _ => isSlash c || c == '?' || c == '#'
  if UInt16.size ≤ n || !endsPort then .error .invalidPort
  else .ok (if digits.isEmpty || defaultPort? scheme == some n then none else some n, rest)

/-- Reads what follows the two slashes of an authority. -/
def afterSlashes (scheme : List Char) (cs : List Char) : Except UriError Uri := do
  let (username, password, rest) ← readUserinfo scheme cs
  let hostText := rest.take (hostLength scheme false rest)
  let behind := rest.drop hostText.length
  let host ←
    if isSpecial scheme then
      if hostText.isEmpty then .error .emptyHost else Host.special hostText
    else Host.other hostText
  if host.isEmpty && behind.head? == some ':' then .error .emptyHost
  let (port, rest) ← match behind with
    | ':' :: rest => readPort scheme rest
    | rest => .ok (none, rest)
  if host.isEmpty && !(username.isEmpty && password.isEmpty) then .error .emptyHost
  let (segments, rest) := readPathStart scheme rest
  return withTail scheme (some ⟨username, password, host, port⟩) (.segments segments) rest

/-! ## File URIs -/

def fileScheme : List Char := "file".toList

/-- The host that a file URI takes over from its base, if the base does not start with a drive letter. -/
def fileUri (host : List Char) (segments : List (List Char)) (cs : List Char) : Uri :=
  withTail fileScheme (some { host := host }) (.segments segments) cs

/-- Reads what follows the two slashes of a file URI.  `localhost` is the same as no host; a path that
starts with a drive letter has none. -/
def afterFileSlashes (cs : List Char) : Except UriError Uri := do
  let isHostChar (c : Char) : Bool := !endsAuthority fileScheme c
  let hostText := cs.takeWhile isHostChar
  if isDriveLetter hostText then
    let (segments, rest) := continuePath fileScheme [] cs
    return fileUri [] segments rest
  else
    let host ← if hostText.isEmpty then .ok [] else Host.special hostText
    let host := if host = "localhost".toList then [] else host
    let (segments, rest) := readPathStart fileScheme (cs.dropWhile isHostChar)
    let startsWithDrive := segments.head?.any isNormalDriveLetter
    return fileUri (if startsWithDrive then [] else host) segments rest

/-- Reads a file URI behind its scheme, or a reference to one, with a base that is a file URI. -/
def readFile (base : Option Uri) (cs : List Char) : Except UriError Uri :=
  match cs with
  | a :: b :: rest =>
    if isSlash a && isSlash b then afterFileSlashes rest
    else if isSlash a then rooted (b :: rest)
    else relative cs
  | [a] => if isSlash a then rooted [] else relative cs
  | [] => relative []
where
  /-- A path behind one slash: it keeps the drive letter or the host of the base. -/
  rooted (cs : List Char) : Except UriError Uri :=
    let drive : List (List Char) := match base with
      | some b => match b.path with
        | .segments (s :: _) => if isNormalDriveLetter s then [s] else []
        | _ => []
      | none => []
    if startsWithDriveLetter cs then
      let (segments, rest) := continuePath fileScheme [] cs
      .ok (fileUri [] segments rest)
    else
      let host := if drive.isEmpty then ((base.bind (·.authority)).map (·.host)).getD [] else []
      let (segments, rest) := continuePath fileScheme drive cs
      .ok (fileUri host segments rest)
  /-- Anything but a slash in front. -/
  relative (cs : List Char) : Except UriError Uri :=
    match base with
    | none =>
      let (segments, rest) := continuePath fileScheme [] cs
      .ok (fileUri [] segments rest)
    | some b =>
      match cs with
      | [] => .ok { b with fragment := none }
      | '?' :: _ => .ok (withTail fileScheme b.authority b.path cs)
      | '#' :: _ => .ok { b with fragment := (readTail fileScheme cs).2 }
      | cs =>
        if startsWithDriveLetter cs then
          let (segments, rest) := continuePath fileScheme [] cs
          .ok (fileUri [] segments rest)
        else
          let before := match b.path with
            | .segments ss => dropLastSegment fileScheme ss
            | .rootless _ => []
          let (segments, rest) := continuePath fileScheme before cs
          .ok (withTail fileScheme b.authority (.segments segments) rest)

/-! ## References -/

/-- Reads a reference without a scheme, relative to a base that is not rootless. -/
def readRelative (base : Uri) (cs : List Char) : Except UriError Uri :=
  let scheme := base.scheme
  let baseSegments := match base.path with
    | .segments ss => ss
    | .rootless _ => []
  match cs with
  | [] => .ok { base with fragment := none }
  | '?' :: _ => .ok (withTail scheme base.authority base.path cs)
  | '#' :: _ => .ok { base with fragment := (readTail scheme cs).2 }
  | c :: rest =>
    if isSlash c then
      let slashes := (cs.takeWhile isSlash).length
      if 2 ≤ slashes then
        match cs with
        | '/' :: '/' :: rest => afterSlashes scheme rest
        | cs => afterSlashes scheme (cs.dropWhile isSlash)
      else
        let (segments, rest) := continuePath scheme [] rest
        .ok (withTail scheme base.authority (.segments segments) rest)
    else
      let (segments, rest) := continuePath scheme (dropLastSegment scheme baseSegments) cs
      .ok (withTail scheme base.authority (.segments segments) rest)

/-- Reads a URI behind its scheme. -/
def readWithScheme (base : Option Uri) (scheme : List Char) (cs : List Char) : Except UriError Uri :=
  if isFile scheme then readFile (base.filter fun b => isFile b.scheme) cs
  else if isSpecial scheme then
    let slashes := (cs.takeWhile isSlash).length
    match base with
    | some b =>
      if slashes < 2 && b.scheme == scheme then readRelative b cs
      else afterSlashes scheme (cs.dropWhile isSlash)
    | none => afterSlashes scheme (cs.dropWhile isSlash)
  else match cs with
    | '/' :: '/' :: rest => afterSlashes scheme rest
    | '/' :: rest =>
      let (segments, rest) := continuePath scheme [] rest
      .ok (withTail scheme none (.segments segments) rest)
    | cs =>
      let isPathChar (c : Char) : Bool := c != '?' && c != '#'
      let path := Percent.encode Host.isControl (cs.takeWhile isPathChar)
      .ok (withTail scheme none (.rootless path) (cs.dropWhile isPathChar))

/-- The characters that count: none of the blanks and controls around, no tabs and line ends. -/
def significant (text : String) : List Char :=
  let isBlank (c : Char) : Bool := c.toNat ≤ 0x20
  let trimmed := ((text.toList.dropWhile isBlank).reverse.dropWhile isBlank).reverse
  trimmed.filter fun c => c ≠ '\t' ∧ c ≠ '\n' ∧ c ≠ '\r'

/-- Reads a URI or a reference. -/
def read (base : Option Uri) (text : String) : Except UriError Uri :=
  let cs := significant text
  match readScheme? cs with
  | some (scheme, rest) => readWithScheme base scheme rest
  | none =>
    match base with
    | none => .error .relativeWithoutBase
    | some b =>
      if cs.head? == some '#' then .ok { b with fragment := (readTail b.scheme cs).2 }
      else if b.isRootless then .error .relativeToRootless
      else if isFile b.scheme then readFile (some b) cs
      else readRelative b cs

/-- The URI that a text is. -/
def parse (text : String) : Except UriError Uri := read none text

/-- The URI that a reference stands for, relative to a base. -/
def join (base : Uri) (reference : String) : Except UriError Uri := read (some base) reference

end JsonSchema.Uri
