/-!
# URIs

A URI is kept in the normal form in which it is compared and written: lower-case scheme, normalised
host, no default port, dot segments resolved, characters percent-encoded where each part asks for it.
-/

set_option autoImplicit false

namespace JsonSchema

/-- Why a text is not a URI. -/
inductive UriError where
  | emptyHost
  | invalidPort
  | invalidIpv4Address
  | invalidIpv6Address
  | invalidDomainCharacter
  | invalidDomainName
  | relativeWithoutBase
  | relativeToRootless
deriving DecidableEq

def UriError.message : UriError → String
  | emptyHost => "empty host"
  | invalidPort => "invalid port number"
  | invalidIpv4Address => "invalid IPv4 address"
  | invalidIpv6Address => "invalid IPv6 address"
  | invalidDomainCharacter => "invalid domain character"
  | invalidDomainName => "invalid international domain name"
  | relativeWithoutBase => "relative URL without a base"
  | relativeToRootless => "relative URL with a cannot-be-a-base base"

/-- The part between `//` and the path. -/
structure Authority where
  username : List Char := []
  /-- An empty password is the same as none. -/
  password : List Char := []
  host : List Char := []
  port : Option Nat := none
deriving DecidableEq

/-- The path of a URI: segments with a slash before each, or a text that no reference resolves against. -/
inductive UriPath where
  | segments (segments : List (List Char))
  | rootless (text : List Char)
deriving DecidableEq

structure Uri where
  scheme : List Char
  authority : Option Authority
  path : UriPath
  query : Option (List Char)
  fragment : Option (List Char)
deriving DecidableEq

namespace Authority

def text (a : Authority) : List Char :=
  let password := if a.password.isEmpty then [] else ':' :: a.password
  let userinfo := a.username ++ password
  let port := match a.port with
    | some p => ':' :: Nat.toDigits 10 p
    | none => []
  (if userinfo.isEmpty then [] else userinfo ++ ['@']) ++ a.host ++ port

end Authority

namespace UriPath

def text : UriPath → List Char
  | segments ss => ss.flatMap fun s => '/' :: s
  | rootless t => t

end UriPath

namespace Uri

/-- All before the fragment.  Without an authority, a path of two slashes gets a dot segment in front,
since `//` would begin an authority. -/
def textBeforeFragment (u : Uri) : List Char :=
  let path := u.path.text
  let middle := match u.authority with
    | some a => '/' :: '/' :: a.text ++ path
    | none => match u.path, path with
      | .segments _, '/' :: '/' :: _ => '/' :: '.' :: path
      | _, _ => path
  let query := match u.query with
    | some q => '?' :: q
    | none => []
  u.scheme ++ ':' :: middle ++ query

def text (u : Uri) : String :=
  String.ofList (u.textBeforeFragment ++ match u.fragment with
    | some f => '#' :: f
    | none => [])

instance : ToString Uri := ⟨text⟩

def isRootless (u : Uri) : Bool :=
  match u.path with
  | .rootless _ => true
  | .segments _ => false

/-- The URI without its fragment.  Blanks at the end of a rootless path go with it. -/
def withoutFragment (u : Uri) : Uri :=
  let path := match u.path, u.query with
    | .rootless t, none => .rootless (t.reverse.dropWhile (· = ' ')).reverse
    | p, _ => p
  { u with path := path, fragment := none }

end Uri

end JsonSchema
