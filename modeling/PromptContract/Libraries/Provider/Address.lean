import PromptContract.Libraries.Provider.Host

/-!
# Addresses

Where a provider is reached: a scheme, the host with a port and perhaps a user, a path, a query and
a fragment, all but the path of which may be missing. An address is brought to a normal form
(`Address.ofParts`): scheme and host in lower case, without the port that the scheme implies,
without steps up and in place in its path, and with all that is not safe written as bytes. The path
of a base address ends with a slash, behind which the paths of requests go on (`Address.base`).
-/

namespace PromptContract

/-- An address in its normal form. -/
structure Address where
  scheme : List Char
  user : List Char
  host : List Char
  port : Option Int
  path : List Char
  query : Option (List Char)
  fragment : Option (List Char)

namespace Address

/-! ## Parts -/

/-- The greatest length of an address. -/
def lengthLimit : Nat := 65536

/-- Whether a character is one of the printable characters of ASCII, but none of some that have to
be written as bytes. -/
def isSafeBut (excluded : String) (c : Char) : Bool :=
  0x20 ≤ c.toNat && c.toNat ≤ 0x7E && !excluded.toList.contains c

/-- The characters of a path that have to be written as bytes. -/
def pathEscaped : String := " \"#<>?`\x7b\x7d"

/-- The characters of a user that have to be written as bytes. -/
def userEscaped : String := pathEscaped ++ "/;=@[\\]^|"

/-- The ports that schemes imply. -/
def impliedPorts : List (String × Int) :=
  [("ftp", 21), ("http", 80), ("https", 443), ("ws", 80), ("wss", 443)]

/-- The port that an address states, if it is not the one that the scheme implies. -/
def statedPort (scheme port : List Char) : Except Failure (Option Int) :=
  if port.isEmpty then .ok none
  else match Numeral.looseInteger? port with
    | some n =>
      .ok (if impliedPorts.lookup (String.ofList scheme) == some n then none else some n)
    | none => .error .badAddress

/-- A path without its steps in place and up. A step up takes back the step in front of it, but
never the start. -/
def withoutDots (path : List Char) : List Char :=
  let step (out : List (List Char)) (part : List Char) : List (List Char) :=
    if part == ['.'] then out
    else if part == ['.', '.'] then (if out == [[]] then out else out.dropLast)
    else out ++ [part]
  List.intercalate ['/'] ((Text.splitOn (· == '/') path).foldl step [])

/-- User, host and port of an authority: the user stands in front of the last at sign, and a host in
brackets may hold colons. -/
def authorityParts (authority : List Char) : List Char × List Char × List Char :=
  let behindUser := (authority.reverse.takeWhile (· != '@')).reverse
  let user := authority.take (authority.length - behindUser.length - 1)
  let bracketed := (behindUser.reverse.dropWhile (· != ']')).reverse
  let host := if behindUser.head? == some '[' && !bracketed.isEmpty then bracketed
    else behindUser.takeWhile (· != ':')
  let rest := behindUser.drop host.length
  (user, host, if rest.head? == some ':' then rest.drop 1 else rest)

/-- An address from its parts. With an authority a path starts with a slash if it has anything, and
without scheme and authority it starts neither with two slashes nor with a colon. -/
def ofParts (scheme authority path : List Char) (query fragment : Option (List Char)) :
    Except Failure Address := do
  let (user, host, port) := authorityParts authority
  let user := Host.escaped (isSafeBut userEscaped) user
  let host ← if host.isEmpty then pure [] else Host.ofText host
  let port ← statedPort scheme port
  let hasAuthority := !user.isEmpty || !host.isEmpty || port.isSome
  if hasAuthority && !path.isEmpty && path.head? != some '/' then throw .badAddress
  if scheme.isEmpty && !hasAuthority && (['/', '/'].isPrefixOf path || path.head? == some ':') then
    throw .badAddress
  let path := if scheme.isEmpty && !hasAuthority then path else withoutDots path
  return {
    scheme := scheme.map Char.toLower
    user, host, port
    path := Host.escaped (isSafeBut pathEscaped) path
    query := query.map (Host.escaped (isSafeBut " \"#<>"))
    fragment := fragment.map (Host.escaped (isSafeBut " \"<>`")) }

/-! ## Reading and writing -/

/-- The scheme in front of an address and what follows its colon; without one nothing stands in
front. A scheme may be empty. -/
def splitScheme (cs : List Char) : List Char × List Char :=
  let name := cs.takeWhile fun c => c.isAlphanum || c == '+' || c == '.' || c == '-'
  let isName := (name.head?.map Char.isAlpha).getD true
  match isName, cs.drop name.length with
  | true, ':' :: rest => (name, rest)
  | _, _ => ([], cs)

/-- The authority in front of an address, behind two slashes, and what follows it. -/
def splitAuthority : List Char → List Char × List Char
  | '/' :: '/' :: rest =>
    let ends := fun c => c == '/' || c == '?' || c == '#'
    (rest.takeWhile (!ends ·), rest.dropWhile (!ends ·))
  | cs => ([], cs)

/-- The part behind a mark, if the mark is there, and what stands in front of it. -/
def splitBehind (mark : Char) (cs : List Char) : List Char × Option (List Char) :=
  (cs.takeWhile (· != mark), ((cs.dropWhile (· != mark)).head?).map fun _ =>
    (cs.dropWhile (· != mark)).drop 1)

/-- Reads an address. It must not be too long, nor hold control characters of ASCII. -/
def parse (s : String) : Except Failure Address :=
  let cs := s.toList
  if lengthLimit < cs.length || cs.any (fun c => c.toNat < 32 || c.toNat == 127) then
    .error .badAddress
  else
    let (scheme, rest) := splitScheme cs
    let (authority, rest) := splitAuthority rest
    let (rest, fragment) := splitBehind '#' rest
    let (path, query) := splitBehind '?' rest
    ofParts scheme authority path query fragment

/-- User, host and port as they are written. -/
def authority (a : Address) : List Char :=
  (if a.user.isEmpty then [] else a.user ++ ['@'])
    ++ (if a.host.contains ':' then '[' :: a.host ++ [']'] else a.host)
    ++ (match a.port with
      | some n => ':' :: (toString n).toList
      | none => [])

/-- An address as it is written. -/
def text (a : Address) : String :=
  let before (mark : Char) : Option (List Char) → List Char
    | some part => mark :: part
    | none => []
  String.ofList ((if a.scheme.isEmpty then [] else a.scheme ++ [':'])
    ++ (if a.authority.isEmpty then [] else '/' :: '/' :: a.authority)
    ++ a.path ++ before '?' a.query ++ before '#' a.fragment)

/-- Puts a slash behind the path, if the path has anything and does not end with one. -/
def withSlash (a : Address) : Except Failure Address :=
  if a.path.isEmpty || a.path.getLast? == some '/' then .ok a
  else ofParts a.scheme a.authority (a.path ++ ['/']) a.query a.fragment

/-- The base address that a text gives. -/
def base (s : String) : Except Failure String := do return (← (← parse s).withSlash).text

end Address

end PromptContract
