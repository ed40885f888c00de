import MyBuild.Library.Pieces

/-!
# Resolving an address

How a browser reads an address against the page it is on: characters that do not count are
taken out, a scheme or a pair of slashes leads elsewhere, and anything else stays with the
host of the page.  A backslash counts as a slash.  Reading a host is left to an argument;
escapes within a path, a query or a fragment are not told from what they stand for.
-/

namespace Url

structure Address (Host : Type) where
  scheme : List Char
  username : List Char
  password : List Char
  host : Host
  port : Option ℕ
  path : List (List Char)
  query : Option (List Char)
  fragment : Option (List Char)

/-- An address of a scheme with a host, or one of another scheme with all that follows it. -/
inductive Resolved (Host : Type) where
  | hosted (address : Address Host)
  | other (scheme rest : List Char)

structure Origin (Host : Type) where
  scheme : List Char
  host : Host
  port : Option ℕ

/-- The schemes with a host, and their ports. -/
def hostedSchemes : List (List Char × ℕ) :=
  [("http".toList, 80), ("https".toList, 443), ("ws".toList, 80), ("wss".toList, 443),
    ("ftp".toList, 21)]

def isControlOrSpace (char : Char) : Bool := char.toNat ≤ 0x20

def isTabOrNewline (char : Char) : Bool := char == '\t' || char == '\n' || char == '\r'

/-- What counts of an address. -/
def preprocess (input : List Char) : List Char :=
  (Pieces.trim isControlOrSpace input).filter (!isTabOrNewline ·)

def isSlash (char : Char) : Bool := char == '/' || char == '\\'

def isSchemeChar (char : Char) : Bool :=
  char.isAlphanum || char == '+' || char == '-' || char == '.'

/-- The scheme in lower case and what follows its colon. -/
def readScheme : List Char → Option (List Char × List Char)
  | [] => none
  | first :: rest =>
      if first.isAlpha then
        match (first :: rest).dropWhile isSchemeChar with
        | ':' :: after => some (((first :: rest).takeWhile isSchemeChar).map Char.toLower, after)
        | _ => none
      else none

def isSingleDot (segment : List Char) : Bool :=
  [".".toList, "%2e".toList].contains (segment.map Char.toLower)

def isDoubleDot (segment : List Char) : Bool :=
  ["..".toList, ".%2e".toList, "%2e.".toList, "%2e%2e".toList].contains
    (segment.map Char.toLower)

/-- The segments of a path after those that are there; the last one is not followed by a slash. -/
def appendSegments (path : List (List Char)) : List (List Char) → List (List Char)
  | [] => path
  | [last] =>
      if isDoubleDot last then path.dropLast ++ [[]]
      else if isSingleDot last then path ++ [[]]
      else path ++ [last]
  | segment :: next :: rest =>
      let grown :=
        if isDoubleDot segment then path.dropLast
        else if isSingleDot segment then path
        else path ++ [segment]
      appendSegments grown (next :: rest)

/-- Query and fragment, from the first question mark or number sign on. -/
def readTail {Host : Type} (address : Address Host) : List Char → Address Host
  | '?' :: rest =>
      { address with
        query := some (rest.takeWhile (· != '#'))
        fragment := ((rest.dropWhile (· != '#')).tail?) }
  | '#' :: rest => { address with fragment := some rest }
  | _ => address

def isTailMark (char : Char) : Bool := char == '?' || char == '#'

def readPath {Host : Type} (address : Address Host) (text : List Char) : Address Host :=
  let segments := (text.takeWhile (!isTailMark ·)).splitOnP isSlash
  readTail { address with path := appendSegments address.path segments }
    (text.dropWhile (!isTailMark ·))

/-- The host and, after a colon outside brackets, the port. -/
def splitPort : Bool → List Char → List Char × Option (List Char)
  | _, [] => ([], none)
  | bracketed, char :: rest =>
      if char = ':' ∧ bracketed = false then ([], some rest)
      else
        let (host, port) := splitPort (char == '[' || (bracketed && char != ']')) rest
        (char :: host, port)

def readPort (scheme : List Char) : Option (List Char) → Option (Option ℕ)
  | none => some none
  | some digits =>
      let number := Nat.ofDigitChars 10 digits 0
      if digits.isEmpty then some none
      else if !digits.all Char.isDigit || 65535 < number then none
      else if hostedSchemes.lookup scheme = some number then some none
      else some (some number)

/-- What follows the slashes of an address with a host: who, where, and the rest. -/
def readAuthority {Host : Type} (parseHost : List Char → Option Host) (scheme text : List Char) :
    Option (Address Host) := do
  let authority := text.takeWhile fun char => !isSlash char && !isTailMark char
  let rest := text.dropWhile fun char => !isSlash char && !isTailMark char
  let (credentials, place) :=
    match Pieces.lastIndexOf '@' authority with
    | none => ([], authority)
    | some index => (authority.take index, authority.drop (index + 1))
  let (hostText, portText) := splitPort false place
  if hostText.isEmpty then none
  else
    let host ← parseHost hostText
    let port ← readPort scheme portText
    let start : Address Host :=
      { scheme
        username := credentials.takeWhile (· != ':')
        password := (credentials.dropWhile (· != ':')).drop 1
        host
        port
        path := []
        query := none
        fragment := none }
    match rest with
    | '/' :: after => readPath start after
    | '\\' :: after => readPath start after
    | _ => readPath start rest

/-- An address without a scheme, against that of a page. -/
def readRelative {Host : Type} (parseHost : List Char → Option Host) (base : Address Host) :
    List Char → Option (Address Host)
  | [] => some { base with fragment := none }
  | first :: rest =>
      if isSlash first then
        match rest with
        | second :: _ =>
            if isSlash second then readAuthority parseHost base.scheme (rest.dropWhile isSlash)
            else some (readPath { base with path := [], query := none, fragment := none } rest)
        | [] => some (readPath { base with path := [], query := none, fragment := none } [])
      else if first = '?' then
        some (readTail { base with query := none, fragment := none } (first :: rest))
      else if first = '#' then some (readTail base (first :: rest))
      else
        some (readPath { base with path := base.path.dropLast, query := none, fragment := none }
          (first :: rest))

/-- What an address comes to on a page; `none` where it cannot be read. -/
def resolve {Host : Type} (parseHost : List Char → Option Host) (base : Address Host)
    (input : List Char) : Option (Resolved Host) :=
  let text := preprocess input
  match readScheme text with
  | none => (readRelative parseHost base text).map .hosted
  | some (scheme, rest) =>
      if (hostedSchemes.lookup scheme).isNone then some (.other scheme rest)
      else
        match rest with
        | '/' :: '/' :: after =>
            (readAuthority parseHost scheme (after.dropWhile isSlash)).map .hosted
        | _ =>
            if scheme = base.scheme then (readRelative parseHost base rest).map .hosted
            else (readAuthority parseHost scheme (rest.dropWhile isSlash)).map .hosted

variable {Host : Type}

def Address.origin (address : Address Host) : Origin Host :=
  { scheme := address.scheme, host := address.host, port := address.port }

variable {parseHost : List Char → Option Host} {address base : Address Host}

theorem origin_readTail (text : List Char) : (readTail address text).origin = address.origin := by
  simp only [readTail]
  split <;> rfl

theorem origin_readPath (text : List Char) : (readPath address text).origin = address.origin := by
  simp only [readPath]
  rw [origin_readTail]
  rfl

/-- One slash and no second: the address stays with the host of the page. -/
theorem origin_readRelative_of_slash {rest : List Char}
    (single : ∀ second ∈ rest.head?, isSlash second = false) :
    ∃ resolved, readRelative parseHost base ('/' :: rest) = some resolved ∧
      resolved.origin = base.origin := by
  have isRooted : isSlash '/' = true := by decide
  simp only [readRelative, isRooted, if_true]
  cases rest with
  | nil => exact ⟨_, rfl, origin_readPath []⟩
  | cons second after =>
      have notSlash := single second rfl
      simp only [notSlash, Bool.false_eq_true, if_false]
      exact ⟨_, rfl, origin_readPath _⟩

/-- A path from the root, as it stands after preprocessing, does not leave the origin. -/
theorem origin_resolve_of_slash {input rest : List Char}
    (counted : preprocess input = '/' :: rest)
    (single : ∀ second ∈ rest.head?, isSlash second = false) :
    ∃ resolved, resolve parseHost base input = some (.hosted resolved) ∧
      resolved.origin = base.origin := by
  have noScheme : readScheme ('/' :: rest) = none := by
    have notAlpha : ('/' : Char).isAlpha = false := by decide
    simp [readScheme, notAlpha]
  rcases @origin_readRelative_of_slash _ parseHost base rest single with ⟨resolved, read, same⟩
  refine ⟨resolved, ?_, same⟩
  simp only [resolve, counted, noScheme, read, Option.map_some]

end Url
