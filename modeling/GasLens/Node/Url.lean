/-
  GasLens/Node/Url.lean
  =====================
  **Addresses of nodes** — whether a text is an absolute URL.

  Any scheme makes a text absolute. What follows two slashes is an authority: a user, a host and
  a port, which must be well-formed. The schemes of the web have an authority in every case and
  need a host; that of files has a host alone, which may be missing. Both of them have hosts that
  name machines, and a backslash of theirs is a slash. With other schemes a host may hold any
  characters but a few.
-/
import GasLens.Domain.Name
import GasLens.Node.Address
import GasLens.Text.Percent

namespace GasLens.Node

open GasLens.Text

/-! ### Schemes -/

def isSchemeChar (c : Char) : Bool :=
  c.isAlpha || isDecimalDigit c || c == '+' || c == '-' || c == '.'

/-- The scheme of a URL in lower case, and what follows its colon. -/
def splitScheme? : List Char → Option (List Char × List Char)
  | [] => none
  | c :: r =>
    if c.isAlpha then
      match r.dropWhile isSchemeChar with
      | ':' :: rest => some ((c :: r.takeWhile isSchemeChar).map Char.toLower, rest)
      | _ => none
    else none

/-- What the scheme of a URL says about its authority. -/
inductive SchemeKind where
  | web
  | file
  | other
  deriving DecidableEq, Repr

def webSchemes : List (List Char) := ["http", "https", "ws", "wss", "ftp"].map String.toList

def schemeKind (scheme : List Char) : SchemeKind :=
  if webSchemes.contains scheme then .web
  else if scheme = "file".toList then .file
  else .other

/-- Whether a character parts the names of a path; a backslash does where machines are named. -/
def isSlash (kind : SchemeKind) (c : Char) : Bool := c == '/' || (kind != .other && c == '\\')

def endsAuthority (kind : SchemeKind) (c : Char) : Bool := isSlash kind c || c == '?' || c == '#'

/-! ### Hosts -/

/-- The characters that no host has, controls apart. -/
def hostDelimiters : List Char := " #/:<>?@[\\]^|".toList

def isHostDelimiter (c : Char) : Bool := c == '\x00' || hostDelimiters.contains c

def isNameDelimiter (c : Char) : Bool :=
  hostDelimiters.contains c || c == '%' || decide (c.toNat < 0x20) || c.toNat = 0x7f

/-- Whether a text names a machine: by an address, or by labels. -/
def isMachine (cs : List Char) : Bool :=
  match (percentText? cs).bind (Domain.labels? isNameDelimiter) with
  | none => false
  | some labels =>
    let name := ['.'].intercalate labels
    !name.isEmpty && (!isNumericHost name || isNumericAddress name)

/-- Whether a text is a host: an address in brackets, a machine, or with other schemes any text
without the characters that stand around hosts. -/
def isHost (kind : SchemeKind) (cs : List Char) : Bool :=
  match cs with
  | '[' :: r => r.getLast? == some ']' && isGroupedAddress r.dropLast
  | cs => if kind = .other then !cs.any isHostDelimiter else isMachine cs

/-! ### Authorities -/

def maxPort : Nat := 65535

/-- Whether a text begins with a port, which may be empty; a path or the like may follow. -/
def beginsWithPort (cs : List Char) : Bool :=
  let digits := cs.takeWhile isDecimalDigit
  (digits.isEmpty || (readDigits 10 maxPort 0 digits).isOk) &&
    (cs.dropWhile isDecimalDigit).head?.all fun c => endsAuthority .web c

/-- The characters of a host at the front of a text: up to a colon outside brackets. -/
def takeHost (kind : SchemeKind) : Bool → List Char → List Char
  | _, [] => []
  | bracketed, c :: r =>
    if endsAuthority kind c || (c == ':' && !bracketed) then []
    else c :: takeHost kind (if c == '[' then true else if c == ']' then false else bracketed) r

/-- A text at the last user sign of its authority: the user, if there is one, and the rest. -/
def splitUser (kind : SchemeKind) (cs : List Char) : Option (List Char) × List Char :=
  let authority := cs.takeWhile fun c => !endsAuthority kind c
  match (split '@' authority).reverse with
  | [] | [_] => (none, cs)
  | last :: before =>
    (some (['@'].intercalate before.reverse), last ++ cs.drop authority.length)

/-- Whether a user is more than a name and a password that are both empty. -/
def isUser (user : List Char) : Bool := user != [] && user != [':']

/-- Whether a missing host can be left out: without a port and without a user. An empty user has
to be the end of the text. -/
def mayLackHost (user : Option (List Char)) (rest : List Char) : Bool :=
  rest.head? != some ':' &&
    match user with
    | none => true
    | some [] => rest.isEmpty
    | some user => !isUser user

def beginsWithAuthority (kind : SchemeKind) (cs : List Char) : Bool :=
  let (user, cs) := splitUser kind cs
  let host := takeHost kind false cs
  let rest := cs.drop host.length
  if host.isEmpty then kind != .web && mayLackHost user rest
  else isHost kind host &&
    match rest with
    | ':' :: port => beginsWithPort port
    | _ => true

/-! ### Files -/

/-- Whether a text is the letter of a drive, which is no host. -/
def isDrive : List Char → Bool
  | [c, mark] => c.isAlpha && (mark == ':' || mark == '|')
  | _ => false

/-- Whether a text has a host of files behind two slashes, if it has them. -/
def isFilePlace (cs : List Char) : Bool :=
  match cs with
  | a :: b :: r =>
    if isSlash .file a && isSlash .file b then
      let host := r.takeWhile fun c => !endsAuthority .file c
      host.isEmpty || isDrive host || isHost .file host
    else true
  | _ => true

/-! ### Absolute URLs -/

def isSkipped (c : Char) : Bool := c == '\t' || c == '\n' || c == '\r'

/-- A text less the controls and spaces at its ends, and less its line breaks and tabs. -/
def urlChars (s : String) : List Char :=
  let isEdge (c : Char) : Bool := decide (c.toNat ≤ 0x20)
  (((s.toList.dropWhile isEdge).reverse.dropWhile isEdge).reverse).filter fun c => !isSkipped c

def isAbsoluteUrl (s : String) : Bool :=
  match splitScheme? (urlChars s) with
  | none => false
  | some (scheme, rest) =>
    match schemeKind scheme with
    | .web => beginsWithAuthority .web (rest.dropWhile (isSlash .web))
    | .file => isFilePlace rest
    | .other =>
      match rest with
      | '/' :: '/' :: r => beginsWithAuthority .other r
      | _ => true

end GasLens.Node
