/-
  Identifiers of prompts and recordings.

  A URI is kept as its text in normal form.  The text is trimmed; line breaks and tabs in it do not
  count.  The scheme is in lower case, points in a path are followed, and what a place does not allow is
  percent-encoded.  Schemes differ in what comes behind the colon:

    file       any number of slashes, a host or none (`localhost` means none), a path from the root; the
               path begins with one slash, however many were written
    the web    any number of slashes, a host without regard to case, a port unless it is the usual one,
               a path from the root
    others     two slashes, a host and perhaps a path; or only a path; or any text

  In the first two a backslash counts as a slash.  A `file` URI without a host names a path: query and
  fragment are cut off and every segment is percent-decoded; any byte may result, a slash included.
-/
import CallMedia.Files
import CallMedia.Text.Percent

namespace CallMedia

/-- A uniform resource identifier in its normal form. -/
structure Uri where
  text : String
deriving DecidableEq, Repr, Inhabited

namespace Uri

/-! ## Paths -/

/-- The number of points in a segment of nothing else, written as such or as `%2e`. -/
def points? : List Char → Option Nat
  | [] => some 0
  | '.' :: rest => (points? rest).map (· + 1)
  | '%' :: '2' :: e :: rest => if e = 'e' ∨ e = 'E' then (points? rest).map (· + 1) else none
  | _ => none

/-- The segments that remain when one point stays and two points go up, behind those kept so far, the
    latest first.  A path that ends in points ends in a slash. -/
def settle (kept : List (List Char)) : List (List Char) → List (List Char)
  | [] => kept.reverse
  | segment :: rest =>
    match points? segment with
    | some 1 => settle (if rest = [] then [] :: kept else kept) rest
    | some 2 => settle (if rest = [] then [] :: kept.tail else kept.tail) rest
    | _ => settle (segment :: kept) rest

/-- A path from the root in normal form. -/
def normalPath (path : List Char) : List Char :=
  let segments := (if path.head? = some '/' then path.tail else path).splitOn '/'
  (settle [] segments).flatMap fun s => '/' :: Text.percentEncode " \"<>`\x7b\x7d".toList s

/-- Whether a text is a drive: a letter with a colon or a bar. -/
def isDrive : List Char → Bool
  | [letter, mark] => letter.isAlpha && (mark = ':' || mark = '|')
  | _ => false

/-- The path of a file in normal form: it begins with one slash, and a drive in front is written with a
    colon and never left by going up. -/
def normalFilePath (path : List Char) : List Char :=
  let (first, rest) := (if path.head? = some '/' then path.tail else path).span (· ≠ '/')
  if isDrive first then '/' :: first.take 1 ++ ':' :: if rest = [] then [] else normalPath rest
  else '/' :: (normalPath path).dropWhile (· = '/')

/-! ## Hosts -/

/-- A host with what stands around it: a user in front, which is kept, and a port behind, which is left
    out where it is the usual one. -/
def normalHost (usualPort : Nat) (authority : List Char) : List Char :=
  let (shown, userEnd) := authority.reverse.span (· ≠ '@')
  let (digits, hostEnd) := shown.span Char.isDigit
  let port := digits.reverse.foldl (fun n d => n * 10 + (d.toNat - '0'.toNat)) 0
  userEnd.reverse ++
    match hostEnd with
    | ':' :: host =>
      host.reverse.map Char.toLower ++
        if digits = [] ∨ port = usualPort then [] else ':' :: (toString port).toList
    | _ => shown.reverse.map Char.toLower

/-! ## Schemes -/

/-- How the part behind a scheme is read. -/
inductive Reading where
  /-- It names a file. -/
  | file
  /-- It names a place on the web, where this port needs no mention. -/
  | web (usualPort : Nat)
  /-- It may name anything. -/
  | other
deriving DecidableEq, Repr

/-- How the part behind a scheme in lower case is read. -/
def Reading.ofScheme (scheme : String) : Reading :=
  match scheme with
  | "file" => .file
  | "http" | "ws" => .web 80
  | "https" | "wss" => .web 443
  | "ftp" => .web 21
  | _ => .other

/-- A text with slashes for backslashes. -/
def slashed (text : List Char) : List Char := text.map fun c => if c = '\\' then '/' else c

/-- The host and path of a `file` URI in normal form. -/
def normalFile (body : List Char) : List Char :=
  '/' :: '/' ::
    match body with
    | '/' :: '/' :: rest =>
      let (host, path) := rest.span (· ≠ '/')
      if isDrive host then normalFilePath rest
      else
        let host := host.map Char.toLower
        (if host = "localhost".toList then [] else host) ++ normalFilePath path
    | path => normalFilePath path

/-- The host and path of a web URI in normal form. -/
def normalWeb (usualPort : Nat) (body : List Char) : List Char :=
  let (host, path) := (body.dropWhile (· = '/')).span (· ≠ '/')
  '/' :: '/' :: normalHost usualPort host ++ normalPath path

/-- What stands behind any other scheme in normal form. -/
def normalOther : List Char → List Char
  | '/' :: '/' :: rest =>
    let (host, path) := rest.span (· ≠ '/')
    '/' :: '/' :: host ++ if path = [] then [] else normalPath path
  | '/' :: path => normalPath path
  | text => Text.percentEncode [] text

/-- The part between scheme and query in normal form. -/
def Reading.normalBody : Reading → List Char → List Char
  | .file, body => normalFile (slashed body)
  | .web usualPort, body => normalWeb usualPort (slashed body)
  | .other, body => normalOther body

/-- Query and fragment in normal form, each with its mark. -/
def Reading.normalTail (r : Reading) (tail : List Char) : List Char :=
  let (query, fragment) := tail.span (· ≠ '#')
  let reserved := if r = .other then " \"<>" else " \"<>'"
  Text.percentEncode reserved.toList query ++ Text.percentEncode " \"<>`".toList fragment

/-! ## Texts -/

/-- A text without controls and blanks around it, and without tabs and line breaks. -/
def trimmed (text : List Char) : List Char :=
  let edge (c : Char) : Bool := c.toNat ≤ 0x20
  ((text.dropWhile edge).reverse.dropWhile edge).reverse.filter (· ∉ ['\t', '\n', '\r'])

/-- The URI of a text; a text without a scheme stays as it is. -/
def ofText (text : String) : Uri :=
  let (scheme, rest) := (trimmed text.toList).span (· ≠ ':')
  match scheme, rest with
  | first :: others, ':' :: rest =>
    if first.isAlpha && others.all (fun c => c.isAlphanum || c ∈ ['+', '-', '.']) then
      let scheme := String.ofList (scheme.map Char.toLower)
      let reading := Reading.ofScheme scheme
      let (body, tail) := rest.span (fun c => c ≠ '?' && c ≠ '#')
      ⟨scheme ++ ":" ++ String.ofList (reading.normalBody body ++ reading.normalTail tail)⟩
    else ⟨text⟩
  | _, _ => ⟨text⟩

/-! ## Files -/

/-- The rest of a text behind the given beginning. -/
def after? : (beginning text : List Char) → Option (List Char)
  | [], text => some text
  | _ :: _, [] => none
  | b :: beginning, c :: text => if b = c then after? beginning text else none

/-- Whether a byte is an ASCII letter. -/
def isLetter (b : UInt8) : Bool := (0x41 ≤ b && b ≤ 0x5a) || (0x61 ≤ b && b ≤ 0x7a)

/-- A path that ends in a drive letter and a colon or bar gets a slash. -/
def closeDrive (p : Path) : Path :=
  match p.reverse with
  | mark :: letter :: _ :: _ =>
    if (mark = 0x3a ∨ mark = 0x7c) ∧ isLetter letter then p ++ [0x2f] else p
  | _ => p

/-- The scheme of a URI: what stands before its first colon. -/
def scheme (u : Uri) : String :=
  let (scheme, rest) := u.text.toList.span (· ≠ ':')
  if rest = [] then "" else String.ofList scheme

/-- The path that a `file` URI names: none if it has a host. -/
def filePath? (u : Uri) : Option Path :=
  match after? "file://".toList u.text.toList with
  | some ('/' :: rest) =>
    let path := ('/' :: rest).takeWhile (fun c => c ≠ '?' && c ≠ '#')
    some (closeDrive (Text.percentDecode (Text.toUtf8 (String.ofList path))))
  | _ => none

end Uri

end CallMedia
