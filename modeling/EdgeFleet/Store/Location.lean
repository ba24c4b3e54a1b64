import EdgeFleet.Attempt
import EdgeFleet.Store.Error
import EdgeFleet.Text.Authority
import EdgeFleet.Text.Percent
/-!
# Where a database is

The URL of a database names it and may bring parameters. A database in memory and one without a name
start empty, as does a file, which is made only if the parameters ask for that and the directory is
there. Databases on servers are out of reach.
-/

namespace EdgeFleet

/-- What the URL of a database in a file or in memory says. -/
structure Location where
  name : List Char
  inMemory : Bool
  makes : Bool
  readOnly : Bool
  immutable : Bool
  fileSystem : Option String
deriving DecidableEq, Repr

namespace Location

/-- What servers' URLs start with. -/
def serverSchemes : List String := ["postgres:", "postgresql:"]

/-- What the URLs of databases in files and in memory start with. -/
def fileScheme : String := "sqlite:"

/-- What the URLs of all supported databases start with. -/
def schemes : List String := serverSchemes.map (· ++ "//") ++ [fileScheme]

/-- Whether a text starts with another. -/
def startsWith (start : String) (s : List Char) : Bool := start.toList.isPrefixOf s

/-- Takes a text off the front as often as it stands there. -/
def withoutAll (start : List Char) (s : List Char) : List Char :=
  if start ≠ [] ∧ start.isPrefixOf s then withoutAll start (s.drop start.length) else s
termination_by s.length
decreasing_by
  rename_i h
  have hs : start.length ≤ s.length := (List.isPrefixOf_iff_prefix.1 h.2).length_le
  have h0 : 0 < start.length := List.length_pos_iff.2 h.1
  simp only [List.length_drop]
  omega

/-- The name of a database in memory. -/
def memoryName : List Char := ":memory:".toList

/-- The file systems that there are. -/
def fileSystems : List String := ["unix", "unix-none", "unix-dotfile", "unix-excl", "memdb"]

/-- Whether the part of a URL behind the scheme has no authority, or one that can be read. Blanks
and controls at its end, and tabs and line breaks anywhere, do not count. -/
def hasAuthority (s : List Char) : Bool :=
  let s := (s.reverse.dropWhile (fun c => c.toNat ≤ 32)).reverse
  match s.filter (fun c => c ≠ '\t' && c ≠ '\n' && c ≠ '\r') with
  | '/' :: '/' :: r => Authority.startsWithAuthority r
  | _ => true

/-- Takes a parameter into account. -/
def withParameter (l : Location) : String × String → Except LocationFault Location
  | ("mode", "ro") => .ok { l with readOnly := true }
  | ("mode", "rw") => .ok l
  | ("mode", "rwc") => .ok { l with makes := true }
  | ("mode", "memory") => .ok { l with inMemory := true }
  | ("cache", "private") | ("cache", "shared") => .ok l
  | ("immutable", "true") | ("immutable", "1") => .ok { l with immutable := true }
  | ("immutable", "false") | ("immutable", "0") => .ok { l with immutable := false }
  | ("vfs", value) => .ok { l with fileSystem := some value }
  | (name, value) =>
    if ["mode", "cache", "immutable"].contains name then .error (.unknownValue name value)
    else .error (.unknownParameter name)

/-- Reads the part of a URL behind its scheme. Percent signs are decoded in the name, but not to
tell the name of a database in memory. -/
def read (s : List Char) : Except LocationFault Location := do
  let given := s.takeWhile (· ≠ '?')
  let name ← (Utf8.decode (Percent.decode (Utf8.encode given))).mapError .notUtf8
  let l : Location :=
    { name, inMemory := given = memoryName, makes := false, readOnly := false, immutable := false,
      fileSystem := none }
  (Percent.fields (s.dropWhile (· ≠ '?')).tail).foldlM withParameter l

/-- Whether there is a directory that the segments before the last slash lead to: the current one, a
parent of it, the root, or the one for temporary files. -/
def isDirectory (segments : List (List Char)) : Bool :=
  match segments with
  | [] :: r =>
    match r.filter (fun s => s ≠ [] && s ≠ ['.'] && s ≠ ['.', '.']) with
    | [] => true
    | [s] => s = "tmp".toList
    | _ => false
  | r => r.all (fun s => s = [] || s = ['.'] || s = ['.', '.'])

/-- Whether a file can be made under a name. -/
def canMake (name : List Char) : Bool :=
  let segments := Text.splitAll '/' name
  let last := segments.getLast?.getD []
  last ≠ [] && last ≠ ['.'] && last ≠ ['.', '.'] && !name.contains '\x00' &&
    isDirectory segments.dropLast

/-- How a database can be used. -/
inductive Use where
  | readWrite
  | readOnly
deriving DecidableEq, Repr

/-- Whether the database is kept in no file that has a name. -/
def isNameless (l : Location) : Bool :=
  l.inMemory || l.name = memoryName || l.name = [] || l.fileSystem = some "memdb"

/-- Opens the database, which is empty then. -/
def opened (l : Location) : Except DatabaseFault Use :=
  if !(l.fileSystem.all fileSystems.contains) then .error (.noFileSystem (l.fileSystem.getD ""))
  else if l.isNameless then .ok (if l.readOnly then .readOnly else .readWrite)
  else
    let file := if startsWith "file:" l.name then l.name.drop 5 else l.name
    if l.makes && !l.readOnly && canMake file then
      .ok (if l.immutable then .readOnly else .readWrite)
    else .error .cannotOpen

/-- Connects to the database that a URL leads to. A URL whose authority cannot be read cuts the
attempt off. -/
def connect (url : String) : Outcome DatabaseFault Use :=
  let s := url.toList
  if !(schemes.any (startsWith · s)) then .refused (.unsupportedUrl url)
  else if !hasAuthority (s.dropWhile (· ≠ ':')).tail then .crashed
  else if !(startsWith fileScheme s) then .refused .noServer
  else
    let path := withoutAll fileScheme.toList (withoutAll (fileScheme ++ "//").toList s)
    match read path with
    | .error fault => .refused (.badUrl fault)
    | .ok l =>
      match l.opened with
      | .error fault => .refused fault
      | .ok use => .done use

end Location

end EdgeFleet
