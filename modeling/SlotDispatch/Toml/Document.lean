import SlotDispatch.Table
import SlotDispatch.Toml.Scalar
/-!
TOML documents of assignments and table headers, one on a line. A document assigns scalars to paths
of keys, and no line may define what another line has defined.
-/

namespace SlotDispatch.Toml

/-! ### Lines -/

/-- A path names an entry by the keys of the tables around it and by its own key. -/
abbrev Path := List String

/-- A line is empty, or it opens a table, or it assigns a scalar to a key. -/
inductive Line where
  | empty
  | header (path : Path)
  | assignment (key : Path) (content : Scalar)

/-- These are the characters without the blanks in front of them. -/
def skipBlanks (characters : List Char) : List Char :=
  characters.dropWhile isBlank

/-- A bare key has letters, digits, underscores, and hyphens. -/
def isBare (character : Char) : Bool :=
  character.isAlphanum || character = '_' || character = '-'

/-- One key is bare or quoted. -/
def key? : List Char → Option (String × List Char)
  | '"' :: rest => do
      let (content, following) ← basicText? rest
      return (String.ofList content, following)
  | '\'' :: rest => do
      let (content, following) ← literalText? rest
      return (String.ofList content, following)
  | characters =>
      match characters.takeWhile isBare with
      | [] => none
      | bare => some (String.ofList bare, characters.dropWhile isBare)

/-- A path of more keys than this is nested too deep. -/
def pathBound : Nat := 80

/-- A path has at most so many keys, with points between them. -/
def pathWithin : Nat → List Char → Option (Path × List Char)
  | 0, _ => none
  | bound + 1, characters => do
      let (key, following) ← key? (skipBlanks characters)
      match skipBlanks following with
      | '.' :: rest => do
          let (path, following) ← pathWithin bound rest
          return (key :: path, following)
      | rest => return ([key], rest)

/-- This path is read from the start of some characters, together with what follows it. -/
def path? (characters : List Char) : Option (Path × List Char) :=
  pathWithin pathBound characters

/-- A line ends with blanks and an optional comment. -/
def endsLine (characters : List Char) : Bool :=
  match skipBlanks characters with
  | [] => true
  | mark :: comment => mark = '#' && comment.all isPrintable

/-- A header is a path between brackets. -/
def header? (characters : List Char) : Option Line := do
  let (path, following) ← path? characters
  match following with
  | ']' :: rest => if endsLine rest then some (.header path) else none
  | _ => none

/-- An assignment is a path, an equals sign, and a scalar. -/
def assignment? (characters : List Char) : Option Line := do
  let (key, following) ← path? characters
  match following with
  | '=' :: rest => do
      let (content, following) ← scalar? (skipBlanks rest)
      if endsLine following then some (.assignment key content) else none
  | _ => none

/-- The first character that is not blank tells the kind of a line. -/
def line? (characters : List Char) : Option Line :=
  match skipBlanks characters with
  | '[' :: rest => header? rest
  | rest => if endsLine rest then some .empty else assignment? rest

/-- Lines are separated by a line feed, with or without a carriage return in front of it. -/
def lines : List Char → List (List Char)
  | [] => [[]]
  | '\r' :: '\n' :: rest | '\n' :: rest => [] :: lines rest
  | character :: rest =>
      match lines rest with
      | first :: others => (character :: first) :: others
      | [] => [[character]]

/-! ### Documents -/

/-- A table is defined by a header or by a dotted key, or it is implied by a header of an inner
table. -/
inductive Origin where
  | header | dotted | implied
deriving DecidableEq

/-- An entry of a document is a scalar or a table. -/
inductive Entry where
  | scalar (content : Scalar)
  | table (origin : Origin)

/-- A document holds an entry for each path that is defined, and lines are read into the table that
is open. -/
structure Document where
  entries : Table Path Entry
  openTable : Path

namespace Document

/-- The empty document has no entries, and its outermost table is open. -/
def empty : Document := ⟨.empty, []⟩

/-- A path defines the tables around it that are not defined, and it passes through those that are,
unless the origin forbids it. -/
def descend (origin : Origin) (mayPass : Origin → Bool) (document : Document) :
    List Path → Option Document
  | [] => some document
  | path :: paths =>
      match document.entries.get? path with
      | none =>
          let entries := document.entries.insert path (.table origin)
          { document with entries := entries }.descend origin mayPass paths
      | some (.table passed) =>
          if mayPass passed then document.descend origin mayPass paths else none
      | some (.scalar _) => none

/-- These are the paths of the tables around a path inside an open table. -/
def outerPaths (openTable path : Path) : List Path :=
  (List.range (path.length - 1)).map fun count => openTable ++ path.take (count + 1)

/-- A header defines a table that was at most implied. -/
def readHeader (document : Document) (path : Path) : Option Document := do
  let outer ← document.descend .implied (fun _ => true) (outerPaths [] path)
  let opened : Document := ⟨outer.entries.insert path (.table .header), path⟩
  match outer.entries.get? path with
  | none | some (.table .implied) => some opened
  | some _ => none

/-- The innermost table around a dotted key has to be a table that dotted keys define. -/
def endsDotted (document : Document) (outer : List Path) : Bool :=
  match outer.getLast? with
  | none => true
  | some path =>
      match document.entries.get? path with
      | some (.table .dotted) => true
      | _ => false

/-- An assignment defines a path that was not defined, and a dotted key does not pass through a
table that a header has defined. -/
def readAssignment (document : Document) (key : Path) (content : Scalar) : Option Document := do
  let outer := outerPaths document.openTable key
  let reached ← document.descend .dotted (fun origin => origin ≠ .header) outer
  let path := document.openTable ++ key
  if !reached.endsDotted outer || reached.entries.contains path then none
  else some { reached with entries := reached.entries.insert path (.scalar content) }

/-- A line changes the document that was read before it. -/
def readLine (document : Document) (characters : List Char) : Option Document := do
  match ← line? characters with
  | .empty => return document
  | .header path => document.readHeader path
  | .assignment key content => document.readAssignment key content

/-- A byte order mark in front of a document does not count. -/
def withoutMark : List Char → List Char
  | '\uFEFF' :: rest => rest
  | characters => characters

/-- A text is a document when each of its lines can be read. -/
def ofText? (text : String) : Option Document :=
  (lines (withoutMark text.toList)).foldlM readLine empty

end Document

end SlotDispatch.Toml
