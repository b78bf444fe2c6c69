import Scratchpad.Text.Quoted
import Scratchpad.Text.Search

/-!
# Files

The files of a directory and of the directories in it, found by paths. A path is
brought into a plain form first: parts that are empty or a lone dot do not count.
-/

namespace Scratchpad

/-- The files of a directory: their plain paths and their bytes. -/
abbrev Files := List (Text × List UInt8)

/-- A path in its plain form. -/
structure FilePath where
  /-- The slashes of an absolute path. -/
  root : Text
  parts : List Text
deriving DecidableEq, Repr

namespace FilePath

/-- The root of a path: two slashes are a root of their own, more of them are one. -/
def rootOf (t : Text) : Text :=
  match t.takeWhile (· == '/') with
  | [] => []
  | ['/', '/'] => ['/', '/']
  | _ => ['/']

/-- Reads a path. -/
def ofText (t : Text) : FilePath :=
  { root := rootOf t
    parts := (splitText ['/'] t.length t).filter fun p => !p.isEmpty && p != ['.'] }

/-- The plain form of a path. -/
def text (p : FilePath) : Text :=
  let t := p.root ++ unlines ['/'] p.parts
  if t.isEmpty then ['.'] else t

end FilePath

/-- Why a file is not read. -/
inductive FileCause where
  | missing
  | isDirectory
  | notDirectory
  | nameTooLong
  | nullCharacter
deriving DecidableEq, Repr

/-- A file that is not read, with its path. -/
structure FileError where
  cause : FileCause
  path : FilePath
deriving DecidableEq, Repr

/-- Wording of a refusal. -/
def FileError.message (e : FileError) : Text :=
  let withPath (what : String) : Text := what.toList ++ ": ".toList ++ quoted e.path.text
  match e.cause with
  | .missing => withPath "[Errno 2] No such file or directory"
  | .isDirectory => withPath "[Errno 21] Is a directory"
  | .notDirectory => withPath "[Errno 20] Not a directory"
  | .nameTooLong => withPath "[Errno 36] File name too long"
  | .nullCharacter => "embedded null byte".toList

/-- Number of bytes of a text. -/
def byteCount (t : Text) : Nat := t.foldl (fun n c => n + c.utf8Size) 0

/-- Bytes that a name may have. -/
def maxNameBytes : Nat := 255

/-- Bytes that a path may have. -/
def maxPathBytes : Nat := 4095

namespace Files

/-- The content of a file. -/
def content? (files : Files) (parts : List Text) : Option (List UInt8) :=
  files.lookup (unlines ['/'] parts)

/-- Whether files lie below a path. -/
def isDirectory (files : Files) (parts : List Text) : Bool :=
  parts.isEmpty || files.any fun f => (unlines ['/'] parts ++ ['/']).isPrefixOf f.1

/-- Follows a path from a directory on. Above the outermost directory nothing is known
but that it is a directory. -/
def follow (files : Files) (at_ : List Text) : List Text → Except FileCause (List UInt8)
  | [] => .error .isDirectory
  | p :: rest =>
    if p = ['.', '.'] then
      if at_.isEmpty then
        .error (if rest.all (· = ['.', '.']) then .isDirectory else .missing)
      else follow files at_.dropLast rest
    else if byteCount p > maxNameBytes then .error .nameTooLong
    else
      let next := at_ ++ [p]
      match files.content? next with
      | some bytes => if rest.isEmpty then .ok bytes else .error .notDirectory
      | none => if files.isDirectory next then follow files next rest else .error .missing

/-- Reads a file. One that is listed by the plain path is found at once. -/
def read (files : Files) (path : Text) : Except FileError (List UInt8) :=
  let p := FilePath.ofText path
  let found : Except FileCause (List UInt8) :=
    if path.contains '\x00' then .error .nullCharacter
    else if byteCount p.text > maxPathBytes then .error .nameTooLong
    else match files.lookup p.text with
      | some bytes => .ok bytes
      | none =>
        if p.root.isEmpty then files.follow [] p.parts
        else
          let below := (p.text ++ ['/']).isPrefixOf
          .error (if p.parts.isEmpty || files.any (below ·.1) then .isDirectory else .missing)
  found.mapError fun cause => ⟨cause, p⟩

end Files

end Scratchpad
