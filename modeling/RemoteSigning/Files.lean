import RemoteSigning.Fault
import RemoteSigning.Text.Utf8

/-!
# Files by name

The files that a run can see, and what reading one ends with. A name is put into its normal form first: without empty
parts and without parts that stay in place. Its parts are then followed one by one, each from a directory.

- `normalName` is that form;
- `FileTree.step` follows one part;
- `FileTree.read` reads a file.
-/

namespace RemoteSigning

/-- What a name may stand for. -/
inductive FileEntry where
  | file (content : Bytes)
  | directory
  deriving DecidableEq, Repr

/-- Files and directories by their names in normal form. -/
abbrev FileTree := List (Text × FileEntry)

/-- Why a file cannot be read. -/
inductive FileProblem where
  | notFound
  | notDirectory
  | isDirectory
  | nameTooLong
  /-- The name holds a zero. -/
  | zeroInName
  /-- The name has no form in bytes. -/
  | unencodable (fault : EncodeFault)
  deriving DecidableEq, Repr

/-- The parts of a name, without empty ones and those that stay in place. -/
def nameParts (name : Text) : List Text :=
  (name.splitOn '/').filter fun p => ! p.isEmpty && p != Text.ofString "."

/-- The name leads on from the working directory. -/
def isRelativeName (name : Text) : Bool := name.head? != some (CodePoint.ofChar '/')

/-- A name in normal form. -/
def normalName (name : Text) : Text :=
  let root : Text :=
    match name with
    | a :: rest =>
      if a = '/' then
        (match rest with
        | b :: c :: _ => if b = '/' && c != CodePoint.ofChar '/' then "//" else "/"
        | [b] => if b = '/' then "//" else "/"
        | [] => "/")
      else []
    | [] => []
  match root ++ List.intercalate (Text.ofString "/") (nameParts name) with
  | [] => "."
  | t => t

/-- A file that cannot be read, by its name in normal form. -/
structure FileFault where
  problem : FileProblem
  name : Text
  deriving DecidableEq, Repr

namespace FileFault

/-- The fault as a fault of whoever reads. -/
def toFault (e : FileFault) : Fault :=
  let numbered (kind : Text) (number : Nat) (what : String) : Fault :=
    .other kind (some ("[Errno " ++ Text.ofNat number ++ "] " ++ Text.ofString what ++ ": " ++ e.name.quoted))
  match e.problem with
  | .notFound => numbered "FileNotFoundError" 2 "No such file or directory"
  | .notDirectory => numbered "NotADirectoryError" 20 "Not a directory"
  | .isDirectory => numbered "IsADirectoryError" 21 "Is a directory"
  | .nameTooLong => numbered "OSError" 36 "File name too long"
  | .zeroInName => Fault.value "embedded null byte"
  | .unencodable fault => .unencodable fault

/-- The fault is one of the file system; a name that cannot be handed to it is not. -/
def isSystem (e : FileFault) : Bool :=
  match e.problem with
  | .zeroInName | .unencodable _ => false
  | _ => true

end FileFault

/-- The code point stands for a byte of a name that is no text. -/
def CodePoint.isStrayByte (c : CodePoint) : Bool := 0xDC80 ≤ c.val && c.val ≤ 0xDCFF

/-- Why a name has no form in bytes: its first row of surrogates, from the first that stands for no byte. -/
def nameFault? (name : Text) : Option EncodeFault :=
  let start := (name.takeWhile fun c => ! c.isSurrogate || c.isStrayByte).length
  match name.drop start with
  | [] => none
  | c :: rest =>
    some ⟨"utf-8", start, start + 1 + (rest.takeWhile CodePoint.isSurrogate).length, c, "surrogates not allowed"⟩

/-- How many bytes a name takes. -/
def nameSize (name : Text) : Nat :=
  name.foldl (fun n c => n + if c.isStrayByte then 1 else (Utf8.encodePoint c).length) 0

/-- Where the parts of a name have led to. -/
inductive Place where
  /-- The parts that lead there from the working directory. -/
  | within (parts : List Text)
  /-- A directory outside the working directory. -/
  | outside
  deriving DecidableEq, Repr

namespace FileTree

/-- The entry to which parts lead from the working directory. Whatever is above an entry is a directory. -/
def entry? (files : FileTree) (parts : List Text) : Option FileEntry :=
  match files.find? fun (n, _) => isRelativeName n && nameParts n == parts with
  | some (_, e) => some e
  | none =>
    if parts.isEmpty || files.any (fun (n, _) => isRelativeName n && parts.isPrefixOf (nameParts n)) then
      some .directory
    else none

/-- Follows one part of a name. Outside the working directory there is nothing but the directories above. -/
def step (files : FileTree) (p : Place) (part : Text) : Except FileProblem Place :=
  let up := part == Text.ofString ".."
  let long := decide (255 < nameSize part)
  match p with
  | .outside => if up then .ok .outside else .error (if long then .nameTooLong else .notFound)
  | .within parts =>
    match files.entry? parts with
    | none => .error .notFound
    | some (.file _) => .error .notDirectory
    | some .directory =>
      if up then .ok (if parts.isEmpty then .outside else .within parts.dropLast)
      else if long then .error .nameTooLong
      else .ok (.within (parts ++ [part]))

/-- The entry that a name in normal form stands for: one of that very name, or the one its parts lead to. -/
def find (files : FileTree) (normal : Text) : Except FileProblem FileEntry :=
  match files.find? fun (n, _) => normalName n == normal with
  | some (_, e) => .ok e
  | none =>
    match (nameParts normal).foldlM files.step (if isRelativeName normal then .within [] else .outside) with
    | .error p => .error p
    | .ok .outside => .ok .directory
    | .ok (.within parts) =>
      match files.entry? parts with
      | some e => .ok e
      | none => .error .notFound

def read (files : FileTree) (name : Text) : Except FileFault Bytes :=
  let normal := normalName name
  match nameFault? normal with
  | some e => .error ⟨.unencodable e, normal⟩
  | none =>
    if normal.any (·.val = 0) then .error ⟨.zeroInName, normal⟩
    else if 4096 ≤ nameSize normal then .error ⟨.nameTooLong, normal⟩
    else match files.find normal with
      | .ok (.file content) => .ok content
      | .ok .directory => .error ⟨.isDirectory, normal⟩
      | .error p => .error ⟨p, normal⟩

/-- Puts a file or a directory in the place of its name. -/
def write (files : FileTree) (name : Text) (e : FileEntry) : FileTree :=
  files.filter (fun (n, _) => normalName n ≠ normalName name) ++ [(name, e)]

/-- Takes a file or a directory away. -/
def remove (files : FileTree) (name : Text) : FileTree :=
  files.filter fun (n, _) => normalName n ≠ normalName name

end FileTree

example : normalName "a//./b/" = Text.ofString "a/b" ∧ normalName "/x" = Text.ofString "/x" := by decide

end RemoteSigning
