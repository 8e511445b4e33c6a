import Gleaner.Fault

/-!
# Files

Texts under paths. A path stands in normal form, so that a file has one name; a path below the
home folder may be written with a tilde. Line ends are the same in every text that is read.
-/

set_option autoImplicit false

namespace Gleaner

/-- Texts under paths that stand in normal form. -/
abbrev Files := Entries String

/-- A path without empty steps and steps to the same place. -/
def normalPath (path : String) : String :=
  let steps := (path.splitOn "/").filter fun step => step ≠ "" && step ≠ "."
  let root := if !path.startsWith "/" then ""
    else if path.startsWith "//" && !path.startsWith "///" then "//" else "/"
  let whole := root ++ "/".intercalate steps
  if whole = "" then "." else whole

def expandHome (home path : String) : String :=
  if path = "~" then home
  else if path.startsWith "~/" then home ++ (path.drop 1).toString
  else path

def joinLineEnds : List Char → List Char
  | [] => []
  | '\r' :: '\n' :: rest => '\n' :: joinLineEnds rest
  | c :: rest => (if c = '\r' then '\n' else c) :: joinLineEnds rest

namespace Files

def text? (path : String) (files : Files) : Option String :=
  (Entries.find? (normalPath path) files).map fun text =>
    String.ofList (joinLineEnds text.toList)

def folder (path : String) : String :=
  "/".intercalate (((normalPath path).splitOn "/").dropLast)

/-- Whether there is a folder: the present one, or one with something in it. -/
def hasFolder (folder : String) (files : Files) : Bool :=
  folder = "" || files.any fun file => file.1.startsWith (folder ++ "/")

/-- The files with a text at a path, whose folder is made if need be. -/
def save (path text : String) (files : Files) : Files :=
  Entries.put (normalPath path) text files

/-- The files with a text at a path, whose folder must be there. -/
def write (path text : String) (files : Files) : Except Fault Files :=
  if files.hasFolder (folder path) then .ok (files.save path text)
  else
    .error (.foreign "FileNotFoundError"
      ("[Errno 2] No such file or directory: " ++ Text.quoted (normalPath path)))

end Files

end Gleaner
