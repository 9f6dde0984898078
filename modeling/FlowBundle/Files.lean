import FlowBundle.Table
import FlowBundle.Text.Quoted
import FlowBundle.Text.Split
import FlowBundle.Text.Utf8
/-!
# Files

A path is a way through directories, starting at the working directory or at the root.  The way is
walked component by component: each step needs a directory to start from, and two dots lead back.

A place is where a way has led to, without detours.  What is known of the file system is the content
of some files; the directories are those above them, those that are named, the root, the working
directory, and whatever is above that.
-/
namespace FlowBundle
namespace Files

/-- The components of a way without detours; only its first components may be two dots, and the
first one may be the root's slash. -/
abbrev Place := List String

structure Path where
  root : String
  parts : List String
  deriving DecidableEq, Repr

inductive Problem where
  | missing
  | notDirectory
  | directory
  | nameTooLong
  | nullCharacter
  deriving DecidableEq, Repr

structure Fault where
  problem : Problem
  path : String
  deriving DecidableEq, Repr

def Problem.text : Problem → String
  | .missing => "[Errno 2] No such file or directory"
  | .notDirectory => "[Errno 20] Not a directory"
  | .directory => "[Errno 21] Is a directory"
  | .nameTooLong => "[Errno 36] File name too long"
  | .nullCharacter => "embedded null byte"

def Fault.message (f : Fault) : String :=
  match f.problem with
  | .nullCharacter => f.problem.text
  | problem => problem.text ++ ": " ++ Text.quoted f.path

namespace Path

/-- A way begins at the root if it begins with a slash; exactly two slashes are kept. -/
def rootOf (cs : List Char) : String :=
  match (cs.takeWhile (· == '/')).length with
  | 0 => ""
  | 2 => "//"
  | _ => "/"

/-- **The path that a text stands for**: empty components and single dots do not count. -/
def ofText (s : String) : Path :=
  ⟨rootOf s.toList, ((Text.split '/' s.toList).map String.ofList).filter fun part => part != "" && part != "."⟩

def text (p : Path) : String :=
  if p.root = "" ∧ p.parts = [] then "." else p.root ++ String.intercalate "/" p.parts

def start (p : Path) : Place := if p.root = "" then [] else ["/"]

end Path

/-- The longest component, in bytes. -/
def maxComponent : Nat := 255

/-- A path must be shorter than this, in bytes. -/
def maxPath : Nat := 4096

end Files

structure FileSystem where
  contents : List (Files.Place × Bytes) := []
  directories : List Files.Place := []
  deriving DecidableEq

namespace FileSystem

open Files (Place Path Problem Fault)

inductive Look where
  | file (content : Bytes)
  | directory
  | nothing
  deriving DecidableEq

/-- A place whose components all lead back is above the working directory, or is it. -/
def isOutside (place : Place) : Bool := place.all (· == "..") || place == ["/"]

def isDirectory (fs : FileSystem) (place : Place) : Bool :=
  isOutside place || fs.directories.contains place ||
    fs.contents.any fun f => place.isPrefixOf f.1 && place != f.1

def look (fs : FileSystem) (place : Place) : Look :=
  match List.lookup place fs.contents with
  | some content => .file content
  | none => if fs.isDirectory place then .directory else .nothing

def step (place : Place) (part : String) : Place :=
  if part = ".." then
    if place = ["/"] then place else if isOutside place then place ++ [".."] else place.dropLast
  else place ++ [part]

/-- **The place that a way leads to.** -/
def walk (fs : FileSystem) (place : Place) : List String → Except Problem Place
  | [] => .ok place
  | part :: parts =>
    match fs.look place with
    | .file _ => .error .notDirectory
    | .nothing => .error .missing
    | .directory =>
      if Files.maxComponent < (Utf8.encode part).length then .error .nameTooLong
      else walk fs (step place part) parts

def find (fs : FileSystem) (p : Path) : Except Problem Place :=
  if p.text.toList.contains '\x00' then .error .nullCharacter
  else if Files.maxPath ≤ (Utf8.encode p.text).length then .error .nameTooLong
  else fs.walk p.start p.parts

/-- **The content of a file.** -/
def read (fs : FileSystem) (p : Path) : Except Fault Bytes :=
  match fs.find p with
  | .error problem => .error ⟨problem, p.text⟩
  | .ok place =>
    match fs.look place with
    | .file content => .ok content
    | .directory => .error ⟨.directory, p.text⟩
    | .nothing => .error ⟨.missing, p.text⟩

/-- **The file of a path gets a content**; it is made if it is not there. -/
def write (fs : FileSystem) (p : Path) (content : Bytes) : Except Fault FileSystem :=
  match fs.find p with
  | .error problem => .error ⟨problem, p.text⟩
  | .ok place =>
    match fs.look place with
    | .directory => .error ⟨.directory, p.text⟩
    | _ => .ok { fs with contents := Table.put place content fs.contents }

def ofFiles (files : List (String × Bytes)) : FileSystem :=
  { contents := files.map fun f => ((Path.ofText f.1).parts, f.2) }

end FileSystem
end FlowBundle
