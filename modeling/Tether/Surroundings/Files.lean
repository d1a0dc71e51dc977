import Tether.Bytes.Basic
import Tether.Path
import Tether.Text.Quoted
import Tether.Text.Utf8

/-! # Files

The files below the working directory, what a path leads to, and how failures
to open one are reported.
-/

namespace Tether

inductive Node
  | file (content : Bytes)
  | directory
  | missing
  /-- A component that is no directory stands before others. -/
  | notDirectory
  /-- A directory that may not be searched stands before others. -/
  | barred
  | tooLong
  deriving DecidableEq, Repr

structure Files where
  known : List (Path × Bytes) := []
  /-- What else is known by its whole path. -/
  nodes : List (Path × Node) := []
  entries : List (List String × Option Bytes) := []
  denied : List Path := []
  /-- The home directories of the users that are known, the own one under the empty name. -/
  homes : List (String × String) := []
  /-- Where the library that reads keys wants odd ones to be reported. -/
  reports : String := ""
  deriving Repr

namespace Files

/-- The longest component and the longest path that the system takes, in bytes. -/
def componentLimit : Nat := 255
def pathLimit : Nat := 4095

/-- What stands at a place below the working directory. -/
def at? (fs : Files) (place : List String) : Node :=
  if place = [] then .directory
  else match fs.entries.lookup place with
    | some (some content) => .file content
    | some none => .directory
    | none =>
      if fs.entries.any fun e => place.isPrefixOf e.1 then .directory else .missing

/-- Follows components from a place below the working directory; above it nothing but
directories is known. -/
def follow (fs : Files) (above : Nat) (place : List String) : List String → Node
  | [] => if above = 0 then fs.at? place else .directory
  | c :: r =>
    if c = ".." then
      if above > 0 ∨ place = [] then fs.follow (above + 1) [] r
      else match fs.at? place with
        | .directory => fs.follow 0 place.dropLast r
        | .file _ => .notDirectory
        | n => n
    else if above > 0 then .missing
    else match fs.at? place with
      | .directory =>
        if (Utf8.encode c).length > componentLimit then .tooLong
        else fs.follow 0 (place ++ [c]) r
      | .file _ => .notDirectory
      | n => n

def node (fs : Files) (p : Path) : Node :=
  if let some content := fs.known.lookup p then .file content
  else if let some n := fs.nodes.lookup p then n
  else if (Utf8.encode p.toString).length > pathLimit then .tooLong
  else if p.isAbsolute then
    match p.parts.filter (· ≠ "..") with
    | [] => .directory
    | c :: _ => if (Utf8.encode c).length > componentLimit then .tooLong else .missing
  else fs.follow 0 [] p.parts

end Files

/-- Why a file cannot be opened. -/
inductive OpenFault
  | missing | denied | notDirectory | isDirectory | tooLong
  deriving DecidableEq, Repr

def OpenFault.text (f : OpenFault) (p : Path) : String :=
  let (number, what) := match f with
    | .missing => (2, "No such file or directory")
    | .denied => (13, "Permission denied")
    | .notDirectory => (20, "Not a directory")
    | .isDirectory => (21, "Is a directory")
    | .tooLong => (36, "File name too long")
  s!"[Errno {number}] {what}: {Text.quoted p.toString}"

def Files.read (fs : Files) (p : Path) : Except OpenFault Bytes :=
  if fs.denied.contains p then .error .denied
  else match fs.node p with
    | .file content => .ok content
    | .directory => .error .isDirectory
    | .missing => .error .missing
    | .notDirectory => .error .notDirectory
    | .barred => .error .denied
    | .tooLong => .error .tooLong

end Tether
