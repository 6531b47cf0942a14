/-
# Process names

`process_names.rs`: which executables are Roblox Studio's.  A name may come with a path, of which
`Path::file_stem` takes the last part without its extension.

The paths are Windows paths: both slashes separate parts, and a drive or a server with a share in
front is no part.
-/
import SwiftTunnel.Lib.Text

namespace SwiftTunnel

open Rust

def isPathSeparator (c : Char) : Bool := c == '/' || c == '\\'

/-- What follows the prefix of a Windows path: a drive, or a server and a share. -/
def afterPathPrefix (path : List Char) : List Char :=
  match path with
  | a :: b :: rest =>
    if isPathSeparator a && isPathSeparator b then
      let server := rest.takeWhile fun c => !isPathSeparator c
      let tail := (rest.dropWhile fun c => !isPathSeparator c).tail
      let share := tail.takeWhile fun c => !isPathSeparator c
      if server = [] ∨ share = [] then path
      else tail.dropWhile fun c => !isPathSeparator c
    else if a.isAlpha && b == ':' then rest
    else path
  | _ => path

/-- `Path::file_name`: the last part of the path, unless the path ends in `..`. -/
def pathFileName (path : List Char) : Option (List Char) :=
  let parts := (afterPathPrefix path).splitOnP isPathSeparator
  match (parts.filter fun p => p ≠ [] ∧ p ≠ ['.']).getLast? with
  | some name => if name = ['.', '.'] then none else some name
  | none => none

/-- `Path::file_stem`: the file name up to its last dot, when that is not its first character. -/
def pathFileStem (path : List Char) : Option (List Char) :=
  (pathFileName path).map fun name =>
    let stem := (name.reverse.dropWhile (· != '.')).tail.reverse
    if stem = [] then name else stem

/-- `is_roblox_studio_process_name`. -/
def isRobloxStudioProcessName (processName : String) : Bool :=
  let fileName := (pathFileStem processName.toList).getD processName.toList
  startsWith (toAsciiLowercase (String.ofList fileName)) "robloxstudio"

example : isRobloxStudioProcessName "C:\\Roblox\\Versions\\v1\\RobloxStudioBeta.exe" = true ∧
    isRobloxStudioProcessName "RobloxPlayerBeta.exe" = false := by
  decide +kernel

end SwiftTunnel
