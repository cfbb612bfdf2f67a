import Descriptors.Session.Act
import Descriptors.Session.Resources
/-! Configuring the log output. The output of a process can be installed once, and it
already is, so every configuration fails: opening the log file when one is asked for and it
cannot be made, otherwise installing. The file is made before installing fails; its name is
the prefix followed by the start time, `_DD_MM_YYYY_hh-mm-ss.log`. -/
namespace Descriptors
namespace Session
namespace Act

/-- A number of two digits, with a leading zero below ten. -/
def twoDigits (n : Nat) : String := if n < 10 then s!"0{n}" else toString n

/-- The time parts of the first hour of a day, second by second: the moments a session's log
files may be named for. Answers never show the moment. -/
def stamps : List String :=
  (List.range 3600).map fun i => s!"_01_01_2000_00-{twoDigits (i / 60)}-{twoDigits (i % 60)}.log"

/-- Whether `suffix` has the shape of a time part: `_DD_MM_YYYY_hh-mm-ss.log`. -/
def isStamp (suffix : String) : Bool :=
  let cs := suffix.toList
  let digit (i : Nat) : Bool := (cs[i]?.map Char.isDigit).getD false
  let mark (i : Nat) (c : Char) : Bool := cs[i]? == some c
  cs.length == 24 && mark 0 '_' && digit 1 && digit 2 && mark 3 '_' && digit 4 && digit 5
    && mark 6 '_' && digit 7 && digit 8 && digit 9 && digit 10 && mark 11 '_' && digit 12
    && digit 13 && mark 14 '-' && digit 15 && digit 16 && mark 17 '-' && digit 18 && digit 19
    && String.ofList (cs.drop 20) == ".log"

/-- A component of a path as a path type of the standard library sees it. -/
inductive PathPart where
  | root
  | current
  | parent
  | normal (name : String)
  deriving Repr, DecidableEq

/-- The components of a path: the root for a leading slash, `.` only at the very start of a
relative path, `..`, and names; empty components and other `.` are dropped. -/
def pathParts (p : String) : List PathPart :=
  let pieces := p.splitOn "/"
  let lead := if p.startsWith "/" then [PathPart.root]
    else if p == "." || p.startsWith "./" then [PathPart.current] else []
  let body := (pieces.filter fun c => c != "" && c != ".").map fun c =>
    if c == ".." then PathPart.parent else PathPart.normal c
  lead ++ body

/-- The text of a list of components. -/
def partsText : List PathPart → String
  | PathPart.root :: rest => "/" ++ "/".intercalate (rest.map partText)
  | parts => "/".intercalate (parts.map partText)
where
  partText : PathPart → String
    | .root => "/"
    | .current => "."
    | .parent => ".."
    | .normal n => n

/-- The directory a log prefix lies in, and its file name. The directory is the prefix
without its last component, the working directory when that leaves nothing; the file name is
the last component when it is a name, else empty. -/
def splitPrefix (pre : String) : String × String :=
  let parts := pathParts pre
  let base := match parts.getLast? with
    | some (.normal n) => n
    | _ => ""
  let dir := match parts.getLast? with
    | some .root | none => "."
    | _ => if parts.dropLast.isEmpty then "." else partsText parts.dropLast
  (dir, base)

/-- The log files present for a prefix, each shown with its time part as `<time>`, sorted. The
prefix's directory is listed when it is a directory the process may read. -/
def logFiles (k : Kernel.State) (pre : String) : List Doc :=
  let (dir, base) := splitPrefix pre
  match k.tree.resolve k.links dir with
  | .error _ | .ok (.pipe _) | .ok (.socket _) | .ok .console => []
  | .ok (.inode n) =>
    if !k.tree.isDirectory n || !k.tree.permits n { read := true } then []
    else
      let found := (k.tree.names n).filter fun (name, _) =>
        name.startsWith base && isStamp (name.drop base.length).toString
      let shown := found.map fun _ => base ++ "_<time>.log"
      (shown.mergeSort fun a b => decide (a ≤ b)).map Doc.text

open Kernel in
/-- The flags a log file is opened with: write, append, create, close on exec. -/
def logFlags : OpenFlags :=
  ⟨OpenFlags.writeOnly ||| OpenFlags.append ||| OpenFlags.create ||| OpenFlags.closeOnExec⟩

/-- The time part of the session's log files. The session starts its output once, at a moment
for which no file of the first prefix was named yet; every later configuration of the session
falls in the same second, and so opens the same file again. -/
def logStamp (pre : String) : Act String := do
  let w ← get
  match w.logStamp with
  | some s => pure s
  | none =>
    let free (s : String) : Bool :=
      match w.kernel.tree.resolve w.kernel.links (pre ++ s) with
      | .ok _ => false
      | .error _ => true
    let s := (stamps.find? free).getD ""
    set { w with logStamp := some s }
    pure s

/-- The error a configuration ends with, after making its log file if it has one. -/
def configure (spec : LoggingSpec) : Act Error := do
  let file := if spec.noFile then none else spec.file
  match file with
  | none => pure (.os .setGlobalDefault alreadyInstalled)
  | some pre =>
    if hasNul pre then
      pure (.os .openFile (.custom .invalidInput "file name contained an unexpected NUL byte"))
    else
      let stamp ← logStamp pre
      match ← onKernel (·.openPath (pre ++ stamp) logFlags 0o666) with
      | .error e => pure (.os .openFile (.os e))
      | .ok fd =>
        discard fd
        pure (.os .setGlobalDefault alreadyInstalled)
where
  alreadyInstalled : IoError :=
    .custom .other "a global default trace dispatcher has already been set"

/-- Runs a logging configuration; `none` for any other operation. -/
def loggingOp : Op → Option (Act Doc)
  | .loggingInit spec => some do
    let e ← configure spec
    let w ← get
    let created := match spec.file with
      | some pre => if hasNul pre then [] else logFiles w.kernel pre
      | none => []
    pure ((w.errorDoc e).extend [("created", .list created)])
  | _ => none

end Act
end Session
end Descriptors
