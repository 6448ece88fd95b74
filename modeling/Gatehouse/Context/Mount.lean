/-
# Serving a folder

A mount reads the parameter `filepath` and answers with the file it names below the mount's root.
A name is judged before the disk is touched: `..` is refused wherever it stands, and so is a name
that starts with a dot unless the mount serves hidden files.  A folder is answered with the first
of its index names that is a file.
-/
import Gatehouse.Context.Basic

namespace Gatehouse
namespace Mount

/-- Why a file is not served. -/
inductive Refusal
  | traversal
  | hidden
  | noIndex
  | notFound
deriving DecidableEq, Repr

namespace Refusal

def status : Refusal → Nat
  | notFound => 404
  | _ => 403

def message : Refusal → String
  | traversal => "403 forbidden: directory traversal not allowed"
  | hidden => "403 forbidden: hidden files not allowed"
  | noIndex => "403 forbidden: directory index is forbidden"
  | notFound => "404 page not found"

end Refusal

/-- The refusal that one step of a name earns. -/
def judge (m : Mount) (step : String) : Option Refusal :=
  if step = ".." then some .traversal
  else if !m.servesHidden && step.toList.head? = some '.' then some .hidden
  else none

/-- A parameter without the slashes in front of it. -/
def relative (requested : String) : String :=
  String.ofList (requested.toList.dropWhile (· = '/'))

/-- The location of the file that a parameter names, or the first reason against it. -/
def resolve (d : Disk) (m : Mount) (requested : String) : Except Refusal String :=
  let wanted := relative requested
  match (Disk.steps wanted).findSome? m.judge with
  | some refusal => .error refusal
  | none =>
    let full := Disk.below m.root wanted
    match d.stat? full with
    | none => .error .notFound
    | some s =>
      if s.kind = .folder then
        match (m.indexNames.map (Disk.below full)).find? d.isRegular with
        | some page => .ok page
        | none => .error .noIndex
      else .ok full

/-- Answers for the file that the context's parameter names. -/
def serve (d : Disk) (m : Mount) (c : Context) : Except Panic Context :=
  match m.resolve d ((c.param? parameterName).getD "") with
  | .ok location => c.writeFile d location
  | .error refusal => .ok (c.writeText refusal.status refusal.message)

end Mount
end Gatehouse
