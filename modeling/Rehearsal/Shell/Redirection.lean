import Rehearsal.Machine.Process

/-!
# Carrying out redirections

The descriptors of a shell are changed one after another; where this fails, those after it are left
as they are.
-/

namespace Rehearsal.Shell

open Machine (Act)

/-- A redirection whose target is expanded. -/
structure Redirection where
  descriptor : Nat
  kind : RedirectKind
  target : Text

namespace Redirection

/-- Redirections whose targets are expanded. -/
def ofTargets (rs : List Redirect) (targets : List Text) : List Redirection :=
  rs.zipWith (fun r target => ⟨r.descriptor, r.kind, target⟩) targets

/-- Does a redirection make no sense, whatever descriptors there are? -/
def isMalformed (r : Redirection) : Bool :=
  r.kind == .duplicate && match r.target with
    | [c] => c != '-' && !c.isDigit
    | _ => true

/-- What is said of such a redirection. -/
def malformedMessage : String := "Syntax error: Bad fd number"

end Redirection

/-- What is said of a file that cannot be opened. -/
def openMessage (creates : Bool) (target : Text) (e : IoError) : String :=
  let cause := match e with
    | .notFound | .notADirectory => if creates then "Directory nonexistent" else "No such file"
    | e => e.reason
  (if creates then "cannot create " else "cannot open ") ++ String.ofList target ++ ": " ++ cause

/-- Carry out a redirection; what goes wrong is a message. Files that are there may be spared. -/
def redirect (spares : Bool) (r : Redirection) : Act (Except String Unit) := do
  let lead (handle : Option Nat) : Act (Except String Unit) := do
    Act.announce
    Act.modifySelf (·.setDescriptor r.descriptor handle)
    return .ok ()
  let openAs (how : Act.Opening) : Act (Except String Unit) := do
    match ← Act.openFile r.target how with
    | .ok h => lead (some h)
    | .error e => return .error (openMessage (how != .read) r.target e)
  match r.kind with
  | .read => openAs .read
  | .write force => openAs (if spares && !force then .create else .write)
  | .append => openAs .append
  | .readWrite => openAs .readWrite
  | .duplicate =>
    match Text.toNat? r.target with
    | none => lead none
    | some n =>
      match (← Act.self).handle? n with
      | some h => lead (some h)
      | none => return .error (toString n ++ ": Bad file descriptor")
  | .document =>
    let (reading, writing) ← Act.newPipe
    if let some (.pipeEnd _ n) := (← Act.machine).resource? writing then
      Act.modifyMachine fun m => m.setPipe n ((m.pipe n).push (Text.toBytes r.target))
    lead (some reading)

/-- Carry out redirections in order. -/
def redirectAll (spares : Bool) : List Redirection → Act (Except String Unit)
  | [] => return .ok ()
  | r :: rs => do
    match ← redirect spares r with
    | .ok () => redirectAll spares rs
    | failed => return failed

/-- What the descriptors that redirections change lead to before them. -/
def savedDescriptors (rs : List Redirection) : Act (List (Nat × Option Nat)) := do
  let p ← Act.self
  return (rs.map (·.descriptor)).eraseDups.map fun d => (d, p.handle? d)

/-- Put descriptors back. -/
def restoreDescriptors (saved : List (Nat × Option Nat)) : Act Unit := do
  if !saved.isEmpty then
    Act.modifySelf fun p => saved.foldl (fun p (d, h) => p.setDescriptor d h) p
    Act.announce

end Rehearsal.Shell
