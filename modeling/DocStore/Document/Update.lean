import DocStore.StoreError
import DocStore.Document.Path
import DocStore.Value.Order
/-!
Updates by modifiers. The modifiers of an update are carried out one after the other, and a fault
in one of them refuses the whole update. Identity is out of their reach.
-/
namespace DocStore

/-- The sum of two numbers. A sum of 32-bit integers that does not fit is a 64-bit integer; integers
of both widths give the wider one; all other sums are binary numbers. -/
def Value.add? (a b : Value) : Option Value :=
  match a, b with
  | .int32 x, .int32 y =>
    let sum := x.toInt + y.toInt
    if -0x80000000 ≤ sum ∧ sum ≤ 0x7fffffff then some (.int32 (Int32.ofInt sum))
    else some (.int64 (Int64.ofInt sum))
  | .int32 x, .int64 y => some (.int64 (Int64.ofInt (x.toInt + y.toInt)))
  | .int64 x, .int32 y => some (.int64 (Int64.ofInt (x.toInt + y.toInt)))
  | .int64 x, .int64 y => some (.int64 (Int64.ofInt (x.toInt + y.toInt)))
  | _, _ =>
    if a.isNumber && b.isNumber then some (.double (a.toBinary64.add b.toBinary64)) else none

namespace Document

def immutableIdentity : StoreError :=
  .write 66 "performing an update on the path '_id' would modify the immutable field '_id'"

/-- Carries out one modifier on one path, and says whether the document changed. -/
def modify (d : Document) (modifier path : String) (argument : Value) :
    Except StoreError (Document × Bool) :=
  if path = "_id" then .error immutableIdentity
  else
    match modifier with
    | "$set" => .ok (d.setAt path argument)
    | "$unset" => .ok (d.unsetAt path)
    | "$inc" =>
      match ((d.at? path).getD (.int32 0)).add? argument with
      | some sum => .ok (d.setAt path sum)
      | none => .error (.badValue ("cannot apply $inc to " ++ path))
    | other => .error (.badValue ("unknown modifier: " ++ other))

/-- Carries out one modifier on several paths in order. -/
def modifyAll (modifier : String) (d : Document) (changed : Bool) :
    List (String × Value) → Except StoreError (Document × Bool)
  | [] => .ok (d, changed)
  | (path, argument) :: rest => do
    let (d, changedHere) ← d.modify modifier path argument
    modifyAll modifier d (changed || changedHere) rest

def applyModifiers (d : Document) (changed : Bool) :
    List (String × Value) → Except StoreError (Document × Bool)
  | [] => .ok (d, changed)
  | (modifier, .document fields) :: rest => do
    let (d, changed) ← d.modifyAll modifier changed fields
    d.applyModifiers changed rest
  | (modifier, _) :: _ => .error (.badValue ("modifier " ++ modifier ++ " needs an object"))

/-- The document after an update, and whether it changed. -/
def applyUpdate (d update : Document) : Except StoreError (Document × Bool) :=
  if update.isEmpty || update.any fun (key, _) => key.toList.head? != some '$' then
    .error (.badValue "update document requires atomic operators")
  else d.applyModifiers false update

end Document

end DocStore
