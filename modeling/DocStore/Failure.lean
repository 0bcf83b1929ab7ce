import DocStore.StoreError
import DocStore.Numeric.Reading
/-!
Failures that the library reports to its callers. A failure says where it arose and why, with
details for the log and the cause beneath it, which may be another failure, an error of the store,
a number that could not be read, or something from outside with causes of its own.
-/
namespace DocStore

inductive FailureKind where
  | notFound
  | badRequest
  | internal
  | timeout
deriving DecidableEq, Repr, Inhabited

mutual

inductive Failure where
  | mk (kind : FailureKind) (location message : String) (details : List String) (cause : Cause)

/-- What lies beneath a failure. -/
inductive Cause where
  | nothing
  | failure (f : Failure)
  | store (e : StoreError)
  | integer (e : IntegerError)
  | foreign (text : String) (cause : Cause)

end

/-- Something from outside that has no cause of its own. -/
@[match_pattern] def Cause.external (text : String) : Cause := .foreign text .nothing

namespace Failure

def kind : Failure → FailureKind
  | mk kind _ _ _ _ => kind

def location : Failure → String
  | mk _ location _ _ _ => location

def message : Failure → String
  | mk _ _ message _ _ => message

def details : Failure → List String
  | mk _ _ _ details _ => details

def cause : Failure → Cause
  | mk _ _ _ _ cause => cause

def ofKind (kind : FailureKind) (location message : String) : Failure :=
  mk kind location message [] .nothing

def notFound (location message : String) : Failure := ofKind .notFound location message

def badRequest (location message : String) : Failure := ofKind .badRequest location message

def internal (location message : String) : Failure := ofKind .internal location message

def timeout (location message : String) : Failure := ofKind .timeout location message

/-- Puts a cause beneath a failure, in place of the one that was there. -/
def withCause (f : Failure) (cause : Cause) : Failure :=
  mk f.kind f.location f.message f.details cause

def withDetail (f : Failure) (detail : String) : Failure :=
  mk f.kind f.location f.message (f.details ++ [detail]) f.cause

def withDetails (f : Failure) (details : List String) : Failure :=
  mk f.kind f.location f.message (f.details ++ details) f.cause

/-- The same failure as seen from further out. -/
def wrap (inner : Failure) (location message : String) : Failure :=
  (ofKind inner.kind location message).withCause (.failure inner)

/-- A failure of the store that is not the caller's doing. -/
def ofStore (location message : String) (e : StoreError) : Failure :=
  (internal location message).withCause (.store e)

/-- A failed write. A write that the store rejects is the caller's fault. -/
def ofWrite (location message : String) (e : StoreError) : Failure :=
  (ofKind (if e.isWriteRejection then .badRequest else .internal) location message).withCause
    (.store e)

/-- The failure in one line, without details. -/
def text (f : Failure) : String := f.location ++ ": " ++ f.message

def isNotFound (f : Failure) : Bool := f.kind == .notFound

def isBadRequest (f : Failure) : Bool := f.kind == .badRequest

end Failure

mutual

/-- Texts of all causes beneath a failure, the nearest first. -/
def Failure.causeTexts : Failure → List String
  | .mk _ _ _ _ cause => cause.texts

def Cause.texts : Cause → List String
  | .nothing => []
  | .failure f => f.text :: f.causeTexts
  | .store e => [e.message]
  | .integer e => [e.message]
  | .foreign text cause => text :: cause.texts

end

mutual

/-- The nearest error of the store beneath a failure. -/
def Failure.storeError? : Failure → Option StoreError
  | .mk _ _ _ _ cause => cause.storeError?

def Cause.storeError? : Cause → Option StoreError
  | .failure f => f.storeError?
  | .store e => some e
  | .foreign _ cause => cause.storeError?
  | .nothing | .integer _ => none

end

namespace Failure

/-- Whether the work ended because its context had. -/
def isDeadlineExceeded (f : Failure) : Bool := f.storeError?.any StoreError.isDeadline

/-- The whole story in one line, for the log. -/
def diagnostic (f : Failure) : String :=
  f.text ++ String.join (f.details.map (" | " ++ ·)) ++
    String.join (f.causeTexts.map (" <- " ++ ·))

end Failure

end DocStore
