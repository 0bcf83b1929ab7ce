import DocStore.Failure
/-!
What a failure tells of an error of the store, and what is not lost when it is seen from further out
or gets details.
-/
namespace DocStore

namespace Failure

/-- One thing that is done to a failure on its way to the caller. -/
inductive Layer where
  | wrap (location message : String)
  | detail (text : String)
  | details (texts : List String)

def Layer.on (f : Failure) : Layer → Failure
  | .wrap location message => f.wrap location message
  | .detail text => f.withDetail text
  | .details texts => f.withDetails texts

/-- A failure as it is when all of that has been done. -/
def under (f : Failure) (layers : List Layer) : Failure := layers.foldl Layer.on f

/-- A failure of some kind that goes back to an error of the store. -/
structure Reports (f : Failure) (kind : FailureKind) (e : StoreError) : Prop where
  kind : f.kind = kind
  storeError? : f.storeError? = some e
  isDeadlineExceeded : f.isDeadlineExceeded = true ↔ e = .timeout ∨ e = .cancelled

variable {f : Failure} {kind : FailureKind} {e : StoreError}

theorem Layer.on_kind (f : Failure) (layer : Layer) : (layer.on f).kind = f.kind := by
  cases layer <;> rfl

theorem storeError?_eq (f : Failure) : f.storeError? = f.cause.storeError? := by
  cases f
  rfl

theorem Layer.on_storeError? (f : Failure) (layer : Layer) :
    (layer.on f).storeError? = f.storeError? := by
  cases layer with
  | wrap location message => rfl
  | detail text => exact (storeError?_eq f).symm
  | details texts => exact (storeError?_eq f).symm

theorem under_kind (f : Failure) (layers : List Layer) : (f.under layers).kind = f.kind := by
  induction layers generalizing f with
  | nil => rfl
  | cons layer rest ih => exact (ih (layer.on f)).trans (layer.on_kind f)

theorem under_storeError? (f : Failure) (layers : List Layer) :
    (f.under layers).storeError? = f.storeError? := by
  induction layers generalizing f with
  | nil => rfl
  | cons layer rest ih => exact (ih (layer.on f)).trans (layer.on_storeError? f)

theorem under_isDeadlineExceeded (f : Failure) (layers : List Layer) :
    (f.under layers).isDeadlineExceeded = f.isDeadlineExceeded := by
  rw [isDeadlineExceeded, isDeadlineExceeded, under_storeError?]

theorem reports_of_storeError? (hkind : f.kind = kind) (he : f.storeError? = some e) :
    f.Reports kind e := by
  refine ⟨hkind, he, ?_⟩
  rw [isDeadlineExceeded, he]
  cases e <;> simp [StoreError.isDeadline]

theorem Reports.under (h : f.Reports kind e) (layers : List Layer) :
    (f.under layers).Reports kind e :=
  reports_of_storeError? ((under_kind f layers).trans h.kind)
    ((under_storeError? f layers).trans h.storeError?)

theorem reports_ofStore (location message : String) (e : StoreError) :
    (ofStore location message e).Reports .internal e := reports_of_storeError? rfl rfl

/-- The kind of failure that a write with an error is. -/
def writeKind (e : StoreError) : FailureKind := if e.isWriteRejection then .badRequest else .internal

theorem reports_ofWrite (location message : String) (e : StoreError) :
    (ofWrite location message e).Reports (writeKind e) e := reports_of_storeError? rfl rfl

end Failure

/-- An answer that is a failure and reports an error of the store. -/
def Tells (kind : FailureKind) (e : StoreError) (answer : Except Failure α) : Prop :=
  ∃ f, answer = .error f ∧ f.Reports kind e

end DocStore
