import DocStore.Document.Journal
import DocStore.Value.Text
/-!
Objects without a type of their own: a document, and the journal beside it.
-/
namespace DocStore

structure Record where
  document : Document
  journal : Journal

namespace Record

/-- Takes the journal out of a document; without a readable one a new journal begins. -/
def ofDocument (d : Document) : Record :=
  match d.get? Journal.key with
  | some (.document inner) => ⟨d, (Journal.ofDocument? inner).getD {}⟩
  | _ => ⟨d, {}⟩

/-- The document with the journal in its place. -/
def toDocument (r : Record) : Document := r.document.insert Journal.key (.document r.journal.toDocument)

/-- The digits of an identifier, a text as it is, and the text of any other identity. -/
def identity (r : Record) : String :=
  match r.document.get? "_id" with
  | none => ""
  | some (.objectId id) => id.hex
  | some (.string s) => s
  | some v => v.text

end Record

end DocStore
