import DocStore.Value.Decode
/-!
The journal that every stored object carries: when it was created, updated and deleted, a note, and
how often it was saved. Dates are milliseconds since 1970, and zero means never.
-/
namespace DocStore

structure Journal where
  createDate : Int64 := 0
  updateDate : Int64 := 0
  deleteDate : Int64 := 0
  note : String := ""
  revision : Int64 := 0
deriving DecidableEq, Repr, Inhabited

namespace Journal

/-- The key under which a journal is stored. -/
def key : String := "journal"

def deleteDatePath : String := "journal.deleteDate"

def isNew (j : Journal) : Bool := j.createDate == 0

def isDeleted (j : Journal) : Bool := decide (0 < j.deleteDate)

def created (j : Journal) (now : Int64) (note : String) : Journal :=
  { j with createDate := now, note }

def updated (j : Journal) (now : Int64) (note : String) : Journal :=
  { j with updateDate := now, note, revision := j.revision + 1 }

def deleted (j : Journal) (now : Int64) (note : String) : Journal :=
  { j with deleteDate := now, note }

/-- An empty note is not stored. -/
def toDocument (j : Journal) : Document :=
  [("createDate", .int64 j.createDate), ("updateDate", .int64 j.updateDate),
    ("deleteDate", .int64 j.deleteDate)] ++
  (if j.note = "" then [] else [("note", .string j.note)]) ++ [("revision", .int64 j.revision)]

/-- Reads a part that may be missing. -/
def part? (read : Value → Option α) (missing : α) : Option Value → Option α
  | none => some missing
  | some v => read v

/-- A journal from its parts, each of which may be missing. -/
def ofParts? (createDate updateDate deleteDate note revision : Option Value) : Option Journal := do
  return {
    createDate := ← part? Value.asInt64? 0 createDate
    updateDate := ← part? Value.asInt64? 0 updateDate
    deleteDate := ← part? Value.asInt64? 0 deleteDate
    note := ← part? Value.asText? "" note
    revision := ← part? Value.asInt64? 0 revision }

def ofDocument? (d : Document) : Option Journal :=
  ofParts? (d.get? "createDate") (d.get? "updateDate") (d.get? "deleteDate") (d.get? "note")
    (d.get? "revision")

/-- A journal is a document, in which unknown keys are passed over, or a list of its parts in order.
Values that are written as tagged documents hold unknown keys only. -/
def ofValue? : Value → Option Journal
  | .document d => ofDocument? d
  | .array items => ofParts? items[0]? items[1]? items[2]? items[3]? items[4]?
  | .null | .bool _ | .int32 _ | .int64 _ | .double _ | .string _ | .binary 0 _ => none
  | _ => some {}

end Journal

/-- Objects that are stored as one document of a collection. The identity is the hexadecimal form of
the `_id` in that document. -/
class PersistentObject (α : Type) where
  identity : α → String
  journal : α → Journal
  setJournal : Journal → α → α
  /-- Name of the type in messages. -/
  target : String
  /-- Gives the reason where an object has no document. -/
  encode : α → Except String Document

namespace PersistentObject

variable [PersistentObject α]

def isNew (object : α) : Bool := (journal object).isNew

def modifyJournal (f : Journal → Journal) (object : α) : α := setJournal (f (journal object)) object

end PersistentObject

end DocStore
