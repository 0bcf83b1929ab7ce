import DocStore.Document.Record
import DocStore.Proofs.Collection.Stamps
import DocStore.Proofs.Document.Fields
import DocStore.Proofs.Text.Hex
/-!
Records as objects of a collection. What is written of them, the digits of an identifier and the
parts of a journal, is read back as it was.
-/
namespace DocStore

theorem ObjectId.ofHex?_hex (id : ObjectId) : ofHex? id.hex = some id := by
  have hsmall : id.number.toNat % 16 ^ 24 = id.number.toNat :=
    Nat.mod_eq_of_lt (Nat.lt_of_lt_of_eq id.number.isLt (by decide))
  rw [ofHex?, hex, String.toList_ofList, if_pos (Hex.length_fixed 24 _), Hex.number?_fixed, hsmall,
    Option.map_some, BitVec.ofNat_toNat, BitVec.setWidth_eq]

theorem Value.asInt64?_int64 (n : Int64) : asInt64? (.int64 n) = some n := by
  have hleast : -0x8000000000000000 ≤ n.toInt := n.le_toInt
  have hgreatest : n.toInt ≤ 0x7fffffffffffffff := Int.le_of_lt_add_one n.toInt_lt
  have hwhole : Tagged.whole? (-0x8000000000000000) 0x7fffffffffffffff (.int64 n) =
      some n.toInt := if_pos ⟨hleast, hgreatest⟩
  rw [asInt64?, hwhole, Option.map_some, Int64.ofInt_toInt]

theorem Journal.ofDocument?_toDocument (j : Journal) : ofDocument? j.toDocument = some j := by
  have hnote : part? Value.asText? "" (j.toDocument.get? "note") = some j.note := by
    by_cases h : j.note = ""
    · rw [toDocument, if_pos h, h]
      rfl
    · rw [toDocument, if_neg h]
      rfl
  have hrevision : j.toDocument.get? "revision" = some (.int64 j.revision) := by
    rw [toDocument]
    split <;> rfl
  rw [ofDocument?, ofParts?, hnote, hrevision]
  change (do
    let createDate ← Value.asInt64? (.int64 j.createDate)
    let updateDate ← Value.asInt64? (.int64 j.updateDate)
    let deleteDate ← Value.asInt64? (.int64 j.deleteDate)
    let note ← some j.note
    let revision ← Value.asInt64? (.int64 j.revision)
    return ({ createDate, updateDate, deleteDate, note, revision } : Journal)) = some j
  simp only [Value.asInt64?_int64]
  rfl

theorem Document.erase_insert {key : String} {d : Document} (h : key ∉ d.keys) (v : Value) :
    (d.insert key v).erase key = d := by
  induction d with
  | nil => exact if_pos rfl
  | cons field rest ih =>
    obtain ⟨hfield, hrest⟩ := List.ne_and_not_mem_of_not_mem_cons h
    rw [insert, if_neg hfield.symm, erase, if_neg hfield.symm, ih hrest]

namespace Record

/-- Records are stored as their documents. -/
instance persistent : PersistentObject Record where
  identity := Record.identity
  journal := Record.journal
  setJournal journal r := { r with journal }
  target := "record"
  encode r := .ok r.toDocument

instance lawful : LawfulObject Record where
  journal_setJournal _ _ := rfl
  identity_setJournal _ _ := rfl
  setJournal_setJournal _ _ _ := rfl

/-- A record is read from a document without its journal, which is kept beside it. -/
instance decodable : Decodable Record where
  target := "record"
  decode d := .ok ⟨d.erase Journal.key, (ofDocument d).journal⟩

theorem decode_toDocument {r : Record} (h : Journal.key ∉ r.document.keys) :
    Decodable.decode r.toDocument = .ok r := by
  have hjournal : r.toDocument.get? Journal.key = some (.document r.journal.toDocument) := by
    rw [toDocument, Document.get?_insert, if_pos rfl]
  change Except.ok (⟨r.toDocument.erase Journal.key, (ofDocument r.toDocument).journal⟩ : Record) = _
  rw [ofDocument, hjournal, toDocument, Document.erase_insert h]
  dsimp only
  rw [Journal.ofDocument?_toDocument]
  rfl

end Record

end DocStore
