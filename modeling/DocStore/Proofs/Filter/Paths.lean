import DocStore.Filter.Match
/-!
What a filter reads of a document. Without a search for words it is what stands at the paths that the
filter names, and nothing else.
-/
namespace DocStore

namespace Filter

def isConnective (key : String) : Bool := key == "$and" || key == "$or"

/-- Whether the field of an entry is one of the given paths. An operator that stands where a field
should is refused without a look at the document. -/
def fieldWithin (paths : List String) (key : String) : Bool :=
  key != "$text" && (startsWithDollar key || paths.contains key)

mutual

/-- Whether the entries of a filter read no path besides the given ones. -/
def entriesWithin (paths : List String) : List (String × Value) → Bool
  | [] => true
  | (key, value) :: rest => entryWithin paths key value && entriesWithin paths rest

def entryWithin (paths : List String) (key : String) : Value → Bool
  | .array clauses => if isConnective key then clausesWithin paths clauses else fieldWithin paths key
  | _ => isConnective key || fieldWithin paths key

def clausesWithin (paths : List String) : List Value → Bool
  | [] => true
  | .document filter :: rest => entriesWithin paths filter && clausesWithin paths rest
  | _ :: rest => clausesWithin paths rest

end

theorem isConnective_iff {key : String} : isConnective key = true ↔ key = "$and" ∨ key = "$or" := by
  rw [isConnective, Bool.or_eq_true, beq_iff_eq, beq_iff_eq]

theorem fieldWithin_of_entryWithin {paths : List String} {key : String} {value : Value}
    (hkey : ¬isConnective key = true) (h : entryWithin paths key value = true) :
    fieldWithin paths key = true := by
  cases value with
  | array clauses => exact (if_neg hkey).symm.trans h
  | _ => exact (Bool.or_eq_true_iff.1 h).resolve_left hkey

variable [Regex.Engine]

theorem matchEntry_of_not_isConnective {key : String} (hkey : ¬isConnective key = true)
    (rule : CaseRule) (d : Document) (value : Value) :
    matchEntry rule d key value =
      if key = "$text" then textHolds d value
      else if startsWithDollar key then
        .error (.badValue ("unknown top level operator: " ++ key))
      else fieldHolds rule (d.at? key) value := by
  rw [isConnective_iff, not_or] at hkey
  cases value with
  | array clauses => rw [matchEntry, if_neg hkey.1, if_neg hkey.2]
  | _ =>
    rw [matchEntry, if_neg hkey.1, if_neg hkey.2]
    intro clauses hclauses
    cases hclauses

theorem matchEntry_and (rule : CaseRule) (d : Document) (clauses : List Value) :
    matchEntry rule d "$and" (.array clauses) =
      (clauseFault? "$and" (.array clauses)).elim (matchAll rule d clauses) .error := by
  rw [matchEntry, if_pos rfl]
  cases clauseFault? "$and" (.array clauses) <;> rfl

theorem matchEntry_or (rule : CaseRule) (d : Document) (clauses : List Value) :
    matchEntry rule d "$or" (.array clauses) =
      (clauseFault? "$or" (.array clauses)).elim (matchAny rule d clauses) .error := by
  rw [matchEntry, if_neg (by decide), if_pos rfl]
  cases clauseFault? "$or" (.array clauses) <;> rfl

mutual

/-- Documents that are the same at the paths of a filter get the same verdict. -/
theorem matchEntries_congr {paths : List String} {d e : Document} (rule : CaseRule)
    (h : ∀ path ∈ paths, d.at? path = e.at? path) :
    ∀ filter : List (String × Value), entriesWithin paths filter = true →
      matchEntries rule d filter = matchEntries rule e filter
  | [], _ => rfl
  | (key, value) :: rest, hwithin => by
    rw [entriesWithin, Bool.and_eq_true] at hwithin
    rw [matchEntries, matchEntries, matchEntry_congr rule h key value hwithin.1,
      matchEntries_congr rule h rest hwithin.2]

theorem matchEntry_congr {paths : List String} {d e : Document} (rule : CaseRule)
    (h : ∀ path ∈ paths, d.at? path = e.at? path) :
    ∀ (key : String) (value : Value), entryWithin paths key value = true →
      matchEntry rule d key value = matchEntry rule e key value
  | key, value, hwithin => by
    by_cases hkey : isConnective key = true
    · cases value with
      | array clauses =>
        obtain ⟨hall, hany⟩ := matchClauses_congr rule h clauses ((if_pos hkey).symm.trans hwithin)
        -- a connective is tried on its clauses alone, and so has no path of its own
        rcases isConnective_iff.1 hkey with rfl | rfl
        · rw [matchEntry_and, matchEntry_and, hall]
        · rw [matchEntry_or, matchEntry_or, hany]
      | _ => rcases isConnective_iff.1 hkey with rfl | rfl <;> rfl
    · rw [matchEntry_of_not_isConnective hkey, matchEntry_of_not_isConnective hkey]
      have hfield := fieldWithin_of_entryWithin hkey hwithin
      rw [fieldWithin, Bool.and_eq_true, bne_iff_ne, Bool.or_eq_true, List.contains_iff_mem] at hfield
      rw [if_neg hfield.1, if_neg hfield.1]
      by_cases hdollar : startsWithDollar key = true
      · rw [if_pos hdollar, if_pos hdollar]
      · rw [if_neg hdollar, if_neg hdollar, h key (hfield.2.resolve_left hdollar)]

theorem matchClauses_congr {paths : List String} {d e : Document} (rule : CaseRule)
    (h : ∀ path ∈ paths, d.at? path = e.at? path) :
    ∀ clauses : List Value, clausesWithin paths clauses = true →
      matchAll rule d clauses = matchAll rule e clauses ∧
        matchAny rule d clauses = matchAny rule e clauses
  | [], _ => ⟨rfl, rfl⟩
  | clause :: rest, hwithin => by
    cases clause with
    | document filter =>
      rw [clausesWithin, Bool.and_eq_true] at hwithin
      obtain ⟨hall, hany⟩ := matchClauses_congr rule h rest hwithin.2
      have hfirst := matchEntries_congr rule h filter hwithin.1
      rw [matchAll, matchAll, matchAny, matchAny, hall, hany, hfirst]
      exact ⟨rfl, rfl⟩
    | _ => exact matchClauses_congr rule h rest hwithin

end

end Filter

end DocStore
