import DocStore.Proofs.Regex.Documented
import DocStore.Regex.Default
/-!
How the standard engine reads plain patterns. A letter, an escaped sign and an anchor are read as one item
each, and the pattern makes the chain of its items.
-/
namespace DocStore.Regex

/-- The characters that a letter of a pattern stands for. -/
def letter (modes : Modes) (c : Char) : Regex := .character (modes.fold (.single c))

/-- What an item is compiled to. -/
def Item.regex (modes : Modes) : Item → Regex
  | .letter c => Regex.letter modes c
  | .front => .anchor (if modes.multiline then .lineStart modes.carriageReturns else .textStart)
  | .back => .anchor (if modes.multiline then .lineEnd modes.carriageReturns else .textEnd)

variable {modes : Modes} {pattern : List Char} {items : List Item} {regexes : List Regex}

theorem isEscapable_of_isSign {c : Char} (hc : isSign c = true) : isEscapable c = true := by
  rw [isEscapable, Bool.or_eq_true]
  exact .inr hc

theorem escape_of_isSign {c : Char} (hc : isSign c = true) (modes : Modes) (rest : List Char) :
    escape modes (c :: rest) = some (.literal c, rest) := by
  unfold escape
  dsimp only
  split
  all_goals first
    | exact absurd hc (by decide)
    | exact if_pos (isEscapable_of_isSign hc)

theorem readItem_letter {c : Char} (hc : isSpecial c = false) (r : Reader) (rest : List Char) :
    readItem r c rest = some (r.addRegex (letter r.flags c), rest) := by
  unfold readItem
  split
  all_goals first
    | exact absurd hc (by decide)
    | rfl

theorem readItem_escaped {c : Char} (hc : isSign c = true) (r : Reader) (rest : List Char) :
    readItem r '\\' (c :: rest) = some (r.addRegex (letter r.flags c), rest) := by
  rw [readItem, escape_of_isSign hc]
  rfl

def Reader.addAll (r : Reader) (regexes : List Regex) : Reader := regexes.foldl Reader.addRegex r

/-- Outside of verbose mode a plain pattern is read to its end. -/
theorem Plain.readFrom (h : Plain pattern items) {r : Reader} (hverbose : r.flags.verbose = false)
    {fuel : ℕ} (hfuel : pattern.length < fuel) :
    readFrom fuel r pattern = some (r.addAll (items.map (Item.regex r.flags))) := by
  have hskip (r : Reader) (hverbose : r.flags.verbose = false) (cs : List Char) :
      r.flags.skip cs = cs := by
    rw [Modes.skip, hverbose]
    rfl
  induction h generalizing r fuel with
  | nil =>
    obtain ⟨fuel, rfl⟩ := Nat.exists_eq_add_of_lt hfuel
    rw [Regex.readFrom, hskip r hverbose]
    rfl
  | letter hc _ ih =>
    obtain ⟨fuel, rfl⟩ := Nat.exists_eq_add_of_lt hfuel
    rw [Regex.readFrom, hskip r hverbose]
    simp only [readItem_letter hc]
    exact ih (r := r.addRegex _) hverbose (by grind)
  | escaped hc _ ih =>
    obtain ⟨fuel, rfl⟩ := Nat.exists_eq_add_of_lt hfuel
    rw [Regex.readFrom, hskip r hverbose]
    simp only [readItem_escaped hc]
    exact ih (r := r.addRegex _) hverbose (by grind)
  | front _ ih =>
    obtain ⟨fuel, rfl⟩ := Nat.exists_eq_add_of_lt hfuel
    rw [Regex.readFrom, hskip r hverbose]
    exact ih (r := r.addRegex _) hverbose (by grind)
  | back _ ih =>
    obtain ⟨fuel, rfl⟩ := Nat.exists_eq_add_of_lt hfuel
    rw [Regex.readFrom, hskip r hverbose]
    exact ih (r := r.addRegex _) hverbose (by grind)

/-- The patterns one after the other. -/
def chain : List Regex → Regex
  | [] => .empty
  | [r] => r
  | r :: rest => .sequence r (chain rest)

theorem regex_ne_empty (item : Item) : item.regex modes ≠ .empty := by
  cases item <;> nofun

/-- A group with one branch, of these patterns. -/
def Group.ofRegexes (modes : Modes) (regexes : List Regex) : Group :=
  ⟨modes, [], (regexes.map fun r => some ⟨r, 0⟩).reverse⟩

theorem addAll_eq (names : List String) (outer : Modes) (branches : List Piece)
    (before : List (Option Piece)) (enclosing : List Group) (regexes : List Regex) :
    Reader.addAll ⟨modes, names, ⟨outer, branches, before⟩, enclosing⟩ regexes =
      ⟨modes, names, ⟨outer, branches, (regexes.map fun r => some ⟨r, 0⟩).reverse ++ before⟩,
        enclosing⟩ := by
  induction regexes generalizing before with
  | nil => rfl
  | cons r rest ih =>
    have hfirst : Reader.addAll ⟨modes, names, ⟨outer, branches, before⟩, enclosing⟩ (r :: rest) =
      Reader.addAll ⟨modes, names, ⟨outer, branches, some ⟨r, 0⟩ :: before⟩, enclosing⟩ rest := rfl
    rw [hfirst, ih, List.map_cons, List.reverse_cons, List.append_assoc, List.singleton_append]

theorem chain_ne_empty (hne : regexes ≠ []) (h : ∀ r ∈ regexes, r ≠ .empty) :
    chain regexes ≠ .empty := by
  match regexes with
  | [] => exact absurd rfl hne
  | [r] => exact h r List.mem_cons_self
  | r :: next :: rest => nofun

theorem branch_ofRegexes (h : ∀ r ∈ regexes, r ≠ .empty) :
    (Group.ofRegexes modes regexes).branch.regex = chain regexes := by
  rw [Group.branch, Group.ofRegexes]
  simp only [List.foldl_reverse]
  induction regexes with
  | nil => rfl
  | cons r rest ih =>
    obtain ⟨hr, hrest⟩ := List.forall_mem_cons.1 h
    rw [List.map_cons, List.foldr_cons, ih hrest]
    cases rest with
    | nil => rfl
    | cons next more =>
      have hchain := chain_ne_empty (List.cons_ne_nil next more) hrest
      have hcons : chain (r :: next :: more) = .sequence r (chain (next :: more)) := rfl
      rw [hcons]
      cases htail : chain (next :: more) with
      | empty => exact absurd htail hchain
      | _ => rfl

theorem nestedDepth_le {depths : List Nat} (h : ∀ depth ∈ depths, depth = 0) :
    nestedDepth depths ≤ 1 := by
  have hmax : depths.foldl max 0 = 0 := by
    induction depths with
    | nil => rfl
    | cons depth rest ih =>
      obtain ⟨rfl, hrest⟩ := List.forall_mem_cons.1 h
      exact ih hrest
  match depths with
  | [] => exact Nat.zero_le 1
  | [depth] =>
    have hzero : depth = 0 := h depth List.mem_cons_self
    exact hzero ▸ Nat.zero_le 1
  | first :: second :: rest =>
    have hdepth : nestedDepth (first :: second :: rest) =
      1 + (first :: second :: rest).foldl max 0 := rfl
    exact Nat.le_of_eq (hdepth.trans (congrArg (1 + ·) hmax))

theorem depth_ofRegexes (modes : Modes) (regexes : List Regex) :
    (Group.ofRegexes modes regexes).body.depth ≤ 1 := by
  have hbody : (Group.ofRegexes modes regexes).body.depth =
    (Group.ofRegexes modes regexes).branch.depth := rfl
  rw [hbody]
  refine nestedDepth_le fun depth hdepth => ?_
  obtain ⟨item, hitem, rfl⟩ := List.mem_map.1 hdepth
  obtain ⟨regex, _, rfl⟩ := List.mem_map.1 (List.mem_reverse.1 hitem)
  rfl

/-- A plain pattern is refused only if it is too large. -/
theorem Plain.ofPattern {pattern : String} (h : Plain pattern.toList items) (flags : Flags) :
    let r := chain (items.map (Item.regex { flags with }))
    ofPattern flags pattern = if sizeLimit < r.size then .error (.tooLarge sizeLimit) else .ok r := by
  intro r
  let modes : Modes := { flags with }
  let group := Group.ofRegexes modes (items.map (Item.regex modes))
  have hread : Regex.readFrom (pattern.toList.length + 1) ⟨modes, [], ⟨modes, [], []⟩, []⟩
      pattern.toList = some ⟨modes, [], group, []⟩ := by
    rw [h.readFrom rfl (Nat.lt_succ_self _), addAll_eq, List.append_nil]
    rfl
  have hregex : group.body.regex = r :=
    branch_ofRegexes (List.forall_mem_map.2 fun item _ => regex_ne_empty item)
  have hdepth : ¬depthLimit < group.body.depth := by
    have hle : group.body.depth ≤ 1 := depth_ofRegexes modes _
    have hlimit : depthLimit = 250 := rfl
    omega
  rw [Regex.ofPattern]
  simp only [modes] at hread
  simp only [hread, hregex, if_neg hdepth]

end DocStore.Regex
