import DocStore.Proofs.Regex.Spelling
/-!
The standard engine finds plain patterns where a match begins. The places that a chain reaches are followed
item by item, and a string is cut at each of them into what stands before it and what stands behind it.
-/
namespace DocStore

namespace Unicode

theorem foldOrbit_toLower {x : Char} (hx : x.toNat < 128) :
    foldOrbit x.toLower = foldOrbit x := by
  have h : ∀ n < 128, foldOrbit (Char.ofNat n).toLower = foldOrbit (Char.ofNat n) := by decide
  rw [← Char.ofNat_toNat x]
  exact h x.toNat hx

theorem mem_foldOrbit_toLower {c : Char} (hc : c.toNat < 128) : c ∈ foldOrbit c.toLower := by
  have h : ∀ n < 128, Char.ofNat n ∈ foldOrbit (Char.ofNat n).toLower := by decide
  rw [← Char.ofNat_toNat c]
  exact h c.toNat hc

theorem toLower_of_mem_foldOrbit {c x : Char} (hc : c.toNat < 128) (hx : x.toNat < 128)
    (h : c ∈ foldOrbit x) : c.toLower = x.toLower := by
  have horbit : ∀ n < 128, (foldOrbit (Char.ofNat n)).all (fun y =>
    decide (y.toNat < 128 → y.toLower = (Char.ofNat n).toLower)) = true := by decide
  rw [← Char.ofNat_toNat x] at h ⊢
  exact of_decide_eq_true (List.all_eq_true.1 (horbit x.toNat hx) c h) hc

/-- Within ASCII the characters with one folding are those with one lower-case letter. -/
theorem mem_foldOrbit_iff {c x : Char} (hc : c.toNat < 128) (hx : x.toNat < 128) :
    c ∈ foldOrbit x ↔ c.toLower = x.toLower := by
  refine ⟨toLower_of_mem_foldOrbit hc hx, fun h => ?_⟩
  rw [← foldOrbit_toLower hx, ← h]
  exact mem_foldOrbit_toLower hc

end Unicode

namespace Regex

/-- Whether the letter of a pattern stands for a character. -/
def Modes.Admits (modes : Modes) (c x : Char) : Prop := (modes.fold (.single c)).contains x = true

/-- The places that patterns reach one after the other. -/
def reach (string : List Char) (regexes : List Regex) (places : List ℕ) : List ℕ :=
  regexes.foldl (fun places r => r.ends string.toArray places) places

variable {flags : Flags} {modes : Modes} {string : List Char} {places : List ℕ} {items : List Item}
  {p q : ℕ}

theorem ends_chain (string : List Char) (regexes : List Regex) (places : List ℕ) :
    (chain regexes).ends string.toArray places = reach string regexes places := by
  match regexes with
  | [] => rfl
  | [r] => rfl
  | r :: next :: rest => exact ends_chain string (next :: rest) (r.ends string.toArray places)

theorem contains_single {c x : Char} : (CharClass.single c).contains x = true ↔ c = x := by
  rw [CharClass.single, CharClass.contains, decide_eq_true_iff, ← Char.toNat_inj]
  omega

theorem admits_iff_same {c x : Char} (hc : c.toNat < 128) (hx : x.toNat < 128) :
    Modes.Admits { flags with } c x ↔ flags.Same c x := by
  rw [Modes.Admits, Modes.fold, Flags.Same]
  split
  · rw [if_pos rfl, CharClass.contains, List.any_eq_true, ← Unicode.mem_foldOrbit_iff hc hx]
    simp only [contains_single, exists_eq_right']
  · exact contains_single

theorem drop_eq_cons_iff {x : Char} {rest : List Char} :
    string.drop p = x :: rest ↔ string[p]? = some x ∧ string.drop (p + 1) = rest := by
  rw [← List.head?_drop, ← List.tail_drop]
  cases string.drop p with
  | nil => simp
  | cons y more => simp

theorem mem_ends_letter {c : Char} :
    q ∈ (letter modes c).ends string.toArray places ↔
      ∃ p ∈ places, ∃ x, string[p]? = some x ∧ modes.Admits c x ∧ q = p + 1 := by
  rw [letter, ends, List.mem_filterMap]
  refine exists_congr fun p => and_congr_right fun _ => ?_
  rw [List.getElem?_toArray]
  cases string[p]? with
  | none => simp
  | some x =>
    by_cases hadmits : modes.Admits c x
    · have hany : (some x).any (modes.fold (.single c)).contains = true := hadmits
      rw [if_pos hany]
      constructor
      · rintro ⟨⟩
        exact ⟨x, rfl, hadmits, rfl⟩
      · rintro ⟨_, _, _, rfl⟩
        rfl
    · have hany : ¬(some x).any (modes.fold (.single c)).contains = true := hadmits
      rw [if_neg hany]
      constructor
      · nofun
      · rintro ⟨y, hy, hadmitted, _⟩
        cases hy
        exact absurd hadmitted hadmits

theorem mem_ends_textStart (hp : p ≤ string.length) :
    p ∈ (anchor .textStart).ends string.toArray places ↔ p ∈ places ∧ string.take p = [] := by
  rw [ends, List.mem_filter, List.take_eq_nil_iff]
  refine and_congr_right fun _ => ?_
  by_cases hzero : p = 0
  · simp [hzero, Anchor.holds]
  · have hbefore : p - 1 < string.length := by omega
    have hstring : string ≠ [] := List.ne_nil_of_length_pos (by omega)
    simp [hzero, hstring, Anchor.holds, hbefore]

theorem mem_ends_textEnd :
    p ∈ (anchor .textEnd).ends string.toArray places ↔ p ∈ places ∧ string.drop p = [] := by
  rw [ends, List.mem_filter, List.drop_eq_nil_iff]
  simp [Anchor.holds]

/-- Items reach some place from those at which a match of them can begin. -/
theorem exists_mem_reach_iff (hflags : flags.multiline = false)
    (hitems : ∀ c, .letter c ∈ items → c.toNat < 128) (hstring : ∀ x ∈ string, x.toNat < 128)
    (hplaces : ∀ p ∈ places, p ≤ string.length) :
    (∃ q, q ∈ reach string (items.map (Item.regex { flags with })) places) ↔
      ∃ p ∈ places, Begins flags items (string.take p) (string.drop p) := by
  induction items generalizing places with
  | nil => exact exists_congr fun p => ⟨fun hp => ⟨hp, .nil⟩, And.left⟩
  | cons item items ih =>
    have hrest : ∀ c, .letter c ∈ items → c.toNat < 128 :=
      fun c hc => hitems c (List.mem_cons_of_mem _ hc)
    -- the places behind the first item lie in the string again
    cases item with
    | letter c =>
      have hends : ∀ q ∈ (letter { flags with } c).ends string.toArray places, q ≤ string.length := by
        intro q hq
        obtain ⟨p, _, x, hx, _, rfl⟩ := mem_ends_letter.1 hq
        exact (List.getElem?_eq_some_iff.1 hx).1
      refine (ih hrest hends).trans ?_
      constructor
      · rintro ⟨_, hq, hbegins⟩
        obtain ⟨p, hp, x, hx, hadmits, rfl⟩ := mem_ends_letter.1 hq
        have hsame := (admits_iff_same (hitems c List.mem_cons_self)
          (hstring x (List.mem_of_getElem? hx))).1 hadmits
        refine ⟨p, hp, begins_letter_iff.2 ⟨x, _, drop_eq_cons_iff.2 ⟨hx, rfl⟩, hsame, ?_⟩⟩
        rwa [List.take_add_one, hx] at hbegins
      · rintro ⟨p, hp, hbegins⟩
        obtain ⟨x, more, hdrop, hsame, hbegins⟩ := begins_letter_iff.1 hbegins
        obtain ⟨hx, rfl⟩ := drop_eq_cons_iff.1 hdrop
        have hadmits := (admits_iff_same (hitems c List.mem_cons_self)
          (hstring x (List.mem_of_getElem? hx))).2 hsame
        refine ⟨p + 1, mem_ends_letter.2 ⟨p, hp, x, hx, hadmits, rfl⟩, ?_⟩
        rwa [List.take_add_one, hx]
    | front =>
      have hregex : Item.regex { flags with } .front = .anchor .textStart := by
        rw [Item.regex, hflags]
        rfl
      have hends : ∀ q ∈ (anchor .textStart).ends string.toArray places, q ≤ string.length :=
        fun q hq => hplaces q (List.mem_of_mem_filter hq)
      rw [List.map_cons, hregex]
      refine (ih hrest hends).trans (exists_congr fun p => ?_)
      rw [begins_front_iff, ← and_assoc]
      refine and_congr_left fun _ => ?_
      constructor
      · intro hp
        exact (mem_ends_textStart (hends p hp)).1 hp
      · intro hp
        exact (mem_ends_textStart (hplaces p hp.1)).2 hp
    | back =>
      have hregex : Item.regex { flags with } .back = .anchor .textEnd := by
        rw [Item.regex, hflags]
        rfl
      have hends : ∀ q ∈ (anchor .textEnd).ends string.toArray places, q ≤ string.length :=
        fun q hq => hplaces q (List.mem_of_mem_filter hq)
      rw [List.map_cons, hregex]
      refine (ih hrest hends).trans (exists_congr fun p => ?_)
      rw [begins_back_iff, ← and_assoc, mem_ends_textEnd]

theorem isMatch_chain (hflags : flags.multiline = false)
    (hitems : ∀ c, .letter c ∈ items → c.toNat < 128) {s : String} (hs : Text.IsAscii s) :
    (chain (items.map (Item.regex { flags with }))).isMatch s = true ↔ Found flags items s.toList := by
  have hrange : ∀ p ∈ List.range (s.toList.length + 1), p ≤ s.toList.length :=
    fun p hp => Nat.le_of_lt_succ (List.mem_range.1 hp)
  rw [isMatch, ends_chain]
  simp only [List.size_toArray, Bool.not_eq_true', List.isEmpty_eq_false_iff_exists_mem]
  rw [exists_mem_reach_iff hflags hitems hs hrange]
  constructor
  · rintro ⟨p, _, h⟩
    exact ⟨_, _, (List.take_append_drop p _).symm, h⟩
  · rintro ⟨before, rest, hcut, h⟩
    refine ⟨before.length, List.mem_range.2 ?_, ?_⟩
    · rw [hcut, List.length_append]
      omega
    · rwa [hcut, List.take_left, List.drop_left]

theorem Plain.isAscii {pattern : List Char} (h : Plain pattern items)
    (hpattern : ∀ c ∈ pattern, c.toNat < 128) : ∀ c, .letter c ∈ items → c.toNat < 128 := by
  intro c hc
  induction h <;> grind

theorem Plain.length_le {pattern : List Char} (h : Plain pattern items) :
    items.length ≤ pattern.length := by
  induction h <;> grind

theorem size_chain_cons (r : Regex) (regexes : List Regex) :
    (chain (r :: regexes)).size = r.size + (chain regexes).size := by
  cases regexes with
  | nil => rfl
  | cons next rest => rfl

theorem le_size_chain (modes : Modes) (items : List Item) :
    32 * items.length ≤ (chain (items.map (Item.regex modes))).size := by
  induction items with
  | nil => exact Nat.zero_le _
  | cons item items ih =>
    have hitem : 32 ≤ (item.regex modes).size := by
      cases item with
      | letter c => exact Nat.le_add_right 32 _
      | front => exact Nat.le_of_eq rfl
      | back => exact Nat.le_of_eq rfl
    rw [List.map_cons, size_chain_cons, List.length_cons]
    omega

/-- An item of ASCII takes up little room. -/
theorem size_item_le (flags : Flags) {item : Item} (hitem : ∀ c, item = .letter c → c.toNat < 128) :
    (item.regex { flags with }).size ≤ 64 := by
  cases item with
  | letter c =>
    rw [Item.regex, letter, size, Modes.fold]
    split <;>
      simp [CharClass.single, CharClass.weight, hitem c rfl]
  | front => exact Nat.le_of_ble_eq_true rfl
  | back => exact Nat.le_of_ble_eq_true rfl

theorem size_chain_le (flags : Flags) (hitems : ∀ c, .letter c ∈ items → c.toNat < 128) :
    (chain (items.map (Item.regex { flags with }))).size ≤ 64 * items.length := by
  induction items with
  | nil => exact Nat.zero_le _
  | cons item items ih =>
    have hitem := size_item_le flags fun c hc => hitems c (hc ▸ List.mem_cons_self)
    have hrest := ih fun c hc => hitems c (List.mem_cons_of_mem _ hc)
    rw [List.map_cons, size_chain_cons, List.length_cons]
    omega

theorem Plain.read {pattern : String} (h : Plain pattern.toList items) (flags : Flags) :
    let r := chain (items.map (Item.regex { flags with }))
    standard.read flags pattern =
      if sizeLimit < r.size then .error (.tooLarge sizeLimit) else .ok r.isMatch := by
  intro r
  have hread : standard.read flags pattern = (Regex.ofPattern flags pattern).map isMatch := rfl
  rw [hread, h.ofPattern flags]
  split <;> rfl

theorem Plain.read_of_tooLong {pattern : String} (h : Plain pattern.toList items) (flags : Flags)
    (hlong : sizeLimit < 32 * items.length) :
    standard.read flags pattern = .error (.tooLarge sizeLimit) := by
  have hle := le_size_chain { flags with } items
  rw [h.read flags]
  exact if_pos (Nat.lt_of_lt_of_le hlong hle)

/-- The standard engine does what is relied on of an engine. -/
theorem standard_documented {room : ℕ} (hroom : 64 * room ≤ sizeLimit) :
    @Engine.Documented standard room where
  refused {flags pattern items refusal} hplain hpattern hread := by
    rw [hplain.read flags] at hread
    split at hread
    case isFalse => cases hread
    case isTrue hsize =>
      cases hread
      have hle := size_chain_le flags (hplain.isAscii hpattern)
      have hlength : items.length ≤ pattern.length := by
        rw [← String.length_toList]
        exact hplain.length_le
      exact ⟨by omega, sizeLimit, rfl⟩
  found_iff {flags pattern items isMatch s} hplain hpattern hs hflags hread := by
    rw [hplain.read flags] at hread
    split at hread
    case isTrue => cases hread
    case isFalse =>
      cases hread
      exact isMatch_chain hflags (hplain.isAscii hpattern) hs

end Regex

end DocStore
