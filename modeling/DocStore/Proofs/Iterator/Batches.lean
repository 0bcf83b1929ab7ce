import DocStore.Store.Cursor
import DocStore.Context
import Mathlib.Algebra.Order.Floor.Div
/-!
Batches of a cursor over rows. The context is asked for only where a batch begins, so a cursor hands out
its rows in order while the context goes on, and stops at the end of a batch after it has ended.
-/
namespace DocStore.RowCursor

/-- How many rows the batches have that the first `j` rows are handed out from. The first batch is there
from the start. -/
def batchEnd (b j : Nat) : Nat := max b 1 * max 1 (j ⌈/⌉ max b 1)

section BatchEnd

variable (b j : Nat)

theorem batchEnd_zero : batchEnd b 0 = max b 1 := by
  simp [batchEnd]

theorem batchEnd_succ : batchEnd b (j + 1) = max b 1 * (j / max b 1 + 1) := by
  have hpos : 0 < max b 1 := by omega
  have hceil : (j + 1) ⌈/⌉ max b 1 = j / max b 1 + 1 := by
    rw [Nat.ceilDiv_eq_add_pred_div, show j + 1 + max b 1 - 1 = j + max b 1 by omega,
      Nat.add_div_right j hpos]
  rw [batchEnd, hceil, max_eq_right (Nat.le_add_left 1 (j / max b 1))]

theorem le_batchEnd : j ≤ batchEnd b j := by
  cases j with
  | zero => exact Nat.zero_le _
  | succ i =>
    rw [batchEnd_succ]
    exact Nat.lt_mul_div_succ i (by omega)

theorem batchEnd_batchEnd : batchEnd b (batchEnd b j) = batchEnd b j := by
  have hpos : 0 < max b 1 := by omega
  have hceil : batchEnd b j ⌈/⌉ max b 1 = max 1 (j ⌈/⌉ max b 1) := smul_ceilDiv hpos _
  rw [batchEnd, hceil, max_eq_right (le_max_left _ _), batchEnd]

theorem min_batchEnd_le (n : Nat) :
    min n (batchEnd b (min n (batchEnd b j))) ≤ min n (batchEnd b j) := by
  rcases Nat.le_total n (batchEnd b j) with hle | hle
  · rw [Nat.min_eq_left hle]
    exact Nat.min_le_left _ _
  · rw [Nat.min_eq_right hle, batchEnd_batchEnd]
    exact Nat.min_le_right _ _

/-- Only at the end of a batch does another one begin. -/
theorem batchEnd_step :
    batchEnd b (j + 1) = if batchEnd b j = j then j + max b 1 else batchEnd b j := by
  have hpos : 0 < max b 1 := by omega
  rw [batchEnd_succ]
  cases j with
  | zero =>
    rw [batchEnd_zero, if_neg (by omega)]
    simp
  | succ i =>
    -- The quotient grows where a batch is full, and nowhere else.
    rw [batchEnd_succ, Nat.succ_div]
    have hquotient : max b 1 * (i / max b 1 + 1) = i + 1 ↔ max b 1 ∣ i + 1 := by
      constructor
      · exact fun h => ⟨_, h.symm⟩
      · intro hdvd
        have := Nat.mul_div_cancel' hdvd
        rwa [Nat.succ_div, if_pos hdvd] at this
    by_cases hdvd : max b 1 ∣ i + 1
    · rw [if_pos hdvd, if_pos (hquotient.2 hdvd), Nat.mul_add_one, hquotient.2 hdvd]
    · rw [if_neg hdvd, if_neg (mt hquotient.1 hdvd), Nat.add_zero]

theorem batchEnd_le_succ : batchEnd b j ≤ batchEnd b (j + 1) := by
  rw [batchEnd_step]
  split
  · omega
  · exact Nat.le_refl _

theorem batchEnd_mono : Monotone (batchEnd b) := monotone_nat_of_le_succ (batchEnd_le_succ b)

end BatchEnd

/-- A cursor over rows from which `j` of them have been handed out; one more call than there are rows
finds none. -/
def handedOut (b : Nat) (docs : List Document) (j : Nat) : RowCursor where
  pending := docs.drop j
  current := match j with
    | 0 => none
    | i + 1 => docs[i]?
  batchSize := max b 1
  inBatch := min docs.length (batchEnd b j) - j

variable {b j : Nat} {docs : List Document} {alive : Except StoreError Unit} {e : StoreError}

theorem handedOut_zero : handedOut b docs 0 = ofRows b docs := by
  simp [handedOut, ofRows, batchEnd_zero, Nat.min_comm]

/-- A batch is fetched where the one before it ends, and no fetching is needed within it. -/
theorem fetch_handedOut (h : alive = .ok () ∨ j < min docs.length (batchEnd b j)) :
    (handedOut b docs j).fetch alive = .ok { handedOut b docs j with
      inBatch := min docs.length (batchEnd b (j + 1)) - j } := by
  have hle := le_batchEnd b j
  rw [batchEnd_step, fetch]
  by_cases hempty : min docs.length (batchEnd b j) - j = 0
  · have halive : alive = .ok () := h.resolve_right (by omega)
    have hbatch : min (max b 1) (docs.length - j) =
        min docs.length (if batchEnd b j = j then j + max b 1 else batchEnd b j) - j := by
      split <;> omega
    rw [if_pos (by exact hempty), halive, ← hbatch]
    simp [handedOut, bind, Except.bind, pure, Except.pure]
  · have hend : batchEnd b j ≠ j := by omega
    rw [if_neg (by exact hempty), if_neg hend]
    rfl

theorem advance_handedOut (h : alive = .ok () ∨ j < min docs.length (batchEnd b j)) :
    (handedOut b docs j).advance alive =
      (.ok (decide (j < docs.length)), handedOut b docs (j + 1)) := by
  have hopen : ¬(handedOut b docs j).closed = true := nofun
  rw [advance, if_neg hopen, fetch_handedOut h]
  by_cases hj : j < docs.length
  · have hpending : docs.drop j = docs[j] :: docs.drop (j + 1) := List.drop_eq_getElem_cons hj
    simp only [handedOut, hpending]
    simp [hj, Nat.sub_sub]
  · have hpending : docs.drop j = [] := List.drop_eq_nil_of_le (by omega)
    have hdrop : docs.drop (j + 1) = [] := List.drop_eq_nil_of_le (by omega)
    have hbatch : min docs.length (batchEnd b (j + 1)) - j = 0 := by omega
    have hbatch' : min docs.length (batchEnd b (j + 1)) - (j + 1) = 0 := by omega
    simp only [handedOut, hpending]
    simp [hj, hdrop, hbatch, hbatch']

/-- Where a batch would begin, a context that has ended stops the cursor, which stays as it is. -/
theorem advance_handedOut_of_error (halive : alive = .error e)
    (h : min docs.length (batchEnd b j) ≤ j) :
    (handedOut b docs j).advance alive = (.error e, handedOut b docs j) := by
  have hopen : ¬(handedOut b docs j).closed = true := nofun
  have hempty : (handedOut b docs j).inBatch = 0 := Nat.sub_eq_zero_of_le h
  rw [advance, if_neg hopen, fetch, if_pos hempty, halive]
  rfl

/-- A cursor after some calls, each of which is told whether the context goes on at its time. -/
def advanced (alive : Nat → Except StoreError Unit) (c : RowCursor) : Nat → RowCursor
  | 0 => c
  | j + 1 => ((advanced alive c j).advance (alive j)).2

variable {alive : Nat → Except StoreError Unit}

theorem advanced_ofRows
    (h : ∀ i < j, alive i = .ok () ∨ i < min docs.length (batchEnd b i)) :
    advanced alive (ofRows b docs) j = handedOut b docs j := by
  induction j with
  | zero => exact handedOut_zero.symm
  | succ j ih =>
    rw [advanced, ih fun i hi => h i (by omega), advance_handedOut (h j (by omega))]

/-- In a context that goes on all rows are handed out in order, and then none. -/
theorem advance_advanced (hlive : ∀ i, alive i = .ok ()) (b : Nat) (docs : List Document) (j : Nat) :
    (advanced alive (ofRows b docs) j).advance (alive j) =
      (.ok (decide (j < docs.length)), handedOut b docs (j + 1)) := by
  rw [advanced_ofRows fun i _ => .inl (hlive i), advance_handedOut (.inl (hlive j))]

section Ended

variable {k : Nat} (hlive : ∀ i < k, alive i = .ok ()) (hended : ∀ i, k ≤ i → alive i = .error e)

include hlive

/-- After a context has ended the present batch is handed out. -/
theorem advanced_of_ended (hj : j ≤ min docs.length (batchEnd b k)) :
    advanced alive (ofRows b docs) j = handedOut b docs j := by
  apply advanced_ofRows
  intro i hi
  by_cases hik : i < k
  · exact .inl (hlive i hik)
  · -- The batch that was fetched before the context ended reaches beyond this row.
    have hmono := batchEnd_mono b (Nat.le_of_not_lt hik)
    exact .inr (by omega)

theorem advance_of_ended (hj : j < min docs.length (batchEnd b k)) :
    (advanced alive (ofRows b docs) j).advance (alive j) =
      (.ok true, handedOut b docs (j + 1)) := by
  have hlater := advanced_of_ended hlive (Nat.le_of_lt hj)
  have hadvance : alive j = .ok () ∨ j < min docs.length (batchEnd b j) := by
    by_cases hjk : j < k
    · exact .inl (hlive j hjk)
    · have hmono := batchEnd_mono b (Nat.le_of_not_lt hjk)
      exact .inr (by omega)
  rw [hlater, advance_handedOut hadvance, decide_eq_true (by omega)]

include hended

/-- At the end of the batch the cursor stops for good. -/
theorem advanced_of_stopped (hk : k ≤ docs.length) (hj : min docs.length (batchEnd b k) ≤ j) :
    advanced alive (ofRows b docs) j = handedOut b docs (min docs.length (batchEnd b k)) := by
  obtain ⟨i, rfl⟩ := Nat.exists_eq_add_of_le hj
  have hbatch := le_batchEnd b k
  induction i with
  | zero => exact advanced_of_ended hlive (Nat.le_refl _)
  | succ i ih =>
    rw [← Nat.add_assoc, advanced, ih (by omega),
      advance_handedOut_of_error (hended _ (by omega)) (min_batchEnd_le b k _)]

theorem advance_of_stopped (hk : k ≤ docs.length) (hj : min docs.length (batchEnd b k) ≤ j) :
    (advanced alive (ofRows b docs) j).advance (alive j) =
      (.error e, handedOut b docs (min docs.length (batchEnd b k))) := by
  have hbatch := le_batchEnd b k
  rw [advanced_of_stopped hlive hended hk hj,
    advance_handedOut_of_error (hended j (by omega)) (min_batchEnd_le b k _)]

end Ended

section Live

variable {c : RowCursor} {d : Document} {rest : List Document}

theorem fetch_live (c : RowCursor) : ∃ n, c.fetch (.ok ()) = .ok { c with inBatch := n } := by
  unfold fetch
  split
  · exact ⟨_, rfl⟩
  · exact ⟨c.inBatch, rfl⟩

theorem advance_live_of_nil (hopen : c.closed = false) (hrows : c.pending = []) :
    ∃ c', c.advance (.ok ()) = (.ok false, c') := by
  obtain ⟨n, hfetch⟩ := fetch_live c
  rw [advance, if_neg (ne_true_of_eq_false hopen), hfetch]
  simp only [hrows]
  exact ⟨_, rfl⟩

theorem advance_live_of_cons (hopen : c.closed = false) (hrows : c.pending = d :: rest) :
    ∃ c', c.advance (.ok ()) = (.ok true, c') ∧
      c'.closed = false ∧ c'.pending = rest ∧ c'.current = some d := by
  obtain ⟨n, hfetch⟩ := fetch_live c
  rw [advance, if_neg (ne_true_of_eq_false hopen), hfetch]
  simp only [hrows]
  exact ⟨_, rfl, hopen, rfl, rfl⟩

end Live

/-- A fetched batch is not empty while there are rows. -/
theorem inBatch_pos_of_fetch {alive : Except StoreError Unit} {c fetched : RowCursor}
    (hsize : 0 < c.batchSize) (h : c.fetch alive = .ok fetched) (hrows : fetched.pending ≠ []) :
    0 < fetched.inBatch := by
  unfold fetch at h
  split at h
  · cases alive with
    | error e => cases h
    | ok u =>
      cases h
      have := List.length_pos_of_ne_nil hrows
      dsimp only at this ⊢
      omega
  · cases h
    omega

theorem batchSize_advance (alive : Except StoreError Unit) (c : RowCursor) :
    (c.advance alive).2.batchSize = c.batchSize := by
  unfold advance fetch
  split
  · rfl
  · split
    · rfl
    · rename_i c' hfetch
      have hsize : c'.batchSize = c.batchSize := by
        split at hfetch
        · cases alive <;> cases hfetch
          rfl
        · cases hfetch
          rfl
      split <;> exact hsize

theorem batchSize_advanced (alive : Nat → Except StoreError Unit) (c : RowCursor) (j : Nat) :
    (advanced alive c j).batchSize = c.batchSize := by
  induction j with
  | zero => rfl
  | succ j ih => rw [advanced, batchSize_advance, ih]

end DocStore.RowCursor
