/-!
Tables over all code points, written as runs: labels with the lengths of their runs, from zero
upwards. A table keeps where each run starts, and a look-up is a binary search.
-/
namespace DocStore.Unicode

structure RunTable (α : Type) where
  starts : Array Nat
  labels : Array α

namespace RunTable

/-- Splits `Lu26Sk6` into labels and lengths: letters, then digits. -/
def parse (cs : List Char) (label : List Char) (length : Nat) (inLength : Bool)
    (done : List (String × Nat)) : List (String × Nat) :=
  match cs with
  | [] => ((String.ofList label.reverse, length) :: done).reverse
  | c :: rest =>
    if c.isDigit then
      parse rest label (10 * length + (c.toNat - '0'.toNat)) true done
    else if inLength then
      parse rest [c] 0 false ((String.ofList label.reverse, length) :: done)
    else parse rest (c :: label) length false done

def ofRuns (runs : List (α × Nat)) : RunTable α :=
  let (_, starts, labels) := runs.foldl
    (fun (start, starts, labels) (label, length) =>
      (start + length, starts.push start, labels.push label)) (0, #[], #[])
  { starts, labels }

def ofText (text : String) (label : String → α) : RunTable α :=
  ofRuns ((parse text.toList [] 0 false []).map fun (name, length) => (label name, length))

/-- The last index in `[low, high)` whose start is not after `c`, given one at `low`. -/
def search (starts : Array Nat) (c low high : Nat) : Nat → Nat
  | 0 => low
  | fuel + 1 =>
    if high ≤ low + 1 then low
    else
      let middle := (low + high) / 2
      match starts[middle]? with
      | some start => if start ≤ c then search starts c middle high fuel
        else search starts c low middle fuel
      | none => low

def find? (table : RunTable α) (c : Nat) : Option α :=
  table.labels[search table.starts c 0 table.starts.size 32]?

end RunTable

/-- Membership in a list of closed intervals of code points. -/
def inRanges (ranges : List (Nat × Nat)) (c : Nat) : Bool :=
  ranges.any fun (first, last) => decide (first ≤ c ∧ c ≤ last)

end DocStore.Unicode
