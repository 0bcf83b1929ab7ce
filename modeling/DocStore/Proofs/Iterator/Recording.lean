import DocStore.Iterator
/-!
The calls that a reader makes of an iterator, and the calls that the iterator makes of its cursor. A
cursor that writes down what it is asked and what it answers is a cursor again, and a reader cannot tell
the two apart.
-/
namespace DocStore

/-- What a reader may call. Every read decodes into a type of its own. -/
inductive ReaderCall : Type 1 where
  | tryNext (α : Type) [Decodable α] (alive : Except StoreError Unit)
  | next {α : Type} [Decodable α] (alive : Except StoreError Unit) (out : α)
  /-- Views the iterator through a new adapter. -/
  | documents
  /-- The next item of the present adapter. -/
  | item (α : Type) [Decodable α] (alive : Except StoreError Unit)
  | count
  | close (alive : Except StoreError Unit)

/-- What became of a call: the answer of the iterator underneath, if it was asked at all, and what the
reader was shown of it. -/
inductive Visit : Type 1 where
  | read {α : Type} (answer : Except Failure (Option α))
  | assigned {α : Type} (out : α) (answer : Except Failure (Option α)) (shown : Bool × α)
  | item {α : Type} (answer : Option (Except Failure (Option α))) (shown : Option (Except Failure α))
  | adapted
  | counted (n : Nat)
  | closed (answer : Except Failure Unit)

/-- An answer of an iterator. -/
inductive Moment : Type 1 where
  | read {α : Type} (answer : Except Failure (Option α))
  | closed (answer : Except Failure Unit)

namespace Visit

def moment : Visit → Option Moment
  | .read answer | .assigned _ answer _ | .item (some answer) _ => some (.read answer)
  | .closed answer => some (.closed answer)
  | .item none _ | .adapted | .counted _ => none

/-- The reader is shown the answer of the iterator: an output argument changes exactly when a document
was read, and an item is there unless there was nothing to read. -/
def Told : Visit → Prop
  | .assigned _ (.ok (some v)) shown => shown = (true, v)
  | .assigned out _ shown => shown = (false, out)
  | .item (some (.ok (some v))) shown => shown = some (.ok v)
  | .item (some (.error e)) shown => shown = some (.error e)
  | .item _ shown => shown = none
  | .read _ | .adapted | .counted _ | .closed _ => True

end Visit

namespace ReaderCall

variable {γ : Type} [Cursor γ]

def on : ReaderCall → Documents γ → Visit × Documents γ
  | @tryNext α _ alive, d =>
    let (answer, it) := d.iterator.tryNext (α := α) alive
    (.read answer, { d with iterator := it })
  | @next _ _ alive out, d =>
    let (moved, after, it) := d.iterator.next alive out
    (.assigned out (d.iterator.tryNext alive).1 (moved, after), { d with iterator := it })
  | .documents, d => (.adapted, ⟨d.iterator, false⟩)
  | @item α _ alive, d =>
    let answer := if d.done then none else some (d.iterator.tryNext (α := α) alive).1
    let (shown, d) := d.next alive
    (.item answer shown, d)
  | .count, d => (.counted d.iterator.buffered, d)
  | .close alive, d =>
    let (answer, it) := d.iterator.close alive
    (.closed answer, { d with iterator := it })

def onAll : List ReaderCall → Documents γ → List Visit × Documents γ
  | [], d => ([], d)
  | call :: calls, d =>
    let (visit, d) := call.on d
    let (visits, d) := onAll calls d
    (visit :: visits, d)

theorem next_told {α : Type} [Decodable α] (alive : Except StoreError Unit) (out : α)
    (d : Documents γ) : ((ReaderCall.next alive out).on d).1.Told := by
  simp only [on, DocumentIterator.next]
  rcases d.iterator.tryNext (α := α) alive with ⟨answer, it⟩
  rcases answer with e | (_ | v) <;> rfl

theorem item_told (α : Type) [Decodable α] (alive : Except StoreError Unit) (d : Documents γ) :
    ((ReaderCall.item α alive).on d).1.Told := by
  simp only [on, Documents.next]
  cases d.done with
  | true => rfl
  | false =>
    rcases d.iterator.tryNext (α := α) alive with ⟨answer, it⟩
    rcases answer with e | (_ | v) <;> rfl

theorem on_told (call : ReaderCall) (d : Documents γ) : (call.on d).1.Told := by
  cases call with
  | next alive out => exact next_told alive out d
  | item α alive => exact item_told α alive d
  | tryNext | documents | count | close => trivial

theorem onAll_told (calls : List ReaderCall) (d : Documents γ) :
    ∀ visit ∈ (onAll calls d).1, visit.Told := by
  induction calls generalizing d with
  | nil => exact nofun
  | cons call calls ih => exact List.forall_mem_cons.2 ⟨on_told call d, ih _⟩

/-- A call asks the iterator for at most one thing. -/
theorem on_cases (call : ReaderCall) (d : Documents γ) :
    ((call.on d).1.moment = none ∧ (call.on d).2.iterator = d.iterator) ∨
    (∃ (α : Type) (_ : Decodable α) (alive : Except StoreError Unit),
      (call.on d).1.moment = some (.read (d.iterator.tryNext (α := α) alive).1) ∧
      (call.on d).2.iterator = (d.iterator.tryNext (α := α) alive).2) ∨
    ∃ alive, (call.on d).1.moment = some (.closed (d.iterator.close alive).1) ∧
      (call.on d).2.iterator = (d.iterator.close alive).2 := by
  cases call with
  | tryNext α alive => exact .inr (.inl ⟨α, _, alive, rfl, rfl⟩)
  | @next α _ alive out =>
    refine .inr (.inl ⟨α, _, alive, rfl, ?_⟩)
    simp only [on, DocumentIterator.next]
    rcases d.iterator.tryNext (α := α) alive with ⟨answer, it⟩
    rcases answer with e | (_ | v) <;> rfl
  | item α alive =>
    simp only [on, Documents.next]
    cases d.done with
    | true => exact .inl ⟨rfl, rfl⟩
    | false =>
      refine .inr (.inl ⟨α, _, alive, rfl, ?_⟩)
      rcases d.iterator.tryNext (α := α) alive with ⟨answer, it⟩
      rcases answer with e | (_ | v) <;> rfl
  | documents | count => exact .inl ⟨rfl, rfl⟩
  | close alive => exact .inr (.inr ⟨alive, rfl, rfl⟩)

end ReaderCall

/-- A call that a cursor has answered. -/
inductive CursorCall where
  | advance (answer : Except StoreError Bool) (current : Option Document)
  | close (answer : Except StoreError Unit)

/-- A cursor with the calls that it has answered. -/
structure Recorded (γ : Type) where
  cursor : γ
  log : List CursorCall := []

namespace Recorded

variable {γ : Type} [Cursor γ]

instance : Cursor (Recorded γ) where
  advance alive c :=
    let (answer, cursor) := Cursor.advance alive c.cursor
    (answer, ⟨cursor, c.log ++ [.advance answer (Cursor.current cursor)]⟩)
  current c := Cursor.current c.cursor
  buffered c := Cursor.buffered c.cursor
  close alive c :=
    let (answer, cursor) := Cursor.close alive c.cursor
    (answer, ⟨cursor, c.log ++ [.close answer]⟩)

theorem close_log (alive : Except StoreError Unit) (c : Recorded γ) :
    (Cursor.close alive c).2.log = c.log ++ [.close (Cursor.close alive c).1] := rfl

end Recorded

namespace DocumentIterator

variable {γ : Type} [Cursor γ]

/-- The calls that the cursor of the iterator has answered. -/
def log (it : DocumentIterator (Recorded γ)) : List CursorCall :=
  (it.cursor <|> it.released).elim [] Recorded.log

/-- The iterator over the same cursor without its record. -/
def forget (it : DocumentIterator (Recorded γ)) : DocumentIterator γ :=
  { it with cursor := it.cursor.map Recorded.cursor, released := it.released.map Recorded.cursor }

theorem read_forget {α : Type} [Decodable α] (alive : Except StoreError Unit) (c : Recorded γ) :
    read (α := α) alive c.cursor = ((read alive c).1, (read (α := α) alive c).2.cursor) := by
  simp only [read, Cursor.advance, Cursor.current]
  rcases Cursor.advance alive c.cursor with ⟨answer, cursor⟩
  rcases answer with e | (_ | _)
  · rfl
  · rfl
  · dsimp only
    cases Cursor.current cursor with
    | none => rfl
    | some d =>
      dsimp only
      cases (Decodable.decode d : Except String α) <;> rfl

theorem release_forget (alive : Except StoreError Unit) (it : DocumentIterator (Recorded γ)) :
    it.forget.release alive = ((it.release alive).1, (it.release alive).2.forget) := by
  rcases it with ⟨_ | c, released, context, state, error⟩ <;> rfl

theorem close_forget (alive : Except StoreError Unit) (it : DocumentIterator (Recorded γ)) :
    it.forget.close alive = ((it.close alive).1, (it.close alive).2.forget) := by
  simp only [close]
  rw [show { it.forget with state := IteratorState.closed }
      = { it with state := .closed : DocumentIterator (Recorded γ) }.forget from rfl, release_forget]

theorem tryNext_forget {α : Type} [Decodable α] (alive : Except StoreError Unit)
    (it : DocumentIterator (Recorded γ)) :
    it.forget.tryNext (α := α) alive = ((it.tryNext alive).1, (it.tryNext (α := α) alive).2.forget) := by
  rcases it with ⟨_ | c, released, context, _ | _ | _ | _, error⟩
  case some.opened =>
    simp only [tryNext, forget, Option.map_some, read_forget (α := α) alive c]
    rcases read (α := α) alive c with ⟨e | (_ | v), c'⟩ <;> rfl
  all_goals rfl

end DocumentIterator

namespace ReaderCall

variable {γ : Type} [Cursor γ]

/-- The view of the iterator over the same cursor without its record. -/
def forget (d : Documents (Recorded γ)) : Documents γ := ⟨d.iterator.forget, d.done⟩

theorem on_forget (call : ReaderCall) (d : Documents (Recorded γ)) :
    call.on (forget d) = ((call.on d).1, forget (call.on d).2) := by
  cases call with
  | tryNext α alive => simp only [on, forget, DocumentIterator.tryNext_forget]
  | @next α _ alive out =>
    simp only [on, forget, DocumentIterator.next, DocumentIterator.tryNext_forget]
    rcases d.iterator.tryNext (α := α) alive with ⟨answer, it⟩
    rcases answer with e | (_ | v) <;> rfl
  | item α alive =>
    rcases d with ⟨it, _ | _⟩
    case true => rfl
    case false =>
      simp only [on, forget, Documents.next, DocumentIterator.tryNext_forget]
      rcases it.tryNext (α := α) alive with ⟨answer, it⟩
      rcases answer with e | (_ | v) <;> rfl
  | documents => rfl
  | count => rcases d with ⟨⟨_ | c, released, context, state, error⟩, done⟩ <;> rfl
  | close alive => simp only [on, forget, DocumentIterator.close_forget]

/-- Readers are shown the same over a cursor that is recorded. -/
theorem onAll_forget (calls : List ReaderCall) (d : Documents (Recorded γ)) :
    onAll calls (forget d) = ((onAll calls d).1, forget (onAll calls d).2) := by
  induction calls generalizing d with
  | nil => rfl
  | cons call calls ih => simp only [onAll, on_forget, ih]

end ReaderCall

end DocStore
