import DocStore.Collection.Basic
import DocStore.Store.Calls
import DocStore.Document.Journal
/-!
Saving and deleting objects. The journal of an object is stamped before the object is written; when
writing fails the object is left as it was. Deleting marks the journal and keeps the document.
-/
namespace DocStore.Collection

variable [PersistentObject α]

open PersistentObject (identity journal modifyJournal isNew encode)

def saveLocation : String := "docbridge::Collection::save"

def deleteLocation : String := "docbridge::Collection::delete"

def encodeObject (object : α) : Action Document :=
  match encode object with
  | .ok d => return d
  | .error reason =>
    throw (((Failure.internal saveLocation "unable to encode object").withDetail
      ("target: " ++ PersistentObject.target α)).withCause (.external reason))

variable [Regex.Engine]

def insertObject (c : Collection) (object : α) : Action Unit := do
  let d ← encodeObject object
  let _ ← c.call saveLocation none (Host.insert c.context c.session c.name d) fun e =>
    .ofWrite saveLocation "unable to insert object" e

def replaceObject (c : Collection) (id : ObjectId) (d : Document) : Action Unit := do
  let filter : Document := [("_id", .objectId id)]
  let result ← c.call saveLocation (some filter)
    (Host.replace c.context c.session c.name filter d) fun e =>
      (Failure.ofWrite saveLocation "unable to replace object" e).withDetail (filterDetail filter)
  if result.matched = 0 then
    throw ((Failure.notFound saveLocation "no stored document to replace").withDetail
      (filterDetail filter))

/-- Updates the document with the given identity where it is not marked as deleted. -/
def updateObject (c : Collection) (id : ObjectId) (d : Document) : Action Unit := do
  let filter : Document := [("_id", .objectId id), (Journal.deleteDatePath, .int64 0)]
  let result ← c.call saveLocation (some filter)
    (Host.update c.context c.session c.name filter [("$set", .document (d.erase "_id"))]) fun e =>
      (Failure.ofWrite saveLocation "unable to update object" e).withDetail (filterDetail filter)
  if result.matched = 0 then
    throw ((Failure.notFound saveLocation "no live document to update").withDetail
      (filterDetail filter))

def existingId (object : α) : Action ObjectId :=
  match ObjectId.ofHex? (identity object) with
  | some id => return id
  | none =>
    throw (((Failure.internal saveLocation "invalid object id").withDetail
      ("id: " ++ identity object)).withCause (.external "not an object id"))

def now : StateM Host Int64 := do return Int64.ofNat (← get).timeline.millis

/-- Stamps an object and writes it: a new one is inserted, any other is written by the strategy.
Gives the object as it was written. -/
def write (c : Collection) (object : α) (note : String) : Action α := do
  let now ← now
  let object := modifyJournal (·.updated now note) object
  if isNew object then
    let object := modifyJournal (·.created now note) object
    c.insertObject object
    return object
  else
    let id ← existingId object
    let d ← encodeObject object
    match c.settings.strategy with
    | .replace => c.replaceObject id d
    | .guardedUpdate => c.updateObject id d
    return object

/-- Saves an object, and gives it as it is afterwards. -/
def save (c : Collection) (object : α) (note : String) : StateM Host (Except Failure Unit × α) := do
  match ← (c.write object note).run with
  | .ok object => return (.ok (), object)
  | .error e => return (.error e, object)

/-- Marks an object as deleted and saves it. -/
def delete (c : Collection) (object : α) (note : String) :
    StateM Host (Except Failure Unit × α) := do
  if isNew object then
    return (.error (.badRequest deleteLocation "object has never been saved"), object)
  let now ← now
  match ← c.save (modifyJournal (·.deleted now note) object) note with
  | (.ok (), object) => return (.ok (), object)
  | (.error e, _) => return (.error (e.wrap deleteLocation "unable to delete object"), object)

end DocStore.Collection
