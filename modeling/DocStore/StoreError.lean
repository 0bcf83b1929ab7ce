/-!
What can go wrong in a store, and in a client of it, and the text of each cause. A write is
rejected and a command fails with a numeric code; a transaction error says whether the same work
may succeed when it is tried again.
-/
namespace DocStore

inductive StoreError where
  | timeout
  | cancelled
  | disconnected
  | connect (reason : String)
  | write (code : Int) (message : String)
  | command (code : Int) (message : String)
  | transaction (message : String) (transient : Bool)
  | encode (reason : String)
  | decode (reason : String)
  | cursorClosed
  | unsupported (feature : String)
deriving DecidableEq, Repr, Inhabited

namespace StoreError

def coded (what : String) (code : Int) (message : String) : String :=
  what ++ " (" ++ toString code ++ "): " ++ message

def message : StoreError → String
  | timeout => "operation exceeded its deadline"
  | cancelled => "operation context was cancelled"
  | disconnected => "client is disconnected"
  | connect reason => "unable to connect: " ++ reason
  | write code text => coded "write rejected" code text
  | command code text => coded "command failed" code text
  | transaction text _ => "transaction error: " ++ text
  | encode reason => "encode error: " ++ reason
  | decode reason => "decode error: " ++ reason
  | cursorClosed => "cursor is closed"
  | unsupported feature => "unsupported: " ++ feature

/-- Whether the store itself refused a write. -/
def isWriteRejection : StoreError → Bool
  | write _ _ => true
  | _ => false

def isTransient : StoreError → Bool
  | transaction _ transient => transient
  | _ => false

/-- Whether the context of the call had ended. -/
def isDeadline : StoreError → Bool
  | timeout | cancelled => true
  | _ => false

/-- A command whose arguments make no sense. -/
def badValue (message : String) : StoreError := .command 2 message

end StoreError

end DocStore
