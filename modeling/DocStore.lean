import DocStore.Configuration.Loading
import DocStore.Document.Record
import DocStore.Expression.Json
import DocStore.Logging.Layout
import DocStore.Outline
import DocStore.Proofs.Collection.Attempts
import DocStore.Proofs.Collection.ReadBack
import DocStore.Proofs.Document.Unreported
import DocStore.Proofs.Expression.Compilation
import DocStore.Proofs.Store.Conflicts
import DocStore.Proofs.Store.UniqueIds
import DocStore.Proofs.Transaction.DeleteWins
import DocStore.Proofs.Transaction.Retry
import DocStore.Query.OptionJson
import DocStore.Unicode.Script
import DocStore.Proofs.Iterator.LifeCycle
import DocStore.Proofs.Collection.Streaming
import DocStore.Proofs.Store.Selection
import DocStore.Proofs.Collection.Selection
import DocStore.Proofs.Collection.FieldSelection
import DocStore.Proofs.Document.Kept
import DocStore.Proofs.Document.Lens
import DocStore.Proofs.Expression.Builders
import DocStore.Proofs.Collection.Reporting
import DocStore.Proofs.Collection.Guarding
import DocStore.Proofs.Expression.Encoding
import DocStore.Proofs.Transaction.OutlivedSessions
import DocStore.Proofs.Transaction.TimedCommands
import DocStore.Proofs.Document.Ordering
import DocStore.Proofs.Filter.Trichotomy
import DocStore.Proofs.Expression.IllTyped
import DocStore.Proofs.Expression.Searches
import DocStore.Proofs.Store.IntegerIdentities
import DocStore.Proofs.Filter.ArrayEquality
import DocStore.Proofs.Expression.Memberships
import DocStore.Proofs.Document.StableSorting
import DocStore.Proofs.Store.TopRows
import DocStore.Proofs.Collection.Counters
import DocStore.Proofs.Document.Replay
import DocStore.Proofs.Collection.Retried
import DocStore.Proofs.Filter.Folding
import DocStore.Proofs.Store.CaseBlind
import DocStore.Proofs.Query.Overwriting
import DocStore.Proofs.Store.ScriptedFailures
import DocStore.Proofs.Context.Trees
import DocStore.Proofs.Filter.Regrouping
import DocStore.Proofs.Query.Fingerprints
