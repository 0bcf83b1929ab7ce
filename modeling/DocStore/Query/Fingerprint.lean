import DocStore.Value.Text
import DocStore.Text.Sha256
/-!
Fingerprints of filters, by which slow calls are grouped without showing the values in a filter.
-/
namespace DocStore

def Document.fingerprint (d : Document) : String := Sha256.hexDigest d.text

end DocStore
