import BindingStore.Log.Logger
import BindingStore.ScopePath.Digest
import BindingStore.Session
import BindingStore.Proofs.Ancestors
import BindingStore.Proofs.Broadcast
import BindingStore.Proofs.Carried
import BindingStore.Proofs.Concatenation
import BindingStore.Proofs.ConstructedPaths
import BindingStore.Proofs.Declarations
import BindingStore.Proofs.Delimiting
import BindingStore.Proofs.Digests
import BindingStore.Proofs.Displays
import BindingStore.Proofs.Documents
import BindingStore.Proofs.Equality
import BindingStore.Proofs.Filters
import BindingStore.Proofs.Growth
import BindingStore.Proofs.History
import BindingStore.Proofs.Indices
import BindingStore.Proofs.Kinds
import BindingStore.Proofs.NormalPaths
import BindingStore.Proofs.Rereading
import BindingStore.Proofs.RoundTrip
import BindingStore.Proofs.Run
import BindingStore.Proofs.Separation
import BindingStore.Proofs.Sessions
import BindingStore.Proofs.SharedTexts
import BindingStore.Proofs.Signatures
import BindingStore.Proofs.Transcript
import BindingStore.Proofs.Trimming
import BindingStore.Proofs.VacantTexts
import BindingStore.Proofs.Words
