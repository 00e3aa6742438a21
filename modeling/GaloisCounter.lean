import GaloisCounter.Config.Decode
import GaloisCounter.Context.Run
import GaloisCounter.Handle
import GaloisCounter.SelfTest
import GaloisCounter.Proofs.Product
import GaloisCounter.Proofs.Blocks
import GaloisCounter.Proofs.Keystream
import GaloisCounter.Proofs.Session
import GaloisCounter.Proofs.Message
import GaloisCounter.Proofs.Course
import GaloisCounter.Proofs.OneShot
import GaloisCounter.Proofs.Hash
import GaloisCounter.Proofs.Conformance
import GaloisCounter.Proofs.Streaming
import GaloisCounter.Proofs.CipherInputs
import GaloisCounter.Proofs.Irreducible
import GaloisCounter.Proofs.Encoding
import GaloisCounter.Proofs.Universal
import GaloisCounter.Proofs.FieldLaws
import GaloisCounter.Proofs.Rejection
import GaloisCounter.Proofs.History
import GaloisCounter.Proofs.Situation
import GaloisCounter.Proofs.Invariant
import GaloisCounter.Proofs.Lifecycle
import GaloisCounter.Proofs.Tampering
import GaloisCounter.Proofs.Comparison
import GaloisCounter.Proofs.Backends
import GaloisCounter.Proofs.Shapes
import GaloisCounter.Proofs.Handles
import GaloisCounter.Proofs.Bytewise
import GaloisCounter.Proofs.StaleBytes
import GaloisCounter.Proofs.Evaluation
import GaloisCounter.Proofs.Precedence
import GaloisCounter.Proofs.InPlace
import GaloisCounter.Proofs.Guarded
import GaloisCounter.Proofs.Bounds
import GaloisCounter.Proofs.Reversal
import GaloisCounter.Proofs.Policies
import GaloisCounter.Proofs.Settings
import GaloisCounter.Proofs.Decoding
