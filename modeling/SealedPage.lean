import SealedPage.Proofs.Flo.Denotation
import SealedPage.Proofs.Flo.Nesting
import SealedPage.Proofs.Render.Streaming
import SealedPage.Proofs.Seal.Containment
import SealedPage.Proofs.Seal.ShellTransport
import SealedPage.Seal.Environment
import SealedPage.Seal.Service
import SealedPage.Proofs.Render.Protocol
import SealedPage.Proofs.Seal.Normalisation
import SealedPage.Proofs.Flo.Quoting
import SealedPage.Proofs.Render.Disclosure
import SealedPage.Proofs.Seal.Listing
import SealedPage.Proofs.Seal.UnsignedPage
import SealedPage.Proofs.Flo.StackIndex
import SealedPage.Proofs.Flo.ScanLoop
import SealedPage.Proofs.Flo.Slots
import SealedPage.Proofs.Seal.Reencoding
import SealedPage.Proofs.Flo.Attributes
import SealedPage.Proofs.Flo.Composition
import SealedPage.Proofs.Seal.Answering
import SealedPage.Proofs.Render.KeyBinding
import SealedPage.Proofs.Render.EventStream
