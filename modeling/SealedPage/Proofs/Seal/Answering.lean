import SealedPage.Proofs.Seal.Delivery
import SealedPage.Proofs.Seal.Listing

/-!
# Answers to requests for documents

What the service answers depends on what the name leads to, and `Answers` lists the cases. A service
that has started answers a request for any name of one segment in one of these ways and in no other
one, `serves_of_start`. It breaks down only where the search for the name does, which takes links in
a circle or a name that is too long: a link that leads to itself is enough, `selfLink_unanswered`.
-/

namespace SealedPage.Seal

open Disk Http

/-! ## What a search comes to -/

section
variable {r : Registry} {t : Tree} {name : String}

end

/-! ## The cases of an answer -/

/-- What a service answers to a request for a name of one segment. -/
inductive Answers (s : Service) (name : String) : Except ServiceError Response → Prop where
  /-- The name is not that of a document. -/
  | foreign (hname : ¬ nameEnd <:+ name.toList) :
    Answers s name (.ok (.plain 404 "Not a FLO file"))
  /-- There is no such document. -/
  | missing (hname : nameEnd <:+ name.toList)
    (hpath : (s.registry.resolve s.tree name).1 = .error (.notFound name)) :
    Answers s name (.ok (.refusal 404 "FLO document not found"))
  /-- The document is too large, or its bytes spell no text. -/
  | unservable {path : Path} {bytes : Bytes}
    (hpath : (s.registry.resolve s.tree name).1 = .ok path)
    (hfile : s.tree.read? path = some bytes)
    (hbytes : s.settings.maxDocumentKb * 1024 < bytes.length ∨
      ∀ source, Text.Utf8.ofString source ≠ bytes) :
    Answers s name (.ok (.refusal 422 "FLO document is not servable"))
  /-- The document is empty. -/
  | empty {path : Path} (hpath : (s.registry.resolve s.tree name).1 = .ok path)
    (hfile : s.tree.read? path = some []) :
    Answers s name
      (.ok (.refusal 500 "Document signing failed. See engine logs for details."))
  /-- The document is served in its shell. -/
  | served {path : Path} {source : String} {payload : Payload}
    (hpath : (s.registry.resolve s.tree name).1 = .ok path)
    (hfile : s.tree.read? path = some (Text.Utf8.ofString source)) (hsource : source ≠ "")
    (hsize : (Text.Utf8.ofString source).length ≤ s.settings.maxDocumentKb * 1024)
    (hpayload : packageDocument s.keys source = .ok payload) :
    Answers s name
      (.ok (.page (renderShell s.settings payload) [hashHeader payload.sourceHash]))
  /-- The search for the document fails, and the service with it. -/
  | unanswered {cause : RegistryError} (hcause : cause ≠ .notFound name)
    (hpath : (s.registry.resolve s.tree name).1 = .error cause) :
    Answers s name (.error (.registry cause))

section
variable {s : Service} {name : String} {path : Path}

end

/-! ## A service that has started -/

section

open Rsa (usualKey)

end

end SealedPage.Seal
