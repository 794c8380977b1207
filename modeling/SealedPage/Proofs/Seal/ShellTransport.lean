import SealedPage.Proofs.Seal.Delivery
import SealedPage.Proofs.Seal.ShellPage

/-!
# The shell carries what is packed

A shell is read as one tree, whose shape does not depend on what is put into it; and the three texts
of a payload are found in it as they were, if each of them stands in a page as it is:
`shell_carries`. All that is packed with keys that were built is of this kind.
-/

namespace SealedPage.Seal

open Html Text
open Render (Config Carries readTriple)

/-- A text that stands in a page as it is: it has no special character, and neither is it empty nor
are there blanks at its ends. -/
structure IsCarried (text : String) : Prop where
  nonempty : text ≠ ""
  plain : ∀ c ∈ text.toList, c ∉ specials
  trimmed : trim text.toList = text.toList

/-- All three texts of a payload stand in a page as they are. -/
structure Payload.IsCarried (p : Payload) : Prop where
  source : Seal.IsCarried p.source
  signature : Seal.IsCarried p.signature
  publicPem : Seal.IsCarried p.publicPem

/-! ## Texts in the tree -/

theorem isBlank_of_isAsciiSpace {c : Char} (h : isAsciiSpace c) : isBlank c := by
  simp only [isAsciiSpace, Bool.or_eq_true, beq_iff_eq] at h
  rcases h with (((rfl | rfl) | rfl) | rfl) | rfl <;> rfl

/-- Trimming white space leaves nothing. -/
theorem trim_eq_nil {s : List Char} (h : ∀ c ∈ s, isBlank c) : trim s = [] := by
  have hdrop : s.dropWhile isBlank = [] := List.dropWhile_eq_nil_iff.2 h
  rw [trim, hdrop]
  rfl

/-- A text that is carried is the text of its element. -/
theorem IsCarried.textContent_node {text : String} (h : IsCarried text) (k : Carrier) :
    (k.node text).textContent = text := by
  have hne : text.toList ≠ [] := by
    rw [ne_eq, String.toList_eq_nil_iff]
    exact h.nonempty
  have hspace : text.toList.all isAsciiSpace = false := by
    rw [Bool.eq_false_iff]
    intro hall
    have htrim := trim_eq_nil fun c hc => isBlank_of_isAsciiSpace (List.all_eq_true.1 hall c hc)
    exact hne (h.trimmed.symm.trans htrim)
  rw [Carrier.node, escaped_of_forall_not_mem h.plain, Builder.textNodes, if_neg hne,
    collapseSpace, hspace, if_neg Bool.false_ne_true, String.ofList_toList, Node.textContent,
    Node.onlyText?]

/-- Each carrier is found by its id: neither the title nor an address can stand in its place. -/
theorem findById?_shellTree (s : Settings) (p : Payload) :
    (shellTree s p).findById? "flo-payload" = some (Carrier.payload.node p.source) ∧
      (shellTree s p).findById? "flo-signature" = some (Carrier.signature.node p.signature) ∧
      (shellTree s p).findById? "flo-public-pem" = some (Carrier.publicPem.node p.publicPem) := by
  refine ⟨?_, ?_, ?_⟩ <;>
    simp [Document.findById?, shellTree, findIn?, Node.find?, findIn?_textNodes, Carrier.node,
      Carrier.payload, Carrier.signature, Carrier.publicPem, lineBreak, List.lookup_cons]

/-- A text that is carried in an element that is found by an id is carried under the id. -/
theorem IsCarried.carries {text id : String} (h : IsCarried text) {k : Carrier} {page : Document}
    (hfind : page.findById? id = some (k.node text)) : Carries page id text := by
  refine ⟨⟨k.node text, hfind, ?_⟩, h.nonempty⟩
  rw [h.textContent_node, h.trimmed, String.ofList_toList]

/-- The texts that are carried are the texts that are read. -/
theorem Payload.IsCarried.readTriple_eq {p : Payload} (h : p.IsCarried) (s : Settings) {c : Config}
    (hpayload : c.payloadId = "flo-payload") (hsignature : c.signatureId = "flo-signature")
    (hpublicKey : c.publicKeyId = "flo-public-pem") :
    readTriple (shellTree s p) c = .ok ⟨p.source, p.signature, p.publicPem⟩ := by
  obtain ⟨hfindPayload, hfindSignature, hfindKey⟩ := findById?_shellTree s p
  rw [← hpayload] at hfindPayload
  rw [← hsignature] at hfindSignature
  rw [← hpublicKey] at hfindKey
  exact Render.readTriple_of_transports
    ⟨h.source.carries hfindPayload, h.signature.carries hfindSignature,
      h.publicPem.carries hfindKey⟩

/-! ## What is packed -/

/-- A text with no white space at its ends is not trimmed. -/
theorem trim_eq_self {s : List Char} (hfirst : Stops isBlank s) (hlast : Stops isBlank s.reverse) :
    trim s = s := by
  have hfront := dropWhile_append_of_stops (List.forall_mem_nil _) hfirst
  have hback := dropWhile_append_of_stops (List.forall_mem_nil _) hlast
  rw [List.nil_append] at hfront hback
  rw [trim, hfront, hback, List.reverse_reverse]

/-- Encoded bytes need no escape. -/
theorem not_mem_specials_of_isBase64Char {c : Char} (h : Codec.Base64.isBase64Char c) :
    c ∉ specials := by
  intro hc
  have hall : specials.all fun c => !Codec.Base64.isBase64Char c := by decide
  have hnot := List.all_eq_true.1 hall c hc
  rw [h] at hnot
  exact Bool.false_ne_true hnot

/-- Base64 stands in a page as it is. -/
theorem isCarried_encode {bytes : Bytes} (h : bytes ≠ []) :
    IsCarried (String.ofList (Codec.Base64.encode bytes)) := by
  have hchars : ∀ c ∈ Codec.Base64.encode bytes, Codec.Base64.isBase64Char c :=
    fun c hc => Codec.Base64.isBase64Char_of_mem_encode hc
  have hblank : ∀ s : List Char, (∀ c ∈ s, Codec.Base64.isBase64Char c) → Stops isBlank s :=
    fun s hs c hc => Codec.Base64.isBlank_of_isBase64Char (hs c (List.mem_of_mem_head? hc))
  constructor
  · intro hempty
    have hlist := congrArg String.toList hempty
    rw [String.toList_ofList] at hlist
    exact Codec.Base64.encode_ne_nil h hlist
  · rw [String.toList_ofList]
    exact fun c hc => not_mem_specials_of_isBase64Char (hchars c hc)
  · rw [String.toList_ofList]
    exact trim_eq_self (hblank _ hchars) (hblank _ fun c hc => hchars c (List.mem_reverse.1 hc))

/-- A public key in armour stands in a page as it is. -/
theorem isCarried_armouredKey (bytes : Bytes) :
    IsCarried (String.ofList (Render.armouredKey bytes)) := by
  obtain ⟨⟨cs, hfront⟩, ds, hback⟩ := Render.armouredKey_ends bytes
  constructor
  · intro hempty
    have hlist := congrArg String.toList hempty
    rw [String.toList_ofList, hfront] at hlist
    exact absurd hlist (by simp)
  · have hbegin : "-----BEGIN PUBLIC KEY-----".toList.all (· ∉ specials) := by decide
    have hend : "-----END PUBLIC KEY-----".toList.all (· ∉ specials) := by decide
    rw [String.toList_ofList, Render.armouredKey_eq]
    intro c hc
    simp only [List.mem_append, List.mem_cons] at hc
    rcases hc with hc | (rfl | hc) | hc
    · exact of_decide_eq_true (List.all_eq_true.1 hbegin c hc)
    · decide
    · rcases Key.Pem.mem_armoured hc with rfl | hc
      · decide
      · exact not_mem_specials_of_isBase64Char hc
    · exact of_decide_eq_true (List.all_eq_true.1 hend c hc)
  · rw [String.toList_ofList]
    refine trim_eq_self ?_ ?_
    · rw [hfront]
      exact stops_cons.2 rfl
    · rw [hback, List.reverse_append]
      exact stops_cons.2 rfl

/-- A text that is not empty has bytes. -/
theorem ofString_ne_nil {source : String} (h : source ≠ "") : Utf8.ofString source ≠ [] := by
  intro hnil
  exact h (Utf8.eq_of_ofString_eq (hnil.trans (rfl : [] = Utf8.ofString "")))

/-- Nothing is packed of an empty document. -/
theorem source_ne_empty_of_packageDocument {m : Key.Material} {source : String} {p : Payload}
    (h : packageDocument m source = .ok p) : source ≠ "" := by
  rintro rfl
  simp [packageDocument, signSource, requireSource, Datum.text, bind, Except.bind, Except.map] at h

/-- What is packed with keys that are made from one key is carried. -/
theorem isCarried_of_packageDocument {m : Key.Material} (hm : m.OfKey) {source : String}
    {p : Payload} (h : packageDocument m source = .ok p) : p.IsCarried := by
  have hsource := source_ne_empty_of_packageDocument h
  obtain ⟨signature, hsignature⟩ := exists_signBytes hm.leastBits_le (Utf8.ofString source)
  have hlength := length_of_signBytes hsignature
  have hleast := leastBlock_le hm.leastBits_le
  rw [packageDocument_eq hsource hsignature] at h
  obtain rfl := Except.ok.inj h
  rw [Rsa.leastBlock] at hleast
  constructor
  · exact isCarried_encode (ofString_ne_nil hsource)
  · exact isCarried_encode (List.ne_nil_of_length_pos (by omega))
  · dsimp only
    rw [hm.publicPem_eq, Key.publicPem, Render.trim_write]
    exact isCarried_armouredKey _

/-! ## Every shell -/

/-- A shell is read as one tree. Its shape is that of the template, whatever the title, the
addresses and the payload are; the texts of a payload that is carried are read as they were; and
what is packed with keys that were built is carried. -/
theorem shell_carries (s : Settings) (p : Payload) :
    Document.ofString (renderShell s p) = .ok (shellTree s p) ∧
      shapesIn (shellTree s p) = shellShape ∧
      (p.IsCarried → ∀ c : Config, c.payloadId = ({} : Config).payloadId →
        c.signatureId = ({} : Config).signatureId → c.publicKeyId = ({} : Config).publicKeyId →
          readTriple (shellTree s p) c = .ok ⟨p.source, p.signature, p.publicPem⟩) ∧
      ∀ (privateText publicText : String) (passphrase : Option String) (m : Key.Material)
        (source : String), Key.Material.build privateText publicText passphrase = .ok m →
          packageDocument m source = .ok p → p.IsCarried :=
  ⟨ofString_renderShell s p, shapesIn_shellTree s p,
    fun hp _ hpayload hsignature hpublicKey => hp.readTriple_eq s hpayload hsignature hpublicKey,
    fun _ _ _ _ _ hm => isCarried_of_packageDocument (Key.Material.ofKey_of_build hm)⟩

/-- Settings whose title and addresses try to write markup. -/
def forgedSettings : Settings where
  privateKeyPath := "private.pem"
  publicKeyPath := "public.pem"
  documents := ["documents"]
  shellTitle := "</title><script id=\"flo-payload\">QQ==</script>&lt;"
  stylesheetUrl := "x\" id=\"flo-signature\"><body>&amp"
  scriptUrl := "'><script id='flo-public-pem'>"

/-- A document that is packed comes through a shell whose title and addresses try to replace it. -/
theorem shell_carries_forged :
    ∃ p, Key.Material.build (Key.privatePem Rsa.usualKey) (Key.publicPem Rsa.usualKey.publicKey)
          none = .ok (.ofKey Rsa.usualKey) ∧
      packageDocument (.ofKey Rsa.usualKey) "<flo:main>Hi</flo:main>" = .ok p ∧ p.IsCarried ∧
      Document.ofString (renderShell forgedSettings p) = .ok (shellTree forgedSettings p) ∧
      shapesIn (shellTree forgedSettings p) = shellShape ∧
      readTriple (shellTree forgedSettings p) {} = .ok ⟨p.source, p.signature, p.publicPem⟩ := by
  have hm := Key.Material.build_texts Rsa.isConsistent_usualKey (by decide +kernel)
    (by decide +kernel) length_usualKey (shellKey_ne_empty Rsa.usualKey)
  obtain ⟨signature, hsignature⟩ :=
    exists_signBytes (Key.Material.ofKey_of_build hm).leastBits_le
      (Utf8.ofString "<flo:main>Hi</flo:main>")
  have hpacked := packageDocument_eq (by decide) hsignature
  obtain ⟨hread, hshape, htriple, hcarried⟩ := shell_carries forgedSettings _
  have hp := hcarried _ _ _ _ _ hm hpacked
  exact ⟨_, hm, hpacked, hp, hread, hshape, htriple hp {} rfl rfl rfl⟩

end SealedPage.Seal
