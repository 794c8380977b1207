import SealedPage.Proofs.Html.Body
import SealedPage.Proofs.Text.Run
import SealedPage.Proofs.Text.Utf8
import SealedPage.Render.Pipeline

/-!
# The stages of a render

What each stage of a render demands is said here without the code that checks it: that the page
carries a triple, `Transports`, that texts decode, `Decodes`, that a key is loaded, `Loads`, and
that the page takes the fragment, `Takes`. For each stage there are three facts: what it reads is
unique, it passes when its demand is met, and otherwise it fails with a cause of a certain kind.
-/

namespace SealedPage.Render

open Text

/-! ## The transport -/

/-- A page carries a text: the first element with the id has it, up to blanks at its ends, and it is
not empty. -/
structure Carries (page : Html.Document) (id text : String) : Prop where
  element : ∃ e, page.findById? id = some e ∧ text = String.ofList (trim e.textContent.toList)
  nonempty : text ≠ ""

/-- A page carries the three texts. -/
structure Transports (c : Config) (page : Html.Document) (t : Triple) : Prop where
  payload : Carries page c.payloadId t.payload
  signature : Carries page c.signatureId t.signature
  publicKey : Carries page c.publicKeyId t.publicKey

/-- A page carries the text that is read from it, unless that is empty. -/
theorem carries_iff {page : Html.Document} {id text : String} :
    Carries page id text ↔ transportText page id = text ∧ text ≠ "" := by
  unfold transportText
  cases hfind : page.findById? id with
  | none =>
    constructor
    · rintro ⟨⟨e, he, -⟩, -⟩
      rw [hfind] at he
      simp at he
    · rintro ⟨rfl, hne⟩
      exact absurd rfl hne
  | some e =>
    constructor
    · rintro ⟨⟨e', he, rfl⟩, hne⟩
      rw [hfind] at he
      obtain rfl := Option.some.inj he
      exact ⟨rfl, hne⟩
    · rintro ⟨rfl, hne⟩
      exact ⟨⟨e, hfind, rfl⟩, hne⟩

theorem Carries.eq {page : Html.Document} {id text text' : String} (h : Carries page id text)
    (h' : Carries page id text') : text = text' :=
  (carries_iff.1 h).1.symm.trans (carries_iff.1 h').1

theorem Transports.eq {c : Config} {page : Html.Document} {t t' : Triple}
    (h : Transports c page t) (h' : Transports c page t') : t = t' := by
  obtain ⟨payload, signature, publicKey⟩ := t
  obtain rfl : payload = _ := h.payload.eq h'.payload
  obtain rfl : signature = _ := h.signature.eq h'.signature
  obtain rfl : publicKey = _ := h.publicKey.eq h'.publicKey
  rfl

/-- The triple that a page carries is read. -/
theorem readTriple_of_transports {c : Config} {page : Html.Document} {t : Triple}
    (h : Transports c page t) : readTriple page c = .ok t := by
  obtain ⟨payload, signature, publicKey⟩ := t
  obtain ⟨⟨hpayload, hpayload'⟩, ⟨hsignature, hsignature'⟩, ⟨hkey, hkey'⟩⟩ :=
    And.intro (carries_iff.1 h.payload) (And.intro (carries_iff.1 h.signature)
      (carries_iff.1 h.publicKey))
  have hnone : [c.payloadId, c.signatureId, c.publicKeyId].filter
      (fun id => (transportText page id).isEmpty) = [] := by
    rw [List.filter_eq_nil_iff]
    simp [hpayload, hsignature, hkey, hpayload', hsignature', hkey']
  unfold readTriple
  dsimp only
  rw [hnone]
  simp [hpayload, hsignature, hkey]

/-- A page with no triple misses input. -/
theorem readTriple_of_not {c : Config} {page : Html.Document}
    (h : ¬ ∃ t, Transports c page t) :
    ∃ cause, readTriple page c = .error cause ∧ cause.kind = .missingInput := by
  unfold readTriple
  dsimp only
  split
  · rename_i hnone
    rw [List.filter_eq_nil_iff] at hnone
    simp only [List.mem_cons, List.not_mem_nil, or_false, forall_eq_or_imp, forall_eq,
      String.isEmpty_iff] at hnone
    obtain ⟨hpayload, hsignature, hkey⟩ := hnone
    exact absurd ⟨⟨transportText page c.payloadId, transportText page c.signatureId,
      transportText page c.publicKeyId⟩, carries_iff.2 ⟨rfl, hpayload⟩,
      carries_iff.2 ⟨rfl, hsignature⟩, carries_iff.2 ⟨rfl, hkey⟩⟩ h
  · exact ⟨_, rfl, rfl⟩

/-- What is left of a text without the blanks at its ends is not blank. -/
theorem all_isBlank_trim {cs : List Char} (h : trim cs ≠ []) : (trim cs).all isBlank = false := by
  -- the last of the characters that are left is the first that the second pass stops at
  unfold trim at h ⊢
  generalize (cs.dropWhile isBlank).reverse = rest at h ⊢
  rw [List.all_reverse]
  cases hrest : rest.dropWhile isBlank with
  | nil =>
    rw [hrest] at h
    exact absurd rfl h
  | cons d ds =>
    have hstop := stops_dropWhile isBlank rest
    rw [hrest] at hstop
    rw [List.all_cons, stops_cons.1 hstop, Bool.false_and]

/-- A text that is carried is not blank. -/
theorem Carries.all_isBlank {page : Html.Document} {id text : String} (h : Carries page id text) :
    text.toList.all isBlank = false := by
  obtain ⟨⟨e, -, rfl⟩, hne⟩ := h
  rw [String.toList_ofList]
  exact all_isBlank_trim fun hnil => hne (by rw [hnil])

/-! ## Base64 -/

/-- A text is base64 of some bytes, at least one; blanks in it do not count. -/
structure Decodes (text : String) (bytes : Bytes) : Prop where
  read : Codec.Base64.decode (dropBlanks text.toList) = .ok bytes
  nonempty : bytes ≠ []

theorem Decodes.eq {text : String} {bytes bytes' : Bytes} (h : Decodes text bytes)
    (h' : Decodes text bytes') : bytes = bytes' :=
  Except.ok.inj (h.read.symm.trans h'.read)

theorem decodeBase64_of_decodes {text : String} {bytes : Bytes} (h : Decodes text bytes)
    (part : Part) : decodeBase64 part text = .ok bytes := by
  unfold decodeBase64
  rw [h.read]
  have hne := h.nonempty
  cases bytes with
  | nil => exact absurd rfl hne
  | cons b bytes => rfl

/-- A text that does not decode is malformed input. -/
theorem decodeBase64_of_not {text : String} (h : ¬ ∃ bytes, Decodes text bytes) (part : Part) :
    ∃ cause, decodeBase64 part text = .error cause ∧ cause.kind = .malformedInput := by
  unfold decodeBase64
  cases hread : Codec.Base64.decode (dropBlanks text.toList) with
  | error e => exact ⟨_, rfl, rfl⟩
  | ok bytes =>
    cases bytes with
    | nil => exact ⟨_, rfl, rfl⟩
    | cons b bytes => exact absurd ⟨b :: bytes, hread, by simp⟩ h

/-! ## The key -/

/-- A text without the marks of a public key. -/
def withoutArmour (pem : String) : String :=
  String.ofList (dropArmourFrom [] 0 pem.toList)

/-- A text is that of an RSA key. -/
def Loads (pem : String) (key : Rsa.PublicKey) : Prop :=
  ∃ der, Decodes (withoutArmour pem) der ∧ Key.publicKeyOfDer? der = some (.rsa key)

theorem Loads.eq {pem : String} {key key' : Rsa.PublicKey} (h : Loads pem key)
    (h' : Loads pem key') : key = key' := by
  obtain ⟨der, hder, hkey⟩ := h
  obtain ⟨der', hder', hkey'⟩ := h'
  obtain rfl := hder.eq hder'
  rw [hkey] at hkey'
  exact Key.PublicKey.rsa.inj (Option.some.inj hkey')

theorem loadKey_of_loads {pem : String} {key : Rsa.PublicKey} (h : Loads pem key)
    (hpem : pem.toList.all isBlank = false) : Verifier.loadKey pem = .ok key := by
  obtain ⟨der, hder, hkey⟩ := h
  have hread : publicKeyBytes pem = .ok der := decodeBase64_of_decodes hder .publicKey
  simp [Verifier.loadKey, hpem, hread, hkey]

/-- A text that loads no key is malformed input. -/
theorem loadKey_of_not {pem : String} (h : ¬ ∃ key, Loads pem key)
    (hpem : pem.toList.all isBlank = false) :
    ∃ cause, Verifier.loadKey pem = .error cause ∧ cause.kind = .malformedInput := by
  unfold Verifier.loadKey
  rw [hpem, if_neg (by simp)]
  by_cases hder : ∃ der, Decodes (withoutArmour pem) der
  -- bytes that hold no key, or a key of another kind
  · obtain ⟨der, hder⟩ := hder
    have hread : publicKeyBytes pem = .ok der := decodeBase64_of_decodes hder .publicKey
    rw [hread]
    dsimp only
    split
    · exact ⟨_, rfl, rfl⟩
    · rename_i key hkey
      exact absurd ⟨key, der, hder, hkey⟩ h
    · exact ⟨_, rfl, rfl⟩
  · obtain ⟨cause, hread, hkind⟩ := decodeBase64_of_not hder .publicKey
    have hread : publicKeyBytes pem = .error cause := hread
    rw [hread]
    exact ⟨cause, rfl, hkind⟩

/-! ## The signature -/

/-- A right signature is accepted. -/
theorem checkWith_of_verify {key : Rsa.PublicKey} {bytes signature : Bytes} {text : String}
    (hbytes : bytes ≠ []) (htext : text.toList.all isBlank = false)
    (hsignature : Decodes text signature) (h : Rsa.verify key bytes signature) :
    Verifier.checkWith key bytes text = .accepted := by
  simp [Verifier.checkWith, hbytes, htext, decodeBase64_of_decodes hsignature, h]

/-- A wrong signature is a mismatch. -/
theorem checkWith_of_mismatch {key : Rsa.PublicKey} {bytes signature : Bytes} {text : String}
    (hbytes : bytes ≠ []) (htext : text.toList.all isBlank = false)
    (hsignature : Decodes text signature) (h : Rsa.verify key bytes signature = false) :
    Verifier.checkWith key bytes text = .rejected .mismatch := by
  simp [Verifier.checkWith, hbytes, htext, decodeBase64_of_decodes hsignature, h]

/-- A signature that does not decode is malformed input. -/
theorem checkWith_of_not (key : Rsa.PublicKey) {bytes : Bytes} {text : String}
    (hbytes : bytes ≠ []) (htext : text.toList.all isBlank = false)
    (h : ¬ ∃ signature, Decodes text signature) :
    ∃ cause, Verifier.checkWith key bytes text = .rejected cause ∧
      cause.kind = .malformedInput := by
  obtain ⟨cause, hread, hkind⟩ := decodeBase64_of_not h .signature
  exact ⟨cause, by simp [Verifier.checkWith, hbytes, htext, hread], hkind⟩

/-! ## The source and the page -/

theorem decodeSource_of_ofString {bytes : Bytes} {source : String}
    (h : Utf8.ofString source = bytes) : decodeSource bytes = .ok source := by
  rw [decodeSource, Utf8.toString_eq_ok_iff.2 h]
  rfl

/-- Bytes that are no text are malformed input. -/
theorem decodeSource_of_not {bytes : Bytes} (h : ¬ ∃ source, Utf8.ofString source = bytes) :
    ∃ cause, decodeSource bytes = .error cause ∧ cause.kind = .malformedInput := by
  cases hread : Utf8.toString bytes with
  | error e => exact ⟨.notUtf8 e, by rw [decodeSource, hread]; rfl, rfl⟩
  | ok source => exact absurd ⟨source, Utf8.toString_eq_ok_iff.1 hread⟩ h

/-- A page has a place for a fragment, and the fragment can be read. -/
structure Takes (page : Html.Document) (fragment : String) (nodes : List Html.Node) : Prop where
  body : page.body? ≠ none
  read : Html.Document.ofString fragment = .ok nodes

theorem Takes.eq {page : Html.Document} {fragment : String} {nodes nodes' : List Html.Node}
    (h : Takes page fragment nodes) (h' : Takes page fragment nodes') : nodes = nodes' :=
  Except.ok.inj (h.read.symm.trans h'.read)

/-- A page that takes a fragment is filled with it and with the note. -/
theorem materialize_of_takes {page : Html.Document} {fragment : String} {nodes : List Html.Node}
    (h : Takes page fragment nodes) (note : Option String) :
    ∃ page', materialize page fragment note = .ok page' ∧
      page.Refilled (nodes ++ noteNodes note) page' := by
  rcases page.replaceBody?_cases (nodes ++ noteNodes note) with
    ⟨hbody, -⟩ | ⟨page', hreplace, hrefilled⟩
  · exact absurd hbody h.body
  · refine ⟨page', ?_, hrefilled⟩
    obtain ⟨body, hbody⟩ := Option.ne_none_iff_exists'.1 h.body
    unfold materialize
    rw [hbody, h.read]
    dsimp only
    rw [hreplace]

/-- A page that does not take a fragment cannot be materialized. -/
theorem materialize_of_not {page : Html.Document} {fragment : String}
    (h : ¬ ∃ nodes, Takes page fragment nodes) (note : Option String) :
    ∃ cause, materialize page fragment note = .error cause ∧
      cause.kind = .materializationError := by
  unfold materialize
  cases hbody : page.body? with
  | none => exact ⟨_, rfl, rfl⟩
  | some body =>
    cases hread : Html.Document.ofString fragment with
    | error e => exact ⟨_, rfl, rfl⟩
    | ok nodes => exact absurd ⟨nodes, by simp [hbody], hread⟩ h

/-- The placeholder takes the body; a page without one stays as it is. -/
theorem page_placeholder {σ : Type} (s : Scene σ) (renderId : String) (k : FailureKind) :
    s.page.Refilled [placeholderElement k.placeholder] (s.placeholder renderId k).page ∨
      s.page.body? = none ∧ (s.placeholder renderId k).page = s.page := by
  unfold Scene.placeholder showPlaceholder
  rcases s.page.replaceBody?_cases [placeholderElement k.placeholder] with
    ⟨hbody, hreplace⟩ | ⟨page', hreplace, hrefilled⟩
  · right
    rw [hreplace]
    exact ⟨hbody, rfl⟩
  · left
    rw [hreplace]
    exact hrefilled

end SealedPage.Render
