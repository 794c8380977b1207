import SealedPage.Proofs.Disk.Lookup
import SealedPage.Proofs.Http.Target
import SealedPage.Proofs.Seal.Signing
import SealedPage.Seal.Service

/-!
# From the disk to the consumer

A document is delivered byte for byte: what the consumer decodes, checks and reads is what the file
holds, and the digest that observers see is that of the file. `Delivers` says what this means of one
document, and `delivers_file` says that every file is delivered that is text, not empty and not too
large, whatever the other settings are. The exception are again keys whose numbers are too large for
checking, `wideKey_undelivered`.
-/

namespace SealedPage.Seal

open Disk Http
open Hash.Sha256 (digest)
open Render (Verifier Check decodeBase64 decodeSource)

/-! ## Reading and packing -/

section
variable {r : Registry} {t : Tree} {name : String}

/-- What is read of a document is what the file holds that its name leads to. -/
theorem readSource_eq {path : Path} (hpath : (r.resolve t name).1 = .ok path) :
    (r.readSource t name).1 = r.readFile t name path := by
  unfold Registry.readSource
  cases hresolve : r.resolve t name with
  | mk result log =>
    rw [hresolve] at hpath
    obtain rfl : result = .ok path := hpath
    rfl

/-- A file that is a text of the right size is read. -/
theorem readSource_of_resolve {path : Path} (hpath : (r.resolve t name).1 = .ok path)
    {bytes : Bytes} (hfile : t.read? path = some bytes) (hsize : bytes.length ≤ r.maxBytes)
    {source : String} (hsource : Text.Utf8.ofString source = bytes) :
    (r.readSource t name).1 = .ok source := by
  rw [readSource_eq hpath, Registry.readFile, hfile]
  dsimp only
  rw [if_neg (Nat.not_lt.2 hsize), Text.Utf8.toString_eq_ok_iff.2 hsource]
  rfl

end

/-- The signature of a source is the encoded signature of its bytes. -/
theorem signSource_eq {k : Rsa.PrivateKey} {source : String} (hsource : source ≠ "")
    {signature : Bytes} (h : signBytes k (Text.Utf8.ofString source) = .ok signature) :
    signSource k (.text source) = .ok (String.ofList (Codec.Base64.encode signature)) := by
  have hempty : source.isEmpty = false := by
    rwa [Bool.eq_false_iff, ne_eq, String.isEmpty_iff]
  simp [signSource, requireSource, Datum.text, hempty, h, bind, Except.bind, pure, Except.pure]

/-- A source is packaged with its encoding, its signature, its hash and the key. -/
theorem packageDocument_eq {m : Key.Material} {source : String} (hsource : source ≠ "")
    {signature : Bytes} (h : signBytes m.privateKey (Text.Utf8.ofString source) = .ok signature) :
    packageDocument m source = .ok
      { source := encodeSource source
        signature := String.ofList (Codec.Base64.encode signature)
        publicPem := m.publicPem
        sourceHash := sourceHash (Text.Utf8.ofString source) } := by
  rw [packageDocument, signSource_eq hsource h]
  rfl

/-! ## Delivery -/

/-- What becomes of a document that is the text `source` and the bytes `bytes` on disk, with what it
is packed into. -/
structure Delivers (s : Service) (name source : String) (bytes : Bytes) (p : Payload) : Prop where
  /-- The registry reads the text. -/
  read : (s.registry.readSource s.tree name).1 = .ok source
  /-- The text is packed. -/
  packed : packageDocument s.keys source = .ok p
  /-- The consumer decodes the bytes that are on disk. -/
  decoded : decodeBase64 .payload p.source = .ok bytes
  /-- The consumer takes the public key for the one that belongs to the private key, and accepts the
  signature of these bytes if a key of these numbers may be used. -/
  checked : ∃ v : Verifier,
    ({} : Verifier).importKey p.publicPem = (.ok s.keys.privateKey.publicKey, v) ∧
      v.check bytes p.signature = .ok
        (if s.keys.privateKey.publicKey.isAffordable then .accepted else .rejected .mismatch)
  /-- The consumer reads the text that the registry read. -/
  spelled : decodeSource bytes = .ok source
  /-- Observers see the digest of the bytes that are on disk. -/
  hashed : p.sourceHash = "SHA-256:" ++ String.ofList (Codec.Hex.encode (digest bytes))

/-- What the checks of a session come to for a document that was packed. -/
theorem checkWith_signature {k : Rsa.PrivateKey} (hk : k.IsValid)
    (hbits : Key.leastBits ≤ k.bits) {bytes signature : Bytes} (hbytes : bytes ≠ [])
    (h : signBytes k bytes = .ok signature) :
    Verifier.checkWith k.publicKey bytes (String.ofList (Codec.Base64.encode signature)) =
      if k.publicKey.isAffordable then .accepted else .rejected .mismatch := by
  have htext := decodes_signature hbits h
  split
  · rename_i haffordable
    exact (checkWith_iff_signBytes hk hbits).2 ⟨hbytes, haffordable, signature, htext, h⟩
  · rename_i haffordable
    rw [Bool.not_eq_true] at haffordable
    exact checkWith_of_not_isAffordable haffordable hbytes htext

/-- What a valid key signs is delivered. -/
theorem exists_delivers {s : Service} (hm : s.keys.OfKey) (hk : s.keys.privateKey.IsValid)
    {name : String} {path : Path} (hpath : (s.registry.resolve s.tree name).1 = .ok path)
    {bytes : Bytes} (hfile : s.tree.read? path = some bytes) (hbytes : bytes ≠ [])
    (hsize : bytes.length ≤ s.registry.maxBytes) {source : String}
    (hsource : Text.Utf8.ofString source = bytes) : ∃ p, Delivers s name source bytes p := by
  have hne : source ≠ "" := by
    rintro rfl
    exact hbytes hsource.symm
  obtain ⟨signature, hsigned⟩ := exists_signBytes hm.leastBits_le bytes
  refine ⟨_, readSource_of_resolve hpath hfile hsize hsource,
    packageDocument_eq hne (by rw [hsource]; exact hsigned), ?_, ⟨_, importKey_of_ofKey hm, ?_⟩,
    Render.decodeSource_of_ofString hsource, ?_⟩
  · rw [encodeSource, hsource]
    exact Render.decodeBase64_of_decodes (Render.decodes_encode hbytes) .payload
  · rw [check_eq rfl, checkWith_signature hk hm.leastBits_le hbytes hsigned]
  · rw [sourceHash, hsource]

/-! ## Responses -/

/-- What is delivered was read. -/
theorem source_of_delivers {s : Service} {name source : String} {bytes : Bytes} {p : Payload}
    (h : Delivers s name source bytes p) : s.source name = .ok (.ok source) := by
  unfold Service.source
  rw [h.read]

/-- A source that is packaged is answered by its shell. -/
theorem shell_of_text {s : Service} {name source : String} {payload : Payload}
    (hsource : s.source name = .ok (.ok source))
    (hpayload : packageDocument s.keys source = .ok payload) :
    s.shell name =
      .ok (.page (renderShell s.settings payload) [hashHeader payload.sourceHash]) := by
  unfold Service.shell
  rw [hsource]
  dsimp only
  rw [hpayload]

theorem shell_of_delivers {s : Service} {name source : String} {bytes : Bytes} {p : Payload}
    (h : Delivers s name source bytes p) :
    s.shell name = .ok (.page (renderShell s.settings p) [hashHeader p.sourceHash]) :=
  shell_of_text (source_of_delivers h) h.packed

/-- The master document is answered by its unsigned page where it is delivered. -/
theorem unsigned_of_delivers {s : Service} {source : String} {bytes : Bytes} {p : Payload}
    (h : Delivers s s.settings.master source bytes p)
    (hsource : Text.Utf8.ofString source = bytes) :
    ∃ html, s.unsigned = .ok (.page html [hashHeader p.sourceHash]) := by
  have hhash : sourceHash (Text.Utf8.ofString source) = p.sourceHash := by
    rw [hsource, h.hashed, sourceHash]
  unfold Service.unsigned
  rw [source_of_delivers h]
  dsimp only
  rw [hhash]
  exact ⟨_, rfl⟩

/-! ## Requests -/

/-- A request for what stands at a target. -/
def getRequest (target : String) : Request where
  method := "GET"
  target := target

theorem sentMethod_getRequest (target : String) : (getRequest target).sentMethod = "GET" := by
  change "GET".toUpper = "GET"
  decide +kernel

theorem handle_master (s : Service) : s.handle (getRequest "/") = s.shell s.settings.master := by
  have hpath : pathOfTarget (getRequest "/").target = .ok ['/'] := by
    change pathOfTarget "/" = _
    decide +kernel
  unfold Service.handle Request.dispatch
  rw [hpath, sentMethod_getRequest]
  rfl

theorem handle_unsigned (s : Service) : s.handle (getRequest "/ssr") = s.unsigned := by
  have hpath : pathOfTarget (getRequest "/ssr").target = .ok ['/', 's', 's', 'r'] := by
    change pathOfTarget "/ssr" = _
    decide +kernel
  unfold Service.handle Request.dispatch
  rw [hpath, sentMethod_getRequest]
  rfl

/-- A character of a name needs no escape in a path. -/
theorem isPlainChar_of_isNameChar {c : Char} (h : isNameChar c) : isPlainChar c := by
  have hnumber : (48 ≤ c.toNat ∧ c.toNat ≤ 57) ∨ (65 ≤ c.toNat ∧ c.toNat ≤ 90) ∨
      (97 ≤ c.toNat ∧ c.toNat ≤ 122) ∨ c.toNat = 95 ∨ c.toNat = 46 ∨ c.toNat = 45 := by
    simp only [isNameChar, Bool.or_eq_true, beq_iff_eq] at h
    rcases h with ((h | rfl) | rfl) | rfl
    · have := Text.toNat_of_isAlphanum h
      omega
    all_goals decide
  have hne : ∀ (d : Char) (n : Nat), d.toNat = n → c.toNat ≠ n → (c != d) = true := by
    intro d n hd hc
    rw [bne_iff_ne]
    rintro rfl
    exact hc hd
  simp only [isPlainChar, Bool.and_eq_true, decide_eq_true_eq]
  exact ⟨⟨⟨⟨⟨⟨by omega, by omega⟩, hne '/' 47 rfl (by omega)⟩, hne '?' 63 rfl (by omega)⟩,
    hne '#' 35 rfl (by omega)⟩, hne '%' 37 rfl (by omega)⟩, hne ':' 58 rfl (by omega)⟩

/-- The name of a document is a plain segment. -/
theorem isPlainSegment_of_isAddressable {name : String} (h : Registry.isAddressable name) :
    isPlainSegment name.toList := by
  simp only [Registry.isAddressable, isDocumentName, Bool.and_eq_true, List.all_eq_true,
    decide_eq_true_eq, bne_iff_ne] at h
  obtain ⟨⟨⟨hchars, -⟩, hlength⟩, hdot⟩ := h
  simp only [isPlainSegment, Bool.and_eq_true, List.all_eq_true, Bool.not_eq_true',
    List.isEmpty_eq_false_iff, bne_iff_ne]
  refine ⟨⟨⟨fun c hc => isPlainChar_of_isNameChar (hchars c hc), ?_⟩, ?_⟩, ?_⟩
  · exact List.ne_nil_of_length_pos (by omega)
  all_goals
    intro hdots
    rw [hdots] at hdot
    exact hdot rfl

/-- The path below which the documents stand. -/
def documentsPath : List Char :=
  ['f', 'l', 'o', 'c', 'o', 'd', 'e']

theorem pathOf_named (name : String) :
    pathOf [documentsPath, name.toList] = "/flocode/".toList ++ name.toList := by
  simp [pathOf, documentsPath]

theorem target_named (name : String) :
    "/flocode/" ++ name = String.ofList (pathOf [documentsPath, name.toList]) := by
  rw [pathOf_named, String.ofList_append, String.ofList_toList, String.ofList_toList]

/-- A well formed name ends as documents do. -/
theorem isSuffixOf_of_isAddressable {name : String} (h : Registry.isAddressable name) :
    nameEnd.isSuffixOf name.toList := by
  simp only [Registry.isAddressable, isDocumentName, Bool.and_eq_true] at h
  exact h.1.1.2

/-- The part of a path below its front is the name. -/
theorem segment?_below {front name : String} (hname : name ≠ "") (hslash : '/' ∉ name.toList) :
    (Pattern.below front).segment? (front.toList ++ name.toList) = some name := by
  have hdrop : (front.toList ++ name.toList).drop front.length = name.toList := by
    rw [← String.length_toList, List.drop_left]
  simp only [Pattern.segment?, hdrop]
  simp [hname, hslash]

/-- A request for a name of one segment leads to the shell of the document. -/
theorem handle_below (s : Service) {target name : String}
    (htarget : pathOfTarget target = .ok ("/flocode/".toList ++ name.toList)) (hname : name ≠ "")
    (hslash : '/' ∉ name.toList) : s.handle (getRequest target) = s.namedShell name := by
  have hlead : lead "GET" ("/flocode/".toList ++ name.toList) s.routes =
      .found (s.namedShell name) := by
    have hroot : (Pattern.exactly "/").segment? ("/flocode/".toList ++ name.toList) = none := by
      simp [Pattern.segment?]
    unfold Service.routes
    rw [lead, hroot]
    dsimp only
    rw [lead, segment?_below hname hslash]
    rfl
  have hpath : pathOfTarget (getRequest target).target =
      .ok ("/flocode/".toList ++ name.toList) := htarget
  unfold Service.handle Request.dispatch
  rw [hpath, sentMethod_getRequest]
  dsimp only
  rw [maxAgain, leadAgain, hlead]

/-- A request for a well formed name asks for its path. -/
theorem pathOfTarget_named {name : String} (h : Registry.isAddressable name) :
    pathOfTarget ("/flocode/" ++ name) = .ok ("/flocode/".toList ++ name.toList) := by
  have hsegments : ∀ segment ∈ [documentsPath, name.toList], isPlainSegment segment := by
    intro segment hsegment
    rcases List.mem_cons.1 hsegment with rfl | hsegment
    · decide
    · rw [List.mem_singleton.1 hsegment]
      exact isPlainSegment_of_isAddressable h
  rw [target_named, pathOfTarget_pathOf hsegments (List.cons_ne_nil _ _), pathOf_named]

/-- A request for a well formed name is answered by its document. -/
theorem handle_named (s : Service) {name : String} (h : Registry.isAddressable name) :
    s.handle (getRequest ("/flocode/" ++ name)) = s.shell name := by
  have hplain := isPlainSegment_of_isAddressable h
  simp only [isPlainSegment, Bool.and_eq_true, List.all_eq_true] at hplain
  have hslash : '/' ∉ name.toList := fun hmem => absurd (hplain.1.1.1 _ hmem) (by decide)
  have hname : name ≠ "" := by simpa using hplain.1.1.2
  rw [handle_below s (pathOfTarget_named h) hname hslash]
  unfold Service.namedShell
  rw [if_pos (isSuffixOf_of_isAddressable h)]

/-! ## Every file -/

/-- The service answers a request for a target, and observers of the answer see the digest. -/
def ShowsHash (s : Service) (target hash : String) : Prop :=
  ∃ response, s.handle (getRequest target) = .ok response ∧ response.status = 200 ∧
    response.headers.lookup "x-source-hash" = some hash

theorem lookup_hashHeader (html hash : String) :
    (Response.page html [hashHeader hash]).headers.lookup "x-source-hash" = some hash := by
  have hne : ("x-source-hash" == "content-type") = false := by decide
  simp [Response.page, hashHeader, List.lookup_cons, hne]

/-- What is delivered shows its hash. -/
theorem showsHash_shell {s : Service} {name source : String} {bytes : Bytes} {p : Payload}
    (h : Delivers s name source bytes p) {target : String}
    (htarget : s.handle (getRequest target) = s.shell name) : ShowsHash s target p.sourceHash :=
  ⟨_, htarget.trans (shell_of_delivers h), rfl, lookup_hashHeader _ _⟩

/-- A name that is found is well formed. -/
theorem isAddressable_of_resolve {r : Registry} {t : Tree} {name : String} {path : Path}
    (h : (r.resolve t name).1 = .ok path) : Registry.isAddressable name := by
  by_contra hname
  rw [Bool.not_eq_true] at hname
  rw [Registry.resolve, hname] at h
  simp at h

/-- Every file that is text, not empty and not too large is delivered with keys that were built from
a pair of primes, byte for byte, whatever the settings are; and the answers with its shell show its
digest, as does the unsigned page of the master document. -/
theorem delivers_file {s : Service} {privateText publicText : String} {passphrase : Option String}
    (hkeys : Key.Material.build privateText publicText passphrase = .ok s.keys)
    (hp : s.keys.privateKey.p.Prime) (hq : s.keys.privateKey.q.Prime) {name : String} {path : Path}
    (hpath : (s.registry.resolve s.tree name).1 = .ok path) {bytes : Bytes}
    (hfile : s.tree.read? path = some bytes) (hbytes : bytes ≠ [])
    (hsize : bytes.length ≤ s.registry.maxBytes) {source : String}
    (hsource : Text.Utf8.ofString source = bytes) :
    ∃ p, Delivers s name source bytes p ∧ ShowsHash s ("/flocode/" ++ name) p.sourceHash ∧
      (name = s.settings.master → ShowsHash s "/" p.sourceHash ∧
        ShowsHash s "/ssr" p.sourceHash) := by
  have hm := Key.Material.ofKey_of_build hkeys
  have hk : s.keys.privateKey.IsValid := .of_prime hm.wasRead.1 hp hq
  obtain ⟨p, h⟩ := exists_delivers hm hk hpath hfile hbytes hsize hsource
  refine ⟨p, h, showsHash_shell h (handle_named s (isAddressable_of_resolve hpath)), ?_⟩
  rintro rfl
  refine ⟨showsHash_shell h (handle_master s), ?_⟩
  obtain ⟨html, hpage⟩ := unsigned_of_delivers h hsource
  exact ⟨_, (handle_unsigned s).trans hpage, rfl, lookup_hashHeader _ _⟩

/-! ## A document with every kind of end -/

section

open Rsa (usualKey wideKey)

/-- A document that is a plain file in the directory of the registry is found. -/
theorem resolve_of_stands {r : Registry} {t : Tree} {name : String} {content : Bytes}
    (hname : Registry.isAddressable name) (h : t.Stands content [] (r.root ++ [name])) :
    (r.resolve t name).1 = .ok (r.root ++ [name]) := by
  have hwithin : isWithin (r.root ++ [name]) r.root := by
    rw [isWithin, List.isPrefixOf_iff_prefix]
    exact List.prefix_append _ _
  unfold Registry.resolve
  rw [hname, if_neg (by simp), h.resolve_eq]
  dsimp only
  rw [hwithin, if_neg (by simp), h.isFile_eq]

/-- A text with a mark in front, a zero, and two kinds of ends of lines. -/
def greeting : String :=
  "\uFEFF<flo:main>Hi</flo:main>\x00\r\n\r"

/-- A directory with the greeting. -/
def greetingTree : Tree where
  entries := [(["documents"], .directory),
    (["documents", "home.flo"], .file (Text.Utf8.ofString greeting))]

/-- A service with the greeting as its only document and the keys of a private key. -/
def greetingService (k : Rsa.PrivateKey) : Service where
  tree := greetingTree
  settings :=
    { privateKeyPath := "private.pem", publicKeyPath := "public.pem", documents := ["documents"] }
  keys := .ofKey k
  registry := ⟨["documents"], 1024⟩

theorem stands_greeting :
    greetingTree.Stands (Text.Utf8.ofString greeting) [] ["documents", "home.flo"] :=
  .directory rfl (by decide) (.file (by decide +kernel) (by decide) (by decide +kernel))

theorem resolve_greeting (k : Rsa.PrivateKey) :
    ((greetingService k).registry.resolve (greetingService k).tree "home.flo").1 =
      .ok ["documents", "home.flo"] :=
  resolve_of_stands (by decide +kernel) stands_greeting

theorem greeting_ne_nil : Text.Utf8.ofString greeting ≠ [] := by
  decide +kernel

theorem length_greeting_le : (Text.Utf8.ofString greeting).length ≤ 1024 := by
  decide +kernel

/-- The greeting is delivered with a usual key. -/
theorem delivers_greeting :
    ∃ p, Delivers (greetingService usualKey) "home.flo" greeting (Text.Utf8.ofString greeting) p ∧
      (greetingService usualKey).keys.privateKey.publicKey.isAffordable ∧
      ShowsHash (greetingService usualKey) "/flocode/home.flo" p.sourceHash ∧
      ShowsHash (greetingService usualKey) "/" p.sourceHash ∧
      ShowsHash (greetingService usualKey) "/ssr" p.sourceHash := by
  have hkeys := Key.Material.build_texts Rsa.isConsistent_usualKey (by decide +kernel)
    (by decide +kernel) length_usualKey (shellKey_ne_empty usualKey)
  obtain ⟨p, h, hnamed, hmaster⟩ := delivers_file (s := greetingService usualKey) hkeys
    Rsa.prime_smoothPrime_551_622 Rsa.prime_smoothPrime_102_905 (resolve_greeting usualKey)
    stands_greeting.read?_eq greeting_ne_nil length_greeting_le rfl
  obtain ⟨hroot, hunsigned⟩ := hmaster rfl
  exact ⟨p, h, by decide +kernel, hnamed, hroot, hunsigned⟩

/-- With a key whose exponent has 65 bits the greeting is packed, but its signature is refused. -/
theorem wideKey_undelivered :
    Key.Material.build (Key.privatePem wideKey) (Key.publicPem wideKey.publicKey) none =
        .ok (greetingService wideKey).keys ∧
      wideKey.IsValid ∧
      ((greetingService wideKey).registry.resolve (greetingService wideKey).tree "home.flo").1 =
        .ok ["documents", "home.flo"] ∧
      (greetingService wideKey).tree.read? ["documents", "home.flo"] =
        some (Text.Utf8.ofString greeting) ∧
      ∃ p v, ((greetingService wideKey).registry.readSource (greetingService wideKey).tree
          "home.flo").1 = .ok greeting ∧
        packageDocument (greetingService wideKey).keys greeting = .ok p ∧
        ({} : Verifier).importKey p.publicPem = (.ok wideKey.publicKey, v) ∧
        v.check (Text.Utf8.ofString greeting) p.signature = .ok (.rejected .mismatch) := by
  have hkeys := Key.Material.build_texts Rsa.isConsistent_wideKey (by decide +kernel)
    (by decide +kernel) length_wideKey (shellKey_ne_empty wideKey)
  have hlarge : wideKey.publicKey.isAffordable = false := by decide +kernel
  obtain ⟨p, h⟩ := exists_delivers (s := greetingService wideKey)
    (Key.Material.ofKey_of_build hkeys) isValid_wideKey (resolve_greeting wideKey)
    stands_greeting.read?_eq greeting_ne_nil length_greeting_le rfl
  obtain ⟨v, himport, hcheck⟩ := h.checked
  have hkey : (greetingService wideKey).keys.privateKey = wideKey := rfl
  rw [hkey, hlarge, if_neg Bool.false_ne_true] at hcheck
  exact ⟨hkeys, isValid_wideKey, resolve_greeting wideKey, stands_greeting.read?_eq, p, v, h.read,
    h.packed, himport, hcheck⟩

end

end SealedPage.Seal
