import SealedPage.Proofs.Codec.Groups
import SealedPage.Proofs.Key.Container
import SealedPage.Proofs.Render.Stages

/-!
# What is packed is unpacked

Base64 is decoded to the bytes it was written for, `decodes_encode`, and `decodeBase64_accepts` says
which other texts are decoded and to what. Armour around a public key is taken off again, also when
the blanks at its ends are gone, `decodes_armouredKey`.
-/

namespace SealedPage.Render

open Text
open Codec.Base64 (Groups Overpadded encode)
open Key.Pem (armoured)

/-- A text decodes where it is the encoded bytes up to white space. -/
theorem decodes_of_dropBlanks {text : String} {bytes : Bytes} (hbytes : bytes ≠ [])
    (htext : dropBlanks text.toList = encode bytes) : Decodes text bytes :=
  ⟨by rw [htext, Codec.Base64.decode_encode], hbytes⟩

theorem decodes_encode {bytes : Bytes} (hbytes : bytes ≠ []) :
    Decodes (String.ofList (encode bytes)) bytes :=
  decodes_of_dropBlanks hbytes
    (by rw [String.toList_ofList, Codec.Base64.dropBlanks_encode])

/-- A text that is base64 of some bytes is not blank. -/
theorem Decodes.all_isBlank {text : String} {bytes : Bytes} (h : Decodes text bytes) :
    text.toList.all isBlank = false := by
  rw [Bool.eq_false_iff]
  intro hall
  have hdrop : dropBlanks text.toList = [] := by
    rw [dropBlanks, List.filter_eq_nil_iff]
    intro c hc
    rw [List.all_eq_true.1 hall c hc]
    exact Bool.false_ne_true
  have hread := h.read
  rw [hdrop] at hread
  exact h.nonempty (Except.ok.inj hread).symm

/-- A text is decoded exactly where it decodes. -/
theorem decodeBase64_iff {part : Part} {text : String} {bytes : Bytes} :
    decodeBase64 part text = .ok bytes ↔ Decodes text bytes := by
  refine ⟨fun h => ?_, fun h => decodeBase64_of_decodes h part⟩
  by_cases hdecodes : ∃ bytes, Decodes text bytes
  · obtain ⟨bytes', hbytes'⟩ := hdecodes
    rw [decodeBase64_of_decodes hbytes' part] at h
    obtain rfl := Except.ok.inj h
    exact hbytes'
  · obtain ⟨cause, herror, -⟩ := decodeBase64_of_not hdecodes part
    rw [herror] at h
    exact nomatch h

/-- What counts as base64: without its blanks the text is not empty, and it is one of the grammar or
has surplus padding behind complete groups. Everything else is malformed input. -/
theorem decodeBase64_accepts (part : Part) (text : String) :
    (∀ bytes, decodeBase64 part text = .ok bytes ↔ dropBlanks text.toList ≠ [] ∧
      (Groups (dropBlanks text.toList) bytes ∨ Overpadded (dropBlanks text.toList) bytes)) ∧
      ∀ cause, decodeBase64 part text = .error cause → cause.kind = .malformedInput := by
  constructor
  · intro bytes
    have hnonempty : Groups (dropBlanks text.toList) bytes ∨
        Overpadded (dropBlanks text.toList) bytes →
          (bytes ≠ [] ↔ dropBlanks text.toList ≠ []) := by
      rintro (hgroups | hover)
      · exact not_congr hgroups.eq_nil_iff.symm
      · exact iff_of_true hover.ne_nil.2 hover.ne_nil.1
    rw [decodeBase64_iff]
    constructor
    · rintro ⟨hread, hbytes⟩
      rw [Codec.Base64.decode_eq_ok_iff] at hread
      exact ⟨(hnonempty hread).1 hbytes, hread⟩
    · rintro ⟨htext, hread⟩
      exact ⟨Codec.Base64.decode_eq_ok_iff.2 hread, (hnonempty hread).2 htext⟩
  · intro cause herror
    have hnone : ¬ ∃ bytes, Decodes text bytes := by
      rintro ⟨bytes, hbytes⟩
      rw [decodeBase64_of_decodes hbytes part] at herror
      exact nomatch herror
    obtain ⟨cause', herror', hkind⟩ := decodeBase64_of_not hnone part
    rw [herror'] at herror
    exact Except.error.inj herror ▸ hkind

/-- One complete group with an equals sign behind it is decoded, though it is not in the grammar. -/
theorem surplusPadding_decoded :
    decodeBase64 .payload "AAAA=" = .ok [0, 0, 0] ∧
      ¬ ∃ bytes, Groups (dropBlanks "AAAA=".toList) bytes := by
  have hblanks : dropBlanks "AAAA=".toList = ['A', 'A', 'A', 'A', '='] := by decide
  constructor
  · rw [decodeBase64, hblanks]
    rfl
  · rw [hblanks]
    rintro ⟨bytes, hgroups⟩
    -- what stands behind the complete group would be a group of its own
    cases hgroups with
    | three _ _ _ _ hcs => exact nomatch hcs

/-- What is accepted has a signature that the key verifies. -/
theorem checkWith_eq_accepted_iff {key : Rsa.PublicKey} {bytes : Bytes} {text : String} :
    Verifier.checkWith key bytes text = .accepted ↔
      bytes ≠ [] ∧ ∃ signature, Decodes text signature ∧ Rsa.verify key bytes signature := by
  constructor
  · intro h
    unfold Verifier.checkWith at h
    split at h
    · simp at h
    · rename_i hbytes
      split at h
      · simp at h
      · split at h
        · simp at h
        · rename_i signature hread
          split at h
          · rename_i hverify
            exact ⟨by simpa using hbytes, signature, decodeBase64_iff.1 hread, hverify⟩
          · simp at h
  · rintro ⟨hbytes, signature, hsignature, hverify⟩
    exact checkWith_of_verify hbytes hsignature.all_isBlank hsignature hverify

/-! ## Armour -/

/-- Text without hyphens is kept. -/
theorem dropArmourFrom_pass (done : List Char) {run : List Char} (hrun : '-' ∉ run)
    (rest : List Char) :
    dropArmourFrom done 0 (run ++ rest) = dropArmourFrom (run.reverse ++ done) 0 rest := by
  induction run generalizing done with
  | nil => rfl
  | cons c run ih =>
    obtain ⟨hc, hrun⟩ : '-' ≠ c ∧ '-' ∉ run := by simpa using hrun
    have hfind : armour.find? (·.isPrefixOf (c :: (run ++ rest))) = none := by
      simp [armour, hc]
    rw [List.cons_append, dropArmourFrom, hfind]
    dsimp only
    rw [ih _ hrun]
    simp

/-- What belongs to a mark is passed over. -/
theorem dropArmourFrom_skip (done run rest : List Char) :
    dropArmourFrom done run.length (run ++ rest) = dropArmourFrom done 0 rest := by
  induction run with
  | nil => rfl
  | cons c run ih => exact ih

/-- A mark of the armour is dropped. -/
theorem dropArmourFrom_mark (done : List Char) {mark : List Char} (hmark : mark ∈ armour)
    (rest : List Char) : dropArmourFrom done 0 (mark ++ rest) = dropArmourFrom done 0 rest := by
  have hprefix : ∀ cs : List Char, cs.isPrefixOf (cs ++ rest) = true :=
    fun cs => List.isPrefixOf_iff_prefix.2 (List.prefix_append cs rest)
  have hfind : armour.find? (·.isPrefixOf (mark ++ rest)) = some mark := by
    rcases List.mem_pair.1 hmark with rfl | rfl
    · simp only [armour, List.find?_cons, hprefix]
    · have hother : "-----BEGIN PUBLIC KEY-----".toList.isPrefixOf
          ("-----END PUBLIC KEY-----".toList ++ rest) = false := by simp [List.isPrefixOf]
      simp only [armour, List.find?_cons, hother, hprefix]
  cases mark with
  | nil => rfl
  | cons c cs =>
    rw [List.cons_append] at hfind ⊢
    rw [dropArmourFrom, hfind]
    exact dropArmourFrom_skip done cs rest

/-- A public key in armour, without the end of the last line. -/
def armouredKey (bytes : Bytes) : List Char :=
  "-----BEGIN PUBLIC KEY-----".toList ++
    ('\n' :: armoured bytes ++ "-----END PUBLIC KEY-----".toList)

theorem armouredKey_eq (bytes : Bytes) :
    armouredKey bytes = "-----BEGIN PUBLIC KEY-----".toList ++
      ('\n' :: armoured bytes ++ "-----END PUBLIC KEY-----".toList) :=
  rfl

theorem toList_write (bytes : Bytes) :
    (Key.Pem.Block.write { label := "PUBLIC KEY", bytes }).toList =
      armouredKey bytes ++ ['\n'] := by
  have hbegin : "-----BEGIN PUBLIC KEY-----".toList =
      "-----BEGIN ".toList ++ "PUBLIC KEY".toList ++ "-----".toList := by simp
  have hend : "-----END PUBLIC KEY-----".toList =
      "-----END ".toList ++ "PUBLIC KEY".toList ++ "-----".toList := by simp
  have hline : "-----\n".toList = "-----".toList ++ ['\n'] := by simp
  rw [armouredKey_eq, hbegin, hend]
  unfold Key.Pem.Block.write armoured
  simp only [String.toList_append, String.toList_ofList, List.append_assoc, List.cons_append, hline,
    List.nil_append]

/-- The text begins and ends with a hyphen. -/
theorem armouredKey_ends (bytes : Bytes) :
    (∃ cs, armouredKey bytes = '-' :: cs) ∧ ∃ cs, armouredKey bytes = cs ++ ['-'] := by
  have hbegin : "-----BEGIN PUBLIC KEY-----".toList =
      '-' :: "----BEGIN PUBLIC KEY-----".toList := by
    simp
  have hend : "-----END PUBLIC KEY-----".toList = "-----END PUBLIC KEY----".toList ++ ['-'] := by
    simp
  rw [armouredKey_eq]
  constructor
  · rw [hbegin, List.cons_append]
    exact ⟨_, rfl⟩
  · rw [hend, ← List.append_assoc, ← List.append_assoc]
    exact ⟨_, rfl⟩

/-- Trimming takes the end of the last line away and nothing else. -/
theorem trim_write (bytes : Bytes) :
    trim (Key.Pem.Block.write { label := "PUBLIC KEY", bytes }).toList = armouredKey bytes := by
  obtain ⟨⟨cs, hfront⟩, ds, hback⟩ := armouredKey_ends bytes
  have hdropFront : (armouredKey bytes ++ ['\n']).dropWhile isBlank =
      armouredKey bytes ++ ['\n'] := by
    rw [hfront, List.cons_append, List.dropWhile_cons_of_neg (by decide)]
  have hdropBack : (armouredKey bytes ++ ['\n']).reverse.dropWhile isBlank =
      (armouredKey bytes).reverse := by
    rw [hback, List.reverse_append, List.reverse_append, List.reverse_singleton,
      List.singleton_append, List.dropWhile_cons_of_pos (by decide), List.reverse_singleton,
      List.singleton_append, List.dropWhile_cons_of_neg (by decide)]
  rw [toList_write, trim, hdropFront, hdropBack, List.reverse_reverse]

theorem not_all_isBlank_armouredKey (bytes : Bytes) : (armouredKey bytes).all isBlank = false := by
  obtain ⟨⟨cs, hfront⟩, -⟩ := armouredKey_ends bytes
  have hhyphen : isBlank '-' = false := by decide
  rw [hfront, List.all_cons, hhyphen, Bool.false_and]

/-- The bytes in armour are found again. -/
theorem decodes_armouredKey {bytes : Bytes} (hbytes : bytes ≠ []) :
    Decodes (withoutArmour (String.ofList (armouredKey bytes))) bytes := by
  have hhyphen : '-' ∉ '\n' :: armoured bytes := by
    have hmem : '-' ∉ armoured bytes :=
      (Key.Pem.isArmour_armoured bytes).not_mem (by decide) (by decide)
    simpa using hmem
  have hdrop : dropArmourFrom [] 0 (armouredKey bytes) = '\n' :: armoured bytes := by
    rw [armouredKey_eq, dropArmourFrom_mark _ (List.mem_pair.2 (Or.inl rfl)),
      dropArmourFrom_pass _ hhyphen, ← List.append_nil "-----END PUBLIC KEY-----".toList,
      dropArmourFrom_mark _ (List.mem_pair.2 (Or.inr rfl))]
    rw [dropArmourFrom, List.append_nil, List.reverse_reverse]
  have hend : ∀ c, Key.Pem.isLineEnd c → (!isBlank c) = false := by
    intro c hc
    rcases Key.Pem.isLineEnd_iff.1 hc with rfl | rfl <;> decide
  have hblank : ∀ c, Codec.Base64.isBase64Char c → !isBlank c := by
    intro c hc
    rw [Codec.Base64.isBlank_of_isBase64Char hc]
    rfl
  refine decodes_of_dropBlanks hbytes ?_
  rw [withoutArmour, String.toList_ofList, String.toList_ofList, hdrop, dropBlanks,
    List.filter_cons_of_neg (by decide)]
  exact (Key.Pem.isArmour_armoured bytes).filter_eq hend hblank

/-- A public key that is written loads, without the end of its last line. -/
theorem loadKey_publicPem {p : Rsa.PublicKey} (hp : p.isUsable)
    (hsize : (Key.namedRsaPublicKey p).content.length < Der.lengthLimit) :
    Verifier.loadKey (String.ofList (trim (Key.publicPem p).toList)) = .ok p := by
  have hbytes : (Key.namedRsaPublicKey p).write ≠ [] := by
    have := (Key.namedRsaPublicKey p).length_content_le
    exact List.ne_nil_of_length_pos (by omega)
  have htext : trim (Key.publicPem p).toList = armouredKey (Key.namedRsaPublicKey p).write :=
    trim_write _
  rw [htext]
  exact loadKey_of_loads ⟨_, decodes_armouredKey hbytes, Key.publicKeyOfDer?_write hp hsize⟩
    (by rw [String.toList_ofList, not_all_isBlank_armouredKey])

end SealedPage.Render
