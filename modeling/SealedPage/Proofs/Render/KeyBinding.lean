import SealedPage.Proofs.Render.Transport

/-!
# A session is bound to one key

A session takes imports of keys and checks of signatures, one after the other. The first text that
loads as a key binds it for good: `Holds` says what a session has come to hold, and `Replies` how
one that holds this answers a call. The session itself is not looked at by either of them, and
`bound_takeAll` shows that it keeps to both, whatever the calls are.
-/

namespace SealedPage.Render

open Text

/-! ## Texts that are imported -/

/-- A blank text has no marks, so there is nothing in it to decode. -/
theorem all_isBlank_of_decodes {pem : String} {der : Bytes} (h : Decodes (withoutArmour pem) der) :
    pem.toList.all isBlank = false := by
  rw [Bool.eq_false_iff]
  intro hall
  have hhyphen : '-' ∉ pem.toList := by
    intro hmem
    exact absurd (List.all_eq_true.1 hall '-' hmem) (by decide)
  have hpass := dropArmourFrom_pass [] hhyphen []
  rw [List.append_nil, List.append_nil, dropArmourFrom, List.reverse_reverse] at hpass
  have hnot := h.all_isBlank
  rw [withoutArmour, hpass, String.toList_ofList, hall] at hnot
  exact absurd hnot (by decide)

/-- A key that is loaded is not blank. -/
theorem Loads.all_isBlank {pem : String} {key : Rsa.PublicKey} (h : Loads pem key) :
    pem.toList.all isBlank = false := by
  obtain ⟨der, hder, -⟩ := h
  exact all_isBlank_of_decodes hder

namespace Verifier

/-- Why a text is no RSA key: it is blank, it is not base64 of any bytes, or its bytes are no key or
one of another kind. -/
inductive Refuses (pem : String) : Failure → Prop where
  | blank (hpem : pem.toList.all isBlank) : Refuses pem .emptyKey
  | undecodable (hpem : pem.toList.all isBlank = false) {e : Codec.Base64.DecodeError}
      (hread : Codec.Base64.decode (dropBlanks (withoutArmour pem).toList) = .error e) :
      Refuses pem (.badBase64 .publicKey e)
  | zeroBytes (hpem : pem.toList.all isBlank = false)
      (hread : Codec.Base64.decode (dropBlanks (withoutArmour pem).toList) = .ok []) :
      Refuses pem (.zeroBytes .publicKey)
  | unreadable {der : Bytes} (hder : Decodes (withoutArmour pem) der)
      (hkey : Key.publicKeyOfDer? der = none) : Refuses pem .unreadableKey
  | foreign {der : Bytes} (hder : Decodes (withoutArmour pem) der) {other : Key.PublicKey}
      (hkey : Key.publicKeyOfDer? der = some other) (hother : ∀ key, other ≠ .rsa key) :
      Refuses pem (.foreignKey other.kind)

theorem loadKey_of_refuses {pem : String} {cause : Failure} (h : Refuses pem cause) :
    loadKey pem = .error cause := by
  cases h with
  | blank hpem => rw [loadKey, if_pos hpem]
  | @undecodable hpem e hread =>
    have hbytes : publicKeyBytes pem = .error (.badBase64 .publicKey e) := by
      rw [publicKeyBytes, ← withoutArmour, decodeBase64, hread]
    rw [loadKey, hpem, if_neg Bool.false_ne_true, hbytes]
  | zeroBytes hpem hread =>
    have hbytes : publicKeyBytes pem = .error (.zeroBytes .publicKey) := by
      rw [publicKeyBytes, ← withoutArmour, decodeBase64, hread]
    rw [loadKey, hpem, if_neg Bool.false_ne_true, hbytes]
  | unreadable hder hkey =>
    have hbytes : publicKeyBytes pem = .ok _ := decodeBase64_of_decodes hder .publicKey
    rw [loadKey, all_isBlank_of_decodes hder, if_neg Bool.false_ne_true, hbytes]
    dsimp only
    rw [hkey]
  | @foreign _ hder other hkey hother =>
    have hbytes : publicKeyBytes pem = .ok _ := decodeBase64_of_decodes hder .publicKey
    rw [loadKey, all_isBlank_of_decodes hder, if_neg Bool.false_ne_true, hbytes]
    dsimp only
    rw [hkey]
    cases other with
    | rsa key => exact absurd rfl (hother key)
    | ellipticCurve => rfl
    | ed25519 => rfl

/-- Every text loads as a key or is refused. -/
theorem loads_or_refuses (pem : String) :
    (∃ key, Loads pem key) ∨ ∃ cause, Refuses pem cause := by
  cases hpem : pem.toList.all isBlank with
  | true => exact Or.inr ⟨_, .blank hpem⟩
  | false =>
    cases hread : Codec.Base64.decode (dropBlanks (withoutArmour pem).toList) with
    | error e => exact Or.inr ⟨_, .undecodable hpem hread⟩
    | ok der =>
      by_cases hnil : der = []
      · rw [hnil] at hread
        exact Or.inr ⟨_, .zeroBytes hpem hread⟩
      have hder : Decodes (withoutArmour pem) der := ⟨hread, hnil⟩
      cases hkey : Key.publicKeyOfDer? der with
      | none => exact Or.inr ⟨_, .unreadable hder hkey⟩
      | some other =>
        by_cases hrsa : ∃ key, other = .rsa key
        · obtain ⟨key, rfl⟩ := hrsa
          exact Or.inl ⟨key, der, hder, hkey⟩
        · exact Or.inr ⟨_, .foreign hder hkey fun key h => hrsa ⟨key, h⟩⟩

/-- A text is not both refused and loaded. -/
theorem Refuses.not_loads {pem : String} {cause : Failure} (h : Refuses pem cause)
    (key : Rsa.PublicKey) : ¬ Loads pem key := by
  intro hkey
  have hload := loadKey_of_loads hkey hkey.all_isBlank
  rw [loadKey_of_refuses h] at hload
  exact nomatch hload

/-! ## Calls -/

/-- A call of a session. -/
inductive Call where
  | importKey (pem : String)
  | check (bytes : Bytes) (signature : String)

/-- What a call gives. -/
inductive Reply where
  | imported (result : Except SessionError Rsa.PublicKey)
  | checked (result : Except SessionError Check)

/-- Takes a call. -/
def take (v : Verifier) : Call → Reply × Verifier
  | .importKey pem => (.imported (v.importKey pem).1, (v.importKey pem).2)
  | .check bytes signature => (.checked (v.check bytes signature), v)

/-- Takes calls one after the other. -/
def takeAll (v : Verifier) : List Call → List Reply × Verifier
  | [] => ([], v)
  | call :: calls =>
    (((v.take call).1 :: ((v.take call).2.takeAll calls).1), ((v.take call).2.takeAll calls).2)

/-- No text that is handed in by one of the calls loads as a key. -/
def NoneLoads (calls : List Call) : Prop :=
  ∀ pem, .importKey pem ∈ calls → ¬ ∃ key, Loads pem key

/-- What a session holds that has taken some calls: nothing as long as no text loads, and then the
first text that does, with its key, whatever is called behind it. -/
inductive Holds : List Call → Option (String × Rsa.PublicKey) → Prop where
  | nothing {calls : List Call} (hcalls : NoneLoads calls) : Holds calls none
  | key {before : List Call} {pem : String} {key : Rsa.PublicKey} (after : List Call)
      (hbefore : NoneLoads before) (hkey : Loads pem key) :
      Holds (before ++ .importKey pem :: after) (some (pem, key))

/-- How a session answers a call. One that holds nothing checks nothing, and an import gives the key
of a text or the cause of its refusal. One that holds a key takes the text of this key and no other,
and the key alone decides on a signature. -/
inductive Replies : Option (String × Rsa.PublicKey) → Call → Reply → Prop where
  | noKey (bytes : Bytes) (signature : String) :
      Replies none (.check bytes signature) (.checked (.error .noKey))
  | loaded {pem : String} {key : Rsa.PublicKey} (hkey : Loads pem key) :
      Replies none (.importKey pem) (.imported (.ok key))
  | refused {pem : String} {cause : Failure} (hcause : Refuses pem cause) :
      Replies none (.importKey pem) (.imported (.error (.failed cause)))
  | again (pem : String) (key : Rsa.PublicKey) :
      Replies (some (pem, key)) (.importKey pem) (.imported (.ok key))
  | otherKey {pem other : String} (hother : other ≠ pem) (key : Rsa.PublicKey) :
      Replies (some (pem, key)) (.importKey other) (.imported (.error .otherKey))
  | decided (pem : String) (key : Rsa.PublicKey) (bytes : Bytes) (signature : String) :
      Replies (some (pem, key)) (.check bytes signature)
        (.checked (.ok (checkWith key bytes signature)))

/-- The replies to calls that follow on other calls: each is that of a session which holds what the
calls before it have left. -/
inductive RepliesAll : List Call → List Call → List Reply → Prop where
  | nil (before : List Call) : RepliesAll before [] []
  | cons {before calls : List Call} {call : Call} {reply : Reply} {replies : List Reply}
      {held : Option (String × Rsa.PublicKey)} (hheld : Holds before held)
      (hreply : Replies held call reply) (hrest : RepliesAll (before ++ [call]) calls replies) :
      RepliesAll before (call :: calls) (reply :: replies)

/-! ## What a session holds -/

/-- One more call that loads no key leaves none loaded. -/
theorem NoneLoads.concat {calls : List Call} {call : Call} (h : NoneLoads calls)
    (hcall : NoneLoads [call]) : NoneLoads (calls ++ [call]) := by
  intro pem hmem
  rcases List.mem_append.1 hmem with hmem | hmem
  · exact h pem hmem
  · exact hcall pem hmem

/-- A session holds nothing after no calls. -/
theorem holds_nil : Holds [] none :=
  .nothing fun _ hmem => nomatch hmem

/-- Nothing is held as long as no call loads a key. -/
theorem Holds.concat_of_noneLoads {calls : List Call} {call : Call} (h : Holds calls none)
    (hcall : NoneLoads [call]) : Holds (calls ++ [call]) none := by
  cases h with
  | nothing hcalls => exact .nothing (hcalls.concat hcall)

/-- The first key that loads is the one that is held. -/
theorem Holds.concat_of_loads {calls : List Call} {pem : String} {key : Rsa.PublicKey}
    (h : Holds calls none) (hkey : Loads pem key) :
    Holds (calls ++ [.importKey pem]) (some (pem, key)) := by
  cases h with
  | nothing hcalls => exact .key [] hcalls hkey

/-- A key is held for good. -/
theorem Holds.append_of_key {calls : List Call} {held : String × Rsa.PublicKey}
    (h : Holds calls (some held)) (later : List Call) : Holds (calls ++ later) (some held) := by
  cases h with
  | key after hbefore hkey =>
    rw [List.append_assoc, List.cons_append]
    exact .key (after ++ later) hbefore hkey

/-- Two texts that both are the first one to load are the same. -/
theorem NoneLoads.eq_of_append {before before' after after' : List Call} {pem pem' : String}
    {key key' : Rsa.PublicKey} (hbefore : NoneLoads before) (hbefore' : NoneLoads before')
    (hkey : Loads pem key) (hkey' : Loads pem' key')
    (h : before ++ .importKey pem :: after = before' ++ .importKey pem' :: after') :
    pem = pem' := by
  induction before generalizing before' with
  | nil =>
    cases before' with
    | nil => exact Call.importKey.inj (List.cons.inj h).1
    | cons call rest =>
      have hcall : Call.importKey pem = call := (List.cons.inj h).1
      exact absurd ⟨key, hkey⟩ (hbefore' pem (hcall ▸ List.mem_cons_self))
  | cons call before ih =>
    cases before' with
    | nil =>
      have hcall : call = .importKey pem' := (List.cons.inj h).1
      exact absurd ⟨key', hkey'⟩ (hbefore pem' (hcall ▸ List.mem_cons_self))
    | cons call' rest =>
      apply ih _ _ (List.cons.inj h).2
      · intro pem hmem
        exact hbefore pem (List.mem_cons_of_mem _ hmem)
      · intro pem hmem
        exact hbefore' pem (List.mem_cons_of_mem _ hmem)

/-- What is held is determined by the calls. -/
theorem Holds.eq {calls : List Call} {held held' : Option (String × Rsa.PublicKey)}
    (h : Holds calls held) (h' : Holds calls held') : held = held' := by
  cases h with
  | nothing hcalls =>
    cases h' with
    | nothing hcalls' => rfl
    | @key before pem key after hbefore hkey =>
      exact absurd ⟨key, hkey⟩ (hcalls pem (by simp))
  | @key before pem key after hbefore hkey =>
    generalize hcalls : before ++ Call.importKey pem :: after = calls at h'
    cases h' with
    | nothing hnone =>
      rw [← hcalls] at hnone
      exact absurd ⟨key, hkey⟩ (hnone pem (by simp))
    | @key before' pem' key' after' hbefore' hkey' =>
      obtain rfl := hbefore.eq_of_append hbefore' hkey hkey' hcalls
      rw [hkey.eq hkey']

/-! ## What a call does -/

/-- A session that holds something answers a call as it has to, and goes on to hold what it has
to. -/
theorem take_of_holds {v : Verifier} {before : List Call} (h : Holds before v.imported)
    (call : Call) : Replies v.imported call (v.take call).1 ∧
      Holds (before ++ [call]) (v.take call).2.imported := by
  obtain ⟨imported⟩ := v
  cases imported with
  | none =>
    cases call with
    | check bytes signature =>
      exact ⟨.noKey bytes signature, h.concat_of_noneLoads fun pem hmem => by simp at hmem⟩
    | importKey pem =>
      -- the text binds the session if it loads, and leaves no trace if it does not
      rcases loads_or_refuses pem with ⟨key, hkey⟩ | ⟨cause, hcause⟩
      · have htake : take ⟨none⟩ (.importKey pem) = (.imported (.ok key), ⟨some (pem, key)⟩) := by
          simp only [take, importKey, loadKey_of_loads hkey hkey.all_isBlank]
        rw [htake]
        exact ⟨.loaded hkey, h.concat_of_loads hkey⟩
      · have htake : take ⟨none⟩ (.importKey pem) =
            (.imported (.error (.failed cause)), ⟨none⟩) := by
          simp only [take, importKey, loadKey_of_refuses hcause]
        rw [htake]
        refine ⟨.refused hcause, h.concat_of_noneLoads ?_⟩
        rintro pem' hmem ⟨key, hkey⟩
        obtain rfl := Call.importKey.inj (List.mem_singleton.1 hmem)
        exact hcause.not_loads key hkey
  | some held =>
    obtain ⟨pem, key⟩ := held
    have hlater := h.append_of_key [call]
    cases call with
    | check bytes signature => exact ⟨.decided pem key bytes signature, hlater⟩
    | importKey other =>
      -- only the texts are compared, so another text of the same key is refused
      by_cases hother : other = pem
      · have htake : take ⟨some (pem, key)⟩ (.importKey other) =
            (.imported (.ok key), ⟨some (pem, key)⟩) := by
          simp only [take, importKey, if_pos hother]
        rw [htake, hother]
        rw [hother] at hlater
        exact ⟨.again pem key, hlater⟩
      · have htake : take ⟨some (pem, key)⟩ (.importKey other) =
            (.imported (.error .otherKey), ⟨some (pem, key)⟩) := by
          simp only [take, importKey, if_neg hother]
        rw [htake]
        exact ⟨.otherKey hother key, hlater⟩

/-- By induction on the calls, each reply is the one that the calls before it determine. -/
theorem takeAll_of_holds {v : Verifier} {before : List Call} (h : Holds before v.imported)
    (calls : List Call) :
    RepliesAll before calls (v.takeAll calls).1 ∧
      Holds (before ++ calls) (v.takeAll calls).2.imported := by
  induction calls generalizing v before with
  | nil =>
    rw [List.append_nil]
    exact ⟨.nil before, h⟩
  | cons call calls ih =>
    obtain ⟨hreply, hheld⟩ := take_of_holds h call
    obtain ⟨hreplies, hlast⟩ := ih hheld
    rw [List.append_assoc, List.singleton_append] at hlast
    exact ⟨.cons h hreply hreplies, hlast⟩

/-- What a new session does with some calls. -/
structure Bound (calls : List Call) (replies : List Reply) (v : Verifier) : Prop where
  /-- Every call is answered out of what the calls before it have left, and out of nothing else. -/
  replies : RepliesAll [] calls replies
  /-- In the end the session holds what the calls have left. -/
  holds : ∀ held, Holds calls held ↔ v.imported = held

/-- A new session is bound to the first key that it imports, whatever the calls are. -/
theorem bound_takeAll (calls : List Call) :
    Bound calls (takeAll {} calls).1 (takeAll {} calls).2 := by
  obtain ⟨hreplies, hheld⟩ := takeAll_of_holds (v := {}) holds_nil calls
  rw [List.nil_append] at hheld
  refine ⟨hreplies, fun held => ?_⟩
  constructor
  · intro h
    exact hheld.eq h
  · intro h
    exact h ▸ hheld

end Verifier

end SealedPage.Render
