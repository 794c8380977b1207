import SealedPage.Proofs.Disk.Following
import SealedPage.Proofs.Text.Utf8
import SealedPage.Seal.Registry

/-!
# Documents stay in their directory

A name leads to a file in the directory of the documents or to nothing: links are followed first,
and what they lead to has to lie under the directory. `Contains` says what this means of one name,
and `contains_of_make` that it holds in every tree. The exception are links in a circle. Where they
are met, what follows is not looked at but only reckoned, so that another link may be what is found
there, and it may lead out of the directory: `leakyTree_escapes`.
-/

namespace SealedPage.Seal

open Disk

/-! ## Names -/

/-- A name without a slash that begins with no dot and has the ending of documents. -/
structure IsBareName (name : String) : Prop where
  slash : '/' ∉ name.toList
  dot : name.toList.head? ≠ some '.'
  ending : nameEnd <:+ name.toList

/-- A well formed name is one part of a path. -/
theorem isBareName_of_isAddressable {name : String} (h : Registry.isAddressable name) :
    IsBareName name := by
  simp only [Registry.isAddressable, isDocumentName, Bool.and_eq_true, List.all_eq_true,
    List.isSuffixOf_iff_suffix, bne_iff_ne] at h
  exact ⟨fun hmem => absurd (h.1.1.1 _ hmem) (by decide), h.2, h.1.1.2⟩

/-- Other names are not looked for. -/
theorem resolve_of_not_isBareName {name : String} (h : ¬ IsBareName name) (r : Registry)
    (t : Tree) : r.resolve t name = (.error (.notFound name), []) := by
  rw [Registry.resolve, if_pos]
  rw [Bool.not_eq_true', Bool.eq_false_iff]
  exact fun hname => h (isBareName_of_isAddressable hname)

/-! ## Paths and texts -/

section
variable {r : Registry} {t : Tree} {name : String} {p : Path}

/-- What a name has to be for a path to be found, and what the path is. -/
theorem of_resolve_eq_ok (h : (r.resolve t name).1 = .ok p) :
    Registry.isAddressable name ∧ t.resolve [] (r.root ++ [name]) = .ok p ∧ r.root <+: p ∧
      ∃ content, t.read? p = some content := by
  unfold Registry.resolve at h
  split at h
  · cases h
  · rename_i hname
    split at h
    · cases h
    · rename_i q hq
      split at h
      · cases h
      · rename_i hwithin
        split at h
        · cases h
        · cases h
        · rename_i hfile
          obtain rfl := Except.ok.inj h
          refine ⟨by simpa using hname, hq, ?_, Tree.isFile_eq_true_iff.1 hfile⟩
          exact isWithin_iff.1 (by simpa using hwithin)

/-- The root of a registry is the real place of its directory. -/
theorem of_make_eq_ok {documents : Path} {maxKb : Nat}
    (h : Registry.make t documents maxKb = .ok r) :
    t.resolve [] documents = .ok r.root ∧ r.maxBytes = maxKb * 1024 := by
  rw [Registry.make] at h
  cases hresolve : t.resolve [] documents with
  | error e =>
    rw [hresolve] at h
    cases h
  | ok root =>
    rw [hresolve] at h
    obtain rfl := Except.ok.inj h
    exact ⟨rfl, rfl⟩

/-- A path that a name leads to is found if it lies in the directory and holds a file. -/
theorem resolve_of_leads {n : Nat} (hname : Registry.isAddressable name)
    (hleads : t.Leads n [] (r.root ++ [name]) p) (hwithin : r.root <+: p) {content : Bytes}
    (hfile : t.read? p = some content) : r.resolve t name = (.ok p, []) := by
  unfold Registry.resolve
  rw [if_neg (by simp [hname]), Tree.resolve_of_leads hleads]
  dsimp only
  rw [if_neg (by simpa using isWithin_iff.2 hwithin), Tree.isFile_eq_true_iff.2 ⟨content, hfile⟩]

/-- A path outside of the directory is not found, and the log says so. -/
theorem resolve_of_leads_out {n : Nat} (hname : Registry.isAddressable name)
    (hleads : t.Leads n [] (r.root ++ [name]) p) (hout : ¬ r.root <+: p) :
    r.resolve t name = (.error (.notFound name), [Registry.escapeRejected name]) := by
  unfold Registry.resolve
  rw [if_neg (by simp [hname]), Tree.resolve_of_leads hleads]
  dsimp only
  rw [if_pos (by simpa using fun hwithin => hout (isWithin_iff.1 hwithin))]

/-- What is read is the text of a file that the name leads to. -/
theorem of_readSource_eq_ok {source : String} (h : (r.readSource t name).1 = .ok source) :
    ∃ p, (r.resolve t name).1 = .ok p ∧ t.read? p = some (Text.Utf8.ofString source) ∧
      (Text.Utf8.ofString source).length ≤ r.maxBytes := by
  unfold Registry.readSource at h
  cases hresolve : r.resolve t name with
  | mk result log =>
    cases result with
    | error e =>
      rw [hresolve] at h
      cases h
    | ok p =>
      rw [hresolve] at h
      replace h : r.readFile t name p = .ok source := h
      unfold Registry.readFile at h
      split at h
      · cases h
      · rename_i content hcontent
        split at h
        · cases h
        · rename_i hsize
          have hspells : Text.Utf8.ofString source = content := by
            rw [← Text.Utf8.toString_eq_ok_iff]
            cases htext : Text.Utf8.toString content with
            | error e =>
              rw [htext] at h
              cases h
            | ok s =>
              rw [htext] at h
              rw [Except.ok.inj h]
          rw [hspells]
          exact ⟨p, rfl, hcontent, Nat.le_of_not_lt hsize⟩

end

/-! ## The registry -/

/-- What a registry makes of a name in a tree `t`, if it was made in a tree `t₀`. -/
structure Contains (t₀ t : Tree) (documents : Path) (maxKb : Nat) (r : Registry) (name : String) :
    Prop where
  /-- The directory is the one that its path leads to, and no link is left on its path. -/
  root : ∀ n q, t₀.Leads n [] documents q → r.root = q ∧ t₀.Resolved q
  /-- Only a bare name is looked for. -/
  bare : ¬ IsBareName name → r.resolve t name = (.error (.notFound name), [])
  /-- What is found lies under the directory, component by component, and leads to a file. -/
  within : ∀ p, (r.resolve t name).1 = .ok p → r.root <+: p ∧ ∃ content, t.read? p = some content
  /-- Unless the name leads in a circle, what is found is the path that it leads to. No link is on
  it, and it holds a file itself, the one that is read. -/
  resolved : ∀ p n q, (r.resolve t name).1 = .ok p → t.Leads n [] (r.root ++ [name]) q →
    p = q ∧ t.Resolved p ∧
      ∃ content, t.entry? p = some (.file content) ∧ t.read? p = some content
  /-- A name that leads to a file under the directory is found. -/
  found : ∀ n q content, Registry.isAddressable name → t.Leads n [] (r.root ++ [name]) q →
    r.root <+: q → t.read? q = some content → r.resolve t name = (.ok q, [])
  /-- A name that leads out of the directory is not, and the log says so. -/
  escapes : ∀ n q, Registry.isAddressable name → t.Leads n [] (r.root ++ [name]) q →
    ¬ r.root <+: q →
    r.resolve t name = (.error (.notFound name), [Registry.escapeRejected name])
  /-- What is read is the whole text of a file that is found, and no more than allowed. -/
  read : ∀ source, (r.readSource t name).1 = .ok source → ∃ p, (r.resolve t name).1 = .ok p ∧
    t.read? p = some (Text.Utf8.ofString source) ∧
      (Text.Utf8.ofString source).length ≤ maxKb * 1024

/-- A registry contains what it finds. -/
theorem contains_of_make {t₀ : Tree} {documents : Path} {maxKb : Nat} {r : Registry}
    (h : Registry.make t₀ documents maxKb = .ok r) (t : Tree) (name : String) :
    Contains t₀ t documents maxKb r name := by
  obtain ⟨hroot, hmax⟩ := of_make_eq_ok h
  constructor
  case root =>
    intro n q hleads
    rw [Tree.resolve_of_leads hleads] at hroot
    obtain rfl := Except.ok.inj hroot
    exact ⟨rfl, hleads.resolved (Tree.resolved_nil t₀)⟩
  case bare => exact fun hname => resolve_of_not_isBareName hname r t
  case within =>
    intro p hp
    obtain ⟨-, -, hwithin, hfile⟩ := of_resolve_eq_ok hp
    exact ⟨hwithin, hfile⟩
  case resolved =>
    intro p n q hp hleads
    obtain ⟨-, hresolve, -, content, hfile⟩ := of_resolve_eq_ok hp
    rw [Tree.resolve_of_leads hleads] at hresolve
    obtain rfl := Except.ok.inj hresolve
    -- the path that is checked is the one that the name leads to, so that no link is left on it
    have hresolved := hleads.resolved (Tree.resolved_nil t)
    exact ⟨rfl, hresolved, content, hresolved.entry?_of_find (Tree.find_of_read? hfile), hfile⟩
  case found =>
    exact fun n q content hname hleads hwithin hfile =>
      resolve_of_leads hname hleads hwithin hfile
  case escapes => exact fun n q hname hleads hout => resolve_of_leads_out hname hleads hout
  case read =>
    intro source hsource
    rw [← hmax]
    exact of_readSource_eq_ok hsource

/-! ## A directory that is a link -/

/-- A tree in which the directory of the documents is a link, and a document as well. -/
def linkedTree : Tree where
  entries :=
    [(["texts"], .directory),
     (["documents"], .link "texts"),
     (["texts", "main.flo"], .link "../texts/home.flo"),
     (["texts", "home.flo"], .file (Text.Utf8.ofString "Hello"))]

theorem leads_documents_linkedTree : linkedTree.Leads 1 [] ["documents"] ["texts"] := by
  have hlink : linkedTree.link? ["documents"] = some "texts" := by decide
  have htarget : linkedTree.Leads 0 [] (components "texts") ["texts"] :=
    .down (by decide) (by decide) (.stay _ _)
  exact .link (by decide) hlink htarget (.stay _ _)

theorem leads_main_linkedTree :
    linkedTree.Leads 1 [] ["texts", "main.flo"] ["texts", "home.flo"] := by
  have hlink : linkedTree.link? ["texts", "main.flo"] = some "../texts/home.flo" := by decide
  have htarget : linkedTree.Leads 0 ["texts"] (components "../texts/home.flo")
      ["texts", "home.flo"] :=
    .up (.down (by decide) (by decide) (.down (by decide) (by decide) (.stay _ _)))
  exact .down (by decide) (by decide) (.link (by decide) hlink htarget (.stay _ _))

/-- The document is found in the directory that the link leads to. -/
theorem contains_linkedTree :
    Registry.make linkedTree ["documents"] 512 = .ok ⟨["texts"], 512 * 1024⟩ ∧
      (Registry.resolve ⟨["texts"], 512 * 1024⟩ linkedTree "main.flo") =
        (.ok ["texts", "home.flo"], []) ∧
      Contains linkedTree linkedTree ["documents"] 512 ⟨["texts"], 512 * 1024⟩ "main.flo" := by
  have hmake : Registry.make linkedTree ["documents"] 512 = .ok ⟨["texts"], 512 * 1024⟩ := by
    rw [Registry.make, Tree.resolve_of_leads leads_documents_linkedTree]
    rfl
  have hcontains := contains_of_make hmake linkedTree "main.flo"
  refine ⟨hmake, ?_, hcontains⟩
  refine hcontains.found 1 _ (Text.Utf8.ofString "Hello") (by decide) leads_main_linkedTree
    (by decide) ?_
  have hstands : linkedTree.Stands (Text.Utf8.ofString "Hello") [] ["texts", "home.flo"] :=
    .directory rfl (by decide) (.file rfl (by decide) rfl)
  exact hstands.read?_eq

/-! ## A circle on the way -/

/-- A tree in which a name leads in a circle and on to a link out of the directory. -/
def leakyTree : Tree where
  entries :=
    [(["documents"], .directory),
     (["secret.flo"], .file (Text.Utf8.ofString "secret")),
     (["documents", "loop"], .link "loop"),
     (["documents", "a.flo"], .link "loop/../b.flo"),
     (["documents", "b.flo"], .link "../secret.flo")]

theorem leads_b_leakyTree : leakyTree.Leads 1 [] ["documents", "b.flo"] ["secret.flo"] := by
  have hlink : leakyTree.link? ["documents", "b.flo"] = some "../secret.flo" := by decide
  have htarget : leakyTree.Leads 0 ["documents"] (components "../secret.flo") ["secret.flo"] :=
    .up (.down (by decide) (by decide) (.stay _ _))
  exact .down (by decide) (by decide) (.link (by decide) hlink htarget (.stay _ _))

/-- The walk stops in front of the link that leads to itself. -/
theorem walk_leakyTree :
    leakyTree.walk [] [] ["documents", "a.flo"] = .stuck ["documents", "loop", "..", "b.flo"] := by
  have hlink : leakyTree.link? (["documents"] ++ ["a.flo"]) = some "loop/../b.flo" := by decide
  have hloop : leakyTree.link? (["documents"] ++ ["loop"]) = some "loop" := by decide
  have htarget : components "loop/../b.flo" = ["loop", "..", "b.flo"] := by decide
  have hagain : components "loop" = ["loop"] := by decide
  have horigin : origin ["documents"] "loop/../b.flo" = ["documents"] := by decide
  have horigin' : origin ["documents"] "loop" = ["documents"] := by decide
  rw [Tree.walk_down (by decide) (by decide), List.nil_append, Tree.walk_link (by decide) hlink,
    if_neg List.not_mem_nil, htarget, horigin, Tree.walk_link (by decide) hloop,
    if_neg (by decide), hagain, horigin', Tree.walk_link (by decide) hloop, if_pos (by decide)]
  rfl

theorem find_leakyTree :
    leakyTree.find ["documents", "b.flo"] = .ok (.file (Text.Utf8.ofString "secret")) := by
  have hroot : leakyTree.entry? [] = some .directory := rfl
  have hdocuments : leakyTree.entry? ["documents"] = some .directory := rfl
  have hlink : leakyTree.entry? ["documents", "b.flo"] = some (.link "../secret.flo") := rfl
  have hsecret : leakyTree.entry? ["secret.flo"] =
      some (.file (Text.Utf8.ofString "secret")) := rfl
  have htarget : components "../secret.flo" = ["..", "secret.flo"] := by decide
  have horigin : isAbsolute "../secret.flo" = false := by decide
  have hshort : isTooLong "documents" = false ∧ isTooLong "b.flo" = false ∧
      isTooLong "secret.flo" = false := by decide
  simp [Tree.find, Tree.findFrom, hroot, hdocuments, hlink, hsecret, htarget, horigin, hshort,
    Tree.maxLinks, isIdle, parent]

/-- No file stands in the directory. -/
theorem not_file_leakyTree {p : Path} (h : ["documents"] <+: p) (content : Bytes) :
    leakyTree.entry? p ≠ some (.file content) := by
  obtain ⟨rest, rfl⟩ := h
  intro hentry
  rw [Tree.entry?, if_neg (by simp)] at hentry
  obtain ⟨before, after, hentries, -⟩ := List.lookup_eq_some_iff.1 hentry
  have hmem : (["documents"] ++ rest, Entry.file content) ∈ leakyTree.entries := by
    rw [hentries]
    exact List.mem_append_right _ List.mem_cons_self
  simp [leakyTree] at hmem

/-- What is found is a link that leads out of the directory, and what is read stands there; in the
directory there is no file. -/
theorem leakyTree_escapes :
    Registry.make leakyTree ["documents"] 512 = .ok ⟨["documents"], 512 * 1024⟩ ∧
      Registry.resolve ⟨["documents"], 512 * 1024⟩ leakyTree "a.flo" =
        (.ok ["documents", "b.flo"], []) ∧
      leakyTree.link? ["documents", "b.flo"] = some "../secret.flo" ∧
      leakyTree.Leads 1 [] ["documents", "b.flo"] ["secret.flo"] ∧
      (Registry.readSource ⟨["documents"], 512 * 1024⟩ leakyTree "a.flo").1 = .ok "secret" ∧
      ∀ p content, ["documents"] <+: p → leakyTree.entry? p ≠ some (.file content) := by
  have hroot : leakyTree.Leads 0 [] ["documents"] ["documents"] :=
    .down (by decide) (by decide) (.stay _ _)
  have hmake : Registry.make leakyTree ["documents"] 512 = .ok ⟨["documents"], 512 * 1024⟩ := by
    rw [Registry.make, Tree.resolve_of_leads hroot]
    rfl
  have hfollow : follow [] ["documents", "loop", "..", "b.flo"] = ["documents", "b.flo"] := by
    decide
  have hpath : leakyTree.resolve [] ["documents", "a.flo"] = .ok ["documents", "b.flo"] := by
    rw [Tree.resolve, walk_leakyTree]
    dsimp only
    rw [hfollow, find_leakyTree]
  have hread : leakyTree.read? ["documents", "b.flo"] = some (Text.Utf8.ofString "secret") := by
    rw [Tree.read?, find_leakyTree]
  have hresolve : Registry.resolve ⟨["documents"], 512 * 1024⟩ leakyTree "a.flo" =
      (.ok ["documents", "b.flo"], []) := by
    unfold Registry.resolve
    rw [if_neg (by decide)]
    dsimp only [List.cons_append, List.nil_append]
    rw [hpath]
    dsimp only
    rw [if_neg (by decide), Tree.isFile_eq_true_iff.2 ⟨_, hread⟩]
  refine ⟨hmake, hresolve, by decide, leads_b_leakyTree, ?_,
    fun p content h => not_file_leakyTree h content⟩
  rw [Registry.readSource, hresolve]
  dsimp only
  rw [Registry.readFile, hread]
  dsimp only
  rw [if_neg (by decide), Text.Utf8.toString_eq_ok_iff.2 rfl]
  rfl

end SealedPage.Seal
