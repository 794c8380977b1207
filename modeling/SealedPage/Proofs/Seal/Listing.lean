import Mathlib.Data.List.Sort
import Mathlib.Data.String.Basic
import SealedPage.Proofs.Disk.Finding
import SealedPage.Proofs.Seal.Containment

/-!
# The listing of documents

The listing holds the names of documents under which a file is found in the directory, in order and
each once; `Lists` compares them with the names that are looked up, and `lists_or_tooLong` says that
it holds of every listing. The two rules are not the same one. The listing also shows names that
begin with a dot, and links that lead out of the directory, `strayTree_lists`; and it leaves out
names at which nothing is found although following their links leads to a document.
-/

namespace SealedPage.Seal

open Disk

/-- The name of a document is the name of a file. -/
theorem isName_of_isDocumentName {name : String} (h : isDocumentName name) : isName name := by
  have hlength : nameEnd.length < name.toList.length := by
    simp only [isDocumentName, Bool.and_eq_true, decide_eq_true_eq] at h
    exact h.2
  have hne : ∀ s : String, s.toList.length ≤ 4 → name ≠ s := by
    rintro s hs rfl
    rw [show nameEnd.length = 4 from rfl] at hlength
    omega
  have hempty : name ≠ "" := hne "" (by decide)
  simp [isName, isIdle, hempty, hne "." (by decide), hne ".." (by decide)]

/-! ## The names of files -/

section
variable (r : Registry) (t : Tree)

/-- A name in the listing: that of a document, under which a file is found. -/
def isListed (name : String) : Bool :=
  t.isFile (r.root ++ [name]) = .ok true && isDocumentName name

/-- The names of files are picked in their order, unless a path is too long. -/
theorem filesAmong_cases (names : List String) :
    r.filesAmong t names = .ok (names.filter (isListed r t)) ∨
      ∃ name ∈ names, r.filesAmong t names = .error (.nameTooLong (r.root ++ [name])) ∧
        t.find (r.root ++ [name]) = .error .nameTooLong := by
  induction names with
  | nil => exact Or.inl rfl
  | cons name names ih =>
    rw [Registry.filesAmong]
    cases hfile : t.isFile (r.root ++ [name]) with
    | error e =>
      exact Or.inr ⟨name, List.mem_cons_self, rfl, (Tree.leadsTo_eq_error_iff.1 hfile).2⟩
    | ok isFile =>
      dsimp only
      rcases ih with hnames | ⟨name', hmem, herror, hlong⟩
      · refine Or.inl ?_
        rw [hnames, List.filter_cons]
        simp [Except.map, isListed, hfile]
      · exact Or.inr ⟨name', List.mem_cons_of_mem _ hmem, by rw [herror]; rfl, hlong⟩

end

/-! ## The listing -/

/-- How a listing compares with what is found by name. -/
structure Lists (r : Registry) (t : Tree) (names : List String) : Prop where
  /-- The names stand in order, each once. -/
  sorted : names.Pairwise (· < ·)
  /-- They are the names of documents under which a file is found in the directory. -/
  mem_iff : ∀ name, name ∈ names ↔
    isDocumentName name ∧ ∃ content, t.read? (r.root ++ [name]) = some content
  /-- A name in the listing leads to a file. A document is found by that name unless the name begins
  with a dot or the file lies outside of the directory. -/
  found : ∀ name ∈ names, ∃ n p, t.Leads n [] (r.root ++ [name]) p ∧
    (∃ content, t.entry? p = some (.file content)) ∧
    r.resolve t name =
      if name.toList.head? = some '.' then (.error (.notFound name), [])
      else if r.root <+: p then (.ok p, [])
      else (.error (.notFound name), [Registry.escapeRejected name])
  /-- A name by which a document is found is in the listing unless nothing at all is found under
  it. -/
  listed : ∀ name p, (r.resolve t name).1 = .ok p →
    (name ∈ names ↔ ∃ node, t.find (r.root ++ [name]) = .ok node)

section
variable {r : Registry} {t : Tree} {name : String}

/-- A file that is found under a name in the directory is what the name leads to. -/
theorem resolve_of_read? (hname : isDocumentName name) {content : Bytes}
    (h : t.read? (r.root ++ [name]) = some content) :
    ∃ n p, t.Leads n [] (r.root ++ [name]) p ∧ t.entry? p = some (.file content) ∧
      r.resolve t name =
        if name.toList.head? = some '.' then (.error (.notFound name), [])
        else if r.root <+: p then (.ok p, [])
        else (.error (.notFound name), [Registry.escapeRejected name]) := by
  obtain ⟨p, n, hleads, hresolved, hreached, hentry⟩ := Tree.of_find_eq_ok (Tree.find_of_read? h)
  have hread : t.read? p = some content := by
    rw [Tree.read?, Tree.find_of_reached hresolved hreached hentry]
  refine ⟨n, p, hleads, hentry, ?_⟩
  split
  · rename_i hdot
    exact resolve_of_not_isBareName (fun hbare => hbare.dot hdot) r t
  · rename_i hdot
    have haddressable : Registry.isAddressable name := by
      simp [Registry.isAddressable, hname, hdot]
    split
    · rename_i hwithin
      exact resolve_of_leads haddressable hleads hwithin hread
    · rename_i hout
      exact resolve_of_leads_out haddressable hleads hout

/-- What a name leads to is the file that is found under it, if anything is. -/
theorem read?_of_resolve {p : Path} (h : (r.resolve t name).1 = .ok p) {node : Tree.Node}
    (hfind : t.find (r.root ++ [name]) = .ok node) :
    ∃ content, t.read? (r.root ++ [name]) = some content := by
  obtain ⟨-, hresolve, -, content, hfile⟩ := of_resolve_eq_ok h
  obtain ⟨q, n, hleads, hresolved, -, hentry⟩ := Tree.of_find_eq_ok hfind
  rw [Tree.resolve_of_leads hleads] at hresolve
  obtain rfl := Except.ok.inj hresolve
  rw [hresolved.entry?_of_find (Tree.find_of_read? hfile)] at hentry
  cases node with
  | file content' => exact ⟨content', by rw [Tree.read?, hfind]⟩
  | directory => cases hentry

/-- The names in the directory that are listed are all names of documents at which a file is
found. -/
theorem mem_filter_isListed_iff :
    name ∈ (t.namesBehind r.root).filter (isListed r t) ↔
      isDocumentName name ∧ ∃ content, t.read? (r.root ++ [name]) = some content := by
  rw [List.mem_filter, isListed, Bool.and_eq_true, decide_eq_true_eq, Tree.isFile_eq_true_iff]
  constructor
  · rintro ⟨-, hfile, hname⟩
    exact ⟨hname, hfile⟩
  · rintro ⟨hname, content, hfile⟩
    exact ⟨Tree.mem_namesBehind_of_find (isName_of_isDocumentName hname)
      (Tree.find_of_read? hfile), ⟨content, hfile⟩, hname⟩

/-- Sorted names that occur once are in strict order. -/
theorem pairwise_lt_mergeSort {names : List String} (h : names.Nodup) :
    (names.mergeSort fun a b => decide (a ≤ b)).Pairwise (· < ·) := by
  have hsorted := List.pairwise_mergeSort' (· ≤ ·) names
  have hnodup := ((List.mergeSort_perm names fun a b => decide (a ≤ b)).nodup_iff).2 h
  exact (hsorted.and hnodup).imp fun ⟨hle, hne⟩ => lt_of_le_of_ne hle hne

/-- A sorted list with just the documents in it lists them. -/
theorem lists_of_mem_iff {names : List String} (hsorted : names.Pairwise (· < ·))
    (hmem : ∀ name, name ∈ names ↔
      isDocumentName name ∧ ∃ content, t.read? (r.root ++ [name]) = some content) :
    Lists r t names where
  sorted := hsorted
  mem_iff := hmem
  found name hname := by
    obtain ⟨hdocument, content, hfile⟩ := (hmem name).1 hname
    obtain ⟨n, p, hleads, hentry, hresolve⟩ := resolve_of_read? hdocument hfile
    exact ⟨n, p, hleads, ⟨content, hentry⟩, hresolve⟩
  listed name p hresolve := by
    rw [hmem]
    constructor
    · rintro ⟨-, content, hfile⟩
      exact ⟨_, Tree.find_of_read? hfile⟩
    · rintro ⟨node, hfind⟩
      obtain ⟨haddressable, -⟩ := of_resolve_eq_ok hresolve
      rw [Registry.isAddressable, Bool.and_eq_true] at haddressable
      exact ⟨haddressable.1, read?_of_resolve hresolve hfind⟩

end

/-- Whatever tree the directory is in, its listing holds the names of the documents in it, unless a
name on the way to one of its entries is too long. -/
theorem lists_or_tooLong (r : Registry) (t : Tree) :
    (∃ names, r.list t = .ok names ∧ Lists r t names) ∨
      ∃ p, r.list t = .error (.nameTooLong p) ∧ t.find p = .error .nameTooLong ∧
        (p = r.root ∨ ∃ name ∈ t.namesBehind r.root, p = r.root ++ [name]) := by
  rw [Registry.list]
  cases hdirectory : t.isDirectory r.root with
  | error e =>
    exact Or.inr ⟨r.root, rfl, (Tree.leadsTo_eq_error_iff.1 hdirectory).2, Or.inl rfl⟩
  | ok isDirectory =>
    cases isDirectory with
    | false =>
      refine Or.inl ⟨[], rfl, lists_of_mem_iff List.Pairwise.nil fun name => ?_⟩
      -- below what is no directory nothing is found
      refine iff_of_false List.not_mem_nil ?_
      rintro ⟨hname, content, hfile⟩
      obtain ⟨hroot, -⟩ := Tree.of_find_concat_eq_ok (isName_of_isDocumentName hname)
        (Tree.find_of_read? hfile)
      rw [Tree.isDirectory, Tree.leadsTo, hroot] at hdirectory
      cases hdirectory
    | true =>
      dsimp only
      rcases filesAmong_cases r t (t.namesBehind r.root) with hnames | ⟨name, hmem, herror, hlong⟩
      · rw [hnames]
        refine Or.inl ⟨_, rfl, lists_of_mem_iff
          (pairwise_lt_mergeSort ((t.nodup_namesBehind r.root).filter _)) fun name => ?_⟩
        rw [List.mem_mergeSort, mem_filter_isListed_iff]
      · rw [herror]
        exact Or.inr ⟨_, rfl, hlong, Or.inr ⟨name, hmem, rfl⟩⟩

/-! ## Names that are listed and not found -/

/-- A tree in which a document has a name that begins with a dot, and another one is a link that
leads out of the directory. -/
def strayTree : Tree where
  entries :=
    [(["documents"], .directory),
     (["secret.flo"], .file (Text.Utf8.ofString "secret")),
     (["documents", ".hidden.flo"], .file (Text.Utf8.ofString "hidden")),
     (["documents", "out.flo"], .link "../secret.flo")]

theorem leads_out_strayTree : strayTree.Leads 1 [] ["documents", "out.flo"] ["secret.flo"] := by
  have hlink : strayTree.link? ["documents", "out.flo"] = some "../secret.flo" := by decide
  have htarget : strayTree.Leads 0 ["documents"] (components "../secret.flo") ["secret.flo"] :=
    .up (.down (by decide) (by decide) (.stay _ _))
  exact .down (by decide) (by decide) (.link (by decide) hlink htarget (.stay _ _))

theorem isFile_hidden_strayTree : strayTree.isFile ["documents", ".hidden.flo"] = .ok true := by
  have hstands : strayTree.Stands (Text.Utf8.ofString "hidden") [] ["documents", ".hidden.flo"] :=
    .directory rfl (by decide) (.file rfl (by decide) rfl)
  exact hstands.isFile_eq

/-- A file is found through the link. -/
theorem isFile_out_strayTree : strayTree.isFile ["documents", "out.flo"] = .ok true := by
  have hlink : strayTree.entry? (["documents"] ++ ["out.flo"]) = some (.link "../secret.flo") :=
    rfl
  have htarget : components "../secret.flo" ++ [] = ["..", "secret.flo"] := by decide
  have horigin : origin ["documents"] "../secret.flo" = ["documents"] := by decide
  have hfind : strayTree.find ["documents", "out.flo"] =
      .ok (.file (Text.Utf8.ofString "secret")) := by
    rw [Tree.find, Tree.findFrom_down rfl (by decide) (by decide) rfl (by decide),
      List.nil_append, Tree.maxLinks, Tree.findFrom_link rfl (by decide) (by decide) hlink,
      htarget, horigin, Tree.findFrom_up rfl, Tree.findFrom_down rfl (by decide) (by decide) rfl
      (by decide), Tree.findFrom]
    rfl
  exact Tree.isFile_eq_true_iff.2 ⟨_, by rw [Tree.read?, hfind]⟩

/-- Both names are listed, and no document is found by either of them. -/
theorem strayTree_lists :
    Registry.make strayTree ["documents"] 512 = .ok ⟨["documents"], 512 * 1024⟩ ∧
      Registry.list ⟨["documents"], 512 * 1024⟩ strayTree = .ok [".hidden.flo", "out.flo"] ∧
      Registry.resolve ⟨["documents"], 512 * 1024⟩ strayTree ".hidden.flo" =
        (.error (.notFound ".hidden.flo"), []) ∧
      Registry.resolve ⟨["documents"], 512 * 1024⟩ strayTree "out.flo" =
        (.error (.notFound "out.flo"), [Registry.escapeRejected "out.flo"]) := by
  have hroot : strayTree.Leads 0 [] ["documents"] ["documents"] :=
    .down (by decide) (by decide) (.stay _ _)
  have hdirectory : strayTree.isDirectory ["documents"] = .ok true := by
    rw [Tree.isDirectory, Tree.leadsTo, Tree.find,
      Tree.findFrom_down rfl (by decide) (by decide) rfl (by decide), Tree.findFrom]
    rfl
  have hnames : strayTree.namesBehind ["documents"] = [".hidden.flo", "out.flo"] := by
    rw [Tree.namesBehind, Tree.walk_eq_done_iff.2 ⟨0, hroot⟩]
    decide
  have hfiles : Registry.filesAmong ⟨["documents"], 512 * 1024⟩ strayTree
      [".hidden.flo", "out.flo"] = .ok [".hidden.flo", "out.flo"] := by
    have hdocuments : isDocumentName ".hidden.flo" ∧ isDocumentName "out.flo" := by decide
    simp [Registry.filesAmong, isFile_hidden_strayTree, isFile_out_strayTree, hdocuments,
      Except.map]
  refine ⟨?_, ?_, resolve_of_not_isBareName (fun h => h.dot rfl) _ _,
    resolve_of_leads_out (by decide) leads_out_strayTree (by decide)⟩
  · rw [Registry.make, Tree.resolve_of_leads hroot]
    rfl
  · rw [Registry.list]
    dsimp only
    rw [hdirectory]
    dsimp only
    rw [hnames, hfiles, Except.map, List.mergeSort_of_pairwise (by decide)]

end SealedPage.Seal
