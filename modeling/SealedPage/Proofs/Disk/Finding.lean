import SealedPage.Proofs.Disk.Following

/-!
# Finding files

What is found behind a path was come to by following its components, `of_find_eq_ok`: they lead to
the path that holds it, through directories only. The way back is `find_of_reached`. Not everything
that components lead to can be found, as a walk may leave what is no directory, and may follow more
links than are followed to find a file.
-/

namespace SealedPage.Disk

/-- Components behind others lead on from where those lead. -/
theorem Tree.Leads.of_append {t : Tree} {n : Nat} {here p : Path} {front rest : List String}
    (h : t.Leads n here (front ++ rest) p) :
    ∃ q, t.Leads n here front q ∧ ∃ m, t.Leads m q rest p := by
  induction front generalizing n here with
  | nil => exact ⟨here, .stay n here, n, h⟩
  | cons name front ih =>
    cases h with
    | idle hname h =>
      obtain ⟨q, hfront, hrest⟩ := ih h
      exact ⟨q, .idle hname hfront, hrest⟩
    | up h =>
      obtain ⟨q, hfront, hrest⟩ := ih h
      exact ⟨q, .up hfront, hrest⟩
    | down hname hlink h =>
      obtain ⟨q, hfront, hrest⟩ := ih h
      exact ⟨q, .down hname hlink hfront, hrest⟩
    | link hname hlink htarget h =>
      obtain ⟨q, hfront, hrest⟩ := ih h
      exact ⟨q, .link hname hlink htarget hfront, hrest⟩

namespace Tree

variable {t : Tree}

/-- Only directories are above a path, and no name on it is too long. -/
structure Reached (t : Tree) (p : Path) : Prop where
  short : ∀ name ∈ p, isTooLong name = false
  directories : ∀ q, q <+: p → q ≠ p → t.entry? q = some .directory

theorem reached_nil (t : Tree) : t.Reached [] where
  short := by simp
  directories q hq hne := absurd (List.prefix_nil.1 hq) hne

namespace Reached

variable {p : Path}

theorem parent (h : t.Reached p) : t.Reached (parent p) where
  short name hname := h.short name ((List.dropLast_sublist p).subset hname)
  directories q hq hne := by
    refine h.directories q (hq.trans (List.dropLast_prefix p)) ?_
    rintro rfl
    -- a path that is above itself is the root
    have hlength := hq.length_le
    rw [Disk.parent, List.length_dropLast] at hlength
    have hnil : q = [] := List.eq_nil_of_length_eq_zero (by omega)
    exact hne (by rw [hnil]; rfl)

theorem concat (h : t.Reached p) (hp : t.entry? p = some .directory) {name : String}
    (hname : isTooLong name = false) : t.Reached (p ++ [name]) where
  short n hn := by
    rcases List.mem_append.1 hn with hn | hn
    · exact h.short n hn
    · rwa [List.mem_singleton.1 hn]
  directories q hq hne := by
    have hq := (List.prefix_concat_iff.1 hq).resolve_left hne
    by_cases heq : q = p
    · rw [heq, hp]
    · exact h.directories q hq heq

theorem origin (h : t.Reached p) (target : String) : t.Reached (origin p target) := by
  unfold Disk.origin
  split
  · exact reached_nil t
  · exact h

end Reached

/-! ## The steps of the search -/

section
variable {links : Nat} {here : Path} {name : String} {rest : List String}
  (hhere : t.entry? here = some .directory)
include hhere

/-- Idle components lead nowhere else. -/
theorem findFrom_idle (hname : isIdle name) :
    t.findFrom links here (name :: rest) = t.findFrom links here rest := by
  rw [findFrom, hhere]
  dsimp only
  rw [if_pos hname]

/-- Two dots lead to the directory above. -/
theorem findFrom_up :
    t.findFrom links here (".." :: rest) = t.findFrom links (parent here) rest := by
  rw [findFrom, hhere]
  dsimp only
  rw [if_neg (by decide), if_pos (by decide)]

/-- A name that is no link leads into its entry. -/
theorem findFrom_down (hname : isName name) (hshort : isTooLong name = false) {e : Entry}
    (hentry : t.entry? (here ++ [name]) = some e) (hlink : t.link? (here ++ [name]) = none) :
    t.findFrom links here (name :: rest) = t.findFrom links (here ++ [name]) rest := by
  obtain ⟨hidle, hup⟩ := ne_of_isName hname
  rw [findFrom, hhere]
  dsimp only
  rw [if_neg (by simp [hidle]), if_neg (by simpa using hup), if_neg (by simp [hshort]), hentry]
  cases e with
  | link target => simp [link?, hentry] at hlink
  | file content => rfl
  | directory => rfl

/-- A link leads on to its target, and takes one of the links that may be followed. -/
theorem findFrom_link (hname : isName name) (hshort : isTooLong name = false) {target : String}
    (hlink : t.entry? (here ++ [name]) = some (.link target)) :
    t.findFrom (links + 1) here (name :: rest) =
      t.findFrom links (origin here target) (components target ++ rest) := by
  obtain ⟨hidle, hup⟩ := ne_of_isName hname
  rw [findFrom, hhere]
  dsimp only
  rw [if_neg (by simp [hidle]), if_neg (by simpa using hup), if_neg (by simp [hshort]), hlink]
  rfl

end

/-! ## What is found was come to -/

/-- A search that finds something first comes to where the components in front lead, and goes on
from there, whatever is behind them. -/
theorem findFrom_append {links : Nat} {here : Path} {front rest : List String} {node : Node}
    (h : t.findFrom links here (front ++ rest) = .ok node) :
    ∃ left q n, t.Leads n here front q ∧ (t.Reached here → t.Reached q) ∧
      ∀ rest', t.findFrom links here (front ++ rest') = t.findFrom left q rest' := by
  generalize hall : front ++ rest = all at h
  fun_induction findFrom t links here all generalizing front with
  | case1 links here | case2 links here =>
    obtain ⟨rfl, rfl⟩ := List.append_eq_nil_iff.1 hall
    exact ⟨links, here, 0, .stay 0 here, id, fun _ => rfl⟩
  | case4 links here name behind hhere hidle ih =>
    cases front with
    | nil => exact ⟨links, here, 0, .stay 0 here, id, fun _ => rfl⟩
    | cons name front =>
      obtain ⟨rfl, hbehind⟩ := List.cons.inj hall
      obtain ⟨left, q, n, hleads, hreached, hfind⟩ := ih hbehind h
      refine ⟨left, q, n, .idle hidle hleads, hreached, fun rest' => ?_⟩
      rw [List.cons_append, findFrom_idle hhere hidle, hfind]
  | case5 links here name behind hhere hidle hup ih =>
    cases front with
    | nil => exact ⟨links, here, 0, .stay 0 here, id, fun _ => rfl⟩
    | cons name front =>
      obtain ⟨rfl, hbehind⟩ := List.cons.inj hall
      obtain rfl : name = ".." := by simpa using hup
      obtain ⟨left, q, n, hleads, hreached, hfind⟩ := ih hbehind h
      refine ⟨left, q, n, .up hleads, fun hhere' => hreached hhere'.parent, fun rest' => ?_⟩
      rw [List.cons_append, findFrom_up hhere, hfind]
  | case9 here name behind hhere hidle hup hshort target hlink links ih =>
    cases front with
    | nil => exact ⟨_, here, 0, .stay 0 here, id, fun _ => rfl⟩
    | cons name front =>
      obtain ⟨rfl, hbehind⟩ := List.cons.inj hall
      have hname := isName_of_ne hidle hup
      -- the components of the target come in front of those that are left
      have htarget : (components target ++ front) ++ rest = components target ++ behind := by
        rw [List.append_assoc]
        exact congrArg _ hbehind
      simp only [dite_eq_ite] at ih
      obtain ⟨left, q, n, hleads, hreached, hfind⟩ := ih htarget h
      obtain ⟨q', hleads, m, hleads'⟩ := hleads.of_append
      refine ⟨left, q, max n m + 1, .link hname (by rw [link?, hlink]) (hleads.mono (by omega))
        (hleads'.mono (by omega)), fun hhere' => hreached (hhere'.origin target),
        fun rest' => ?_⟩
      rw [List.cons_append, findFrom_link hhere hname (by simpa using hshort) hlink, ← hfind,
        List.append_assoc]
      rfl
  | case10 links here name behind hhere hidle hup hshort e hnot hentry ih =>
    cases front with
    | nil => exact ⟨links, here, 0, .stay 0 here, id, fun _ => rfl⟩
    | cons name front =>
      obtain ⟨rfl, hbehind⟩ := List.cons.inj hall
      have hname := isName_of_ne hidle hup
      have hshort : isTooLong name = false := by simpa using hshort
      have hlink : t.link? (here ++ [name]) = none := by
        rw [link?, hentry]
        cases e with
        | link target => exact absurd rfl (hnot target)
        | file content => rfl
        | directory => rfl
      obtain ⟨left, q, n, hleads, hreached, hfind⟩ := ih hbehind h
      refine ⟨left, q, n, .down hname hlink hleads,
        fun hhere' => hreached (hhere'.concat hhere hshort), fun rest' => ?_⟩
      rw [List.cons_append, findFrom_down hhere hname hshort hentry hlink, hfind]
  | _ => cases h

/-- The components of a path at which something is found lead to what holds it. -/
theorem of_find_eq_ok {p : Path} {node : Node} (h : t.find p = .ok node) :
    ∃ q n, t.Leads n [] p q ∧ t.Resolved q ∧ t.Reached q ∧ t.entry? q = some node.entry := by
  rw [find, ← List.append_nil p] at h
  obtain ⟨left, q, n, hleads, hreached, hfind⟩ := findFrom_append h
  rw [hfind] at h
  have hresolved := hleads.resolved (resolved_nil t)
  refine ⟨q, n, hleads, hresolved, hreached (reached_nil t), ?_⟩
  have hentry := (findFrom_of_resolved q (by rwa [List.append_nil])).1 node h
  rwa [List.append_nil] at hentry

/-- What is found under a name in a directory stands in the directory that the path of the directory
leads to. -/
theorem of_find_concat_eq_ok {p : Path} {name : String} (hname : isName name) {node : Node}
    (h : t.find (p ++ [name]) = .ok node) :
    t.find p = .ok .directory ∧
      ∃ q n, t.Leads n [] p q ∧ ∃ e, t.entry? (q ++ [name]) = some e := by
  rw [find] at h
  obtain ⟨left, q, n, hleads, -, hfind⟩ := findFrom_append h
  obtain ⟨hidle, hup⟩ := ne_of_isName hname
  rw [hfind, findFrom] at h
  have hp : t.find p = t.findFrom left q [] := by rw [find, ← hfind, List.append_nil]
  split at h
  · rename_i hq
    refine ⟨by rw [hp, findFrom, hq], q, n, hleads, ?_⟩
    rw [if_neg (by simp [hidle]), if_neg (by simpa using hup)] at h
    cases hentry : t.entry? (q ++ [name]) with
    | some e => exact ⟨e, rfl⟩
    | none =>
      rw [hentry] at h
      split at h <;> cases h
  · cases h
  · cases h

/-! ## What is come to is found -/

/-- On a path without links whose directories all exist, the entry at the end is found. -/
theorem findFrom_of_reached {links : Nat} (here : Path) {rest : List String} {node : Node}
    (hresolved : t.Resolved (here ++ rest)) (hreached : t.Reached (here ++ rest))
    (hentry : t.entry? (here ++ rest) = some node.entry) :
    t.findFrom links here rest = .ok node := by
  induction rest generalizing here with
  | nil =>
    rw [List.append_nil] at hentry
    rw [findFrom, hentry]
    cases node <;> rfl
  | cons name rest ih =>
    have hassoc : here ++ name :: rest = here ++ [name] ++ rest := by simp
    have hhere := hreached.directories here (by simp) (by simp)
    have hname := hresolved.names name (by simp)
    have hshort := hreached.short name (by simp)
    have hlink := hresolved.links (here ++ [name]) (by simp)
    rw [hassoc] at hresolved hreached hentry
    -- below a directory there is another one, unless the path ends there
    obtain ⟨e, he⟩ : ∃ e, t.entry? (here ++ [name]) = some e := by
      by_cases hrest : rest = []
      · rw [hrest, List.append_nil] at hentry
        exact ⟨_, hentry⟩
      · exact ⟨_, hreached.directories _ (List.prefix_append _ _) (by simpa using hrest)⟩
    rw [findFrom_down hhere hname hshort he hlink]
    exact ih _ hresolved hreached hentry

/-- A path without links below directories is found to hold what it holds. -/
theorem find_of_reached {p : Path} {node : Node} (hresolved : t.Resolved p)
    (hreached : t.Reached p) (hentry : t.entry? p = some node.entry) : t.find p = .ok node :=
  findFrom_of_reached [] hresolved hreached hentry

/-- A question for the kind of what a path leads to fails only if the path is too long. -/
theorem leadsTo_eq_error_iff {p : Path} {kind : Node → Bool} {e : LookupError} :
    t.leadsTo p kind = .error e ↔ e = .nameTooLong ∧ t.find p = .error .nameTooLong := by
  unfold leadsTo
  cases t.find p with
  | ok node => simp
  | error cause => cases cause <;> simp [eq_comm]

/-- The names in a directory are those of the entries below it. -/
theorem mem_names_iff {p : Path} {name : String} :
    name ∈ t.names p ↔ ∃ e, t.entry? (p ++ [name]) = some e := by
  have hlookup : (∃ e, t.entry? (p ++ [name]) = some e) ↔
      ∃ pair ∈ t.entries, p ++ [name] = pair.1 := by
    rw [Tree.entry?, if_neg (by simp), ← Option.isSome_iff_exists, List.lookup_isSome_iff]
    simp
  rw [hlookup, names, List.mem_eraseDups, List.mem_filterMap]
  refine exists_congr fun pair => and_congr_right fun _ => ?_
  obtain ⟨q, e⟩ := pair
  dsimp only
  constructor
  · intro h
    obtain ⟨⟨-, rfl⟩, hlast⟩ := Option.ite_none_right_eq_some.1 h
    obtain ⟨front, rfl⟩ := List.getLast?_eq_some_iff.1 hlast
    rw [parent, List.dropLast_concat]
  · rintro rfl
    rw [if_pos ⟨by simp, List.dropLast_concat⟩]
    exact List.getLast?_concat

/-- What is found in a directory is among the names behind its path. -/
theorem mem_namesBehind_of_find {p : Path} {name : String} (hname : isName name) {node : Node}
    (h : t.find (p ++ [name]) = .ok node) : name ∈ t.namesBehind p := by
  obtain ⟨-, q, n, hleads, hentry⟩ := of_find_concat_eq_ok hname h
  rw [namesBehind, walk_eq_done_iff.2 ⟨n, hleads⟩]
  exact mem_names_iff.2 hentry

theorem nodup_eraseDups (names : List String) : names.eraseDups.Nodup := by
  induction hlength : names.length using Nat.strongRecOn generalizing names with
  | ind n ih =>
    cases names with
    | nil => exact List.nodup_nil
    | cons name names =>
      rw [List.eraseDups_cons, List.nodup_cons]
      have hle := List.length_filter_le (fun b => !b == name) names
      rw [List.length_cons] at hlength
      exact ⟨by simp, ih _ (by omega) _ rfl⟩

/-- No name is listed twice. -/
theorem nodup_namesBehind (t : Tree) (p : Path) : (t.namesBehind p).Nodup := by
  unfold namesBehind
  split
  · exact nodup_eraseDups _
  · exact List.nodup_nil

end Tree

end SealedPage.Disk
