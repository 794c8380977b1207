import Mathlib.Data.Nat.Find
import SealedPage.Proofs.Disk.Lookup

/-!
# Following links

Where components lead when every link on the way is followed: `Tree.Leads` says it step by step. The
walk finds it out, `walk_eq_done_iff`; it is stuck if and only if links lead in a circle. A path
that components lead to is resolved, and what is found behind a resolved path is what it holds,
`Tree.Resolved.entry?_of_find`.
-/

namespace SealedPage.Disk

/-- Whether a component is a name, and not one that means a place. -/
def isName (name : String) : Bool :=
  !isIdle name && name != ".."

/-- The directory from which the target of a link is followed that stands in `here`. -/
def origin (here : Path) (target : String) : Path :=
  if isAbsolute target then [] else here

/-- A path lies within another one if and only if that is a part of its front. -/
theorem isWithin_iff {p base : Path} : isWithin p base ↔ base <+: p := by
  rw [isWithin, List.isPrefixOf_iff_prefix]

namespace Tree

variable {t : Tree}

/-- Components lead from a path to another one, through links that nest at most `n` deep. -/
inductive Leads (t : Tree) : Nat → Path → List String → Path → Prop where
  | stay (n : Nat) (here : Path) : Leads t n here [] here
  | idle {n : Nat} {here p : Path} {name : String} {rest : List String} (hname : isIdle name)
    (h : Leads t n here rest p) : Leads t n here (name :: rest) p
  | up {n : Nat} {here p : Path} {rest : List String} (h : Leads t n (parent here) rest p) :
    Leads t n here (".." :: rest) p
  | down {n : Nat} {here p : Path} {name : String} {rest : List String} (hname : isName name)
    (hlink : t.link? (here ++ [name]) = none) (h : Leads t n (here ++ [name]) rest p) :
    Leads t n here (name :: rest) p
  | link {n : Nat} {here p q : Path} {name target : String} {rest : List String}
    (hname : isName name) (hlink : t.link? (here ++ [name]) = some target)
    (htarget : Leads t n (origin here target) (components target) q)
    (h : Leads t (n + 1) q rest p) : Leads t (n + 1) here (name :: rest) p

/-- A name is neither idle nor two dots. -/
theorem ne_of_isName {name : String} (h : isName name) : isIdle name = false ∧ name ≠ ".." := by
  simpa [isName] using h

theorem isName_of_ne {name : String} (hidle : ¬ isIdle name = true)
    (hup : ¬ (name == "..") = true) : isName name := by
  rw [isName, Bool.and_eq_true, Bool.not_eq_true']
  exact ⟨Bool.eq_false_iff.2 hidle, by simpa using hup⟩

namespace Leads

/-- Links may nest less deep than allowed. -/
theorem mono {n m : Nat} {here p : Path} {rest : List String} (h : t.Leads n here rest p)
    (hle : n ≤ m) : t.Leads m here rest p := by
  induction h generalizing m with
  | stay => exact .stay m _
  | idle hname _ ih => exact .idle hname (ih hle)
  | up _ ih => exact .up (ih hle)
  | down hname hlink _ ih => exact .down hname hlink (ih hle)
  | link hname hlink _ _ ihtarget ih =>
    cases m with
    | zero => omega
    | succ m => exact .link hname hlink (ihtarget (by omega)) (ih hle)

/-- Components lead to one path at most. -/
theorem unique {n m : Nat} {here p q : Path} {rest : List String} (h : t.Leads n here rest p)
    (h' : t.Leads m here rest q) : p = q := by
  -- by induction on the first way: the second one has to take the same step
  induction h generalizing m q with
  | stay =>
    cases h'
    rfl
  | idle hname _ ih =>
    cases h' with
    | idle _ h' => exact ih h'
    | up => exact absurd hname (by decide)
    | down hname' => exact absurd hname (by simp [ne_of_isName hname'])
    | link hname' => exact absurd hname (by simp [ne_of_isName hname'])
  | up _ ih =>
    cases h' with
    | idle hname' => exact absurd hname' (by decide)
    | up h' => exact ih h'
    | down hname' => exact absurd hname' (by decide)
    | link hname' => exact absurd hname' (by decide)
  | down hname hlink _ ih =>
    cases h' with
    | idle hname' => exact absurd hname' (by simp [ne_of_isName hname])
    | up => exact absurd hname (by decide)
    | down _ _ h' => exact ih h'
    | link _ hlink' =>
      rw [hlink] at hlink'
      cases hlink'
  | link hname hlink _ _ ihtarget ih =>
    cases h' with
    | idle hname' => exact absurd hname' (by simp [ne_of_isName hname])
    | up => exact absurd hname (by decide)
    | down _ hlink' =>
      rw [hlink] at hlink'
      cases hlink'
    | link _ hlink' htarget' h' =>
      obtain rfl := Option.some.inj (hlink.symm.trans hlink')
      obtain rfl := ihtarget htarget'
      exact ih h'

end Leads

/-! ## The steps of the walk -/

section
variable {active : List Path} {here : Path} {name : String} {rest : List String}

/-- Idle components are passed over. -/
theorem walk_idle (hname : isIdle name) : t.walk active here (name :: rest) =
    t.walk active here rest := by
  rw [walk, if_pos hname]

/-- Two dots lead to the directory above. -/
theorem walk_up : t.walk active here (".." :: rest) = t.walk active (parent here) rest := by
  rw [walk, if_neg (by decide), if_pos (by decide)]

/-- A name that is no link is appended. -/
theorem walk_down (hname : isName name) (hlink : t.link? (here ++ [name]) = none) :
    t.walk active here (name :: rest) = t.walk active (here ++ [name]) rest := by
  obtain ⟨hidle, hup⟩ := ne_of_isName hname
  rw [walk, if_neg (by simp [hidle]), if_neg (by simpa using hup)]
  dsimp only
  split
  · rfl
  · rename_i htarget
    rw [hlink] at htarget
    exact absurd htarget (Option.some_ne_none _).symm

/-- A link is followed by a walk of its own, unless it is being followed already. -/
theorem walk_link {target : String} (hname : isName name)
    (hlink : t.link? (here ++ [name]) = some target) :
    t.walk active here (name :: rest) =
      if here ++ [name] ∈ active then .stuck (join (here ++ [name]) rest)
      else
        match t.walk ((here ++ [name]) :: active) (origin here target) (components target) with
        | .done p => t.walk active p rest
        | .stuck names => .stuck (join names rest) := by
  obtain ⟨hidle, hup⟩ := ne_of_isName hname
  rw [walk, if_neg (by simp [hidle]), if_neg (by simpa using hup)]
  dsimp only
  split
  · rename_i hnone
    rw [hlink] at hnone
    exact absurd hnone (Option.some_ne_none _)
  · rename_i target' htarget
    obtain rfl : target = target' := Option.some.inj (hlink.symm.trans htarget)
    simp only [List.contains_iff_mem, dite_eq_ite]
    rfl

end

/-! ## The walk and the relation -/

/-- Where the walk ends the components lead. -/
theorem leads_of_walk {active : List Path} {here : Path} {rest : List String} {p : Path}
    (h : t.walk active here rest = .done p) : ∃ n, t.Leads n here rest p := by
  fun_induction walk t active here rest generalizing p with
  | case1 active here =>
    obtain rfl := Walk.done.inj h
    exact ⟨0, .stay 0 here⟩
  | case2 active here name rest hidle ih =>
    obtain ⟨n, hrest⟩ := ih h
    exact ⟨n, .idle hidle hrest⟩
  | case3 active here name rest hidle hup ih =>
    obtain rfl : name = ".." := by simpa using hup
    obtain ⟨n, hrest⟩ := ih h
    exact ⟨n, .up hrest⟩
  | case4 active here name rest hidle hup =>
    rename_i next hlink ih
    obtain ⟨n, hrest⟩ := ih h
    exact ⟨n, .down (isName_of_ne hidle hup) hlink hrest⟩
  | case5 => cases h
  | case6 active here name rest hidle hup =>
    rename_i next target hlink hactive q htarget ihtarget ih
    simp only [dite_eq_ite] at htarget ihtarget
    obtain ⟨n, hleads⟩ := ihtarget htarget
    obtain ⟨m, hrest⟩ := ih h
    -- one level more than the target and what comes behind it need
    exact ⟨max n m + 1, .link (isName_of_ne hidle hup) hlink (hleads.mono (by omega))
      (hrest.mono (by omega))⟩
  | case7 => cases h

/-- The target of a link leads somewhere, through links that nest at most `n` deep. -/
def LinkLeads (t : Tree) (n : Nat) (link : Path) : Prop :=
  ∃ target q, t.link? link = some target ∧
    t.Leads n (origin (parent link) target) (components target) q

/-- A link that leads somewhere does so through links that nest as little as possible. -/
theorem LinkLeads.exists_least {n : Nat} {link : Path} (h : t.LinkLeads n link) :
    ∃ m ≤ n, t.LinkLeads m link ∧ ∀ k < m, ¬ t.LinkLeads k link := by
  classical
  have hex : ∃ m, t.LinkLeads m link := ⟨n, h⟩
  exact ⟨Nat.find hex, Nat.find_min' hex h, Nat.find_spec hex, fun _ hk => Nat.find_min hex hk⟩

/-- Where components lead the walk ends, unless a link that is being followed already is one that
they need. -/
theorem walk_of_leads {n : Nat} {here p : Path} {rest : List String} (h : t.Leads n here rest p)
    {active : List Path} (hactive : ∀ link ∈ active, ∀ m < n, ¬ t.LinkLeads m link) :
    t.walk active here rest = .done p := by
  induction n using Nat.strongRecOn generalizing here p rest active with
  | ind n ihdepth =>
  induction h with
  | stay => rw [walk]
  | idle hname _ ih => rw [walk_idle hname, ih ihdepth hactive]
  | up _ ih => rw [walk_up, ih ihdepth hactive]
  | down hname hlink _ ih => rw [walk_down hname hlink, ih ihdepth hactive]
  | @link n here p q name target rest hname hlink htarget _ _ ih =>
    have hparent : parent (here ++ [name]) = here := List.dropLast_concat
    have hleads : t.LinkLeads n (here ++ [name]) := ⟨target, q, hlink, by rwa [hparent]⟩
    have hnew : here ++ [name] ∉ active := fun hmem => hactive _ hmem n n.lt_succ_self hleads
    -- the target is followed through links that nest as little as possible, so it does not need
    -- the link itself
    obtain ⟨m, hmn, ⟨target', q', hlink', htarget'⟩, hleast⟩ := hleads.exists_least
    obtain rfl := Option.some.inj (hlink.symm.trans hlink')
    rw [hparent] at htarget'
    obtain rfl := htarget.unique htarget'
    have hwalk : t.walk ((here ++ [name]) :: active) (origin here target) (components target) =
        .done q := by
      refine ihdepth m (by omega) htarget' (List.forall_mem_cons.2 ⟨hleast, ?_⟩)
      exact fun link hmem k hk => hactive link hmem k (by omega)
    rw [walk_link hname hlink, if_neg hnew, hwalk]
    exact ih ihdepth hactive

/-- The walk finds out where components lead, and is stuck if they lead nowhere. -/
theorem walk_eq_done_iff {here p : Path} {rest : List String} :
    t.walk [] here rest = .done p ↔ ∃ n, t.Leads n here rest p := by
  constructor
  · exact leads_of_walk
  · rintro ⟨n, h⟩
    exact walk_of_leads h (by simp)

/-! ## Resolved paths -/

/-- A path of names with no link on it. -/
structure Resolved (t : Tree) (p : Path) : Prop where
  names : ∀ name ∈ p, isName name
  links : ∀ q, q <+: p → t.link? q = none

theorem resolved_nil (t : Tree) : t.Resolved [] where
  names := by simp
  links q hq := by
    rw [List.prefix_nil.1 hq, link?, entry?, if_pos rfl]

namespace Resolved

variable {p : Path}

theorem parent (h : t.Resolved p) : t.Resolved (parent p) :=
  ⟨fun name hname => h.names name ((List.dropLast_sublist p).subset hname),
    fun q hq => h.links q (hq.trans (List.dropLast_prefix p))⟩

theorem concat (h : t.Resolved p) {name : String} (hname : isName name)
    (hlink : t.link? (p ++ [name]) = none) : t.Resolved (p ++ [name]) where
  names n hn := by
    rcases List.mem_append.1 hn with hn | hn
    · exact h.names n hn
    · rwa [List.mem_singleton.1 hn]
  links q hq := by
    rcases List.prefix_concat_iff.1 hq with rfl | hq
    · exact hlink
    · exact h.links q hq

theorem origin (h : t.Resolved p) (target : String) : t.Resolved (origin p target) := by
  unfold Disk.origin
  split
  · exact resolved_nil t
  · exact h

end Resolved

/-- From a resolved path components lead to a resolved path. -/
theorem Leads.resolved {n : Nat} {here p : Path} {rest : List String} (h : t.Leads n here rest p)
    (hhere : t.Resolved here) : t.Resolved p := by
  induction h with
  | stay => exact hhere
  | idle _ _ ih => exact ih hhere
  | up _ ih => exact ih hhere.parent
  | down hname hlink _ ih => exact ih (hhere.concat hname hlink)
  | link _ _ _ _ ihtarget ih => exact ih (ihtarget (hhere.origin _))

/-- The entry of a node. -/
def Node.entry : Node → Entry
  | file content => .file content
  | directory => .directory

/-- What is found at the end of a path without links is what the path holds, and links have nothing
to do with it if nothing is found. -/
theorem findFrom_of_resolved {links : Nat} (here : Path) {rest : List String}
    (hresolved : t.Resolved (here ++ rest)) :
    (∀ node, t.findFrom links here rest = .ok node →
      t.entry? (here ++ rest) = some node.entry) ∧
    t.findFrom links here rest ≠ .error .tooManyLinks := by
  induction rest generalizing here with
  | nil =>
    rw [findFrom, List.append_nil]
    split
    · rename_i hentry
      simp [hentry, Node.entry]
    · rename_i content hentry
      simp [hentry, Node.entry]
    · simp
  | cons name rest ih =>
    -- each component is a name and no link, so that the links are never counted
    have hassoc : here ++ name :: rest = here ++ [name] ++ rest := by simp
    obtain ⟨hidle, hup⟩ := ne_of_isName (hresolved.names name (by simp))
    have hlink := hresolved.links (here ++ [name]) (by simp)
    rw [hassoc] at hresolved ⊢
    rw [findFrom]
    split
    · rw [if_neg (by simp [hidle]), if_neg (by simpa using hup)]
      split
      · simp
      · split
        · simp
        · rename_i hentry
          rw [link?, hentry] at hlink
          cases hlink
        · exact ih (here ++ [name]) hresolved
    · simp
    · simp

namespace Resolved

variable {p : Path}

/-- What is found behind a path without links is the entry of this path. -/
theorem entry?_of_find (h : t.Resolved p) {node : Node} (hfind : t.find p = .ok node) :
    t.entry? p = some node.entry :=
  (findFrom_of_resolved [] h).1 node hfind

/-- A path without links does not run in a circle. -/
theorem find_ne (h : t.Resolved p) : t.find p ≠ .error .tooManyLinks :=
  (findFrom_of_resolved [] h).2

end Resolved

theorem find_of_read? {p : Path} {content : Bytes} (h : t.read? p = some content) :
    t.find p = .ok (.file content) := by
  unfold read? at h
  split at h
  · rename_i hfind
    rw [hfind, Option.some.inj h]
  · cases h

/-- A path leads to a file if and only if the file can be read through it. -/
theorem isFile_eq_true_iff {p : Path} :
    t.isFile p = .ok true ↔ ∃ content, t.read? p = some content := by
  unfold isFile leadsTo read?
  cases t.find p with
  | ok node => cases node <;> simp
  | error e => cases e <;> simp

/-- Resolving finds out where components lead. -/
theorem resolve_of_leads {n : Nat} {p : Path} {rest : List String} (h : t.Leads n [] rest p) :
    t.resolve [] rest = .ok p := by
  rw [resolve, walk_eq_done_iff.2 ⟨n, h⟩]
  dsimp only
  split
  · rename_i hfind
    exact absurd hfind (h.resolved (resolved_nil t)).find_ne
  · rfl

end Tree

end SealedPage.Disk
