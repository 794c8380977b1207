import SealedPage.Disk.Tree

/-!
# Resolving paths

The path without links that a path text leads to, `Tree.resolve`. Parts that do not exist stay as
they are. When links lead in a circle, `walk` stops at the first one that is met again, what is left
is appended without following anything, and the result is a path only if looking it up does not run
in the circle again; otherwise it is a `LinkCircle`.
-/

namespace SealedPage.Disk

/-- Where a walk along components ends. -/
inductive Walk where
  /-- At a path that no link is left on. -/
  | done (p : Path)
  /-- In front of a link that is being followed already; all components from the root are given. -/
  | stuck (names : List String)
  deriving DecidableEq, Repr

/-- Components behind others; those of an absolute text begin anew. -/
def join (names rest : List String) : List String :=
  match rest with
  | "" :: _ :: _ => rest
  | _ => names ++ rest

/-- A path whose links lead in a circle. -/
structure LinkCircle where
  path : Path
  deriving DecidableEq, Repr

namespace Tree

/-- The links of a tree that are not being followed. -/
def idleLinks (t : Tree) (active : List Path) : List (Path × Entry) :=
  t.entries.filter fun e => !active.contains e.1

/-- A link that is not being followed yet counts among the idle ones. -/
theorem idleLinks_length_lt {t : Tree} {active : List Path} {p : Path} {target : String}
    (h : t.link? p = some target) (hp : active.contains p = false) :
    (t.idleLinks (p :: active)).length < (t.idleLinks active).length := by
  obtain ⟨e, he⟩ : ∃ e, (p, e) ∈ t.entries := by
    unfold link? entry? at h
    split at h
    · rename_i heq
      split at heq
      · simp at heq
      · obtain ⟨before, after, hl, -⟩ := List.lookup_eq_some_iff.1 heq
        exact ⟨_, hl ▸ List.mem_append_right _ List.mem_cons_self⟩
    · simp at h
  have hsub : t.idleLinks (p :: active) =
      (t.idleLinks active).filter fun e => e.1 != p := by
    simp only [idleLinks, List.filter_filter, List.contains_cons, Bool.not_or]
    rfl
  have hp : p ∉ active := by simpa using hp
  rw [hsub]
  exact List.length_filter_lt_length_iff_exists.2 ⟨(p, e), by simp [idleLinks, he, hp], by simp⟩

/-- Walks along components, following every link; `active` are the links being followed. -/
def walk (t : Tree) (active : List Path) (here : Path) (rest : List String) : Walk :=
  match rest with
  | [] => .done here
  | name :: rest =>
    if isIdle name then walk t active here rest
    else if name == ".." then walk t active (parent here) rest
    else
      let next := here ++ [name]
      match _h : t.link? next with
      | none => walk t active next rest
      | some target =>
        if _hn : active.contains next then .stuck (join next rest)
        else
          match walk t (next :: active) (if isAbsolute target then [] else here)
              (components target) with
          | .done p => walk t active p rest
          | .stuck names => .stuck (join names rest)
termination_by ((t.idleLinks active).length, rest.length)
decreasing_by
  all_goals first
    | exact Prod.Lex.right _ (by simp)
    | exact Prod.Lex.left _ _ (idleLinks_length_lt _h (by simpa using _hn))

/-- The path that components lead to, as seen from a directory without links above it. -/
def resolve (t : Tree) (here : Path) (rest : List String) : Except LinkCircle Path :=
  let p := match t.walk [] here rest with
    | .done p => p
    | .stuck names => follow [] names
  match t.find p with
  | .error .tooManyLinks => .error ⟨p⟩
  | _ => .ok p

/-- The path that a path text leads to, as seen from a directory without links above it. -/
def resolveText (t : Tree) (here : Path) (s : String) : Except LinkCircle Path :=
  t.resolve (if isAbsolute s then [] else here) (components s)

/-- The names in the directory that a path leads to. -/
def namesBehind (t : Tree) (p : Path) : List String :=
  match t.walk [] [] p with
  | .done q => t.names q
  | .stuck _ => []

end Tree

end SealedPage.Disk
