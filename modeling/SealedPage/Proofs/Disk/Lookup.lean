import SealedPage.Disk.Resolve

/-!
# Files that no link leads to

A file that stands below directories, with no link on the way, is found under its own path, and its
path resolves to itself: `find_eq`, `resolve_eq`.
-/

namespace SealedPage.Disk

/-- Whether a component names an entry of a directory. -/
def isProper (name : String) : Bool :=
  !isIdle name && name != ".." && !isTooLong name

/-- A file stands behind components from a path on, in directories only. -/
inductive Tree.Stands (t : Tree) (content : Bytes) : Path → List String → Prop where
  | file {here : Path} {name : String} (hhere : t.entry? here = some .directory)
    (hname : isProper name) (hfile : t.entry? (here ++ [name]) = some (.file content)) :
    Stands t content here [name]
  | directory {here : Path} {name next : String} {rest : List String}
    (hhere : t.entry? here = some .directory) (hname : isProper name)
    (hrest : Stands t content (here ++ [name]) (next :: rest)) :
    Stands t content here (name :: next :: rest)

namespace Tree.Stands

variable {t : Tree} {content : Bytes} {here : Path} {rest : List String}

theorem entry?_here (h : t.Stands content here rest) : t.entry? here = some .directory := by
  cases h with
  | file hhere => exact hhere
  | directory hhere => exact hhere

/-- One step of a walk past a name that no link stands at. -/
theorem walk_cons {active : List Path} {name : String} (hname : isProper name)
    (hlink : t.link? (here ++ [name]) = none) :
    t.walk active here (name :: rest) = t.walk active (here ++ [name]) rest := by
  simp only [isProper, Bool.and_eq_true, Bool.not_eq_true', bne_iff_ne, ne_eq] at hname
  rw [Tree.walk, hname.1.1, if_neg Bool.false_ne_true, if_neg (by simpa using hname.1.2)]
  dsimp only
  split
  · rfl
  · rename_i target htarget
    rw [hlink] at htarget
    simp at htarget

/-- The walk to a file that stands in its directories follows no link. -/
theorem walk_eq (h : t.Stands content here rest) (active : List Path) :
    t.walk active here rest = .done (here ++ rest) := by
  induction h with
  | file hhere hname hfile =>
    rw [walk_cons hname (by rw [link?, hfile]), walk]
  | directory hhere hname hrest ih =>
    rw [walk_cons hname (by rw [link?, hrest.entry?_here]), ih]
    simp

/-- The file is found, however many links may be followed. -/
theorem findFrom_eq (h : t.Stands content here rest) (links : Nat) :
    t.findFrom links here rest = .ok (.file content) := by
  induction h with
  | file hhere hname hfile =>
    simp only [isProper, Bool.and_eq_true, Bool.not_eq_true', bne_iff_ne, ne_eq] at hname
    rw [findFrom, hhere]
    simp [hname, hfile, findFrom]
  | directory hhere hname hrest ih =>
    simp only [isProper, Bool.and_eq_true, Bool.not_eq_true', bne_iff_ne, ne_eq] at hname
    rw [findFrom, hhere]
    simp [hname, hrest.entry?_here, ih]

theorem find_eq (h : t.Stands content [] rest) : t.find rest = .ok (.file content) :=
  h.findFrom_eq _

/-- The path resolves to itself. -/
theorem resolve_eq (h : t.Stands content [] rest) : t.resolve [] rest = .ok rest := by
  rw [resolve, h.walk_eq, List.nil_append]
  dsimp only
  rw [h.find_eq]

/-- Its content is read. -/
theorem read?_eq (h : t.Stands content [] rest) : t.read? rest = some content := by
  rw [read?, h.find_eq]

/-- It passes for a file. -/
theorem isFile_eq (h : t.Stands content [] rest) : t.isFile rest = .ok true := by
  rw [isFile, leadsTo, h.find_eq]

end Tree.Stands

end SealedPage.Disk
