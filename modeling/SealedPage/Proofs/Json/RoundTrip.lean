import SealedPage.Proofs.Json.Scalar

/-!
# Reading what was written in JSON

A value without a fraction, in which no object has a name twice, is read from its text again, as
long as not too many values stand inside each other. Its integers decide whether it is read at all:
`rereads_ofString` says that it is if none of them has too many digits, and that otherwise the
reader says so.
-/

namespace SealedPage.Json

open Text

/-! ## Plain values -/

mutual

/-- A value without numbers that have a fraction or an exponent, and without objects that have a
name twice. -/
def Value.IsPlain : Value → Prop
  | .float _ => False
  | .arr items => ItemsPlain items
  | .obj members => (members.map Prod.fst).Nodup ∧ MembersPlain members
  | _ => True

/-- Every item of an array is plain. -/
def ItemsPlain : List Value → Prop
  | [] => True
  | v :: vs => v.IsPlain ∧ ItemsPlain vs

/-- Every member of an object is plain. -/
def MembersPlain : List (String × Value) → Prop
  | [] => True
  | (_, v) :: ms => v.IsPlain ∧ MembersPlain ms

end

mutual

/-- A plain value has no number that must be left out. -/
theorem Value.onlyFinite_of_isPlain : (v : Value) → v.IsPlain → v.onlyFinite = v
  | .null | .bool _ | .int _ | .str _ => fun _ => rfl
  | .float _ => fun hplain => hplain.elim
  | .arr items => fun hplain => by
    rw [Value.onlyFinite, onlyFiniteItems_of_isPlain items hplain]
  | .obj members => fun hplain => by
    rw [Value.onlyFinite, onlyFiniteMembers_of_isPlain members hplain.2]

theorem onlyFiniteItems_of_isPlain :
    (items : List Value) → ItemsPlain items → onlyFiniteItems items = items
  | [] => fun _ => rfl
  | v :: vs => fun hplain => by
    rw [onlyFiniteItems, Value.onlyFinite_of_isPlain v hplain.1,
      onlyFiniteItems_of_isPlain vs hplain.2]

theorem onlyFiniteMembers_of_isPlain :
    (members : List (String × Value)) → MembersPlain members → onlyFiniteMembers members = members
  | [] => fun _ => rfl
  | (k, v) :: ms => fun hplain => by
    rw [onlyFiniteMembers, Value.onlyFinite_of_isPlain v hplain.1,
      onlyFiniteMembers_of_isPlain ms hplain.2]

end

/-- A new name is inserted behind the others. -/
theorem insert_of_not_mem {name : String} {done : List (String × Value)}
    (h : name ∉ done.map Prod.fst) (v : Value) : insert name v done = done ++ [(name, v)] := by
  induction done with
  | nil => rfl
  | cons m done ih =>
    obtain ⟨k, w⟩ := m
    rw [List.map_cons, List.mem_cons, not_or] at h
    obtain ⟨hname, hdone⟩ := h
    rw [insert, if_neg (Ne.symm hname), ih hdone, List.cons_append]

/-- Members with different names are kept as they are. -/
theorem dedup_of_nodup {members : List (String × Value)} (h : (members.map Prod.fst).Nodup) :
    dedup members = members := by
  have hfold : ∀ done : List (String × Value), ((done ++ members).map Prod.fst).Nodup →
      members.foldl (fun done m => insert m.1 m.2 done) done = done ++ members := by
    clear h
    induction members with
    | nil =>
      intro done _
      rw [List.foldl_nil, List.append_nil]
    | cons m members ih =>
      intro done hdone
      obtain ⟨k, v⟩ := m
      have hk : k ∉ done.map Prod.fst := by
        rw [List.map_append, List.nodup_append] at hdone
        intro hmem
        exact hdone.2.2 k hmem k (by simp) rfl
      rw [List.foldl_cons, insert_of_not_mem hk, ih _ (by simpa using hdone), List.append_assoc,
        List.singleton_append]
  exact hfold [] h

/-! ## The characters that are written -/

mutual

/-- The characters of a value's text, with a gap behind each comma and colon. -/
def Value.chars (gap : List Char) : Value → List Char
  | .null => "null".toList
  | .bool b => (if b then "true" else "false").toList
  | .int n => (intText n).toList
  | .float x => x.text.toList
  | .str s => (quote s).toList
  | .arr items => '[' :: (itemsChars gap [] items ++ [']'])
  | .obj members => '{' :: (membersChars gap [] members ++ ['}'])

/-- The characters of items; `front` stands before the first of them. -/
def itemsChars (gap front : List Char) : List Value → List Char
  | [] => []
  | v :: vs => front ++ (v.chars gap ++ itemsChars gap (',' :: gap) vs)

/-- The characters of members; `front` stands before the first of them. -/
def membersChars (gap front : List Char) : List (String × Value) → List Char
  | [] => []
  | (k, v) :: ms =>
    front ++ ((quote k).toList ++ ':' :: (gap ++ (v.chars gap ++ membersChars gap (',' :: gap) ms)))

end

mutual

/-- The writer, which adds to a text, and the characters of a value agree. -/
theorem Value.toList_writeTo (gap out : String) :
    (v : Value) → (v.writeTo gap out).toList = out.toList ++ v.chars gap.toList
  | .null => by rw [Value.writeTo, Value.chars, String.toList_append]
  | .bool b => by rw [Value.writeTo, Value.chars, String.toList_append]
  | .int n => by rw [Value.writeTo, Value.chars, String.toList_append]
  | .float x => by rw [Value.writeTo, Value.chars, String.toList_append]
  | .str s => by rw [Value.writeTo, Value.chars, String.toList_append]
  | .arr items => by
    have hitems := toList_writeItems gap (out ++ "[") true items
    rw [Value.writeTo, Value.chars, String.toList_append, hitems]
    simp
  | .obj members => by
    have hmembers := toList_writeMembers gap (out ++ "\x7b") true members
    rw [Value.writeTo, Value.chars, String.toList_append, hmembers]
    simp

theorem toList_writeItems (gap out : String) (first : Bool) :
    (items : List Value) → (writeItems gap out first items).toList =
      out.toList ++ itemsChars gap.toList (if first then [] else ',' :: gap.toList) items
  | [] => by rw [writeItems, itemsChars, List.append_nil]
  | v :: vs => by
    rw [writeItems, toList_writeItems gap _ false vs, Value.toList_writeTo gap _ v, itemsChars]
    cases first <;> simp

theorem toList_writeMembers (gap out : String) (first : Bool) :
    (members : List (String × Value)) → (writeMembers gap out first members).toList =
      out.toList ++ membersChars gap.toList (if first then [] else ',' :: gap.toList) members
  | [] => by rw [writeMembers, membersChars, List.append_nil]
  | (k, v) :: ms => by
    rw [writeMembers, toList_writeMembers gap _ false ms, Value.toList_writeTo gap _ v,
      membersChars]
    cases first <;> simp

end

/-! ## How a text goes on -/

/-- The characters that a plain value can begin with. -/
def beginsValue (c : Char) : Bool :=
  beginsInt c || ['n', 't', 'f', '"', '[', '{'].contains c

theorem isSpace_of_beginsValue {c : Char} (h : beginsValue c) : isSpace c = false := by
  rw [Bool.eq_false_iff]
  intro hspace
  have hnot : ∀ d ∈ [' ', '\t', '\n', '\r'], beginsValue d = false := by
    simp [beginsValue, beginsInt]
  rw [hnot c (by simpa [isSpace, or_assoc] using hspace)] at h
  exact absurd h (by decide)

/-- A written value is not empty, and begins as a value does. -/
theorem Value.exists_cons_chars {v : Value} (hv : v.IsPlain) (gap : List Char) :
    ∃ c cs, v.chars gap = c :: cs ∧ beginsValue c := by
  cases v with
  | null => exact ⟨'n', _, rfl, by decide⟩
  | bool b =>
    cases b with
    | true => exact ⟨'t', _, rfl, by decide⟩
    | false => exact ⟨'f', _, rfl, by decide⟩
  | int n =>
    obtain ⟨c, cs, hchars, hc⟩ := exists_cons_intText n
    exact ⟨c, cs, hchars, by rw [beginsValue, hc, Bool.true_or]⟩
  | float x => exact hv.elim
  | str s => exact ⟨'"', _, toList_quote s, by decide⟩
  | arr items => exact ⟨'[', _, rfl, by decide⟩
  | obj members => exact ⟨'{', _, rfl, by decide⟩

/-- A gap in front of a text is skipped. -/
theorem skipSpace_gap {gap : List Char} (hgap : ∀ c ∈ gap, isSpace c) {cs : List Char}
    (hcs : Stops isSpace cs) : skipSpace (gap ++ cs) = cs :=
  dropWhile_append_of_stops hgap hcs

/-! ## Reading a value again -/

/-- What a reader makes of the text of a value. It reads the value, unless some integer has too many
digits, and then it says so. -/
structure Rereads (digits : Nat) (v : Value) (rest : List Char)
    (result : Except ReadError (Value × List Char)) : Prop where
  read : digits ≤ maxDigits → result = .ok (v, rest)
  refused : maxDigits < digits → ∃ n, result = .error (.tooManyDigits n)

theorem rereads_ok {digits : Nat} (h : digits ≤ maxDigits) (v : Value) (rest : List Char) :
    Rereads digits v rest (.ok (v, rest)) :=
  ⟨fun _ => rfl, fun hlarge => absurd h (by omega)⟩

theorem rereads_error {digits : Nat} (h : maxDigits < digits) (v : Value) (rest : List Char)
    (n : Nat) : Rereads digits v rest (.error (.tooManyDigits n)) :=
  ⟨fun hsmall => absurd h (by omega), fun _ => ⟨n, rfl⟩⟩

/-- What is read back depends on the digits through the limit alone. -/
theorem Rereads.congr {digits digits' : Nat} {v : Value} {rest : List Char}
    {result : Except ReadError (Value × List Char)} (h : Rereads digits v rest result)
    (hdigits : digits' ≤ maxDigits ↔ digits ≤ maxDigits) : Rereads digits' v rest result := by
  constructor
  · intro hsmall
    exact h.read (hdigits.1 hsmall)
  · intro hlarge
    exact h.refused (by omega)

/-- An integer is read back according to its own digits. -/
theorem rereads_rereadInt (n : Int) (rest : List Char) :
    Rereads (digitCount n) (.int n) rest (rereadInt n rest) := by
  unfold rereadInt
  split
  · rename_i h
    exact rereads_error h _ _ _
  · rename_i h
    exact rereads_ok (by omega) _ _

/-- An integer is no string, list or object. -/
theorem ne_of_beginsInt {c : Char} (h : beginsInt c) : c ≠ '"' ∧ c ≠ '[' ∧ c ≠ '{' := by
  refine ⟨?_, ?_, ?_⟩
  all_goals
    rintro rfl
    exact absurd h (by decide)

/-- What is no string, list or object is read as a scalar. -/
theorem value_of_scalar {c : Char} (hc : c ≠ '"' ∧ c ≠ '[' ∧ c ≠ '{') (fuel room : Nat)
    (cs : List Char) : value (fuel + 1) room (c :: cs) = scalar (c :: cs) := by
  simp [value, hc.1, hc.2.1, hc.2.2]

/-- A quoted string is read back. -/
theorem value_quote {s : String} {fuel : Nat} (hfuel : (quote s).toList.length ≤ fuel + 1)
    (room : Nat) (rest : List Char) :
    value (fuel + 1) room ((quote s).toList ++ rest) = .ok (.str s, rest) := by
  obtain ⟨cs, hcs, hread⟩ := stringFrom_quote hfuel rest
  rw [hcs, value, hread]

/-- The items of an array are read behind its bracket. -/
theorem value_array {c : Char} (hc : beginsValue c) (fuel room : Nat) (cs : List Char) :
    value (fuel + 1) (room + 1) ('[' :: c :: cs) = elements fuel room [] (c :: cs) := by
  have hskip : skipSpace (c :: cs) = c :: cs :=
    List.dropWhile_cons_of_neg (by rw [isSpace_of_beginsValue hc]; exact Bool.false_ne_true)
  have hclose : c ≠ ']' := by
    rintro rfl
    exact absurd hc (by decide)
  simp [value, hskip, hclose]

/-- The members of an object are read behind its brace. -/
theorem value_object (fuel room : Nat) (cs : List Char) :
    value (fuel + 1) (room + 1) ('{' :: '"' :: cs) = members fuel room [] ('"' :: cs) :=
  rfl

/-! ### Items -/

section
variable {fuel room : Nat} {s rest : List Char} {v : Value}

theorem elements_of_error {e : ReadError} (h : value fuel room s = .error e)
    (done : List Value) : elements (fuel + 1) room done s = .error e := by
  rw [elements, h]

theorem elements_of_last (h : value fuel room s = .ok (v, ']' :: rest)) (done : List Value) :
    elements (fuel + 1) room done s = .ok (.arr (done.reverse ++ [v]), rest) := by
  rw [elements, h, ← List.reverse_cons]
  rfl

theorem elements_of_comma (h : value fuel room s = .ok (v, ',' :: rest)) (done : List Value) :
    elements (fuel + 1) room done s = elements fuel room (v :: done) (skipSpace rest) := by
  rw [elements, h]
  rfl

end

/-! ### Members -/

section
variable {fuel room : Nat} {k : String} {s cs rest : List Char} {v : Value}

/-- Behind the name of a member its value is read. -/
theorem members_eq (hkey : stringFrom [] fuel cs = some (k, ':' :: s))
    (done : List (String × Value)) :
    members (fuel + 1) room done ('"' :: cs) =
      match value fuel room (skipSpace s) with
      | .error e => .error e
      | .ok (v, rest) =>
        match skipSpace rest with
        | ',' :: rest => members fuel room ((k, v) :: done) (skipSpace rest)
        | '}' :: rest => .ok (.obj (dedup ((k, v) :: done).reverse), rest)
        | _ => .error .malformed := by
  rw [members, hkey]
  rfl

theorem members_of_error (hkey : stringFrom [] fuel cs = some (k, ':' :: s)) {e : ReadError}
    (h : value fuel room (skipSpace s) = .error e) (done : List (String × Value)) :
    members (fuel + 1) room done ('"' :: cs) = .error e := by
  rw [members_eq hkey, h]

theorem members_of_last (hkey : stringFrom [] fuel cs = some (k, ':' :: s))
    (h : value fuel room (skipSpace s) = .ok (v, '}' :: rest)) (done : List (String × Value)) :
    members (fuel + 1) room done ('"' :: cs) =
      .ok (.obj (dedup (done.reverse ++ [(k, v)])), rest) := by
  rw [members_eq hkey, h, ← List.reverse_cons]
  rfl

theorem members_of_comma (hkey : stringFrom [] fuel cs = some (k, ':' :: s))
    (h : value fuel room (skipSpace s) = .ok (v, ',' :: rest)) (done : List (String × Value)) :
    members (fuel + 1) room done ('"' :: cs) =
      members fuel room ((k, v) :: done) (skipSpace rest) := by
  rw [members_eq hkey, h]
  rfl

end

/-! ### Values -/

section
variable {gap : List Char}

/-- A comma and a gap stand between two items. -/
theorem itemsChars_comma (w : Value) (ws : List Value) :
    itemsChars gap (',' :: gap) (w :: ws) = ',' :: (gap ++ itemsChars gap [] (w :: ws)) := by
  simp [itemsChars]

/-- The elements begin as their first element does. -/
theorem exists_cons_itemsChars (gap : List Char) {items : List Value} (hne : items ≠ [])
    (h : ItemsPlain items) (rest : List Char) :
    ∃ c cs, itemsChars gap [] items ++ rest = c :: cs ∧ beginsValue c := by
  cases items with
  | nil => exact absurd rfl hne
  | cons v vs =>
    obtain ⟨c, cs, hchars, hc⟩ := Value.exists_cons_chars h.1 gap
    refine ⟨c, cs ++ (itemsChars gap (',' :: gap) vs ++ rest), ?_, hc⟩
    rw [itemsChars, hchars]
    simp

theorem membersChars_comma (m : String × Value) (ms : List (String × Value)) :
    membersChars gap (',' :: gap) (m :: ms) = ',' :: (gap ++ membersChars gap [] (m :: ms)) := by
  obtain ⟨k, v⟩ := m
  simp [membersChars]

/-- The members begin with the quote of a name. -/
theorem exists_cons_membersChars (gap : List Char) {members : List (String × Value)}
    (hne : members ≠ []) (rest : List Char) :
    ∃ cs, membersChars gap [] members ++ rest = '"' :: cs := by
  cases members with
  | nil => exact absurd rfl hne
  | cons m ms =>
    obtain ⟨k, v⟩ := m
    rw [membersChars, toList_quote]
    exact ⟨_, rfl⟩

/-! A gap in front of a value, of items or of members is skipped. -/

/-- The gap before a value is passed over, and nothing of the value. -/
theorem skipSpace_chars (hgap : ∀ c ∈ gap, isSpace c) {v : Value} (hv : v.IsPlain)
    (rest : List Char) : skipSpace (gap ++ (v.chars gap ++ rest)) = v.chars gap ++ rest := by
  obtain ⟨c, cs, hchars, hc⟩ := Value.exists_cons_chars hv gap
  rw [hchars]
  exact skipSpace_gap hgap (stops_cons.2 (isSpace_of_beginsValue hc))

theorem skipSpace_itemsChars (hgap : ∀ c ∈ gap, isSpace c) {items : List Value} (hne : items ≠ [])
    (h : ItemsPlain items) (rest : List Char) :
    skipSpace (gap ++ itemsChars gap [] items ++ rest) = itemsChars gap [] items ++ rest := by
  obtain ⟨c, cs, hchars, hc⟩ := exists_cons_itemsChars gap hne h rest
  rw [List.append_assoc, hchars]
  exact skipSpace_gap hgap (stops_cons.2 (isSpace_of_beginsValue hc))

theorem skipSpace_membersChars (hgap : ∀ c ∈ gap, isSpace c) {members : List (String × Value)}
    (hne : members ≠ []) (rest : List Char) :
    skipSpace (gap ++ membersChars gap [] members ++ rest) =
      membersChars gap [] members ++ rest := by
  obtain ⟨cs, hchars⟩ := exists_cons_membersChars gap hne rest
  rw [List.append_assoc, hchars]
  exact skipSpace_gap hgap (stops_cons.2 rfl)

/-! No number goes on behind a value within an array or an object. -/

theorem stops_itemsChars (gap : List Char) (vs : List Value) (rest : List Char) :
    Stops continuesNumber (itemsChars gap (',' :: gap) vs ++ ']' :: rest) := by
  cases vs with
  | nil => exact stops_cons.2 rfl
  | cons w ws => exact stops_cons.2 rfl

theorem stops_membersChars (gap : List Char) (ms : List (String × Value)) (rest : List Char) :
    Stops continuesNumber (membersChars gap (',' :: gap) ms ++ '}' :: rest) := by
  cases ms with
  | nil => exact stops_cons.2 rfl
  | cons m ms => exact stops_cons.2 rfl

mutual

/-- A value is read from its text, whatever stands behind it. -/
theorem Value.rereads (hgap : ∀ c ∈ gap, isSpace c) : (v : Value) → v.IsPlain →
    ∀ (fuel room : Nat) (rest : List Char), (v.chars gap).length ≤ fuel → v.depth ≤ room →
      Stops continuesNumber rest →
      Rereads v.digits v rest (value fuel room (v.chars gap ++ rest))
  | .null => by
    intro _ fuel room rest hfuel _ _
    obtain ⟨fuel, rfl⟩ := Nat.exists_eq_succ_of_ne_zero (Nat.ne_zero_of_lt hfuel)
    exact rereads_ok (Nat.zero_le _) .null rest
  | .bool b => by
    intro _ fuel room rest hfuel _ _
    cases b with
    | true =>
      obtain ⟨fuel, rfl⟩ := Nat.exists_eq_succ_of_ne_zero (Nat.ne_zero_of_lt hfuel)
      exact rereads_ok (Nat.zero_le _) (.bool true) rest
    | false =>
      obtain ⟨fuel, rfl⟩ := Nat.exists_eq_succ_of_ne_zero (Nat.ne_zero_of_lt hfuel)
      exact rereads_ok (Nat.zero_le _) (.bool false) rest
  | .int n => by
    intro _ fuel room rest hfuel _ hrest
    rw [Value.chars] at hfuel ⊢
    obtain ⟨c, cs, hchars, hc⟩ := exists_cons_intText n
    have hscalar := scalar_intText hrest n
    rw [hchars] at hfuel hscalar ⊢
    obtain ⟨fuel, rfl⟩ := Nat.exists_eq_succ_of_ne_zero (Nat.ne_zero_of_lt hfuel)
    rw [List.cons_append, value_of_scalar (ne_of_beginsInt hc), ← List.cons_append, hscalar]
    exact rereads_rereadInt n rest
  | .float x => fun hplain => hplain.elim
  | .str s => by
    intro _ fuel room rest hfuel _ _
    rw [Value.chars] at hfuel ⊢
    have hpos : 0 < (quote s).toList.length := by
      rw [toList_quote]
      exact Nat.succ_pos _
    obtain ⟨fuel, rfl⟩ := Nat.exists_eq_succ_of_ne_zero (Nat.ne_zero_of_lt (hpos.trans_le hfuel))
    rw [value_quote hfuel]
    exact rereads_ok (Nat.zero_le _) (.str s) rest
  | .arr items => by
    intro hplain fuel room rest hfuel hroom _
    obtain ⟨fuel, rfl⟩ := Nat.exists_eq_succ_of_ne_zero (Nat.ne_zero_of_lt hfuel)
    rw [Value.depth] at hroom
    obtain ⟨room, rfl⟩ := Nat.exists_eq_succ_of_ne_zero (n := room) (by omega)
    -- an empty array is read without looking for an item
    cases items with
    | nil => exact rereads_ok (Nat.zero_le _) (.arr []) rest
    | cons v vs =>
      rw [Value.chars, List.length_cons, List.length_append, List.length_singleton] at hfuel
      obtain ⟨c, cs, hchars, hc⟩ := exists_cons_itemsChars gap (List.cons_ne_nil v vs) hplain
        (']' :: rest)
      have hread := rereads_elements hgap (v :: vs) (List.cons_ne_nil v vs) hplain fuel room [] rest
        (by omega) (by omega)
      rw [Value.chars, Value.digits, List.cons_append, List.append_assoc, List.singleton_append,
        hchars, value_array hc, ← hchars]
      exact hread
  | .obj members => by
    intro hplain fuel room rest hfuel hroom _
    obtain ⟨fuel, rfl⟩ := Nat.exists_eq_succ_of_ne_zero (Nat.ne_zero_of_lt hfuel)
    rw [Value.depth] at hroom
    obtain ⟨room, rfl⟩ := Nat.exists_eq_succ_of_ne_zero (n := room) (by omega)
    cases members with
    | nil => exact rereads_ok (Nat.zero_le _) (.obj []) rest
    | cons m ms =>
      rw [Value.chars, List.length_cons, List.length_append, List.length_singleton] at hfuel
      obtain ⟨cs, hchars⟩ := exists_cons_membersChars gap (List.cons_ne_nil m ms) ('}' :: rest)
      have hread := rereads_members hgap (m :: ms) (List.cons_ne_nil m ms) hplain.2 fuel room []
        rest (by omega) (by omega)
      rw [List.reverse_nil, List.nil_append, dedup_of_nodup hplain.1] at hread
      rw [Value.chars, Value.digits, List.cons_append, List.append_assoc, List.singleton_append,
        hchars, value_object, ← hchars]
      exact hread

/-- The items of an array are read from their text. -/
theorem rereads_elements (hgap : ∀ c ∈ gap, isSpace c) : (items : List Value) → items ≠ [] →
    ItemsPlain items → ∀ (fuel room : Nat) (done : List Value) (rest : List Char),
    (itemsChars gap [] items).length < fuel → itemsDepth items ≤ room →
    Rereads (itemsDigits items) (.arr (done.reverse ++ items)) rest
      (elements fuel room done (itemsChars gap [] items ++ ']' :: rest))
  | [] => fun hne => absurd rfl hne
  | v :: vs => by
    intro _ hplain fuel room done rest hfuel hroom
    obtain ⟨fuel, rfl⟩ := Nat.exists_eq_succ_of_ne_zero (Nat.ne_zero_of_lt hfuel)
    obtain ⟨hv, hvs⟩ := hplain
    rw [itemsChars, List.nil_append, List.length_append] at hfuel
    rw [itemsDepth] at hroom
    rw [itemsChars, List.nil_append, List.append_assoc, itemsDigits]
    have hread := Value.rereads hgap v hv fuel room _ (by omega) (by omega)
      (stops_itemsChars gap vs rest)
    -- the first item that has too many digits ends the reading
    by_cases hdigits : v.digits ≤ maxDigits
    · cases vs with
      | nil =>
        rw [elements_of_last (hread.read hdigits)]
        exact rereads_ok (by rw [itemsDigits]; omega) _ _
      | cons w ws =>
        have hskip := skipSpace_itemsChars hgap (List.cons_ne_nil w ws) hvs (']' :: rest)
        have hlater := rereads_elements hgap (w :: ws) (List.cons_ne_nil w ws) hvs fuel room
          (v :: done) rest
          (by rw [itemsChars_comma, List.length_cons, List.length_append] at hfuel; omega)
          (by omega)
        rw [itemsChars_comma, List.cons_append] at hread ⊢
        rw [elements_of_comma (hread.read hdigits), hskip]
        rw [List.reverse_cons, List.append_assoc, List.singleton_append] at hlater
        exact hlater.congr (by omega)
    · obtain ⟨n, herror⟩ := hread.refused (by omega)
      rw [elements_of_error herror]
      exact rereads_error (by omega) _ _ n

/-- The members of an object are read from their text. -/
theorem rereads_members (hgap : ∀ c ∈ gap, isSpace c) : (ms : List (String × Value)) → ms ≠ [] →
    MembersPlain ms → ∀ (fuel room : Nat) (done : List (String × Value)) (rest : List Char),
    (membersChars gap [] ms).length < fuel → membersDepth ms ≤ room →
    Rereads (membersDigits ms) (.obj (dedup (done.reverse ++ ms))) rest
      (members fuel room done (membersChars gap [] ms ++ '}' :: rest))
  | [] => fun hne => absurd rfl hne
  | (k, v) :: ms => by
    intro _ hplain fuel room done rest hfuel hroom
    obtain ⟨fuel, rfl⟩ := Nat.exists_eq_succ_of_ne_zero (Nat.ne_zero_of_lt hfuel)
    obtain ⟨hv, hms⟩ := hplain
    rw [membersChars, List.nil_append, List.length_append, List.length_cons, List.length_append,
      List.length_append] at hfuel
    rw [membersDepth] at hroom
    rw [membersChars, List.nil_append, List.append_assoc, List.cons_append, List.append_assoc,
      List.append_assoc, membersDigits]
    have hquoted : (quote k).toList.length ≤ fuel + 1 := by omega
    obtain ⟨cs, hquote, hkey⟩ := stringFrom_quote hquoted
      (':' :: (gap ++ (v.chars gap ++ (membersChars gap (',' :: gap) ms ++ '}' :: rest))))
    have hread := Value.rereads hgap v hv fuel room _ (by omega) (by omega)
      (stops_membersChars gap ms rest)
    rw [← skipSpace_chars hgap hv] at hread
    rw [hquote]
    by_cases hdigits : v.digits ≤ maxDigits
    · cases ms with
      | nil =>
        rw [members_of_last hkey (hread.read hdigits)]
        exact rereads_ok (by rw [membersDigits]; omega) _ _
      | cons m ms =>
        have hskip := skipSpace_membersChars hgap (List.cons_ne_nil m ms) ('}' :: rest)
        have hlater := rereads_members hgap (m :: ms) (List.cons_ne_nil m ms) hms fuel room
          ((k, v) :: done) rest
          (by rw [membersChars_comma, List.length_cons, List.length_append] at hfuel; omega)
          (by omega)
        rw [membersChars_comma, List.cons_append] at hread hkey
        rw [members_of_comma hkey (hread.read hdigits), hskip]
        rw [List.reverse_cons, List.append_assoc, List.singleton_append] at hlater
        exact hlater.congr (by omega)
    · obtain ⟨n, herror⟩ := hread.refused (by omega)
      rw [members_of_error hkey herror]
      exact rereads_error (by omega) _ _ n

end

end

/-! ## Whole texts -/

theorem Value.toList_write (v : Value) : v.write.toList = v.chars [' '] := by
  rw [Value.write, Value.toList_writeTo]
  rfl

/-- A plain value is read from its text, unless an integer in it has too many digits. -/
theorem rereads_ofString {v : Value} (hplain : v.IsPlain) (hdepth : v.depth ≤ maxDepth) :
    (v.digits ≤ maxDigits → ofString v.write = .ok v) ∧
      (maxDigits < v.digits → ∃ n, ofString v.write = .error (.tooManyDigits n)) := by
  have hgap : ∀ c ∈ [' '], isSpace c := by simp [isSpace]
  have hread := Value.rereads hgap v hplain _ maxDepth [] (Nat.le_succ _) hdepth (stops_nil _)
  obtain ⟨c, cs, hchars, hc⟩ := Value.exists_cons_chars hplain [' ']
  have hskip : skipSpace (v.chars [' ']) = v.chars [' '] := by
    rw [hchars]
    exact List.dropWhile_cons_of_neg (by rw [isSpace_of_beginsValue hc]; exact Bool.false_ne_true)
  rw [List.append_nil] at hread
  rw [ofString, v.toList_write, ofText, hskip]
  constructor
  · intro hsmall
    rw [hread.read hsmall]
    rfl
  · intro hlarge
    obtain ⟨n, herror⟩ := hread.refused hlarge
    exact ⟨n, by rw [herror]⟩

/-! ## Lines -/

mutual

/-- A written value holds no control character. -/
theorem Value.le_toNat_of_mem_chars {gap : List Char} (hgap : ∀ c ∈ gap, 0x20 ≤ c.toNat) :
    (v : Value) → v.IsPlain → ∀ c ∈ v.chars gap, 0x20 ≤ c.toNat
  | .null => fun _ => by simp [Value.chars]
  | .bool b => fun _ => by cases b <;> simp [Value.chars]
  | .int n => fun _ c hc => le_toNat_of_mem_intText hc
  | .float x => fun hplain => hplain.elim
  | .str s => fun _ c hc => le_toNat_of_mem_quote hc
  | .arr items => by
    intro hplain c hc
    have hitems := le_toNat_of_mem_itemsChars hgap items hplain [] (by simp)
    rw [Value.chars, List.mem_cons, List.mem_append, List.mem_singleton] at hc
    rcases hc with rfl | hc | rfl
    · decide
    · exact hitems c hc
    · decide
  | .obj members => by
    intro hplain c hc
    have hmembers := le_toNat_of_mem_membersChars hgap members hplain.2 [] (by simp)
    rw [Value.chars, List.mem_cons, List.mem_append, List.mem_singleton] at hc
    rcases hc with rfl | hc | rfl
    · decide
    · exact hmembers c hc
    · decide

theorem le_toNat_of_mem_itemsChars {gap : List Char} (hgap : ∀ c ∈ gap, 0x20 ≤ c.toNat) :
    (items : List Value) → ItemsPlain items → ∀ front : List Char, (∀ c ∈ front, 0x20 ≤ c.toNat) →
      ∀ c ∈ itemsChars gap front items, 0x20 ≤ c.toNat
  | [] => by
    intro _ front _ c hc
    exact nomatch hc
  | v :: vs => by
    intro hplain front hfront c hc
    have hlater := le_toNat_of_mem_itemsChars hgap vs hplain.2 (',' :: gap)
      (List.forall_mem_cons.2 ⟨by decide, hgap⟩)
    rw [itemsChars, List.mem_append, List.mem_append] at hc
    rcases hc with hc | hc | hc
    · exact hfront c hc
    · exact Value.le_toNat_of_mem_chars hgap v hplain.1 c hc
    · exact hlater c hc

theorem le_toNat_of_mem_membersChars {gap : List Char} (hgap : ∀ c ∈ gap, 0x20 ≤ c.toNat) :
    (ms : List (String × Value)) → MembersPlain ms → ∀ front : List Char,
      (∀ c ∈ front, 0x20 ≤ c.toNat) → ∀ c ∈ membersChars gap front ms, 0x20 ≤ c.toNat
  | [] => by
    intro _ front _ c hc
    exact nomatch hc
  | (k, v) :: ms => by
    intro hplain front hfront c hc
    have hlater := le_toNat_of_mem_membersChars hgap ms hplain.2 (',' :: gap)
      (List.forall_mem_cons.2 ⟨by decide, hgap⟩)
    rw [membersChars, List.mem_append, List.mem_append, List.mem_cons, List.mem_append,
      List.mem_append] at hc
    rcases hc with hc | hc | rfl | hc | hc | hc
    · exact hfront c hc
    · exact le_toNat_of_mem_quote hc
    · decide
    · exact hgap c hc
    · exact Value.le_toNat_of_mem_chars hgap v hplain.1 c hc
    · exact hlater c hc

end

/-- A plain value is written without control characters, so on one line. -/
theorem Value.le_toNat_of_mem_write {v : Value} (hplain : v.IsPlain) {c : Char}
    (h : c ∈ v.write.toList) : 0x20 ≤ c.toNat := by
  rw [v.toList_write] at h
  exact Value.le_toNat_of_mem_chars (by simp) v hplain c h

end SealedPage.Json
