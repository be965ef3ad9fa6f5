import TagSpec.Files.Change

/-!
# Walks in a tree

How the walk along a path splits at a directory on its way, and what becomes of it when the tree
changes: a tree that grows keeps every walk, and a file put somewhere ends the walks that went
through that place and keeps all others.
-/

namespace TagSpec.Files.Tree

/-! ## One name -/

/-- Where a name on the way leads: to a directory, or through a link. -/
inductive Hop where
  | inside (dir : Place)
  | through (target : String)
deriving DecidableEq, Repr

/-- Follows one name that is not the last one. -/
def hop (t : Tree) (dir : Place) (name : String) : Except OsError Hop :=
  if name = "." then .ok (.inside dir)
  else if name = ".." then .ok (.inside dir.dropLast)
  else if nameLimit < Utf8.byteLength name.toList then .error .nameTooLong
  else
    match t.get? (dir ++ [name]) with
    | none => .error .notFound
    | some .directory => .ok (.inside (dir ++ [name]))
    | some (.file _) => .error .notDirectory
    | some (.link target) => .ok (.through target)

/-- Where the names of a link begin. -/
def linkStart (dir : Place) (target : String) : Place :=
  if Path.isAbsolute target then [] else dir

/-- The names of a link. -/
def linkNames (target : String) : List String :=
  Path.names target ++ if Path.endsInSlash target then ["."] else []

/-- Follows names from a directory to a directory, through all links: how many links may still be
followed from there, and its place. -/
def arrive (t : Tree) (links : Nat) (dir : Place) (names : List String) :
    Except OsError (Nat × Place) :=
  match names with
  | [] => .ok (links, dir)
  | name :: rest =>
    match t.hop dir name with
    | .error e => .error e
    | .ok (.inside d) => arrive t links d rest
    | .ok (.through target) =>
      match links with
      | 0 => .error .loop
      | links + 1 =>
        if target = "" then .error .notFound
        else arrive t links (linkStart dir target) (linkNames target ++ rest)
termination_by (links, names.length)

/-- How a walk goes on behind its first name. -/
def walkOn (t : Tree) (follow : Bool) (links : Nat) (dir : Place) (rest : List String) :
    Except OsError Hop → Except OsError Spot
  | .error e => .error e
  | .ok (.inside d) => t.walk follow links d rest
  | .ok (.through target) =>
    match links with
    | 0 => .error .loop
    | links + 1 =>
      if target = "" then .error .notFound
      else t.walk follow links (linkStart dir target) (linkNames target ++ rest)

/-- The first name of a walk, unless it is the only one. -/
theorem walk_cons (t : Tree) (follow : Bool) (links : Nat) (dir : Place) (name : String)
    {rest : List String} (hrest : rest ≠ []) :
    t.walk follow links dir (name :: rest) =
      t.walkOn follow links dir rest (t.hop dir name) := by
  have hempty : rest.isEmpty = false := by simp [hrest]
  rw [walk_name]
  unfold hop
  split
  · rfl
  split
  · rfl
  split
  · rfl
  cases hget : t.get? (dir ++ [name]) with
  | none => simp [walkOn, hempty]
  | some e =>
    cases e with
    | directory => rfl
    | file bytes => simp [walkOn, hempty]
    | link target => cases links <;> simp [walkOn, hempty, linkStart, linkNames]

/-- Whether a walk ends in a directory is settled by its first name and by the rest, which here may
be empty. -/
theorem walk_directory_cons (t : Tree) (links : Nat) (dir p : Place) (name : String)
    (rest : List String) :
    t.walk true links dir (name :: rest) = .ok (.here p .directory) ↔
      t.walkOn true links dir rest (t.hop dir name) = .ok (.here p .directory) := by
  by_cases hrest : rest = []
  · subst hrest
    rw [walk_name]
    unfold hop
    split
    · rfl
    split
    · rfl
    split
    · rfl
    cases hget : t.get? (dir ++ [name]) with
    | none => simp [walkOn]
    | some e =>
      cases e with
      | directory => rfl
      | file bytes => simp [walkOn]
      | link target => cases links <;> simp [walkOn, linkStart, linkNames]
  · rw [walk_cons t true links dir name hrest]

/-- A walk arrives at the directory on its way and goes on from there. -/
theorem walk_append (t : Tree) (follow : Bool) {links : Nat} {dir : Place} {names ns : List String}
    (hns : ns ≠ []) :
    t.walk follow links dir (names ++ ns) =
      (t.arrive links dir names).bind fun r => t.walk follow r.1 r.2 ns := by
  fun_induction arrive t links dir names with
  | case1 => rfl
  | case2 links dir name rest e he =>
    rw [List.cons_append, walk_cons t _ _ _ _ (by simp [hns]), he]
    rfl
  | case3 links dir name rest d hd ih =>
    rw [List.cons_append, walk_cons t _ _ _ _ (by simp [hns]), hd]
    exact ih
  | case4 dir name rest target ht =>
    rw [List.cons_append, walk_cons t _ _ _ _ (by simp [hns]), ht]
    rfl
  | case5 dir name rest links ht =>
    rw [List.cons_append, walk_cons t _ _ _ _ (by simp [hns]), ht]
    rfl
  | case6 dir name rest target ht links hne ih =>
    rw [List.cons_append, walk_cons t _ _ _ _ (by simp [hns]), ht]
    simp only [walkOn, if_neg hne]
    rw [← List.append_assoc]
    exact ih

/-- Arrivals split as walks do. -/
theorem arrive_append (t : Tree) {links : Nat} {dir : Place} {names ns : List String} :
    t.arrive links dir (names ++ ns) =
      (t.arrive links dir names).bind fun r => t.arrive r.1 r.2 ns := by
  fun_induction arrive t links dir names with
  | case1 => rfl
  | case2 links dir name rest e he =>
    rw [List.cons_append, arrive, he]
    rfl
  | case3 links dir name rest d hd ih =>
    rw [List.cons_append, arrive, hd]
    exact ih
  | case4 dir name rest target ht =>
    rw [List.cons_append, arrive, ht]
    rfl
  | case5 dir name rest links ht =>
    rw [List.cons_append, arrive, ht]
    rfl
  | case6 dir name rest target ht links hne ih =>
    rw [List.cons_append, arrive, ht]
    simp only [if_neg hne]
    rw [← List.append_assoc]
    exact ih

/-- A walk ends in a directory exactly if one arrives there. -/
theorem walk_eq_directory_iff (t : Tree) {links : Nat} {dir p : Place} {names : List String} :
    t.walk true links dir names = .ok (.here p .directory) ↔
      ∃ l, t.arrive links dir names = .ok (l, p) := by
  fun_induction arrive t links dir names with
  | case1 => simp
  | case2 links dir name rest e he =>
    rw [walk_directory_cons, he]
    simp [walkOn]
  | case3 links dir name rest d hd ih =>
    rw [walk_directory_cons, hd]
    exact ih
  | case4 dir name rest target ht =>
    rw [walk_directory_cons, ht]
    simp [walkOn]
  | case5 dir name rest links ht =>
    rw [walk_directory_cons, ht]
    simp [walkOn]
  | case6 dir name rest target ht links hne ih =>
    rw [walk_directory_cons, ht]
    simpa only [walkOn, if_neg hne] using ih

/-! ## Walks in trees that grow -/

/-- All that stands in a tree stands in the other one too. -/
structure Grows (t u : Tree) : Prop where
  home : u.home = t.home
  get? : ∀ {q : Place} {e : Entry}, t.get? q = some e → u.get? q = some e

theorem Grows.refl (t : Tree) : Grows t t := ⟨rfl, id⟩

/-- A name leads to the same place when more has been put into a tree. -/
theorem Grows.hop {t u : Tree} (h : Grows t u) {dir : Place} {name : String} {s : Hop}
    (hs : t.hop dir name = .ok s) : u.hop dir name = .ok s := by
  unfold Tree.hop at hs ⊢
  split at hs
  · next hdot => rwa [if_pos hdot]
  next hdot =>
  rw [if_neg hdot]
  split at hs
  · next hup => rwa [if_pos hup]
  next hup =>
  rw [if_neg hup]
  split at hs
  · cases hs
  next hlong =>
  rw [if_neg hlong]
  split at hs
  · cases hs
  · next hget => rwa [h.get? hget]
  · cases hs
  · next hget => rwa [h.get? hget]

/-- A tree that grows keeps every arrival. -/
theorem Grows.arrive {t u : Tree} (h : Grows t u) {links : Nat} {dir : Place}
    {names : List String} {r : Nat × Place} (hr : t.arrive links dir names = .ok r) :
    u.arrive links dir names = .ok r := by
  fun_induction Tree.arrive t links dir names with
  | case1 =>
    rw [Tree.arrive]
    exact hr
  | case2 => cases hr
  | case3 links dir name rest d hd ih =>
    rw [Tree.arrive, h.hop hd]
    exact ih hr
  | case4 => cases hr
  | case5 => cases hr
  | case6 dir name rest target ht links hne ih =>
    rw [Tree.arrive, h.hop ht]
    simp only [if_neg hne]
    exact ih hr

/-! ## Walks around a file that was put -/

section Put

variable {t : Tree} {w : Place}

/-- A name leads where it did before, unless the file now stands there, in place of a directory or a
link. -/
theorem hop_put_file (hw : w ≠ []) (bytes : List UInt8) {dir : Place} {name : String} {s : Hop}
    (hs : t.hop dir name = .ok s) :
    (t.put w (.file bytes)).hop dir name = .ok s ∨
      (t.put w (.file bytes)).hop dir name = .error .notDirectory ∧
        (t.get? w = some .directory ∨ ∃ target, t.get? w = some (.link target)) := by
  unfold hop at hs ⊢
  split at hs
  · next hdot => exact .inl (by rw [if_pos hdot, hs])
  next hdot =>
  split at hs
  · next hup => exact .inl (by rw [if_neg hdot, if_pos hup, hs])
  next hup =>
  split at hs
  · cases hs
  next hlong =>
  rw [if_neg hdot, if_neg hup, if_neg hlong, get?_put t hw]
  by_cases hp : dir ++ [name] = w
  · rw [hp] at hs
    refine .inr ⟨by rw [if_pos hp], ?_⟩
    split at hs
    · cases hs
    · next hget => exact .inl hget
    · cases hs
    · next target hget => exact .inr ⟨target, hget⟩
  · rw [if_neg hp]
    exact .inl hs

/-- One arrives where one did before, unless the file is in the way, in place of a directory or a
link. -/
theorem arrive_put_file (hw : w ≠ []) (bytes : List UInt8) {links : Nat} {dir : Place}
    {names : List String} {r : Nat × Place} (hr : t.arrive links dir names = .ok r) :
    (t.put w (.file bytes)).arrive links dir names = .ok r ∨
      (t.put w (.file bytes)).arrive links dir names = .error .notDirectory ∧
        (t.get? w = some .directory ∨ ∃ target, t.get? w = some (.link target)) := by
  fun_induction arrive t links dir names with
  | case1 =>
    rw [arrive]
    exact .inl hr
  | case2 => cases hr
  | case3 links dir name rest d hd ih =>
    rw [arrive]
    rcases hop_put_file hw bytes hd with hs | ⟨hs, hwas⟩
    · rw [hs]
      exact ih hr
    · exact .inr ⟨by rw [hs], hwas⟩
  | case4 => cases hr
  | case5 => cases hr
  | case6 dir name rest target ht links hne ih =>
    rw [arrive]
    rcases hop_put_file hw bytes ht with hs | ⟨hs, hwas⟩
    · rw [hs]
      simp only [if_neg hne]
      exact ih hr
    · exact .inr ⟨by rw [hs], hwas⟩

/-- No name leads through a file that was put. -/
theorem hop_of_put_file (hw : w ≠ []) {bytes : List UInt8} {dir : Place} {name : String} {s : Hop}
    (hs : (t.put w (.file bytes)).hop dir name = .ok s) : t.hop dir name = .ok s := by
  unfold hop at hs ⊢
  split at hs
  · next hdot => rwa [if_pos hdot]
  next hdot =>
  split at hs
  · next hup => rwa [if_neg hdot, if_pos hup]
  next hup =>
  split at hs
  · cases hs
  next hlong =>
  rw [if_neg hdot, if_neg hup, if_neg hlong]
  rw [get?_put t hw] at hs
  by_cases hp : dir ++ [name] = w
  · rw [if_pos hp] at hs
    cases hs
  · rwa [if_neg hp] at hs

/-- A file that was put is no way to anywhere. -/
theorem arrive_of_put_file (hw : w ≠ []) {bytes : List UInt8} {links : Nat} {dir : Place}
    {names : List String} {r : Nat × Place}
    (hr : (t.put w (.file bytes)).arrive links dir names = .ok r) :
    t.arrive links dir names = .ok r := by
  fun_induction arrive (t.put w (.file bytes)) links dir names with
  | case1 =>
    rw [arrive]
    exact hr
  | case2 => cases hr
  | case3 links dir name rest d hd ih =>
    rw [arrive, hop_of_put_file hw hd]
    exact ih hr
  | case4 => cases hr
  | case5 => cases hr
  | case6 dir name rest target ht links hne ih =>
    rw [arrive, hop_of_put_file hw ht]
    simp only [if_neg hne]
    exact ih hr

end Put

end TagSpec.Files.Tree
