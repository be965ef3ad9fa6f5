import TagSpec.Proofs.Output
import TagSpec.Proofs.Package.Sources

/-!
# The file that is passed over

A package passes over the place that the path of its output leads to before it is written. Once it
is written, that is the place where it stands; before, it may be the target of a link that is going
to be replaced, or unknown because a directory on the way is missing.
-/

namespace TagSpec.Package

open Files Files.Tree Output

variable {t u : Tree} {path name : String} {dir : Place} {ss : List String}

/-- The place of a path is where it leads, or else the place of its name in its directory. -/
theorem place?_eq (h : Path.Named path name ss) (t : Tree) :
    place? t path =
      (t.canonical? path).or ((t.canonical? (directoryOf path)).map (· ++ [name])) := by
  unfold place? directoryOf
  rw [h.fileName?]
  cases hparent : Path.parent? path with
  | none =>
    rw [Path.parent?, h.meaning] at hparent
    simp only at hparent
    split at hparent <;> cases hparent
  | some parent => cases t.canonical? path <;> rfl

section Arrives

variable (h : Path.Named path name ss) (hbad : isBadPath path = false)
  (hslash : Path.endsInSlash path = false) (hshort : ¬ nameLimit < Utf8.byteLength name.toList)
  {l : Nat} (hl : t.arrive linkLimit (t.start path) (namesTo ss) = .ok (l, dir))
include h hbad hslash hshort hl

/-- A path with its directory leads to what has its name. -/
theorem locate_of_arrives (follow : Bool) :
    t.locate follow path =
      match t.get? (dir ++ [name]) with
      | none => .ok (.absent dir name)
      | some (.link target) =>
        if follow then t.walk true l dir [name] else .ok (.here (dir ++ [name]) (.link target))
      | some e => .ok (.here (dir ++ [name]) e) := by
  rw [locate_eq h t follow hbad hslash, hl]
  simp only [Except.bind]
  cases follow with
  | false =>
    rw [walk_name, if_neg h.ne_dot, if_neg h.ne_up, if_neg hshort]
    cases t.get? (dir ++ [name]) with
    | none => rfl
    | some e => cases e <;> simp
  | true =>
    rw [walk_name, if_neg h.ne_dot, if_neg h.ne_up, if_neg hshort]
    cases t.get? (dir ++ [name]) with
    | none => rfl
    | some e => cases e <;> simp

theorem canonical?_of_file {bytes : List UInt8}
    (hget : t.get? (dir ++ [name]) = some (.file bytes)) :
    t.canonical? path = some (dir ++ [name]) := by
  rw [canonical?, find, locate_of_arrives h hbad hslash hshort hl, hget]
  rfl

/-- A path leads nowhere if its name is not in its directory. -/
theorem canonical?_of_none (hget : t.get? (dir ++ [name]) = none) : t.canonical? path = none := by
  rw [canonical?, find, locate_of_arrives h hbad hslash hshort hl, hget]
  rfl

omit hslash hshort in
/-- A path has a place if its directory is there. -/
theorem place?_of_arrives :
    place? t path = some ((t.canonical? path).getD (dir ++ [name])) := by
  have hdir : t.canonical? (directoryOf path) = some dir := by
    rw [canonical?, (find_directoryOf_iff h hbad).2 ⟨l, hl⟩]
    rfl
  rw [place?_eq h, hdir]
  cases t.canonical? path <;> rfl

end Arrives

/-- Without its directory a path leads to nothing and has no place. -/
theorem not_arrives (h : Path.Named path name ss) (hbad : isBadPath path = false)
    (hhas : t.has (directoryOf path) = false) (r : Nat × Place) :
    t.arrive linkLimit (t.start path) (namesTo ss) ≠ .ok r := by
  obtain ⟨l, d⟩ := r
  intro hr
  have hfind := (find_directoryOf_iff h hbad).2 ⟨l, hr⟩
  rw [has, hfind] at hhas
  cases hhas

/-- Without the directory of a path there is no spot that it leads to. -/
theorem locate_ne_ok (h : Path.Named path name ss) (hbad : isBadPath path = false)
    (hslash : Path.endsInSlash path = false) (hhas : t.has (directoryOf path) = false)
    (follow : Bool) (spot : Spot) : t.locate follow path ≠ .ok spot := by
  rw [locate_eq h t follow hbad hslash]
  cases hr : t.arrive linkLimit (t.start path) (namesTo ss) with
  | error e => simp [Except.bind]
  | ok r => exact absurd hr (not_arrives h hbad hhas r)

/-- A path has no place if its directory is not there. -/
theorem place?_of_not_has (h : Path.Named path name ss) (hbad : isBadPath path = false)
    (hslash : Path.endsInSlash path = false) (hhas : t.has (directoryOf path) = false) :
    place? t path = none := by
  have hnone : t.canonical? (directoryOf path) = none := by
    unfold has at hhas
    unfold canonical?
    cases hfind : t.find (directoryOf path) with
    | error e => rfl
    | ok r =>
      rw [hfind] at hhas
      cases hhas
  have hpath : t.canonical? path = none := by
    unfold canonical? find
    cases hl : t.locate true path with
    | error e => rfl
    | ok spot => exact absurd hl (locate_ne_ok h hbad hslash hhas true spot)
  rw [place?_eq h, hpath, hnone]
  rfl

section Landed

variable {bytes : List UInt8} (L : Landed t path u dir name ss)
include L

/-- Nothing was passed over where the directory of the file was missing. -/
theorem place?_iff_of_not_has
    (hdir : (u.put (dir ++ [name]) (.file bytes)).isDirectory (directoryOf path) = true)
    (hhas : t.has (directoryOf path) = false) (source : String) :
    (∀ q, IsSource t source q → (place? t path = some q ↔ some (dir ++ [name]) = some q)) ↔
      ∀ q, (u.put (dir ++ [name]) (.file bytes)).canonical? path = some q →
        ¬ IsSource t source q := by
  obtain ⟨l, hl⟩ := L.arrives_put hdir
  have hafter := canonical?_of_file L.named L.good L.open_end L.short hl
    (get?_put_self u (by simp) (.file bytes))
  rw [place?_of_not_has L.named L.good L.open_end hhas, hafter]
  constructor
  · intro h q hq hs
    exact absurd ((h q hs).2 hq) (by simp)
  · intro h q hs
    exact ⟨fun hq => (by cases hq), fun hq => absurd hs (h q hq)⟩

omit L in
/-- Where a link is replaced, what was passed over is what the link led to. -/
theorem place?_iff_of_link {target : String} (hget : t.get? (dir ++ [name]) = some (.link target))
    (source : String) :
    (∀ q, IsSource t source q →
        (some ((t.canonical? path).getD (dir ++ [name])) = some q ↔
          some (dir ++ [name]) = some q)) ↔
      ∀ q, t.canonical? path = some q → ¬ IsSource t source q := by
  have hne : ∀ q, IsSource t source q → dir ++ [name] ≠ q := by
    rintro _ ⟨-, -, old, -, -, -, hfile⟩ rfl
    rw [hget] at hfile
    cases hfile
  constructor
  · intro h q hq hs
    rw [hq] at h
    exact hne q hs (Option.some.inj ((h q hs).1 rfl))
  · intro h q hs
    cases hc : t.canonical? path with
    | none => rfl
    | some q' =>
      refine ⟨fun hq => ?_, fun hq => absurd (Option.some.inj hq) (hne q hs)⟩
      obtain rfl : q' = q := Option.some.inj hq
      exact absurd hs (h q' hc)

/-- The sources that are read before a file is written and after are the same exactly if the file
does not replace a link to one of them and does not turn out to be one of them. -/
theorem place?_iff_landed
    (hdir : (u.put (dir ++ [name]) (.file bytes)).isDirectory (directoryOf path) = true)
    (source : String) :
    (∀ q, IsSource t source q → (place? t path = some q ↔ some (dir ++ [name]) = some q)) ↔
      (∀ p target q, t.locate false path = .ok (.here p (.link target)) →
        t.canonical? path = some q → ¬ IsSource t source q) ∧
      (t.has (directoryOf path) = false →
        ∀ q, (u.put (dir ++ [name]) (.file bytes)).canonical? path = some q →
          ¬ IsSource t source q) := by
  cases hhas : t.has (directoryOf path) with
  | false =>
    rw [place?_iff_of_not_has L hdir hhas]
    refine ⟨fun h => ⟨fun p target q hlocate => absurd hlocate ?_, fun _ => h⟩, fun h => h.2 rfl⟩
    exact locate_ne_ok L.named L.good L.open_end hhas _ _
  | true =>
    obtain rfl := L.kept hhas
    obtain ⟨l, hl⟩ := L.arrives
    have hlocate := locate_of_arrives L.named L.good L.open_end L.short hl false
    rw [place?_of_arrives L.named L.good hl]
    cases hget : u.get? (dir ++ [name]) with
    | none =>
      rw [hget] at hlocate
      simp [canonical?_of_none L.named L.good L.open_end L.short hl hget, hlocate]
    | some e =>
      cases e with
      | directory => exact absurd hget L.free
      | file old =>
        rw [hget] at hlocate
        simp [canonical?_of_file L.named L.good L.open_end L.short hl hget, hlocate]
      | link target =>
        rw [hget] at hlocate
        rw [place?_iff_of_link hget]
        refine ⟨fun h => ⟨fun _ _ q _ => h q, fun hfalse => (by cases hfalse)⟩, ?_⟩
        rintro ⟨hlink, -⟩ q hq
        exact hlink _ _ _ hlocate hq

end Landed

end TagSpec.Package
