import Mathlib.Data.List.Basic

/-!
# Texts that tell where they end

A way of writing values determines what is written if the text of a value, whatever follows it,
belongs to no other value and ends at no other place. Parts that are written like this can be put
together, and what is put together is again of this kind.
-/

namespace TagSpec

variable {α β γ : Type}

/-- The text that is written for a value, in front of any other, tells a view of the value and where
it ends. -/
def Determines (P : α → Prop) (write : α → List Char) (view : α → β) : Prop :=
  ∀ ⦃a b : α⦄, P a → P b → ∀ ⦃rest rest' : List Char⦄,
    write a ++ rest = write b ++ rest' → view a = view b ∧ rest = rest'

namespace Determines

variable {P Q : α → Prop} {write write' : α → List Char} {view : α → β} {view' : α → γ}

/-- What is told of some values is told of fewer. -/
theorem mono (h : Determines P write view) (hPQ : ∀ a, Q a → P a) : Determines Q write view :=
  fun a b ha hb _ _ heq => h (hPQ a ha) (hPQ b hb) heq

/-- What follows from a view is told too. -/
theorem tells (h : Determines P write view)
    (hview : ∀ a b, view a = view b → view' a = view' b) : Determines P write view' := by
  intro a b ha hb rest rest' heq
  obtain ⟨hsame, hrest⟩ := h ha hb heq
  exact ⟨hview a b hsame, hrest⟩

/-- A part of a value is told by what is written for that part. -/
theorem part (h : Determines P write view) (f : γ → α) :
    Determines (fun c => P (f c)) (fun c => write (f c)) (fun c => view (f c)) :=
  fun _ _ ha hb _ _ heq => h ha hb heq

/-- A text that is the same for all values tells nothing but where it ends. -/
theorem text (P : α → Prop) (cs : List Char) : Determines P (fun _ => cs) (fun _ => ()) :=
  fun _ _ _ _ _ _ heq => ⟨rfl, List.append_cancel_left heq⟩

theorem append (h : Determines P write view) (h' : Determines P write' view') :
    Determines P (fun a => write a ++ write' a) (fun a => (view a, view' a)) := by
  intro a b ha hb rest rest' heq
  simp only [List.append_assoc] at heq
  obtain ⟨hview, hmore⟩ := h ha hb heq
  obtain ⟨hview', hrest⟩ := h' ha hb hmore
  exact ⟨congrArg₂ Prod.mk hview hview', hrest⟩

theorem textBefore (cs : List Char) (h : Determines P write view) :
    Determines P (fun a => cs ++ write a) view :=
  ((text P cs).append h).tells fun _ _ heq => congrArg Prod.snd heq

theorem textBehind (h : Determines P write view) (cs : List Char) :
    Determines P (fun a => write a ++ cs) view :=
  (h.append (text P cs)).tells fun _ _ heq => congrArg Prod.fst heq

/-- Characters of a class end at a mark that is not in the class. -/
theorem marked {p : Char → Bool} {mark : Char} (hmark : p mark = false) :
    Determines (fun cs : List Char => ∀ c ∈ cs, p c = true) (fun cs => cs ++ [mark]) id := by
  intro cs ds hcs hds rest rest' heq
  have htake : ∀ {es : List Char}, (∀ c ∈ es, p c = true) → ∀ r,
      (es ++ [mark] ++ r).takeWhile p = es := by
    intro es hes r
    rw [List.append_assoc, List.takeWhile_append_of_pos hes, List.singleton_append,
      List.takeWhile_cons_of_neg (by simp [hmark]), List.append_nil]
  have hsame : cs = ds := by rw [← htake hcs rest, heq, htake hds rest']
  subst hsame
  exact ⟨rfl, List.append_cancel_left heq⟩

/-- Values in a row end at a text with which none of them begins. -/
theorem flatMap (h : Determines P write view) (stop : List Char)
    (hstop : ∀ a, P a → ∀ rest rest', write a ++ rest ≠ stop ++ rest') :
    Determines (fun as : List α => ∀ a ∈ as, P a) (fun as => as.flatMap write ++ stop)
      (fun as => as.map view) := by
  intro as
  induction as with
  | nil =>
    intro bs _ hbs rest rest' heq
    cases bs with
    | nil => exact ⟨rfl, List.append_cancel_left heq⟩
    | cons b bs =>
      simp only [List.flatMap_cons, List.append_assoc] at heq
      exact absurd heq.symm (hstop b (hbs b List.mem_cons_self) _ _)
  | cons a as ih =>
    intro bs has hbs rest rest' heq
    obtain ⟨ha, has⟩ := List.forall_mem_cons.1 has
    cases bs with
    | nil =>
      simp only [List.flatMap_cons, List.append_assoc] at heq
      exact absurd heq (hstop a ha _ _)
    | cons b bs =>
      obtain ⟨hb, hbs⟩ := List.forall_mem_cons.1 hbs
      simp only [List.flatMap_cons, List.append_assoc] at heq
      obtain ⟨hview, hmore⟩ := h ha hb heq
      rw [← List.append_assoc, ← List.append_assoc] at hmore
      obtain ⟨hviews, hrest⟩ := ih has hbs hmore
      exact ⟨congrArg₂ List.cons hview hviews, hrest⟩

end Determines

end TagSpec
