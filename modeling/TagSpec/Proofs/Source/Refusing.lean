import TagSpec.Proofs.Source.Reading

/-!
# What rules refuse

Whether a rule of the grammar can begin with a token is computed from the grammar, by following its
alternatives and its optional parts for a number of symbols. What the computation refuses is refused
by the reader at every depth.
-/

namespace TagSpec.Source

/-- What is known of a rule in front of a token. -/
inductive Verdict where
  /-- it cannot be read -/
  | refused
  /-- it cannot be read, or nothing of the tokens is used -/
  | idle
  /-- it may be read -/
  | unknown
deriving DecidableEq, Repr

/-- All that the first token says to rules: its kind and text, and whether it is fresh. -/
structure Look where
  kind : TokenKind
  text : List Char
  fresh : Bool
deriving DecidableEq, Repr

def Token.look (t : Token) : Look := ⟨t.kind, t.text, t.fresh⟩

/-- A token that looks so. -/
def Look.token (l : Look) : Token := ⟨l.kind, l.text, Position.start, l.fresh, none, false⟩

/-- Whether a token is in a class and not fresh. -/
def Look.isA (l : Look) (c : Terminal) : Bool := !l.fresh && c.accepts l.token

/-- Whether a token is in a class and not fresh is told by its look. -/
theorem look_isA (t : Token) (c : Terminal) : t.look.isA c = (c.accepts t && !t.fresh) := by
  rw [Bool.and_comm]
  cases c <;> rfl

namespace Verdict

/-- One rule behind another: the first may be read without using anything. -/
def andThen : Verdict → Verdict → Verdict
  | refused, _ => refused
  | idle, v => v
  | unknown, _ => unknown

/-- One rule or another. -/
def orElse : Verdict → Verdict → Verdict
  | refused, v => v
  | idle, refused => idle
  | idle, v => v
  | unknown, _ => unknown

/-- A rule that may be left out. -/
def maybe : Verdict → Verdict
  | unknown => unknown
  | _ => idle

/-- The verdict on a rule, where `call` gives those on symbols. -/
def ofRule (l : Look) (call : Symbol → Verdict) : Rule Symbol → Verdict
  | .empty => idle
  | .token c => if l.isA c then unknown else refused
  | .joined => if l.fresh then unknown else idle
  | .terminator lenient =>
    if lenient || l.fresh || isTerminatorSign l.token then unknown else refused
  | .seq a b => (ofRule l call a).andThen (ofRule l call b)
  | .alt a b => (ofRule l call a).orElse (ofRule l call b)
  | .opt a => (ofRule l call a).maybe
  | .many a => if ofRule l call a = refused then idle else unknown
  | .ahead a => if ofRule l call a = refused then refused else idle
  | .ref s => call s

/-- The verdict on a symbol after a number of symbols. -/
def ofSymbol (l : Look) : Nat → Symbol → Verdict
  | 0, _ => unknown
  | n + 1, s => ofRule l (ofSymbol l n) (Grammar.rule s)

/-- What a verdict says of what is read. -/
def Holds (v : Verdict) (ts : List Token) (result : Outcome) : Prop :=
  match v with
  | refused => result = none
  | idle => result = none ∨ ∃ xs, result = some (xs, ts)
  | unknown => True

theorem Holds.of_none (v : Verdict) (ts : List Token) : v.Holds ts none := by
  cases v with
  | refused => rfl
  | idle => exact .inl rfl
  | unknown => trivial

section

variable {t : Token} {ts : List Token} {read : Symbol → Reader Symbol} {a b : Rule Symbol}
  {u v : Verdict}

theorem Holds.seq (ha : u.Holds ts (a.read read ts)) (hb : v.Holds ts (b.read read ts)) :
    (u.andThen v).Holds ts ((Rule.seq a b).read read ts) := by
  rw [Rule.read_seq]
  cases u with
  | unknown => trivial
  | refused =>
    rw [show a.read read ts = none from ha]
    rfl
  | idle =>
    -- nothing was used, so that the second rule is in front of the same tokens
    rcases ha with hnone | ⟨xs, hsome⟩
    · rw [hnone]
      exact .of_none _ _
    · rw [hsome]
      cases v with
      | unknown => trivial
      | refused => simp [andThen, Holds, show b.read read ts = none from hb]
      | idle =>
        rcases hb with hnone' | ⟨ys, hsome'⟩
        · simp [andThen, Holds, hnone']
        · simp [andThen, Holds, hsome']

theorem Holds.alt (ha : u.Holds ts (a.read read ts)) (hb : v.Holds ts (b.read read ts)) :
    (u.orElse v).Holds ts ((Rule.alt a b).read read ts) := by
  rw [Rule.read_alt]
  cases u with
  | unknown => trivial
  | refused =>
    rw [show a.read read ts = none from ha]
    exact hb
  | idle =>
    rcases ha with hnone | ⟨xs, hsome⟩
    · rw [hnone]
      cases v with
      | unknown => trivial
      | refused => exact .inl hb
      | idle => exact hb
    · rw [hsome]
      cases v with
      | unknown => trivial
      | refused => exact .inr ⟨xs, rfl⟩
      | idle => exact .inr ⟨xs, rfl⟩

theorem Holds.opt (ha : u.Holds ts (a.read read ts)) :
    u.maybe.Holds ts ((Rule.opt a).read read ts) := by
  rw [Rule.read_opt]
  cases u with
  | unknown => trivial
  | refused =>
    rw [show a.read read ts = none from ha]
    exact .inr ⟨[], rfl⟩
  | idle =>
    rcases ha with hnone | ⟨xs, hsome⟩
    · rw [hnone]
      exact .inr ⟨[], rfl⟩
    · rw [hsome]
      exact .inr ⟨xs, rfl⟩

theorem Holds.many (ha : refused.Holds (t :: ts) (a.read read (t :: ts))) :
    idle.Holds (t :: ts) ((Rule.many a).read read (t :: ts)) := by
  refine .inr ⟨[], ?_⟩
  rw [Rule.read_many]
  simp [readMany, show a.read read (t :: ts) = none from ha]

/-- Verdicts on rules are right if those on symbols are. -/
theorem ofRule_holds {call : Symbol → Verdict}
    (hcall : ∀ s, (call s).Holds (t :: ts) (read s (t :: ts))) (r : Rule Symbol) :
    (ofRule t.look call r).Holds (t :: ts) (r.read read (t :: ts)) := by
  induction r with
  | empty => exact .inr ⟨[], rfl⟩
  | token c =>
    unfold ofRule
    rw [look_isA]
    split
    · trivial
    · next h => simp [Holds, Rule.read, readToken, h]
  | joined =>
    unfold ofRule
    split
    · trivial
    · next h =>
      have hf : t.fresh = false := by simpa [Token.look] using h
      refine .inr ⟨[], ?_⟩
      rw [Rule.read, settle, ← hf]
  | terminator lenient =>
    unfold ofRule
    split
    · trivial
    · next h =>
      have hlook : (lenient || t.fresh || isTerminatorSign t) = false := eq_false_of_ne_true h
      simp only [Bool.or_eq_false_iff] at hlook
      simp [Holds, Rule.read_terminator, readTerminator, hlook]
  | seq a b iha ihb => exact iha.seq ihb
  | alt a b iha ihb => exact iha.alt ihb
  | opt a ih => exact ih.opt
  | many a ih =>
    unfold ofRule
    split
    · next ha => exact Holds.many (ha ▸ ih)
    · trivial
  | ahead a ih =>
    unfold ofRule
    rw [Rule.read_ahead]
    split
    · next ha =>
      rw [ha] at ih
      rw [show a.read read (t :: ts) = none from ih]
      rfl
    · cases a.read read (t :: ts) with
      | none => exact .inl rfl
      | some r => exact .inr ⟨[], rfl⟩
  | ref s => exact hcall s

end

/-- Verdicts on symbols are right at every depth. -/
theorem ofSymbol_holds (t : Token) (ts : List Token) (n d : Nat) (s : Symbol) :
    (ofSymbol t.look n s).Holds (t :: ts) (readSymbol Grammar.rule d s (t :: ts)) := by
  induction n generalizing d s with
  | zero => trivial
  | succ n ih =>
    cases d with
    | zero => exact .of_none _ _
    | succ d =>
      have hrule := ofRule_holds (fun s => ih d s) (Grammar.rule s)
      rw [ofSymbol, readSymbol]
      cases hv : ofRule t.look (ofSymbol t.look n) (Grammar.rule s) with
      | unknown => trivial
      | refused =>
        rw [hv] at hrule
        simp only [Holds] at hrule
        simp [Holds, hrule]
      | idle =>
        rw [hv] at hrule
        rcases hrule with hnone | ⟨xs, hsome⟩
        · exact .inl (by simp [hnone])
        · exact .inr ⟨[.node s xs], by simp [hsome]⟩

end Verdict

/-- How many symbols the verdicts below go through. -/
def lookDepth : Nat := 16

/-- Whether the grammar lets no text of a rule begin with a token. -/
def refuses (r : Rule Symbol) (l : Look) : Bool :=
  Verdict.ofRule l (Verdict.ofSymbol l lookDepth) r = .refused

/-- What the grammar does not let begin with a token is not read there. -/
theorem Gives.of_refuses {r : Rule Symbol} {t : Token} (h : refuses r t.look = true)
    (ts : List Token) : Gives 0 r (t :: ts) none := by
  intro d _
  have hholds := Verdict.ofRule_holds
    (fun s => Verdict.ofSymbol_holds t ts lookDepth d s) r
  rw [refuses, decide_eq_true_eq] at h
  rw [h] at hholds
  exact hholds

/-- Nothing that begins with a token is read where a line begins. -/
theorem StartsFresh.gives_none {r : Rule Symbol} {ts : List Token} (h : StartsFresh ts)
    (hr : ∀ kind text, refuses r ⟨kind, text, true⟩ = true) : Gives 0 r ts none := by
  obtain ⟨t, us, rfl, hf⟩ := h
  refine Gives.of_refuses ?_ us
  rw [Token.look, hf]
  exact hr _ _

/-- An alternative that is refused is passed over. -/
theorem Gives.alt_refused {k : Nat} {a b : Rule Symbol} {t : Token} {ts : List Token}
    {result : Outcome} (ha : refuses a t.look = true) (hb : Gives k b (t :: ts) result) :
    Gives k (.alt a b) (t :: ts) result :=
  Gives.alt_right ((Gives.of_refuses ha ts).mono (Nat.zero_le k)) hb

/-- An optional part that is refused is left out. -/
theorem Gives.opt_refused {k : Nat} {a : Rule Symbol} {t : Token} {ts : List Token}
    (ha : refuses a t.look = true) : Gives k (.opt a) (t :: ts) (some ([], t :: ts)) :=
  Gives.opt_none ((Gives.of_refuses ha ts).mono (Nat.zero_le k))

/-- A part that may be repeated and is refused is left out. -/
theorem Gives.many_refused {k : Nat} {a : Rule Symbol} {t : Token} {ts : List Token}
    (ha : refuses a t.look = true) : Gives k (.many a) (t :: ts) (some ([], t :: ts)) :=
  Gives.many (.stop ((Gives.of_refuses ha ts).mono (Nat.zero_le k)))

end TagSpec.Source
