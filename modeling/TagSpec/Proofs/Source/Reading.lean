import TagSpec.Source.Grammar

/-!
# What rules give

`Gives k r ts result` says what a rule of the grammar gives on a list of tokens, at every depth from
`k` on. There is one lemma for each way in which a rule goes on, and one for each kind of list that
the grammar has: members in braces, elements with commas behind them, and parts of a file.
-/

namespace TagSpec.Source

/-- What a reader gives: trees and the tokens that are left, if it can read. -/
abbrev Outcome := Option (List (Tree Symbol) × List Token)

/-- What a rule of the grammar gives at every depth from `k` on. -/
def Gives (k : Nat) (r : Rule Symbol) (ts : List Token) (result : Outcome) : Prop :=
  ∀ d, k ≤ d → r.read (readSymbol Grammar.rule d) ts = result

namespace Gives

variable {k l : Nat} {a b r : Rule Symbol} {ts ts' rest : List Token} {t : Token}
  {xs ys : List (Tree Symbol)} {result : Outcome}

/-- What a rule gives it gives at greater depths too. -/
theorem mono (h : Gives k r ts result) (hkl : k ≤ l) : Gives l r ts result :=
  fun d hd => h d (Nat.le_trans hkl hd)

/-! ## One rule -/

theorem joined : Gives 0 .joined ts (some ([], settle ts)) := fun _ _ => rfl

theorem joined_settled (hf : t.fresh = false) : Gives k .joined (t :: ts) (some ([], t :: ts)) := by
  intro d _
  rw [Rule.read_joined, settle, ← hf]

theorem token {c : Terminal} (h : c.accepts t = true) (hf : t.fresh = false) :
    Gives 0 (.token c) (t :: ts) (some ([.leaf t], ts)) := by
  intro d _
  simp [Rule.read_token, readToken, h, hf]

/-- A line that begins with the next token ends a statement. -/
theorem terminator {lenient : Bool} (hf : t.fresh = true) :
    Gives 0 (.terminator lenient) (t :: ts) (some ([], settle (t :: ts))) := by
  intro d _
  simp [Rule.read_terminator, readTerminator, hf]

theorem seq (ha : Gives k a ts (some (xs, ts'))) (hb : Gives k b ts' (some (ys, rest))) :
    Gives k (.seq a b) ts (some (xs ++ ys, rest)) := by
  intro d hd
  simp [Rule.read_seq, ha d hd, hb d hd]

theorem seq_none (ha : Gives k a ts none) : Gives k (.seq a b) ts none := by
  intro d hd
  simp [Rule.read_seq, ha d hd]

theorem seq_some_none (ha : Gives k a ts (some (xs, ts'))) (hb : Gives k b ts' none) :
    Gives k (.seq a b) ts none := by
  intro d hd
  simp [Rule.read_seq, ha d hd, hb d hd]

theorem alt_left (ha : Gives k a ts (some (xs, rest))) : Gives k (.alt a b) ts (some (xs, rest)) := by
  intro d hd
  simp [Rule.read_alt, ha d hd]

theorem alt_right (ha : Gives k a ts none) (hb : Gives k b ts result) :
    Gives k (.alt a b) ts result := by
  intro d hd
  simp [Rule.read_alt, ha d hd, hb d hd]

theorem opt_some (ha : Gives k a ts (some (xs, rest))) : Gives k (.opt a) ts (some (xs, rest)) := by
  intro d hd
  simp [Rule.read_opt, ha d hd]

theorem opt_none (ha : Gives k a ts none) : Gives k (.opt a) ts (some ([], ts)) := by
  intro d hd
  simp [Rule.read_opt, ha d hd]

theorem ahead_none (ha : Gives k a ts none) : Gives k (.ahead a) ts none := by
  intro d hd
  simp [Rule.read_ahead, ha d hd]

/-- A symbol is read by its rule, one level further down. -/
theorem ref {s : Symbol} (h : Gives k (Grammar.rule s) ts (some (xs, rest))) :
    Gives (k + 1) (.ref s) ts (some ([.node s xs], rest)) := by
  intro d hd
  obtain ⟨d, rfl⟩ : ∃ e, d = e + 1 := ⟨d - 1, by omega⟩
  simp [Rule.read_ref, readSymbol, h d (by omega)]

theorem ref_none {s : Symbol} (h : Gives k (Grammar.rule s) ts none) :
    Gives (k + 1) (.ref s) ts none := by
  intro d hd
  obtain ⟨d, rfl⟩ : ∃ e, d = e + 1 := ⟨d - 1, by omega⟩
  simp [Rule.read_ref, readSymbol, h d (by omega)]

end Gives

/-! ## Repetition -/

/-- A rule that is read again and again, up to where it cannot be read. -/
inductive Repeats (k : Nat) (r : Rule Symbol) :
    List Token → List (Tree Symbol) → List Token → Prop where
  | stop {ts : List Token} (h : Gives k r ts none) : Repeats k r ts [] ts
  | step {ts ts' rest : List Token} {xs ys : List (Tree Symbol)}
      (h : Gives k r ts (some (xs, ts'))) (hlt : ts'.length < ts.length)
      (hrest : Repeats k r ts' ys rest) : Repeats k r ts (xs ++ ys) rest

/-- A rule that is repeated gives the trees of all times. -/
theorem Gives.many {k : Nat} {r : Rule Symbol} {ts rest : List Token} {xs : List (Tree Symbol)}
    (h : Repeats k r ts xs rest) : Gives k (.many r) ts (some (xs, rest)) := by
  intro d hd
  suffices hread : ∀ limit, ts.length < limit →
      readMany (r.read (readSymbol Grammar.rule d)) limit ts = (xs, rest) by
    simp [Rule.read_many, hread (ts.length + 1) (Nat.lt_succ_self _)]
  induction h with
  | stop h =>
    intro limit hlimit
    cases limit with
    | zero => cases hlimit
    | succ limit => simp [readMany, h d hd]
  | step h hlt _ ih =>
    intro limit hlimit
    cases limit with
    | zero => cases hlimit
    | succ limit => simp [readMany, h d hd, ih limit (by omega)]

/-! ## Lists of members -/

/-- A list of tokens that begins on a line of its own. -/
def StartsFresh (ts : List Token) : Prop := ∃ t us, ts = t :: us ∧ t.fresh = true

theorem StartsFresh.append {ts : List Token} (h : StartsFresh ts) (us : List Token) :
    StartsFresh (ts ++ us) := by
  obtain ⟨t, vs, rfl, hf⟩ := h
  exact ⟨t, vs ++ us, rfl, hf⟩

@[simp] theorem length_settle (ts : List Token) : (settle ts).length = ts.length := by
  cases ts <;> rfl

/-- Where a line begins, a terminator is read. -/
theorem StartsFresh.terminator {ts : List Token} (h : StartsFresh ts) (lenient : Bool) :
    Gives 0 (.terminator lenient) ts (some ([], settle ts)) := by
  obtain ⟨t, us, rfl, hf⟩ := h
  exact Gives.terminator hf

section Lists

variable {α : Type} {k : Nat} {r : Rule Symbol} {block : α → List Token}
  {tree : α → List (Tree Symbol)} {as : List α} {o c : Token}

/-- What is left of a list of members in lines of their own begins a line. -/
theorem startsFresh_flatMap (hblock : ∀ a ∈ as, StartsFresh (block a)) {ts : List Token}
    (hts : StartsFresh ts) : StartsFresh (as.flatMap block ++ ts) := by
  cases as with
  | nil => exact hts
  | cons a as =>
    rw [List.flatMap_cons, List.append_assoc]
    exact (hblock a List.mem_cons_self).append _

/-- Each member is read up to the line after it. -/
def ReadsLines (k : Nat) (r : Rule Symbol) (block : α → List Token)
    (tree : α → List (Tree Symbol)) (as : List α) : Prop :=
  ∀ a ∈ as, StartsFresh (block a) ∧
    ∀ ts, StartsFresh ts → Gives k r (settle (block a ++ ts)) (some (tree a, ts))

theorem ReadsLines.mono {l : Nat} (h : ReadsLines k r block tree as) (hkl : k ≤ l) :
    ReadsLines l r block tree as :=
  fun a ha => ⟨(h a ha).1, fun ts hts => ((h a ha).2 ts hts).mono hkl⟩

/-- Members after the first one, each with a terminator before it. -/
theorem ReadsLines.repeats (h : ReadsLines k r block tree as) {ts : List Token}
    (hts : StartsFresh ts) (hend : Gives k r (settle ts) none) :
    Repeats k (.seq (.terminator false) r) (as.flatMap block ++ ts) (as.flatMap tree) ts := by
  induction as with
  | nil => exact .stop (Gives.seq_some_none ((hts.terminator false).mono (Nat.zero_le k)) hend)
  | cons a as ih =>
    obtain ⟨hfresh, hread⟩ := h a List.mem_cons_self
    have htail : ReadsLines k r block tree as := fun b hb => h b (List.mem_cons_of_mem a hb)
    have hrest := startsFresh_flatMap (fun b hb => (htail b hb).1) hts
    rw [List.flatMap_cons, List.flatMap_cons, List.append_assoc]
    refine .step (Gives.seq (((hfresh.append _).terminator false).mono (Nat.zero_le k))
      (hread _ hrest)) ?_ (ih htail)
    obtain ⟨t, us, hblock, -⟩ := hfresh
    simp only [hblock, List.length_append, List.length_cons]
    omega

/-- Members in brackets, each in lines of its own. -/
theorem Gives.members {opening closing : String} (h : ReadsLines k r block tree as)
    (ho : (Terminal.sign opening).accepts o = true) (hof : o.fresh = false)
    (hc : (Terminal.sign closing).accepts c = true) (hcf : c.fresh = true) {rest : List Token}
    (hend : Gives k r (settle (c :: rest)) none) :
    Gives k (Rule.members opening closing r) (o :: settle (as.flatMap block ++ c :: rest))
      (some (.leaf o :: (as.flatMap tree ++ [.leaf { c with fresh := false }]), rest)) := by
  have hclose : Gives k (Rule.sign closing) (settle (c :: rest))
      (some ([.leaf { c with fresh := false }], rest)) :=
    (Gives.token (t := { c with fresh := false }) hc rfl).mono (Nat.zero_le k)
  have hfresh : StartsFresh (c :: rest) := ⟨c, rest, rfl, hcf⟩
  refine Gives.seq ((Gives.token ho hof).mono (Nat.zero_le k)) (Gives.seq ?_ hclose)
  cases as with
  | nil => exact Gives.opt_none (Gives.seq_none hend)
  | cons a as =>
    obtain ⟨-, hread⟩ := h a List.mem_cons_self
    have htail : ReadsLines k r block tree as := fun b hb => h b (List.mem_cons_of_mem a hb)
    have hrest := startsFresh_flatMap (fun b hb => (htail b hb).1) hfresh
    rw [List.flatMap_cons, List.flatMap_cons, List.append_assoc]
    refine Gives.opt_some (Gives.seq (hread _ hrest) ?_)
    rw [← List.append_nil (as.flatMap tree)]
    exact Gives.seq (Gives.many (htail.repeats hfresh hend))
      (Gives.opt_some ((hfresh.terminator false).mono (Nat.zero_le k)))

/-! ## Lists of elements -/

/-- Each element is read up to the comma after it. -/
def ReadsElements (k : Nat) (r : Rule Symbol) (block : α → List Token)
    (tree : α → List (Tree Symbol)) (comma : Token) (as : List α) : Prop :=
  ∀ a ∈ as, ∀ ts, Gives k r (block a ++ comma :: ts) (some (tree a, comma :: ts))

/-- The elements after the first one, each behind a comma; the last comma is left. -/
theorem ReadsElements.repeats {comma : Token} {mark : String}
    (h : ReadsElements k r block tree comma as) (hm : (Terminal.sign mark).accepts comma = true)
    (hmf : comma.fresh = false) {ts : List Token} (hend : Gives k r ts none) :
    Repeats k (.seq (Rule.sign mark) r) (comma :: (as.flatMap fun a => block a ++ [comma]) ++ ts)
      (as.flatMap fun a => .leaf comma :: tree a) (comma :: ts) := by
  induction as with
  | nil => exact .stop (Gives.seq_some_none ((Gives.token hm hmf).mono (Nat.zero_le k)) hend)
  | cons a as ih =>
    have htail : ReadsElements k r block tree comma as :=
      fun b hb => h b (List.mem_cons_of_mem a hb)
    rw [List.flatMap_cons, List.flatMap_cons]
    simp only [List.cons_append, List.append_assoc, List.nil_append]
    have hstep := Gives.seq ((Gives.token hm hmf).mono (Nat.zero_le k)) (h a List.mem_cons_self
      ((as.flatMap fun a => block a ++ [comma]) ++ ts))
    refine .step hstep ?_ (ih htail)
    simp only [List.length_append, List.length_cons]
    omega

/-- The trees of elements with a comma behind each. -/
def elementTrees (tree : α → List (Tree Symbol)) (comma : Token) (as : List α) :
    List (Tree Symbol) :=
  as.flatMap fun a => tree a ++ [.leaf comma]

theorem flatMap_leaf_cons (tree : α → List (Tree Symbol)) (comma : Token) (as : List α) :
    (as.flatMap fun a => .leaf comma :: tree a) ++ [.leaf comma] =
      .leaf comma :: elementTrees tree comma as := by
  induction as with
  | nil => rfl
  | cons a as ih =>
    rw [List.flatMap_cons, List.append_assoc, ih]
    simp [elementTrees]

/-- Elements in brackets with a comma behind each. -/
theorem Gives.listed {comma : Token} {opening closing : String}
    (h : ReadsElements k r block tree comma as) (hm : (Terminal.sign ",").accepts comma = true)
    (hmf : comma.fresh = false) (ho : (Terminal.sign opening).accepts o = true)
    (hof : o.fresh = false) (hc : (Terminal.sign closing).accepts c = true)
    (hcf : c.fresh = false) {rest : List Token} (hend : Gives k r (c :: rest) none) :
    Gives k (Rule.listed opening closing (Rule.separated r ","))
      (o :: (as.flatMap (fun a => block a ++ [comma]) ++ c :: rest))
      (some (.leaf o :: (elementTrees tree comma as ++ [.leaf c]), rest)) := by
  have hclose : Gives k (Rule.sign closing) (c :: rest) (some ([.leaf c], rest)) :=
    (Gives.token hc hcf).mono (Nat.zero_le k)
  refine Gives.seq ((Gives.token ho hof).mono (Nat.zero_le k)) (Gives.seq ?_ hclose)
  cases as with
  | nil => exact Gives.opt_none (Gives.seq_none (Gives.seq_none hend))
  | cons a as =>
    have htail : ReadsElements k r block tree comma as :=
      fun b hb => h b (List.mem_cons_of_mem a hb)
    have htrees : elementTrees tree comma (a :: as) =
        (tree a ++ as.flatMap fun b => .leaf comma :: tree b) ++ [.leaf comma] := by
      rw [elementTrees, List.flatMap_cons, List.append_assoc, List.append_assoc,
        flatMap_leaf_cons, elementTrees]
      rfl
    rw [htrees, List.flatMap_cons, List.append_assoc, List.append_assoc]
    have helements := Gives.seq (h a List.mem_cons_self _)
      (Gives.many (htail.repeats hm hmf hend))
    exact Gives.opt_some (Gives.seq helements
      (Gives.opt_some ((Gives.token hm hmf).mono (Nat.zero_le k))))

end Lists

end TagSpec.Source
