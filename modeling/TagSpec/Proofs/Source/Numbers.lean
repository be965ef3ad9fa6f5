import Mathlib.Data.List.Forall2
import TagSpec.Proofs.Source.Scanning
import TagSpec.Proofs.Text.Digits

/-!
# Where a number ends

A number is as long as it can be. So what comes behind a text makes the number at its start another
one only by becoming part of it, and a slash becomes part of none: `numberLength_slash`.
-/

namespace TagSpec.Source

/-! ## Digits -/

def orUnderscore (ok : Char → Bool) (c : Char) : Bool := ok c || c = '_'

theorem orUnderscore_of {ok : Char → Bool} {c : Char} (h : ok c = true) : orUnderscore ok c = true := by
  rw [orUnderscore, h, Bool.true_or]

theorem scans_laterDigits (ok : Char → Bool) : Scans (orUnderscore ok) (laterDigits ok) where
  run cs := by
    fun_induction laterDigits ok cs with
    | case2 c cs hc ih =>
      rw [Nat.add_comm]
      exact ih.cons (orUnderscore_of hc)
    | case4 d ds hd _ ih =>
      rw [Nat.add_comm]
      exact (ih.cons (orUnderscore_of hd)).cons (by simp [orUnderscore])
    | _ => exact .zero _
  behind cs ds := by
    fun_induction laterDigits ok cs with
    | case1 =>
      rw [List.nil_append, List.length_nil]
      exact (Nat.eq_zero_or_pos _)
    | case2 c cs hc ih =>
      rw [List.cons_append, laterDigits.eq_def]
      simp only [if_pos hc, List.length_cons]
      omega
    | case3 hc =>
      cases ds with
      | nil => exact .inl (by rw [List.append_nil, laterDigits.eq_def]; simp [hc])
      | cons d ds =>
        rw [List.cons_append, List.nil_append, laterDigits.eq_def]
        simp only [if_neg hc, if_true, List.length_cons, List.length_nil]
        split <;> omega
    | case4 d es hd hc ih =>
      rw [List.cons_append, List.cons_append, laterDigits.eq_def]
      simp only [if_neg hc, if_true, if_pos hd, List.length_cons]
      omega
    | case5 d es hc hd =>
      rw [List.cons_append, List.cons_append, laterDigits.eq_def]
      simp only [if_neg hc, if_true, if_neg hd, true_or]
    | case6 c cs hc hu =>
      rw [List.cons_append, laterDigits.eq_def]
      simp only [if_neg hc, if_neg hu, true_or]

theorem scans_digitsLength (ok : Char → Bool) : Scans (orUnderscore ok) (digitsLength ok) where
  run cs := by
    fun_cases digitsLength ok cs with
    | case2 c cs hc =>
      rw [Nat.add_comm]
      exact ((scans_laterDigits ok).run cs).cons (orUnderscore_of hc)
    | _ => exact .zero _
  behind cs ds := by
    cases cs with
    | nil => exact Nat.eq_zero_or_pos _
    | cons c cs =>
      rw [List.cons_append, digitsLength, digitsLength]
      have hbehind := (scans_laterDigits ok).behind cs ds
      split
      · rw [List.length_cons]
        omega
      · exact .inl rfl

theorem scans_markedDigits (ok : Char → Bool) : Scans (orUnderscore ok) (markedDigits ok) where
  run cs := by
    fun_cases markedDigits ok cs with
    | case1 => exact .zero _
    | case2 cs _ =>
      rw [Nat.add_comm]
      exact ((scans_digitsLength ok).run cs).cons (by simp [orUnderscore])
    | case3 => exact (scans_digitsLength ok).run _
  behind cs ds := by
    cases cs with
    | nil => exact Nat.eq_zero_or_pos _
    | cons c cs =>
      by_cases hc : c = '_'
      · subst hc
        have hbehind := (scans_digitsLength ok).behind cs ds
        rw [List.cons_append, markedDigits, markedDigits, List.length_cons]
        split <;> split <;> omega
      · have hplain : ∀ es, markedDigits ok (c :: es) = digitsLength ok (c :: es) := by
          intro es
          rw [markedDigits]
          rintro _ ⟨⟩
          exact hc rfl
        rw [List.cons_append, hplain, hplain, ← List.cons_append]
        exact (scans_digitsLength ok).behind (c :: cs) ds

/-! ## Exponents and mantissas -/

def inExponent (mark c : Char) : Bool := c.toLower = mark || c = '+' || c = '-' || orUnderscore isDigit c

/-- The length of the sign at the start of an exponent. -/
def signLength (cs : List Char) : Nat :=
  match cs with
  | '+' :: _ => 1
  | '-' :: _ => 1
  | _ => 0

theorem exponentLength_cons (mark c : Char) (cs : List Char) :
    exponentLength mark (c :: cs) =
      if c.toLower = mark then
        if digitsLength isDigit (cs.drop (signLength cs)) = 0 then 0
        else 1 + signLength cs + digitsLength isDigit (cs.drop (signLength cs))
      else 0 := by
  rw [exponentLength.eq_def]
  rfl

theorem signLength_le_one (cs : List Char) : signLength cs ≤ 1 := by
  unfold signLength
  split <;> decide

theorem scans_signLength : Scans (fun c => c = '+' || c = '-') signLength where
  run cs := by
    unfold signLength
    split
    · exact (Run.zero _).cons rfl
    · exact (Run.zero _).cons rfl
    · exact .zero _
  behind cs ds := by
    cases cs with
    | nil => exact Nat.eq_zero_or_pos _
    | cons c cs => exact .inl (by unfold signLength; split <;> simp_all)

/-- An exponent is longer with more text behind it only if it goes on there. -/
theorem scans_exponentLength (mark : Char) : Scans (inExponent mark) (exponentLength mark) where
  run cs := by
    cases cs with
    | nil => exact .zero _
    | cons c cs =>
      rw [exponentLength_cons]
      split
      · next hc =>
        split
        · exact .zero _
        · have hsign : Run (inExponent mark) (signLength cs) cs :=
            (scans_signLength.run cs).mono fun d hd => by
              simp only [Bool.or_eq_true, decide_eq_true_eq] at hd
              rcases hd with rfl | rfl <;> simp [inExponent]
          have hdigits : Run (inExponent mark) (digitsLength isDigit (cs.drop (signLength cs)))
              (cs.drop (signLength cs)) :=
            ((scans_digitsLength isDigit).run _).mono fun d hd => by simp [inExponent, hd]
          rw [Nat.add_assoc, Nat.add_comm]
          exact (hsign.add hdigits).cons (by simp [inExponent, hc])
      · exact .zero _
  behind cs ds := by
    cases cs with
    | nil => exact Nat.eq_zero_or_pos _
    | cons c cs =>
      rw [List.cons_append, exponentLength_cons, exponentLength_cons, List.length_cons]
      split
      · have hle := (scans_signLength.run cs).le
        rcases scans_signLength.behind cs ds with hsame | hlonger
        · rw [hsame, List.drop_append_of_le_length hle]
          have hbehind := (scans_digitsLength isDigit).behind (cs.drop (signLength cs)) ds
          rw [List.length_drop] at hbehind
          split <;> split <;> omega
        · have hone := signLength_le_one (cs ++ ds)
          obtain rfl := List.length_eq_zero_iff.1 (show cs.length = 0 by omega)
          rw [List.drop_nil, if_pos (scans_digitsLength isDigit).nil]
          split
          · exact .inl rfl
          · exact .inr (by simp only [List.length_nil]; omega)
      · exact .inl rfl

def inMantissa (ok : Char → Bool) (c : Char) : Bool := c = '.' || orUnderscore ok c

section Mantissa

variable {ok : Char → Bool} {whole : Nat} {cs r : List Char}

theorem mantissaLength_dot (h : cs.drop whole = '.' :: r) :
    mantissaLength whole ok cs =
      if whole = 0 ∧ digitsLength ok r = 0 then 0 else whole + 1 + digitsLength ok r := by
  unfold mantissaLength
  rw [h]
  simp

theorem mantissaLength_plain (h : ∀ r, cs.drop whole ≠ '.' :: r) :
    mantissaLength whole ok cs = whole := by
  unfold mantissaLength
  split
  · next hr => exact absurd hr (h _)
  · rfl

/-- There is a point behind the whole part of a mantissa, or nothing more. -/
theorem dot_or_plain (whole : Nat) (cs : List Char) :
    (∃ r, cs.drop whole = '.' :: r) ∨ ∀ r, cs.drop whole ≠ '.' :: r := by
  by_cases h : ∃ r, cs.drop whole = '.' :: r
  · exact .inl h
  · exact .inr fun r hr => h ⟨r, hr⟩

theorem le_mantissaLength (ok : Char → Bool) (whole : Nat) (cs : List Char) :
    whole ≤ mantissaLength whole ok cs := by
  rcases dot_or_plain whole cs with ⟨r, hr⟩ | hplain
  · rw [mantissaLength_dot hr]
    split <;> omega
  · exact Nat.le_of_eq (mantissaLength_plain hplain).symm

end Mantissa

/-- A mantissa is longer with more text behind it only if it goes on there. -/
theorem scans_mantissaLength {ok : Char → Bool} {whole : List Char → Nat}
    (h : Scans (orUnderscore ok) whole) :
    Scans (inMantissa ok) (fun cs => mantissaLength (whole cs) ok cs) where
  run cs := by
    have hwhole : Run (inMantissa ok) (whole cs) cs :=
      (h.run cs).mono fun c hc => by simp [inMantissa, hc]
    rcases dot_or_plain (whole cs) cs with ⟨r, hr⟩ | hplain
    · have hdigits : Run (inMantissa ok) (digitsLength ok r) r :=
        ((scans_digitsLength ok).run r).mono fun c hc => by simp [inMantissa, hc]
      rw [mantissaLength_dot hr]
      split
      · exact .zero _
      · rw [Nat.add_assoc, Nat.add_comm 1]
        refine hwhole.add ?_
        rw [hr]
        exact hdigits.cons (by simp [inMantissa])
    · rw [mantissaLength_plain hplain]
      exact hwhole
  behind cs ds := by
    have hle := (h.run cs).le
    rcases h.behind cs ds with hsame | hlonger
    · have hdrop : (cs ++ ds).drop (whole cs) = cs.drop (whole cs) ++ ds :=
        List.drop_append_of_le_length hle
      simp only [hsame]
      rcases dot_or_plain (whole cs) cs with ⟨r, hr⟩ | hplain
      · rw [hr, List.cons_append] at hdrop
        rw [mantissaLength_dot hr, mantissaLength_dot hdrop]
        have hbehind := (scans_digitsLength ok).behind r ds
        have hcs := congrArg List.length hr
        rw [List.length_drop, List.length_cons] at hcs
        split <;> split <;> omega
      · rw [mantissaLength_plain hplain]
        rcases dot_or_plain (whole cs) (cs ++ ds) with ⟨r, hr⟩ | hplain'
        · -- the whole part ends with the text, so the point is behind it
          have hend : cs.drop (whole cs) = [] := by
            cases hc : cs.drop (whole cs) with
            | nil => rfl
            | cons c t =>
              rw [hdrop, hc, List.cons_append, List.cons.injEq] at hr
              exact absurd (hr.1 ▸ hc) (hplain t)
          rw [List.drop_eq_nil_iff] at hend
          rw [mantissaLength_dot hr]
          split <;> omega
        · exact .inl (mantissaLength_plain hplain')
    · exact .inr (Nat.lt_of_lt_of_le hlonger (le_mantissaLength _ _ _))

/-! ## Integers and floating-point numbers -/

/-- The digits of an integer, by the character behind the zero that it begins with. -/
def baseDigits? : Char → Option (Char → Bool)
  | 'x' => some isHexDigit
  | 'X' => some isHexDigit
  | 'b' => some isBinaryDigit
  | 'B' => some isBinaryDigit
  | 'o' => some isOctalDigit
  | 'O' => some isOctalDigit
  | _ => none

/-- An integer that begins with a zero is the zero alone, or has the digits of another base. -/
theorem integerLengths_zero (c : Char) (r : List Char) :
    integerLengths ('0' :: c :: r) =
      [1, match baseDigits? c with
        | some ok => addNonzero 2 (markedDigits ok r)
        | none => addNonzero 1 (markedDigits isOctalDigit (c :: r))] := by
  fun_cases baseDigits? c with
  | case7 hx hX hb hB ho hO =>
    unfold integerLengths
    split <;> simp_all
  | _ => rfl

theorem integerLengths_nonzero {c : Char} (hc : c ≠ '0') (r : List Char) :
    integerLengths (c :: r) = [digitsLength isDigit (c :: r)] := by
  unfold integerLengths
  split <;> simp_all

def decimalMantissa (cs : List Char) : Nat := mantissaLength (digitsLength isDigit cs) isDigit cs

def hexMantissa (cs : List Char) : Nat := mantissaLength (markedDigits isHexDigit cs) isHexDigit cs

/-- A mantissa with an exponent behind it, which it cannot do without. -/
def withExponent (mark : Char) (mantissa : List Char → Nat) (cs : List Char) : Nat :=
  if mantissa cs = 0 then 0
  else addNonzero (mantissa cs) (exponentLength mark (cs.drop (mantissa cs)))

/-- The length of the decimal floating-point number at the start of a text. -/
def decimalFloat (cs : List Char) : Nat :=
  if decimalMantissa cs = digitsLength isDigit cs then withExponent 'e' decimalMantissa cs
  else decimalMantissa cs + exponentLength 'e' (cs.drop (decimalMantissa cs))

/-- A mantissa without a point needs an exponent. -/
theorem decimalFloat_eq (cs : List Char) :
    decimalFloat cs =
      if decimalMantissa cs = 0 then 0
      else if decimalMantissa cs = digitsLength isDigit cs then
        addNonzero (decimalMantissa cs) (exponentLength 'e' (cs.drop (decimalMantissa cs)))
      else decimalMantissa cs + exponentLength 'e' (cs.drop (decimalMantissa cs)) := by
  have hle : digitsLength isDigit cs ≤ decimalMantissa cs := le_mantissaLength _ _ _
  unfold decimalFloat withExponent
  by_cases hzero : decimalMantissa cs = 0
  · rw [if_pos (by omega), if_pos hzero, if_pos hzero]
  · rw [if_neg hzero, if_neg hzero]

theorem addNonzero_withExponent (mark : Char) (mantissa : List Char → Nat) (cs : List Char) :
    addNonzero 2 (withExponent mark mantissa cs) =
      if mantissa cs = 0 then 0
      else addNonzero (2 + mantissa cs) (exponentLength mark (cs.drop (mantissa cs))) := by
  unfold withExponent addNonzero
  split
  · rfl
  split
  · rfl
  · rw [if_neg (by omega), Nat.add_assoc]

theorem floatLengths_zero (c : Char) (r : List Char) :
    floatLengths ('0' :: c :: r) =
      decimalFloat ('0' :: c :: r) ::
        (if c = 'x' ∨ c = 'X' then [addNonzero 2 (withExponent 'p' hexMantissa r)] else []) := by
  rw [addNonzero_withExponent, decimalFloat_eq]
  by_cases hc : c = 'x' ∨ c = 'X'
  · rw [if_pos hc]
    rcases hc with rfl | rfl <;> rfl
  · rw [if_neg hc]
    unfold floatLengths
    split
    · simp_all
    · simp_all
    · rfl

theorem floatLengths_nonzero {c : Char} (hc : c ≠ '0') (r : List Char) :
    floatLengths (c :: r) = [decimalFloat (c :: r)] := by
  rw [decimalFloat_eq]
  unfold floatLengths
  split
  · simp_all
  · simp_all
  · rfl

/-! ## Parts of numbers -/

def inNumber (c : Char) : Bool :=
  inMantissa isHexDigit c || inExponent 'e' c || inExponent 'p' c || (baseDigits? c).isSome

theorem run_addNonzero {ok : Char → Bool} {before part : Nat} {cs : List Char}
    (h : Run ok before cs) (hpart : Run ok part (cs.drop before)) :
    Run ok (addNonzero before part) cs := by
  unfold addNonzero
  split
  · exact .zero _
  · exact h.add hpart

theorem ascii_of_inMantissa {ok : Char → Bool} (hok : ∀ c, ok c = true → isHexDigit c = true) {c : Char}
    (h : inMantissa ok c = true) : c.toNat < 0x80 := by
  simp only [inMantissa, orUnderscore, Bool.or_eq_true, decide_eq_true_eq] at h
  rcases h with rfl | hdigit | rfl
  · decide
  · exact lt_of_digitValue (isSome_digit?_iff.1 (hok c hdigit))
  · decide

theorem isHexDigit_of_isDigit {c : Char} (h : isDigit c = true) : isHexDigit c = true := by
  refine isSome_digit?_iff.2 ?_
  unfold isDigit at h
  rw [digitValue, if_pos h]
  simp only [Bool.and_eq_true, decide_eq_true_eq, Char.le_def, UInt32.le_iff_toNat_le] at h
  have hnine : c.toNat ≤ 57 := h.2
  omega

/-- No exponent begins in a mantissa. -/
theorem exponentLength_mantissa {ok : Char → Bool} {mark : Char}
    (hok : ∀ c, ok c = true → isHexDigit c = true)
    (hmark : ∀ n < 0x80, inMantissa ok (Char.ofNat n) = true → (Char.ofNat n).toLower ≠ mark)
    (c : Char) (cs : List Char) (h : inMantissa ok c = true) : exponentLength mark (c :: cs) = 0 := by
  have hc := hmark c.toNat (ascii_of_inMantissa hok h)
  rw [Char.ofNat_toNat] at hc
  rw [exponentLength_cons, if_neg (hc h)]

theorem exponentLength_hex : ∀ c cs, inMantissa isHexDigit c = true → exponentLength 'p' (c :: cs) = 0 :=
  exponentLength_mantissa (fun _ h => h) (by decide)

theorem exponentLength_decimal :
    ∀ c cs, inMantissa isDigit c = true → exponentLength 'e' (c :: cs) = 0 :=
  exponentLength_mantissa (fun _ => isHexDigit_of_isDigit) (by decide)

theorem scans_withExponent {ok : Char → Bool} {mark : Char} {mantissa : List Char → Nat}
    (h : Scans ok mantissa) (hstart : ∀ c cs, ok c = true → exponentLength mark (c :: cs) = 0) :
    Scans (fun c => ok c || inExponent mark c) (withExponent mark mantissa) where
  run cs := by
    have hmantissa : Run (fun c => ok c || inExponent mark c) (mantissa cs) cs :=
      (h.run cs).mono fun c hc => by simp [hc]
    have hexponent : Run (fun c => ok c || inExponent mark c)
        (exponentLength mark (cs.drop (mantissa cs))) (cs.drop (mantissa cs)) :=
      ((scans_exponentLength mark).run _).mono fun c hc => by simp [hc]
    unfold withExponent
    split
    · exact .zero _
    · exact run_addNonzero hmantissa hexponent
  behind cs ds := by
    rcases h.behind cs ds with hsame | hlonger
    · have hbehind := (scans_exponentLength mark).behind (cs.drop (mantissa cs)) ds
      rw [List.length_drop] at hbehind
      have hle := (h.run cs).le
      simp only [withExponent, hsame, List.drop_append_of_le_length hle, addNonzero]
      split
      · exact .inl rfl
      · split <;> split <;> omega
    · -- the mantissa goes on behind the text, so no exponent begins in it
      have hnone : exponentLength mark (cs.drop (mantissa cs)) = 0 := by
        cases hdrop : cs.drop (mantissa cs) with
        | nil => rfl
        | cons c t =>
          have hc : c ∈ cs.drop (mantissa cs) := by
            rw [hdrop]
            exact List.mem_cons_self
          exact hstart c t ((h.run (cs ++ ds)).all_of_lt hlonger c (List.mem_of_mem_drop hc))
      simp only [withExponent, hnone, addNonzero, if_true, ite_self]
      split
      · exact .inl rfl
      · split <;> omega

theorem scans_hexFloat :
    Scans (fun c => inMantissa isHexDigit c || inExponent 'p' c) (withExponent 'p' hexMantissa) :=
  scans_withExponent (scans_mantissaLength (scans_markedDigits isHexDigit)) exponentLength_hex

theorem scans_decimalMantissa : Scans (inMantissa isDigit) decimalMantissa :=
  scans_mantissaLength (scans_digitsLength isDigit)

theorem scans_decimalFloat :
    Scans (fun c => inMantissa isDigit c || inExponent 'e' c) decimalFloat where
  run cs := by
    have hmantissa : Run (fun c => inMantissa isDigit c || inExponent 'e' c) (decimalMantissa cs) cs :=
      (scans_decimalMantissa.run cs).mono fun c hc => by simp [hc]
    have hexponent : Run (fun c => inMantissa isDigit c || inExponent 'e' c)
        (exponentLength 'e' (cs.drop (decimalMantissa cs))) (cs.drop (decimalMantissa cs)) :=
      ((scans_exponentLength 'e').run _).mono fun c hc => by simp [hc]
    unfold decimalFloat
    split
    · exact (scans_withExponent scans_decimalMantissa exponentLength_decimal).run cs
    · exact hmantissa.add hexponent
  behind cs ds := by
    have hwhole := (scans_digitsLength isDigit).behind cs ds
    have hneeded :=
      (scans_withExponent scans_decimalMantissa exponentLength_decimal).behind cs ds
    have hfit := (scans_decimalMantissa.run cs).le
    have hle : digitsLength isDigit (cs ++ ds) ≤ decimalMantissa (cs ++ ds) :=
      le_mantissaLength _ _ _
    unfold decimalFloat
    rcases scans_decimalMantissa.behind cs ds with hsame | hlonger
    · have hsame' : digitsLength isDigit (cs ++ ds) = digitsLength isDigit cs := by omega
      by_cases hplain : decimalMantissa cs = digitsLength isDigit cs
      · rw [if_pos hplain, if_pos (by omega)]
        exact hneeded
      · have hbehind := (scans_exponentLength 'e').behind (cs.drop (decimalMantissa cs)) ds
        rw [List.length_drop] at hbehind
        rw [if_neg hplain, if_neg (by omega), hsame, List.drop_append_of_le_length hfit]
        omega
    · by_cases hplain : decimalMantissa (cs ++ ds) = digitsLength isDigit (cs ++ ds)
      · -- the digits go on behind the text, so there is no point in it
        have hall := ((scans_digitsLength isDigit).run (cs ++ ds)).all_of_lt (hplain ▸ hlonger)
        have hnodot : ∀ r, cs.drop (digitsLength isDigit cs) ≠ '.' :: r := by
          intro r hr
          have hmem : '.' ∈ cs.drop (digitsLength isDigit cs) := by
            rw [hr]
            exact List.mem_cons_self
          exact absurd (hall '.' (List.mem_of_mem_drop hmem)) (by decide)
        have hplain' : decimalMantissa cs = digitsLength isDigit cs := mantissaLength_plain hnodot
        rw [if_pos hplain, if_pos hplain']
        exact hneeded
      · rw [if_neg hplain]
        omega

/-! ## Numbers -/

/-- What may be the length of a number without an `i` behind it. -/
def plainLengths (cs : List Char) : List Nat := integerLengths cs ++ floatLengths cs

/-- The length of a number with the `i` behind it, if there is one. -/
def imaginaryLength (cs : List Char) (n : Nat) : Nat :=
  if n ≠ 0 ∧ (cs.drop n).head? = some 'i' then n + 1 else 0

/-- A number is as long as the longest of its readings. -/
theorem numberLength_eq (cs : List Char) :
    numberLength cs = (plainLengths cs ++
      (digitsLength isDigit cs :: plainLengths cs).map (imaginaryLength cs)).foldl max 0 := rfl

theorem inNumber_of_hex {c : Char} (h : orUnderscore isHexDigit c = true) : inNumber c = true := by
  simp [inNumber, inMantissa, h]

theorem inNumber_of_digits {ok : Char → Bool} (hok : ∀ c, ok c = true → isHexDigit c = true) {c : Char}
    (h : orUnderscore ok c = true) : inNumber c = true := by
  refine inNumber_of_hex ?_
  simp only [orUnderscore, Bool.or_eq_true] at h ⊢
  exact h.imp_left (hok c)

/-- The digits of every base are among those of the largest. -/
theorem isHexDigit_of_digit? {base : Nat} (hbase : base ≤ 16) {c : Char}
    (h : (digit? base c).isSome = true) : isHexDigit c = true :=
  isSome_digit?_iff.2 (Nat.lt_of_lt_of_le (isSome_digit?_iff.1 h) hbase)

theorem isHexDigit_of_base {b c : Char} {ok : Char → Bool} (hb : baseDigits? b = some ok)
    (h : ok c = true) : isHexDigit c = true := by
  unfold baseDigits? at hb
  split at hb <;> cases hb
  · exact h
  · exact h
  · exact isHexDigit_of_digit? (by decide) h
  · exact isHexDigit_of_digit? (by decide) h
  · exact isHexDigit_of_digit? (by decide) h
  · exact isHexDigit_of_digit? (by decide) h

theorem Scans.behind_addNonzero {ok : Char → Bool} {f : List Char → Nat} (h : Scans ok f) (k : Nat)
    (cs ds : List Char) :
    addNonzero k (f (cs ++ ds)) = addNonzero k (f cs) ∨ k + cs.length < addNonzero k (f (cs ++ ds)) := by
  have hbehind := h.behind cs ds
  unfold addNonzero
  split <;> split <;> omega

/-- All lengths are those of the same text, or they go on behind it. -/
def GoOn (cs : List Char) (ns ms : List Nat) : Prop :=
  List.Forall₂ (fun n m => m = n ∨ cs.length < m) ns ms

/-- The lengths of a number grow with more text behind it only if it goes on there. -/
theorem goOn_plainLengths {cs : List Char} (hne : cs ≠ []) (hzero : cs ≠ ['0']) (ds : List Char) :
    GoOn cs (plainLengths cs) (plainLengths (cs ++ ds)) := by
  obtain ⟨c, r, rfl⟩ := List.exists_cons_of_ne_nil hne
  have hdecimal := scans_decimalFloat.behind (c :: r) ds
  unfold plainLengths
  refine List.rel_append ?_ ?_
  · by_cases hc : c = '0'
    · subst hc
      cases r with
      | nil => exact absurd rfl hzero
      | cons b r =>
        rw [List.cons_append, List.cons_append, integerLengths_zero, integerLengths_zero]
        refine .cons (.inl rfl) (.cons ?_ .nil)
        cases baseDigits? b with
        | some ok =>
          have hbehind := (scans_markedDigits ok).behind_addNonzero 2 r ds
          simp only [List.length_cons]
          omega
        | none =>
          have hbehind := (scans_markedDigits isOctalDigit).behind_addNonzero 1 (b :: r) ds
          rw [List.length_cons, List.cons_append] at hbehind
          simp only [List.length_cons]
          omega
    · rw [List.cons_append, integerLengths_nonzero hc, integerLengths_nonzero hc]
      exact .cons ((scans_digitsLength isDigit).behind (c :: r) ds) .nil
  · by_cases hc : c = '0'
    · subst hc
      cases r with
      | nil => exact absurd rfl hzero
      | cons b r =>
        rw [List.cons_append, List.cons_append, floatLengths_zero, floatLengths_zero]
        refine .cons hdecimal ?_
        split
        · have hbehind := scans_hexFloat.behind_addNonzero 2 r ds
          refine .cons ?_ .nil
          simp only [List.length_cons]
          omega
        · exact .nil
    · rw [List.cons_append, floatLengths_nonzero hc, floatLengths_nonzero hc]
      exact .cons hdecimal .nil

theorem run_integerLengths {cs : List Char} : ∀ n ∈ integerLengths cs, Run inNumber n cs := by
  have hdecimal : Run inNumber (digitsLength isDigit cs) cs :=
    ((scans_digitsLength isDigit).run cs).mono
      fun _ => inNumber_of_digits fun _ => isHexDigit_of_isDigit
  intro n hn
  cases cs with
  | nil => exact List.eq_of_mem_singleton hn ▸ hdecimal
  | cons c r =>
    by_cases hc : c = '0'
    · subst hc
      have hone : ∀ es, Run inNumber 1 ('0' :: es) := fun es => (Run.zero es).cons (by decide)
      cases r with
      | nil =>
        rw [show integerLengths ['0'] = [1, 0] from rfl] at hn
        simp only [List.mem_cons, List.not_mem_nil, or_false] at hn
        rcases hn with rfl | rfl
        · exact hone []
        · exact .zero _
      | cons b r =>
        rw [integerLengths_zero] at hn
        simp only [List.mem_cons, List.not_mem_nil, or_false] at hn
        rcases hn with rfl | rfl
        · exact hone _
        cases hb : baseDigits? b with
        | some ok =>
          have hmark : inNumber b = true := by simp [inNumber, hb]
          have hdigits := ((scans_markedDigits ok).run r).mono
            fun _ => inNumber_of_digits fun _ => isHexDigit_of_base hb
          exact run_addNonzero (((Run.zero r).cons hmark).cons (by decide)) hdigits
        | none =>
          have hdigits := ((scans_markedDigits isOctalDigit).run (b :: r)).mono
            fun _ => inNumber_of_digits fun _ => isHexDigit_of_digit? (by decide)
          exact run_addNonzero (hone _) hdigits
    · rw [integerLengths_nonzero hc] at hn
      exact List.eq_of_mem_singleton hn ▸ hdecimal

theorem run_floatLengths {cs : List Char} : ∀ n ∈ floatLengths cs, Run inNumber n cs := by
  have hdecimal : Run inNumber (decimalFloat cs) cs := by
    refine (scans_decimalFloat.run cs).mono fun c hc => ?_
    rw [Bool.or_eq_true] at hc
    rcases hc with hmantissa | hexponent
    · simp only [inMantissa, Bool.or_eq_true, decide_eq_true_eq] at hmantissa
      rcases hmantissa with rfl | hdigits
      · decide
      · exact inNumber_of_digits (fun _ => isHexDigit_of_isDigit) hdigits
    · simp [inNumber, hexponent]
  intro n hn
  cases cs with
  | nil =>
    rw [show floatLengths [] = [0] from rfl] at hn
    exact List.eq_of_mem_singleton hn ▸ .zero _
  | cons c r =>
    by_cases hc : c = '0'
    · subst hc
      cases r with
      | nil =>
        rw [show floatLengths ['0'] = [0] from rfl] at hn
        exact List.eq_of_mem_singleton hn ▸ .zero _
      | cons b r =>
        rw [floatLengths_zero] at hn
        rcases List.mem_cons.1 hn with rfl | hn
        · exact hdecimal
        split at hn
        · next hb =>
          have hmark : inNumber b = true := by rcases hb with rfl | rfl <;> decide
          have hhex : Run inNumber (withExponent 'p' hexMantissa r) r := by
            refine (scans_hexFloat.run r).mono fun c hc => ?_
            rw [Bool.or_eq_true] at hc
            rcases hc with hmantissa | hexponent
            · simp [inNumber, hmantissa]
            · simp [inNumber, hexponent]
          rw [List.eq_of_mem_singleton hn]
          exact run_addNonzero (((Run.zero r).cons hmark).cons (by decide)) hhex
        · cases hn
    · rw [floatLengths_nonzero hc] at hn
      exact List.eq_of_mem_singleton hn ▸ hdecimal

/-- A number has no other characters than those of numbers. -/
theorem run_plainLengths {cs : List Char} : ∀ n ∈ digitsLength isDigit cs :: plainLengths cs,
    Run inNumber n cs := by
  intro n hn
  rcases List.mem_cons.1 hn with rfl | hn
  · exact ((scans_digitsLength isDigit).run cs).mono
      fun _ => inNumber_of_digits fun _ => isHexDigit_of_isDigit
  · exact (List.mem_append.1 hn).elim (run_integerLengths n) (run_floatLengths n)

/-- The `i` of a number goes on behind a text only if the number does. -/
theorem imaginaryLength_behind {cs ds : List Char} {n m : Nat} (hn : Run inNumber n cs)
    (hm : Run inNumber m (cs ++ ds)) (h : m = n ∨ cs.length < m) :
    imaginaryLength (cs ++ ds) m = imaginaryLength cs n ∨
      cs.length < imaginaryLength (cs ++ ds) m := by
  have hle := hn.le
  unfold imaginaryLength
  rcases h with rfl | hlonger
  · rw [List.drop_append_of_le_length hle]
    cases hdrop : cs.drop m with
    | nil =>
      rw [List.drop_eq_nil_iff] at hdrop
      have hnone : ¬ (m ≠ 0 ∧ ([] : List Char).head? = some 'i') := by simp
      rw [if_neg hnone]
      split <;> omega
    | cons c t => exact .inl rfl
  · have hnone : ¬ (n ≠ 0 ∧ (cs.drop n).head? = some 'i') := by
      rintro ⟨-, hi⟩
      have hmem : 'i' ∈ cs := List.mem_of_mem_drop (List.mem_of_head? hi)
      exact absurd (hm.all_of_lt hlonger 'i' hmem) (by decide)
    rw [if_neg hnone]
    split <;> omega

theorem goOn_lengths {cs : List Char} (hne : cs ≠ []) (hzero : cs ≠ ['0']) (ds : List Char) :
    GoOn cs (plainLengths cs ++ (digitsLength isDigit cs :: plainLengths cs).map (imaginaryLength cs))
      (plainLengths (cs ++ ds) ++ (digitsLength isDigit (cs ++ ds) :: plainLengths (cs ++ ds)).map
        (imaginaryLength (cs ++ ds))) := by
  have hplain := goOn_plainLengths hne hzero ds
  have hall : GoOn cs (digitsLength isDigit cs :: plainLengths cs)
      (digitsLength isDigit (cs ++ ds) :: plainLengths (cs ++ ds)) :=
    .cons ((scans_digitsLength isDigit).behind cs ds) hplain
  refine List.rel_append hplain ?_
  rw [List.forall₂_map_left_iff, List.forall₂_map_right_iff]
  have hleft := (List.forall₂_and_left _ _).2 ⟨run_plainLengths, hall⟩
  have hboth := ((List.forall₂_and_left _ _).2 ⟨run_plainLengths, hleft.flip⟩).flip
  exact hboth.imp fun n m ⟨hm, hn, h⟩ => imaginaryLength_behind hn hm h

theorem GoOn.foldl_max {cs : List Char} {ns ms : List Nat} (h : GoOn cs ns ms) {n m : Nat}
    (hnm : m = n ∨ cs.length < m) :
    ms.foldl max m = ns.foldl max n ∨ cs.length < ms.foldl max m := by
  induction h generalizing n m with
  | nil => exact hnm
  | cons hab _ ih => exact ih (by omega)

theorem run_foldl_max {ok : Char → Bool} {cs : List Char} {ns : List Nat}
    (h : ∀ n ∈ ns, Run ok n cs) {m : Nat} (hm : Run ok m cs) : Run ok (ns.foldl max m) cs := by
  induction ns generalizing m with
  | nil => exact hm
  | cons n ns ih =>
    refine ih (fun k hk => h k (List.mem_cons_of_mem n hk)) ?_
    rcases Nat.le_total m n with hle | hle
    · rw [Nat.max_eq_right hle]
      exact h n List.mem_cons_self
    · rw [Nat.max_eq_left hle]
      exact hm

/-- A number holds what numbers hold, and what comes behind a text makes it another one only by
becoming part of it. -/
theorem scans_numberLength : Scans (fun c => inNumber c || c = 'i') numberLength where
  run cs := by
    have hplain : ∀ n ∈ digitsLength isDigit cs :: plainLengths cs,
        Run (fun c => inNumber c || c = 'i') n cs :=
      fun n hn => (run_plainLengths n hn).mono fun c hc => by simp [hc]
    rw [numberLength_eq]
    refine run_foldl_max (fun n hn => ?_) (.zero _)
    rcases List.mem_append.1 hn with hn | hn
    · exact hplain n (List.mem_cons_of_mem _ hn)
    · obtain ⟨m, hm, rfl⟩ := List.mem_map.1 hn
      unfold imaginaryLength
      split
      · next hi =>
        refine (hplain m hm).add ?_
        obtain ⟨t, ht⟩ := List.head?_eq_some_iff.1 hi.2
        rw [ht]
        exact (Run.zero t).cons (by decide)
      · exact .zero _
  behind cs ds := by
    by_cases hne : cs = []
    · subst hne
      exact Nat.eq_zero_or_pos _
    by_cases hzero : cs = ['0']
    · subst hzero
      have hone : 1 ∈ integerLengths ('0' :: ds) := by
        cases ds with
        | nil => exact List.mem_cons_self
        | cons d ds =>
          rw [integerLengths_zero]
          exact List.mem_cons_self
      have hle : 1 ≤ numberLength ('0' :: ds) := by
        rw [numberLength_eq, List.foldl_max]
        exact Nat.le_trans (List.le_max?_getD_of_mem
          (List.mem_append_left _ (List.mem_append_left _ hone))) (Nat.le_max_right _ _)
      have hlength : numberLength ['0'] = 1 := by rfl
      rw [List.singleton_append, hlength, List.length_singleton]
      omega
    rw [numberLength_eq, numberLength_eq]
    exact (goOn_lengths hne hzero ds).foldl_max (.inl rfl)

/-- A number in front of a place ends in the same way if a slash stands there. -/
theorem numberLength_slash {cs ds : List Char} (h : numberLength (cs ++ ds) ≤ cs.length)
    (es : List Char) : numberLength (cs ++ '/' :: es) = numberLength (cs ++ ds) :=
  scans_numberLength.stop (by decide) h es

end TagSpec.Source
