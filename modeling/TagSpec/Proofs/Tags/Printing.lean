import TagSpec.Proofs.Tags.Grammar

/-!
# Tags written and read back

The text of tags: pairs with a space between them, the value of each in quotes with escapes for the
characters that have a meaning there. Reading gives the tags that were written.
-/

namespace TagSpec

/-! ## Writing -/

/-- Whether a character of a value is written as an escape. -/
def isEscaped (c : Char) : Bool :=
  c = '"' || c = '\\' || c = '\x60' || StringLiteral.isControl c

def escapeChar (c : Char) : List Char :=
  if isEscaped c then '\\' :: 'u' :: hexDigits 4 c.toNat else [c]

/-- The text of a value: its name and options with commas between them. -/
def TagValue.text (v : TagValue) : List Char :=
  [','].intercalate ((v.name :: v.options).map String.toList)

namespace Tags

def quoted (cs : List Char) : List Char := '"' :: (cs.flatMap escapeChar ++ ['"'])

def pairText (e : String × TagValue) : List Char := e.1.toList ++ ':' :: quoted e.2.text

def text (t : Tags) : List Char := [' '].intercalate (t.entries.map pairText)

/-- A key and a value that can be written: nothing in the key ends it, and no name or option holds
the comma that stands between them. -/
structure Writable (e : String × TagValue) : Prop where
  key_ne : e.1.toList ≠ []
  key : ∀ c ∈ e.1.toList, ' ' < c ∧ c ∉ [':', '"', '\x7F', '\x60']
  value : ∀ part ∈ e.2.name :: e.2.options, ',' ∉ part.toList

/-! ## Values -/

/-- An escape is read as the character that it was written for. -/
theorem readItem_escapeChar (c : Char) (rest : List Char) :
    StringLiteral.readItem (escapeChar c ++ rest) = some (Utf8.encodeChar c, rest) := by
  unfold escapeChar
  split
  · next h =>
    have hlt : c.toNat < 65536 := by
      simp only [isEscaped, StringLiteral.isControl, Bool.or_eq_true, Bool.and_eq_true,
        decide_eq_true_eq] at h
      rcases h with ((rfl | rfl) | rfl) | h
      · decide
      · decide
      · decide
      · omega
    have hbytes : StringLiteral.charBytes? c.toNat = some (Utf8.encodeChar c) := by
      have hvalid : c.toNat.isValidChar := c.valid
      rw [StringLiteral.charBytes?, if_pos hvalid, Char.ofNat_toNat]
    show StringLiteral.readEscape ('u' :: (hexDigits 4 c.toNat ++ rest)) = _
    simp [StringLiteral.readEscape, StringLiteral.simpleEscape?, readDigits_hexDigits,
      Nat.mod_eq_of_lt hlt, hbytes]
  · next h =>
    simp only [isEscaped, StringLiteral.isControl, Bool.or_eq_true, Bool.and_eq_true,
      decide_eq_true_eq, not_or] at h
    refine StringLiteral.readItem_char h.1.1.1 ?_ h.1.1.2 rest
    rintro rfl
    exact h.2.1 (by decide)

/-- A value in quotes denotes its UTF-8. -/
theorem decode?_quoted (cs : List Char) :
    StringLiteral.decode? (quoted cs) = some (Utf8.encode cs) := by
  rw [quoted, StringLiteral.decode?_quoted]
  exact StringLiteral.decodeItems_flatMap fun c _ rest => readItem_escapeChar c rest

/-- A value is read as it was written if no comma stands in its parts. -/
theorem valueOf_text {v : TagValue} (h : ∀ part ∈ v.name :: v.options, ',' ∉ part.toList) :
    valueOf v.text = v := by
  have hpieces : pieces ',' v.text = (v.name :: v.options).map String.toList := by
    refine pieces_intercalate ?_ (by simp)
    intro p hp
    obtain ⟨part, hpart, rfl⟩ := List.mem_map.1 hp
    exact h part hpart
  rw [valueOf, hpieces]
  simp [Function.comp_def]

/-! ## Pairs -/

/-- What is read of the text of a pair. -/
def pairOf (e : String × TagValue) : Pair :=
  ⟨e.1.toList, quoted e.2.text, Utf8.encode e.2.text⟩

namespace Writable

variable {e : String × TagValue}

theorem isKeyChar (h : Writable e) : ∀ c ∈ e.1.toList, Tags.isKeyChar c = true := by
  intro c hc
  obtain ⟨hspace, hmarks⟩ := h.key c hc
  simp only [List.mem_cons, List.not_mem_nil, or_false, not_or] at hmarks
  simp [Tags.isKeyChar, hspace, hmarks]

theorem valid (h : Writable e) : (pairOf e).Valid :=
  ⟨isKey_iff.2 ⟨h.key_ne, h.isKeyChar⟩, decode?_quoted e.2.text⟩

/-- A pair that was written is read as its key and value. -/
theorem entry_pairOf (h : Writable e) : (pairOf e).entry = e := by
  rw [Pair.entry, pairOf, Utf8.decodeLossy_encode, valueOf_text h.value, String.ofList_toList]

end Writable

/-! ## Texts -/

/-- A pair is read where a text begins with one, and then the rest. -/
theorem scan_pairText {e : String × TagValue} (h : Writable e) (rest : List Char) :
    scan (pairText e ++ rest) = ⟨pairOf e :: (scan rest).pairs, (scan rest).fault⟩ := by
  have hseq : Sequence (pairText e) [pairOf e] := by
    simpa [pairText, Pair.text, pairOf] using Sequence.cons 0 h.valid .nil
  exact scan_sequence hseq rest

/-- All pairs are read of a text of pairs with spaces between them. -/
theorem scan_intercalate {es : List (String × TagValue)} (h : ∀ e ∈ es, Writable e) :
    scan ([' '].intercalate (es.map pairText)) = ⟨es.map pairOf, none⟩ := by
  induction es with
  | nil => exact scan_nil
  | cons e es ih =>
    have he : Writable e := h e List.mem_cons_self
    have hrest := ih fun d hd => h d (List.mem_cons_of_mem e hd)
    cases es with
    | nil =>
      have hone := scan_pairText he []
      rw [List.append_nil, scan_nil] at hone
      simpa using hone
    | cons d ds =>
      rw [List.map_cons] at hrest ⊢
      rw [List.map_cons, List.intercalate_cons_cons, List.append_assoc, scan_pairText he,
        List.singleton_append, scan_space, hrest]
      rfl

/-- A key that is not there comes last. -/
theorem put_of_notMem {key : String} {es : List (String × TagValue)} (h : key ∉ es.map Prod.fst)
    (value : TagValue) : put key value es = es ++ [(key, value)] := by
  induction es with
  | nil => rfl
  | cons e es ih =>
    rw [List.map_cons, List.mem_cons, not_or] at h
    rw [put, if_neg (Ne.symm h.1), ih h.2, List.cons_append]

/-- Keys that are all new are put one behind the other. -/
theorem entries_foldl_insert (es : List (String × TagValue)) (t : Tags)
    (h : ((t.entries ++ es).map Prod.fst).Nodup) :
    (es.foldl (fun t e => t.insert e.1 e.2) t).entries = t.entries ++ es := by
  induction es generalizing t with
  | nil => simp
  | cons e es ih =>
    have hnew : e.1 ∉ t.entries.map Prod.fst := by
      intro hmem
      rw [List.map_append, List.nodup_append] at h
      exact h.2.2 _ hmem _ (List.mem_map_of_mem List.mem_cons_self) rfl
    have hput : (t.insert e.1 e.2).entries = t.entries ++ [e] := put_of_notMem hnew e.2
    rw [List.foldl_cons, ih, hput, List.append_assoc, List.singleton_append]
    rwa [hput, List.append_assoc, List.singleton_append]

/-- Tags are those of the list of their keys and values. -/
theorem ofList_entries (t : Tags) : ofList t.entries = t :=
  Tags.ext (entries_foldl_insert t.entries empty t.nodup)

/-- The tags that were written are read. -/
theorem tags_scan_text {t : Tags} (h : ∀ e ∈ t.entries, Writable e) :
    (scan t.text).tags = .ok t := by
  have hentries : (t.entries.map pairOf).map Pair.entry = t.entries := by
    rw [List.map_map]
    exact (List.map_congr_left fun e he => (h e he).entry_pairOf).trans (List.map_id _)
  rw [text, scan_intercalate h, Scan.tags]
  simp only [hentries, ofList_entries]

/-! ## Literals -/

section

variable {c : Char} (hc : c = '\r' ∨ c = '\x60')

include hc

/-- What is written for a character holds no carriage return and no back quote. -/
theorem notMem_escapeChar (d : Char) : c ∉ escapeChar d := by
  have hescaped : isEscaped c = true := by rcases hc with rfl | rfl <;> rfl
  have hdigits : ∀ n < 16, digitChar n ≠ c := by rcases hc with rfl | rfl <;> decide
  have hmarks : c ∉ ['\\', 'u'] := by rcases hc with rfl | rfl <;> decide
  unfold escapeChar
  split
  · intro hmem
    change c ∈ ['\\', 'u'] ++ hexDigits 4 d.toNat at hmem
    rcases List.mem_append.1 hmem with hmem | hmem
    · exact hmarks hmem
    · have hdigit : ∀ d' ∈ hexDigits 4 d.toNat, d' ≠ c := forall_hexDigits hdigits 4 d.toNat
      exact hdigit c hmem rfl
  · next h =>
    intro hmem
    rw [List.mem_singleton] at hmem
    exact h (hmem ▸ hescaped)

theorem notMem_pairText {e : String × TagValue} (h : Writable e) : c ∉ pairText e := by
  have hkey : c ∉ e.1.toList := by
    intro hmem
    obtain ⟨hspace, hmarks⟩ := h.key c hmem
    rcases hc with rfl | rfl
    · exact absurd hspace (by decide)
    · exact hmarks (by decide)
  have hsigns : c ≠ ':' ∧ c ≠ '"' := by rcases hc with rfl | rfl <;> decide
  have hvalue : c ∉ e.2.text.flatMap escapeChar := by
    intro hmem
    obtain ⟨d, -, hd⟩ := List.mem_flatMap.1 hmem
    exact notMem_escapeChar hc d hd
  simp [pairText, quoted, hkey, hsigns, hvalue]

theorem notMem_text {t : Tags} (h : ∀ e ∈ t.entries, Writable e) : c ∉ t.text := by
  have hsep : c ∉ [' '] := by rcases hc with rfl | rfl <;> decide
  intro hmem
  rcases mem_of_mem_intercalate hmem with hs | ⟨p, hp, hmem⟩
  · exact hsep hs
  · obtain ⟨e, he, rfl⟩ := List.mem_map.1 hp
    exact notMem_pairText hc (h e he) hmem

end

/-- The literal of tags: their text between back quotes. -/
def literal (t : Tags) : List Char := '\x60' :: (t.text ++ ['\x60'])

/-- The tags that were written to a literal are read of it. -/
theorem ofLiteral_literal {t : Tags} (h : ∀ e ∈ t.entries, Writable e) :
    ofLiteral (String.ofList t.literal) = .ok t := by
  have hbody : rawBody? t.literal = some t.text := by simp [rawBody?, literal]
  have hfilter : t.text.filter (· != '\r') = t.text := by
    refine List.filter_eq_self.2 fun c hc => ?_
    have hne : c ≠ '\r' := fun hr => notMem_text (.inl rfl) h (hr ▸ hc)
    simpa using hne
  rw [ofLiteral, String.toList_ofList, literalText?, hbody]
  simp only [hfilter]
  exact tags_scan_text h

end Tags

end TagSpec
