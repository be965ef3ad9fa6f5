import TagSpec.Proofs.StringLiteral.Checked
import TagSpec.Proofs.Tags.Closing

/-!
# Tags read by positions

Tags may be read by the positions of their bytes: a loop that finds where the key ends, another that
finds where the value ends, and a cut of the text at each of the two. Main statement: `parse_checked`,
by which every text is read so without any step that goes wrong, and to the end.
-/

namespace TagSpec.Checked

open Tags
open StringLiteral (decode?)

/-! ## Keys -/

/-- The position of the first byte, from a position on, that may not stand in a key. -/
def keyEnd (bytes : List UInt8) (i : Nat) : Except Abort Nat :=
  if i < bytes.length then do
    if isKeyByte (← byteAt bytes i) then keyEnd bytes (i + 1) else return i
  else return i
termination_by bytes.length - i

/-- Reads a key and the colon behind it, up to the quote with which a value begins. -/
def readKey (cs : List Char) : Except Abort (Except TagFault (List Char × List Char)) := do
  let bytes := Utf8.encode cs
  let i ← keyEnd bytes 0
  if i = 0 then return .error .key
  if bytes.length ≤ i + 1 then return .error .pair
  if (← byteAt bytes i) ≠ 0x3A then return .error .pair
  if (← byteAt bytes (i + 1)) ≠ 0x22 then return .error .value
  return .ok (← upTo i cs, ← behind (i + 1) cs)

theorem keyEnd_append (front : List UInt8) (b : UInt8) (back : List UInt8) :
    keyEnd (front ++ b :: back) front.length =
      if isKeyByte b then keyEnd (front ++ b :: back) (front.length + 1) else .ok front.length := by
  have hlt : front.length < (front ++ b :: back).length := by simp
  rw [keyEnd, if_pos hlt, byteAt_append]
  rfl

/-- Bytes of a key are passed over up to one that is none. -/
theorem keyEnd_of_bytes {key : List UInt8} (hkey : ∀ b ∈ key, isKeyByte b = true)
    {back : List UInt8} (hback : ∀ b bs, back = b :: bs → isKeyByte b = false)
    (front : List UInt8) :
    keyEnd (front ++ (key ++ back)) front.length = .ok (front ++ key).length := by
  induction key generalizing front with
  | nil =>
    cases back with
    | nil =>
      rw [keyEnd, if_neg (by simp), List.append_nil]
      rfl
    | cons b bs =>
      rw [List.nil_append, keyEnd_append, hback b bs rfl, List.append_nil]
      rfl
  | cons b key ih =>
    obtain ⟨hb, hkey⟩ := List.forall_mem_cons.1 hkey
    have hrest := ih hkey (front ++ [b])
    simp only [List.append_assoc, List.singleton_append] at hrest
    rw [List.cons_append, keyEnd_append, if_pos hb, ← hrest, List.length_append]
    rfl

/-- A character that may not stand in a key is one byte. -/
theorem exists_encodeChar_of_not_isKeyChar {c : Char} (h : isKeyChar c = false) :
    ∃ b, Utf8.encodeChar c = [b] ∧ isKeyByte b = false ∧ c = Char.ofNat b.toNat := by
  have hsome : ¬ ∀ b ∈ Utf8.encodeChar c, isKeyByte b = true := by
    rw [← isKeyChar_iff, h]
    decide
  simp only [not_forall, Bool.not_eq_true] at hsome
  obtain ⟨b, hmem, hb⟩ := hsome
  have hascii : b.toNat < 0x80 := by
    by_contra hhigh
    rw [isKeyByte_of_high (Nat.le_of_not_lt hhigh)] at hb
    cases hb
  obtain ⟨hbytes, hc⟩ := Utf8.eq_singleton_of_ascii hascii hmem
  exact ⟨b, hbytes, hb, hc⟩

/-- The end of a key is found where no character of a key follows. -/
theorem keyEnd_encode {key rest : List Char} (hkey : ∀ c ∈ key, isKeyChar c = true)
    (hrest : ∀ c cs, rest = c :: cs → isKeyChar c = false) :
    keyEnd (Utf8.encode (key ++ rest)) 0 = .ok (Utf8.encode key).length := by
  have hbytes : ∀ b ∈ Utf8.encode key, isKeyByte b = true := by
    intro b hb
    obtain ⟨c, hc, hb⟩ := List.mem_flatMap.1 hb
    exact (isKeyChar_iff c).1 (hkey c hc) b hb
  have hback : ∀ b bs, Utf8.encode rest = b :: bs → isKeyByte b = false := by
    intro b bs he
    cases rest with
    | nil => cases he
    | cons c cs =>
      obtain ⟨d, hd, hnone, -⟩ := exists_encodeChar_of_not_isKeyChar (hrest c cs rfl)
      rw [Utf8.encode_cons, hd] at he
      cases he
      exact hnone
  rw [Utf8.encode_append]
  exact keyEnd_of_bytes hbytes hback []

/-- The first byte of a character tells whether it is a quote. -/
theorem exists_encodeChar_quote (c : Char) :
    ∃ b bs, Utf8.encodeChar c = b :: bs ∧ (b = 0x22 ↔ c = '"') := by
  obtain ⟨b, bs, hb⟩ := List.exists_cons_of_ne_nil (String.utf8EncodeChar_ne_nil (c := c))
  refine ⟨b, bs, hb, ?_, ?_⟩
  · rintro rfl
    exact (Utf8.eq_singleton_of_ascii (by decide) (hb ▸ List.mem_cons_self)).2
  · rintro rfl
    exact (List.cons.inj hb).1.symm

theorem behind_colon (key rest : List Char) :
    behind ((Utf8.encode key).length + 1) (key ++ ':' :: rest) = .ok rest := by
  have hcut := behind_append (key ++ [':']) rest
  rw [Utf8.encode_append, List.length_append, List.append_assoc] at hcut
  exact hcut

section

variable {key : List Char} (hkey : IsKey key)

include hkey

theorem length_encode_ne_zero : (Utf8.encode key).length ≠ 0 := by
  obtain ⟨c, cs, rfl⟩ := List.exists_cons_of_ne_nil hkey.1
  rw [Utf8.encode_cons, List.length_append, Utf8.encodeChar, String.length_utf8EncodeChar]
  exact Nat.ne_of_gt (Nat.add_pos_left c.utf8Size_pos _)

/-- Behind a key and a colon there has to be a quote. -/
theorem readKey_colon (c : Char) (cs : List Char) :
    readKey (key ++ ':' :: c :: cs) =
      if c = '"' then .ok (.ok (key, c :: cs)) else .ok (.error .value) := by
  have hends : ∀ d ds, ':' :: c :: cs = d :: ds → isKeyChar d = false := by
    rintro d ds he
    cases he
    rfl
  have hend := keyEnd_encode (isKey_iff.1 hkey).2 hends
  obtain ⟨b, bs, hb, hquote⟩ := exists_encodeChar_quote c
  have hbytes : Utf8.encode (key ++ ':' :: c :: cs) =
      Utf8.encode key ++ 0x3A :: b :: (bs ++ Utf8.encode cs) := by
    rw [Utf8.encode_append, Utf8.encode_cons, Utf8.encode_cons, hb]
    rfl
  have hlong : ¬ (Utf8.encode key ++ 0x3A :: b :: (bs ++ Utf8.encode cs)).length ≤
      (Utf8.encode key).length + 1 := by
    simp only [List.length_append, List.length_cons]
    omega
  rw [hbytes] at hend
  simp only [readKey, hbytes, hend, ok_bind, if_neg (length_encode_ne_zero hkey), if_neg hlong,
    byteAt_append, byteAt_append_succ, upTo_append, behind_colon, ne_eq, ite_not, if_true, hquote,
    pure_eq_ok]

/-- Behind a key there has to be a colon with something behind it. -/
theorem readKey_noColon {rest : List Char} (hends : ∀ c cs, rest = c :: cs → isKeyChar c = false)
    (hcolon : ∀ c cs, rest ≠ ':' :: c :: cs) : readKey (key ++ rest) = .ok (.error .pair) := by
  have hend := keyEnd_encode (isKey_iff.1 hkey).2 hends
  simp only [readKey, hend, ok_bind, if_neg (length_encode_ne_zero hkey)]
  by_cases hshort : (Utf8.encode (key ++ rest)).length ≤ (Utf8.encode key).length + 1
  · rw [if_pos hshort]
    rfl
  · rw [if_neg hshort]
    rw [Utf8.encode_append, List.length_append] at hshort
    cases rest with
    | nil => exact absurd (Nat.le_succ _) hshort
    | cons c cs =>
      obtain ⟨b, hb, -, hc⟩ := exists_encodeChar_of_not_isKeyChar (hends c cs rfl)
      have hother : b ≠ 0x3A := by
        rintro rfl
        cases cs with
        | nil => exact hshort (by rw [hc]; exact Nat.le_refl _)
        | cons d ds => exact hcolon d ds (by rw [hc]; rfl)
      rw [Utf8.encode_append, Utf8.encode_cons, hb, List.singleton_append, byteAt_append, ok_bind,
        if_pos hother]
      rfl

end

theorem readKey_noKey {c : Char} (h : isKeyChar c = false) (cs : List Char) :
    readKey (c :: cs) = .ok (.error .key) := by
  have hends : ∀ d ds, c :: cs = d :: ds → isKeyChar d = false := by
    rintro d ds he
    cases he
    exact h
  have hend := keyEnd_encode (List.forall_mem_nil _) hends
  rw [List.nil_append] at hend
  rw [readKey, hend]
  rfl

/-! ## Values -/

/-- Reads a value from its quote on: the bytes that it denotes, and the text behind it. -/
def readValue (cs : List Char) : Except Abort (Except TagFault (List UInt8 × List Char)) := do
  let bytes := Utf8.encode cs
  let i ← closingQuote bytes 1
  if bytes.length ≤ i then return .error .value
  let quoted ← upTo (i + 1) cs
  let rest ← behind (i + 1) cs
  match ← decode quoted with
  | none => return .error .value
  | some denoted => return .ok (denoted, rest)

/-- A value is cut off behind the quote that closes it. -/
theorem readValue_of_enclosed {inner : List Char} (h : Enclosed inner) (rest : List Char) :
    readValue ('"' :: (inner ++ '"' :: rest)) =
      match decode? ('"' :: (inner ++ ['"'])) with
      | none => .ok (.error .value)
      | some denoted => .ok (.ok (denoted, rest)) := by
  obtain ⟨last, hlast, hlen⟩ := closingQuote_literal h rest
  have hcut : '"' :: (inner ++ '"' :: rest) = '"' :: (inner ++ ['"']) ++ rest := by simp
  rw [hcut] at hlast ⊢
  have hlong : ¬ (Utf8.encode ('"' :: (inner ++ ['"']) ++ rest)).length ≤ last := by
    rw [Utf8.encode_append, List.length_append, hlen]
    omega
  simp only [readValue, hlast, ok_bind, if_neg hlong, ← hlen, upTo_append, behind_append, decode_eq]
  split <;> rfl

theorem readValue_of_unclosed {cs : List Char} (h : cutQuote cs = none) :
    readValue ('"' :: cs) = .ok (.error .value) := by
  obtain ⟨i, hi, hlen⟩ := closingQuote_of_unclosed h [0x22]
  have hbytes : Utf8.encode ('"' :: cs) = [0x22] ++ Utf8.encode cs := rfl
  rw [← hbytes] at hi hlen
  simp only [readValue]
  rw [show closingQuote (Utf8.encode ('"' :: cs)) 1 = .ok i from hi, ok_bind, if_pos hlen]
  rfl

/-! ## Rounds -/

/-- How a round of the reading ends. -/
inductive Round where
  | finished
  | refused (fault : TagFault)
  | read (entry : String × TagValue) (rest : List Char)
deriving DecidableEq, Repr

/-- Reads a pair at the start of a text. -/
def readEntry (cs : List Char) : Except Abort Round := do
  match ← readKey cs with
  | .error fault => return .refused fault
  | .ok (key, value) =>
    match ← readValue value with
    | .error fault => return .refused fault
    | .ok (denoted, rest) =>
      return .read (String.ofList key, valueOf (Utf8.decodeLossy denoted)) rest

/-- A round leaves out spaces, and reads a pair if anything is left. -/
def round (cs : List Char) : Except Abort Round :=
  let start := cs.dropWhile (· == ' ')
  if start.isEmpty then return .finished else readEntry start

/-- What a round comes to by what is read as a pair. -/
def Round.ofPair : Except TagFault (Pair × List Char) → Round
  | .error fault => .refused fault
  | .ok (p, rest) => .read p.entry rest

/-- A pair as it is written is read as its key and value. -/
theorem readEntry_text {p : Pair} (h : p.Valid) (rest : List Char) :
    readEntry (p.text ++ rest) = .ok (.read p.entry rest) := by
  obtain ⟨inner, hinner, hquoted, htext⟩ := h.exists_enclosed rest
  have hdecode := h.value
  rw [hquoted] at hdecode
  rw [readEntry, htext, readKey_colon h.key, if_pos rfl]
  simp only [ok_bind, readValue_of_enclosed hinner, hdecode]
  rfl

/-- What is no pair is refused for what is wrong with it. -/
theorem readEntry_bad {cs : List Char} {fault : TagFault} (h : BadPair cs fault) :
    readEntry cs = .ok (.refused fault) := by
  cases h with
  | key _ hkey =>
    rw [isKey_singleton, Bool.not_eq_true] at hkey
    rw [readEntry, readKey_noKey hkey]
    rfl
  | pair hkey hends hcolon =>
    have hends : ∀ c cs, _ = c :: cs → isKeyChar c = false :=
      fun c cs he => by simpa [isKey_singleton] using hends c cs he
    rw [readEntry, readKey_noColon hkey hends hcolon]
    rfl
  | value hkey hbad =>
    cases hbad with
    | bare hc =>
      rw [readEntry, readKey_colon hkey, if_neg hc]
      rfl
    | @unclosed cs hopen =>
      rw [readEntry, readKey_colon hkey, if_pos rfl]
      simp only [ok_bind, readValue_of_unclosed (cutQuote_eq_none hopen)]
      rfl
    | rejected hbody hnone =>
      rw [readEntry, readKey_colon hkey, if_pos rfl]
      simp only [ok_bind, readValue_of_enclosed hbody, hnone]
      rfl

/-- A round by positions comes to what reading a pair does. -/
theorem round_eq (cs : List Char) :
    round cs = .ok (if (cs.dropWhile (· == ' ')).isEmpty then .finished
      else .ofPair (readPair (cs.dropWhile (· == ' ')))) := by
  simp only [round]
  by_cases hempty : (cs.dropWhile (· == ' ')).isEmpty = true
  · rw [if_pos hempty, if_pos hempty]
    rfl
  · have hne : cs.dropWhile (· == ' ') ≠ [] := fun h => hempty (List.isEmpty_iff.2 h)
    rw [if_neg hempty, if_neg hempty]
    cases hread : readPair (cs.dropWhile (· == ' ')) with
    | error fault => exact readEntry_bad (badPair_of_readPair (dropWhile_space_ne cs) hne hread)
    | ok r =>
      obtain ⟨hp, htext⟩ := valid_of_readPair hread
      rw [htext]
      exact readEntry_text hp r.2

/-- A round that reads a pair leaves fewer bytes. -/
theorem length_round_lt {cs rest : List Char} {entry : String × TagValue}
    (h : round cs = .ok (.read entry rest)) :
    (Utf8.encode rest).length < (Utf8.encode cs).length := by
  have hspaces : cs = cs.takeWhile (· == ' ') ++ cs.dropWhile (· == ' ') :=
    List.takeWhile_append_dropWhile.symm
  rw [round_eq, Except.ok.injEq] at h
  split at h
  · cases h
  · cases hread : readPair (cs.dropWhile (· == ' ')) with
    | error fault =>
      rw [hread] at h
      cases h
    | ok r =>
      rw [hread] at h
      cases h
      obtain ⟨hp, htext⟩ := valid_of_readPair hread
      have hcolon : (Utf8.encodeChar ':').length = 1 := by decide
      rw [hspaces, htext, Pair.text]
      simp only [Utf8.encode_append, Utf8.encode_cons, List.length_append, hcolon]
      omega

/-! ## Reading -/

/-- Reads pairs, round by round, and puts the value of each under its key. -/
def readAll (tags : Tags) (cs : List Char) : Except Abort (Except TagFault Tags) :=
  match _h : round cs with
  | .error abort => .error abort
  | .ok .finished => return .ok tags
  | .ok (.refused fault) => return .error fault
  | .ok (.read entry rest) => readAll (tags.insert entry.1 entry.2) rest
termination_by (Utf8.encode cs).length
decreasing_by exact length_round_lt _h

def parse (text : String) : Except Abort (Except TagFault Tags) := readAll .empty text.toList

/-- What is read is told by what the next round comes to. -/
theorem readAll_of_round (tags : Tags) (cs : List Char) :
    readAll tags cs =
      match round cs with
      | .error abort => .error abort
      | .ok .finished => .ok (.ok tags)
      | .ok (.refused fault) => .ok (.error fault)
      | .ok (.read entry rest) => readAll (tags.insert entry.1 entry.2) rest := by
  rw [readAll]
  split <;> simp_all

/-- What is read by positions, behind tags that were read before, is what the scan finds. -/
theorem readAll_eq (tags : Tags) (cs : List Char) :
    readAll tags cs = .ok (match (scan cs).fault with
      | some fault => .error fault
      | none => .ok (((scan cs).pairs.map Pair.entry).foldl (fun t e => t.insert e.1 e.2) tags)) := by
  fun_induction scan cs generalizing tags with
  | case1 cs start hempty =>
    rw [readAll_of_round, round_eq, if_pos hempty]
    rfl
  | case2 cs start hempty fault hread =>
    rw [readAll_of_round, round_eq, if_neg hempty, hread]
    rfl
  | case3 cs start hempty p after hread s ih =>
    rw [readAll_of_round, round_eq, if_neg hempty, hread]
    exact ih (tags.insert p.entry.1 p.entry.2)

/-- No text makes the reading by positions abort: every byte that is asked for is there, every cut is
between two characters, every character fits into its buffer and no number overflows. The outcome is that
of reading by characters. From whatever text a round begins, it comes to an end without being aborted, and
what it leaves to the next round is shorter. -/
theorem parse_checked (text : String) :
    parse text = .ok (Tags.parse text) ∧
      ∀ cs, ∃ r, round cs = .ok r ∧ ∀ entry rest, r = .read entry rest →
        (Utf8.encode rest).length < (Utf8.encode cs).length := by
  refine ⟨readAll_eq .empty text.toList, fun cs => ⟨_, round_eq cs, fun entry rest hr => ?_⟩⟩
  exact length_round_lt ((round_eq cs).trans (congrArg Except.ok hr))

/-- Escapes of both bases, a character of two bytes behind them, and another that is a key without a
value. -/
theorem parse_checked_wide :
    (∃ entry, round "k:\"\\xff\\377é\" ü".toList = .ok (.read entry [' ', 'ü'])) ∧
      (Utf8.encode [' ', 'ü']).length < (Utf8.encode "k:\"\\xff\\377é\" ü".toList).length ∧
      parse "k:\"\\xff\\377é\" ü" = .ok (.error .pair) := by
  have hread : readPair "k:\"\\xff\\377é\" ü".toList =
      .ok (⟨['k'], "\"\\xff\\377é\"".toList, [0xFF, 0xFF, 0xC3, 0xA9]⟩, [' ', 'ü']) := by
    cbv
  have hstart : "k:\"\\xff\\377é\" ü".toList.dropWhile (· == ' ') = "k:\"\\xff\\377é\" ü".toList := rfl
  have hround := round_eq "k:\"\\xff\\377é\" ü".toList
  rw [hstart, if_neg (by decide), hread, Round.ofPair] at hround
  have hrest : scan [' ', 'ü'] = ⟨[], some .pair⟩ := by
    rw [scan_space, scan_eq (by simp) (by simp)]
    rfl
  have hscan : (scan "k:\"\\xff\\377é\" ü".toList).fault = some .pair := by
    rw [scan_eq (by simp) (by simp), hread]
    exact congrArg Scan.fault hrest
  obtain ⟨hparse, hrounds⟩ := parse_checked "k:\"\\xff\\377é\" ü"
  obtain ⟨r, hr, hless⟩ := hrounds "k:\"\\xff\\377é\" ü".toList
  have hsame := Except.ok.inj (hr.symm.trans hround)
  refine ⟨⟨_, hround⟩, hless _ _ hsame, hparse.trans ?_⟩
  rw [Tags.parse, Scan.tags, hscan]

end TagSpec.Checked
