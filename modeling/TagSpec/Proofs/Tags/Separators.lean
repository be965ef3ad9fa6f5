import TagSpec.Proofs.Tags.Grammar
import TagSpec.Proofs.Text.Lossy

/-!
# Separators among invalid bytes

A value is decoded before it is cut at its commas. No comma is lost by that, whatever bytes stand next
to it. Main statement: `parse_segments`, by which the parts of a value are the texts of the parts of
its bytes.
-/

namespace TagSpec.Tags

/-- The value that a pair gives a key: the parts of its bytes between commas, and of each the text. -/
def Pair.Segments (p : Pair) (v : TagValue) : Prop :=
  List.Forall₂ Utf8.Lossy (p.bytes.splitOn 0x2C) ((v.name :: v.options).map String.toList)

/-- It is the same to cut bytes at commas or their text. -/
theorem decodeLossy_splitOn_comma (bs : List UInt8) :
    (Utf8.decodeLossy bs).splitOn ',' = (bs.splitOn 0x2C).map Utf8.decodeLossy := by
  have hcut := Utf8.splitOn_decodeLossy (b := 0x2C) (by decide) bs
  rwa [show Char.ofNat (UInt8.toNat 0x2C) = ',' from rfl] at hcut

/-- Each part has the text that decoding gives it. -/
theorem forall₂_lossy_iff {bss : List (List UInt8)} {css : List (List Char)} :
    List.Forall₂ Utf8.Lossy bss css ↔ bss.map Utf8.decodeLossy = css := by
  have hlossy : Utf8.Lossy = fun bs cs => Utf8.decodeLossy bs = cs := by
    funext bs cs
    exact propext Utf8.lossy_iff
  rw [hlossy, ← List.forall₂_map_left_iff, List.forall₂_eq_eq_eq]

/-- Cutting the bytes gives the parts that cutting the text gives. -/
theorem Pair.segments_iff {p : Pair} {v : TagValue} : p.Segments v ↔ p.Denotes v := by
  unfold Segments Denotes
  rw [forall₂_lossy_iff, decodeLossy_splitOn_comma, eq_comm]

/-- The pairs of a sequence are valid. -/
theorem Sequence.valid {cs : List Char} {ps : List Pair} (h : Sequence cs ps) :
    ∀ p ∈ ps, p.Valid := by
  induction h with
  | nil => simp
  | cons _ hp _ ih => exact List.forall_mem_cons.2 ⟨hp, ih⟩

/-- Each key of a sequence has the value of its last pair: what the literal denotes, cut at the commas
among the bytes, and the text of each part. The bytes may as well be decoded first. -/
theorem parse_segments {cs : List Char} {before after : List Pair} {p : Pair} (spaces : Nat)
    (h : Sequence cs (before ++ p :: after)) (hlast : ∀ q ∈ after, q.key ≠ p.key) :
    StringLiteral.decode? p.quoted = some p.bytes ∧
    (Utf8.decodeLossy p.bytes).splitOn ',' = (p.bytes.splitOn 0x2C).map Utf8.decodeLossy ∧
    ∃ t v, parse (String.ofList (cs ++ List.replicate spaces ' ')) = .ok t ∧
      t.get? (String.ofList p.key) = some v ∧ ∀ v', p.Segments v' ↔ v' = v := by
  have hspaces := scan_spaces spaces []
  rw [List.append_nil, scan_nil] at hspaces
  refine ⟨(h.valid p (by simp)).value, decodeLossy_splitOn_comma p.bytes,
    ofList ((before ++ p :: after).map Pair.entry), p.entry.2, ?_, get?_ofList_last hlast, ?_⟩
  · unfold parse Scan.tags
    rw [String.toList_ofList, scan_sequence h, hspaces, List.append_nil]
  · intro v
    rw [Pair.segments_iff, Pair.denotes_iff]

/-- A byte that is no text stands before one comma, and the bytes of a character on both sides of
another. -/
theorem parse_segments_broken :
    ∃ t v, parse "bin:\"\\xff,opt\" x:\"\\xe2\\x82,\\x82\\xac\" " = .ok t ∧ t.get? "x" = some v ∧
      List.Forall₂ Utf8.Lossy [[0xE2, 0x82], [0x82, 0xAC]]
        ((v.name :: v.options).map String.toList) := by
  have hbin : Pair.Valid ⟨['b', 'i', 'n'], "\"\\xff,opt\"".toList, [0xFF, 0x2C, 0x6F, 0x70, 0x74]⟩ :=
    ⟨isKey_iff.2 ⟨List.cons_ne_nil _ _, List.all_eq_true.1 (by decide)⟩, by cbv⟩
  have hx : Pair.Valid ⟨['x'], "\"\\xe2\\x82,\\x82\\xac\"".toList, [0xE2, 0x82, 0x2C, 0x82, 0xAC]⟩ :=
    ⟨isKey_iff.2 ⟨List.cons_ne_nil _ _, List.all_eq_true.1 (by decide)⟩, by cbv⟩
  have hseq : Sequence "bin:\"\\xff,opt\" x:\"\\xe2\\x82,\\x82\\xac\"".toList ([_] ++ _ :: []) :=
    .cons 0 hbin (.cons 1 hx .nil)
  obtain ⟨-, -, t, v, ht, hv, hsegments⟩ := parse_segments 1 hseq (by simp)
  exact ⟨t, v, ht, hv, (hsegments v).2 rfl⟩

end TagSpec.Tags
