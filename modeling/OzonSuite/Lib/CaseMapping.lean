/-
# Letter case by table

A case mapping moves whole ranges of letters by a distance, and turns a few letters into several.
Whether what the letters become is left alone by the same mapping, and whether the mapping keeps out
of a range of characters, can be read off the ends of the ranges, so both are tested on the table
and not on the characters.
-/
import OzonSuite.Lib.PlainText

namespace Lib

/-! ## Ranges -/

/-- Every `step`-th character from `first` to `last`, and the character that the first of them
becomes; the others keep their distance from it. -/
structure CaseRange where
  first : ℕ
  last : ℕ
  step : ℕ
  target : ℕ

namespace CaseRange

/-- The range counts the number among its characters. -/
def covers (r : CaseRange) (n : ℕ) : Bool :=
  Nat.ble r.first n && Nat.ble n r.last && Nat.beq ((n - r.first) % r.step) 0

/-- What a character of the range is mapped to. -/
def image (r : CaseRange) (n : ℕ) : ℕ := r.target + (n - r.first)

/-- Two ranges of which at most every second character counts. -/
def sparse (r : CaseRange) : Bool := Nat.beq r.step 2 || Nat.beq r.first r.last

/-- No image of `r` is in `s`, by the ends of both or by parity. -/
def clearOf (r s : CaseRange) : Bool :=
  Nat.blt (r.target + (r.last - r.first)) s.first || Nat.blt s.last r.target ||
    (r.sparse && s.sparse && Nat.beq ((r.target + s.first) % 2) 1)

/-- The two have no character in common, by their ends. -/
def apartFrom (r s : CaseRange) : Bool := decide (r.last < s.first) || decide (s.last < r.first)

/-- The images are characters. -/
def validImages (r : CaseRange) : Bool :=
  decide (r.target + (r.last - r.first) < 0xd800) ||
    (decide (0xdfff < r.target) && decide (r.target + (r.last - r.first) < 0x110000))

variable {r s : CaseRange} {n : ℕ}

lemma covers_iff :
    r.covers n = true ↔ r.first ≤ n ∧ n ≤ r.last ∧ (n - r.first) % r.step = 0 := by
  simp only [covers, Bool.and_eq_true, Nat.ble_eq, Nat.beq_eq, and_assoc]

/-- In a sparse range all characters have one parity. -/
lemma sparse_covers (hsparse : r.sparse = true) (h : r.covers n = true) :
    (n - r.first) % 2 = 0 := by
  rw [covers_iff] at h
  obtain ⟨hfirst, hlast, hstep⟩ := h
  simp only [sparse, Bool.or_eq_true, Nat.beq_eq] at hsparse
  rcases hsparse with htwo | hone
  · rwa [htwo] at hstep
  · omega

lemma not_covers_image (hclear : r.clearOf s = true) (h : r.covers n = true) :
    s.covers (r.image n) = false := by
  by_contra hs
  rw [Bool.not_eq_false] at hs
  have hn := covers_iff.mp h
  have himage := covers_iff.mp hs
  simp only [clearOf, Bool.or_eq_true, Bool.and_eq_true, Nat.blt_eq, Nat.beq_eq] at hclear
  simp only [image] at himage
  rcases hclear with (hbelow | habove) | ⟨⟨hr, hsparse⟩, hparity⟩
  · omega
  · omega
  · have hleft := sparse_covers hr h
    have hright := sparse_covers hsparse hs
    simp only [image] at hright
    omega

lemma not_covers_of_apartFrom (hapart : r.apartFrom s = true) (h : r.covers n = true) :
    s.covers n = false := by
  by_contra hs
  rw [Bool.not_eq_false] at hs
  have hn := covers_iff.mp h
  have hn' := covers_iff.mp hs
  simp only [apartFrom, Bool.or_eq_true, decide_eq_true_eq] at hapart
  omega

lemma toNat_image (hvalid : r.validImages = true) (h : r.covers n = true) :
    (Char.ofNat (r.image n)).toNat = r.image n := by
  have hn := covers_iff.mp h
  simp only [validImages, Bool.or_eq_true, Bool.and_eq_true, decide_eq_true_eq] at hvalid
  rw [Char.toNat_ofNat, if_pos]
  simp only [Nat.isValidChar, image]
  omega

end CaseRange

/-! ## Tables -/

/-- The ranges, and the letters that become several. -/
structure CaseTable where
  ranges : List CaseRange
  special : List (ℕ × List ℕ)

namespace CaseTable

/-- The character becomes another, or several. -/
def moves (t : CaseTable) (n : ℕ) : Bool :=
  t.special.any (Nat.beq ·.1 n) || t.ranges.any (·.covers n)

/-- What a character becomes. -/
def map (t : CaseTable) (c : Char) : List Char :=
  match t.special.find? (Nat.beq ·.1 c.toNat) with
  | some s => s.2.map Char.ofNat
  | none =>
    match t.ranges.find? (·.covers c.toNat) with
    | some r => [Char.ofNat (r.image c.toNat)]
    | none => [c]

/-- What the characters become are characters, at least one each. -/
def valid (t : CaseTable) : Bool :=
  t.ranges.all CaseRange.validImages &&
    t.special.all fun p => !p.2.isEmpty && p.2.all fun n => decide n.isValidChar

/-- What the characters become is not moved again. -/
def stable (t : CaseTable) : Bool :=
  (t.ranges.all fun r => t.ranges.all r.clearOf && t.special.all fun p =>
    r.clearOf ⟨p.1, p.1, 1, 0⟩) && t.special.all fun p => p.2.all fun n => !t.moves n

/-- No character of the range is moved. -/
def spares (t : CaseTable) (s : CaseRange) : Bool :=
  (t.ranges.all fun r => r.apartFrom s) && t.special.all fun p => !s.covers p.1

/-- No character becomes one of the range. -/
def avoids (t : CaseTable) (s : CaseRange) : Bool :=
  (t.ranges.all fun r => r.clearOf s) && t.special.all fun p => p.2.all fun n => !s.covers n

end CaseTable

/-- A table of characters. -/
structure CaseMap extends CaseTable where
  isValid : toCaseTable.valid = true

namespace CaseMap

variable (t : CaseMap) {c d : Char} {s : CaseRange}

lemma map_of_not_moves (h : t.moves c.toNat = false) : t.map c = [c] := by
  simp only [CaseTable.moves, Bool.or_eq_false_iff, List.any_eq_false] at h
  have hspecial : t.special.find? (Nat.beq ·.1 c.toNat) = none := List.find?_eq_none.mpr h.1
  have hranges : t.ranges.find? (·.covers c.toNat) = none := List.find?_eq_none.mpr h.2
  rw [CaseTable.map, hspecial, hranges]

lemma validImages {r : CaseRange} (hr : r ∈ t.ranges) : r.validImages = true := by
  have h := t.isValid
  simp only [CaseTable.valid, Bool.and_eq_true, List.all_eq_true] at h
  exact h.1 r hr

lemma valid_special {p : ℕ × List ℕ} (hp : p ∈ t.special) :
    p.2 ≠ [] ∧ ∀ n ∈ p.2, n.isValidChar := by
  have h := t.isValid
  simp only [CaseTable.valid, Bool.and_eq_true, List.all_eq_true, Bool.not_eq_true',
    List.isEmpty_eq_false_iff, decide_eq_true_eq] at h
  exact h.2 p hp

/-- The three ways in which a character is mapped. -/
lemma mem_map_cases (h : d ∈ t.map c) :
    (∃ p ∈ t.special, p.1 = c.toNat ∧ d.toNat ∈ p.2) ∨
      (∃ r ∈ t.ranges, r.covers c.toNat = true ∧ d.toNat = r.image c.toNat) ∨
      t.moves c.toNat = false ∧ d = c := by
  rw [CaseTable.map] at h
  cases hspecial : t.special.find? (Nat.beq ·.1 c.toNat) with
  | some p =>
    have hp := List.mem_of_find?_eq_some hspecial
    have hcode := List.find?_some hspecial
    simp only [hspecial, List.mem_map] at h
    obtain ⟨n, hn, rfl⟩ := h
    refine .inl ⟨p, hp, Nat.beq_eq.mp hcode, ?_⟩
    rwa [Char.toNat_ofNat, if_pos ((t.valid_special hp).2 n hn)]
  | none =>
    cases hrange : t.ranges.find? (·.covers c.toNat) with
    | some r =>
      have hr := List.mem_of_find?_eq_some hrange
      have hcovers := List.find?_some hrange
      simp only [hspecial, hrange, List.mem_singleton] at h
      refine .inr (.inl ⟨r, hr, hcovers, ?_⟩)
      rw [h, CaseRange.toNat_image (t.validImages hr) hcovers]
    | none =>
      simp only [hspecial, hrange, List.mem_singleton] at h
      refine .inr (.inr ⟨?_, h⟩)
      rw [CaseTable.moves, Bool.or_eq_false_iff, List.any_eq_false, List.any_eq_false]
      exact ⟨List.find?_eq_none.mp hspecial, List.find?_eq_none.mp hrange⟩

lemma map_ne_nil (c : Char) : t.map c ≠ [] := by
  rw [CaseTable.map]
  cases hspecial : t.special.find? (Nat.beq ·.1 c.toNat) with
  | some p => simpa using (t.valid_special (List.mem_of_find?_eq_some hspecial)).1
  | none => cases t.ranges.find? (·.covers c.toNat) <;> simp

/-- **What a character becomes is left alone.** -/
lemma map_of_mem_map (hstable : t.stable = true) (h : d ∈ t.map c) : t.map d = [d] := by
  simp only [CaseTable.stable, Bool.and_eq_true, List.all_eq_true, Bool.not_eq_true'] at hstable
  refine t.map_of_not_moves ?_
  rcases t.mem_map_cases h with ⟨p, hp, -, hd⟩ | ⟨r, hr, hcovers, hd⟩ | ⟨hmoves, rfl⟩
  · exact hstable.2 p hp _ hd
  · obtain ⟨hranges, hspecial⟩ := hstable.1 r hr
    rw [hd, CaseTable.moves, Bool.or_eq_false_iff, List.any_eq_false, List.any_eq_false]
    constructor
    · intro p hp heq
      have hclear := CaseRange.not_covers_image (hspecial p hp) hcovers
      rw [← Nat.beq_eq.mp heq] at hclear
      have hself : (⟨p.1, p.1, 1, 0⟩ : CaseRange).covers p.1 = true :=
        CaseRange.covers_iff.mpr ⟨le_rfl, le_rfl, Nat.mod_one _⟩
      exact absurd hself (by simp [hclear])
    · intro s hs
      simp [CaseRange.not_covers_image (hranges s hs) hcovers]
  · exact hmoves

/-- Characters of a range that is spared become themselves. -/
lemma map_of_covers (hspares : t.spares s = true) (h : s.covers c.toNat = true) :
    t.map c = [c] := by
  simp only [CaseTable.spares, Bool.and_eq_true, List.all_eq_true, Bool.not_eq_true'] at hspares
  refine t.map_of_not_moves ?_
  rw [CaseTable.moves, Bool.or_eq_false_iff, List.any_eq_false, List.any_eq_false]
  constructor
  · intro p hp heq
    have hnot := hspares.2 p hp
    rw [Nat.beq_eq.mp heq, h] at hnot
    cases hnot
  · intro r hr hcovers
    rw [CaseRange.not_covers_of_apartFrom (hspares.1 r hr) hcovers] at h
    cases h

/-- A range that is spared and avoided is neither entered nor left. -/
lemma covers_of_mem_map (hspares : t.spares s = true) (havoids : t.avoids s = true)
    (h : d ∈ t.map c) : s.covers d.toNat = s.covers c.toNat := by
  cases hc : s.covers c.toNat with
  | true =>
    rw [t.map_of_covers hspares hc, List.mem_singleton] at h
    rw [h, hc]
  | false =>
    simp only [CaseTable.avoids, Bool.and_eq_true, List.all_eq_true, Bool.not_eq_true'] at havoids
    rcases t.mem_map_cases h with ⟨p, hp, -, hd⟩ | ⟨r, hr, hcovers, hd⟩ | ⟨-, rfl⟩
    · exact havoids.2 p hp _ hd
    · rw [hd]
      exact CaseRange.not_covers_image (havoids.1 r hr) hcovers
    · exact hc

/-- A range that the table moves and avoids is not entered. -/
lemma not_covers_of_mem_map (hs : s ∈ t.ranges) (havoids : t.avoids s = true) (h : d ∈ t.map c) :
    s.covers d.toNat = false := by
  simp only [CaseTable.avoids, Bool.and_eq_true, List.all_eq_true, Bool.not_eq_true'] at havoids
  rcases t.mem_map_cases h with ⟨p, hp, -, hd⟩ | ⟨r, hr, hcovers, hd⟩ | ⟨hmoves, rfl⟩
  · exact havoids.2 p hp _ hd
  · rw [hd]
    exact CaseRange.not_covers_image (havoids.1 r hr) hcovers
  · rw [CaseTable.moves, Bool.or_eq_false_iff, List.any_eq_false, List.any_eq_false] at hmoves
    simpa using hmoves.2 s hs

end CaseMap

end Lib
