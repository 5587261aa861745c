/-
# Tables that satisfy their constraints

A table of a relational database is a list of rows that satisfies the constraints it was declared
with: checks on a single row, and keys on which no two rows may agree.  A key may be null, and
null agrees with nothing.  A statement whose outcome would violate a constraint fails with the
name of the constraint, so a table that violates one cannot be built.
-/
import Mathlib

namespace Lib

variable {ρ κ : Type*}

/-- The declared constraints of a table, each with its name, in the order in which they are
tested. -/
structure Schema (ρ : Type*) where
  /-- Conditions on a row. -/
  checks : List (String × (ρ → Bool))
  /-- For each unique key, whether two rows agree on it. -/
  uniques : List (String × (ρ → ρ → Bool))

/-- Two rows agree on a key when neither has a null there and the values are the same. -/
def agreeOn [DecidableEq κ] (key : ρ → Option κ) (a b : ρ) : Bool :=
  (key a).isSome && key a == key b

lemma agreeOn_iff [DecidableEq κ] {key : ρ → Option κ} {a b : ρ} :
    agreeOn key a b = true ↔ ∃ k, key a = some k ∧ key b = some k := by
  simp only [agreeOn, Bool.and_eq_true, Option.isSome_iff_exists, beq_iff_eq]
  constructor
  · rintro ⟨⟨k, hk⟩, hab⟩
    exact ⟨k, hk, hab ▸ hk⟩
  · rintro ⟨k, ha, hb⟩
    exact ⟨⟨k, ha⟩, ha.trans hb.symm⟩

/-- The rows satisfy the constraints. -/
def Schema.Satisfied (S : Schema ρ) (rows : List ρ) : Prop :=
  (∀ c ∈ S.checks, ∀ r ∈ rows, c.2 r = true) ∧
    ∀ u ∈ S.uniques, rows.Pairwise fun a b => u.2 a b = false

instance (S : Schema ρ) (rows : List ρ) : Decidable (S.Satisfied rows) :=
  inferInstanceAs (Decidable (_ ∧ _))

/-- The first constraint that the new row `r` would violate. -/
def Schema.violation (S : Schema ρ) (rows : List ρ) (r : ρ) : Option String :=
  match S.checks.find? fun c => !c.2 r with
  | some c => some c.1
  | none => (S.uniques.find? fun u => rows.any fun a => u.2 a r).map Prod.fst

lemma Schema.satisfied_append {S : Schema ρ} {rows : List ρ} {r : ρ} (h : S.Satisfied rows)
    (hr : S.violation rows r = none) : S.Satisfied (rows ++ [r]) := by
  simp only [Schema.violation] at hr
  cases hc : S.checks.find? fun c => !c.2 r with
  | some c => simp [hc] at hr
  | none =>
    simp only [hc, Option.map_eq_none_iff, List.find?_eq_none, List.any_eq_true, not_exists,
      not_and] at hr
    rw [List.find?_eq_none] at hc
    refine ⟨fun c hcm a ha => ?_, fun u hu => ?_⟩
    · rcases List.mem_append.mp ha with ha | ha
      · exact h.1 c hcm a ha
      · rw [List.mem_singleton.mp ha]
        simpa using hc c hcm
    · refine List.pairwise_append.mpr ⟨h.2 u hu, List.pairwise_singleton _ _, fun a ha b hb => ?_⟩
      rw [List.mem_singleton.mp hb]
      simpa using hr u hu a ha

/-- The rows after `f` has been applied to those that `p` selects. -/
def updateWhere (p : ρ → Bool) (f : ρ → ρ) (rows : List ρ) : List ρ :=
  rows.map fun r => if p r then f r else r

lemma mem_updateWhere {p : ρ → Bool} {f : ρ → ρ} {rows : List ρ} {r' : ρ} :
    r' ∈ updateWhere p f rows ↔
      (∃ r ∈ rows, p r = true ∧ r' = f r) ∨ (r' ∈ rows ∧ p r' = false) := by
  simp only [updateWhere, List.mem_map]
  constructor
  · rintro ⟨r, hr, rfl⟩
    by_cases hp : p r = true
    · exact .inl ⟨r, hr, hp, if_pos hp⟩
    · rw [if_neg hp]
      exact .inr ⟨hr, by simpa using hp⟩
  · rintro (⟨r, hr, hp, rfl⟩ | ⟨hr, hp⟩)
    · exact ⟨r, hr, if_pos hp⟩
    · exact ⟨r', hr, by simp [hp]⟩

/-- An update that selects the last row only. -/
lemma updateWhere_append_singleton {p : ρ → Bool} {f : ρ → ρ} {rows : List ρ} {r : ρ}
    (hrows : ∀ a ∈ rows, p a = false) (hr : p r = true) :
    updateWhere p f (rows ++ [r]) = rows ++ [f r] := by
  have hsame : updateWhere p f rows = rows := by
    refine (List.map_congr_left fun a ha => ?_).trans (List.map_id rows)
    simp [hrows a ha]
  rw [updateWhere, List.map_append, ← updateWhere, hsame, List.map_singleton, if_pos hr]

/-- Rows that are not selected stay. -/
lemma mem_updateWhere_of_not {p : ρ → Bool} {f : ρ → ρ} {rows : List ρ} {r : ρ} (hr : r ∈ rows)
    (hp : p r = false) : r ∈ updateWhere p f rows :=
  mem_updateWhere.mpr (.inr ⟨hr, hp⟩)

/-- Rows that are selected are changed. -/
lemma mem_updateWhere_of_pos {p : ρ → Bool} {f : ρ → ρ} {rows : List ρ} {r : ρ} (hr : r ∈ rows)
    (hp : p r = true) : f r ∈ updateWhere p f rows :=
  mem_updateWhere.mpr (.inl ⟨r, hr, hp, rfl⟩)

/-- Counting after an update: the changed rows, and the others. -/
lemma countP_updateWhere (p q : ρ → Bool) (f : ρ → ρ) (rows : List ρ) :
    (updateWhere p f rows).countP q =
      ((rows.filter p).map f).countP q + (rows.filter fun r => !p r).countP q := by
  induction rows with
  | nil => rfl
  | cons r rows ih =>
    simp only [updateWhere] at ih ⊢
    cases hp : p r with
    | true =>
      simp only [List.map_cons, hp, if_true, List.filter_cons, Bool.not_true, Bool.false_eq_true,
        if_false, List.countP_cons, ih]
      omega
    | false =>
      simp only [List.map_cons, hp, Bool.false_eq_true, if_false, List.filter_cons, Bool.not_false,
        if_true, List.countP_cons, ih]
      omega

/-- A selection that the update does not touch sees the rows as they were. -/
lemma filter_updateWhere_of_disjoint {p q : ρ → Bool} {f : ρ → ρ} {rows : List ρ}
    (hq : ∀ r, q (f r) = q r) (hpq : ∀ r ∈ rows, q r = true → p r = false) :
    (updateWhere p f rows).filter q = rows.filter q := by
  induction rows with
  | nil => rfl
  | cons r rows ih =>
    have hrows := ih fun a ha => hpq a (List.mem_cons_of_mem _ ha)
    simp only [updateWhere] at hrows ⊢
    cases hr : q r with
    | true =>
      have hp := hpq r (List.mem_cons_self ..) hr
      simp only [List.map_cons, hp, Bool.false_eq_true, if_false, List.filter_cons, hr, if_true,
        hrows]
    | false =>
      have hnew : q (if p r = true then f r else r) = false := by
        split
        · rw [hq, hr]
        · exact hr
      simp only [List.map_cons, List.filter_cons, hnew, hr, Bool.false_eq_true, if_false, hrows]

/-- A table with the schema `S`. -/
structure Table (S : Schema ρ) where
  rows : List ρ
  satisfied : S.Satisfied rows

namespace Table

variable {S : Schema ρ}

/-- The table without rows. -/
def empty (S : Schema ρ) : Table S := ⟨[], by simp [Schema.Satisfied]⟩

/-- `INSERT`: append a row, or name the constraint that forbids it. -/
def insert (t : Table S) (r : ρ) : Except String (Table S) :=
  match h : S.violation t.rows r with
  | some name => .error name
  | none => .ok ⟨t.rows ++ [r], Schema.satisfied_append t.satisfied h⟩

/-- `UPDATE ... WHERE p`: change the rows selected by `p`, if the outcome satisfies the
constraints. -/
def update (t : Table S) (p : ρ → Bool) (f : ρ → ρ) : Option (Table S) :=
  if h : S.Satisfied (updateWhere p f t.rows) then some ⟨updateWhere p f t.rows, h⟩ else none

lemma rows_of_insert {t t' : Table S} {r : ρ} (h : t.insert r = .ok t') :
    t'.rows = t.rows ++ [r] := by
  rw [insert] at h
  split at h
  · cases h
  · cases h
    rfl

/-- A row that can be inserted agrees with no row on a key. -/
lemma not_agree_of_insert {t t' : Table S} {r : ρ} (h : t.insert r = .ok t')
    {u : String × (ρ → ρ → Bool)} (hu : u ∈ S.uniques) : ∀ a ∈ t.rows, u.2 a r = false := by
  intro a ha
  have hpair := t'.satisfied.2 u hu
  rw [rows_of_insert h, List.pairwise_append] at hpair
  exact hpair.2.2 a ha r (List.mem_singleton_self r)

lemma rows_of_update {t t' : Table S} {p : ρ → Bool} {f : ρ → ρ} (h : t.update p f = some t') :
    t'.rows = updateWhere p f t.rows := by
  rw [update] at h
  split at h
  · cases h
    rfl
  · cases h

/-- Two rows that agree on a unique key are the same row. -/
lemma eq_of_key [DecidableEq κ] {t : Table S} {name : String} {key : ρ → Option κ}
    (hkey : (name, agreeOn key) ∈ S.uniques) {a b : ρ} (ha : a ∈ t.rows) (hb : b ∈ t.rows) {k : κ}
    (hak : key a = some k) (hbk : key b = some k) : a = b := by
  by_contra hne
  have hsymm : Std.Symm fun a b : ρ => agreeOn key a b = false :=
    ⟨fun a b h => by
      by_contra hba
      obtain ⟨k, hb, ha⟩ := agreeOn_iff.mp (Bool.not_eq_false _ ▸ hba)
      exact absurd (agreeOn_iff.mpr ⟨k, ha, hb⟩) (by simp [h])⟩
  have hpair : agreeOn key a b = false := (t.satisfied.2 _ hkey).forall ha hb hne
  exact absurd (agreeOn_iff.mpr ⟨k, hak, hbk⟩) (by simp [hpair])

/-- No value of a unique key is taken twice. -/
lemma length_filter_le_one [DecidableEq κ] {t : Table S} {name : String} {key : ρ → Option κ}
    (hkey : (name, agreeOn key) ∈ S.uniques) (k : κ) :
    (t.rows.filter fun r => key r = some k).length ≤ 1 := by
  have hpair := (t.satisfied.2 _ hkey).sublist
    (List.filter_sublist (p := fun r => decide (key r = some k)))
  match hrows : t.rows.filter fun r => key r = some k with
  | [] => simp
  | [_] => simp
  | a :: b :: rest =>
    rw [hrows] at hpair
    have ha : a ∈ t.rows.filter fun r => key r = some k := by simp [hrows]
    have hb : b ∈ t.rows.filter fun r => key r = some k := by simp [hrows]
    have hak : key a = some k := by simpa using (List.mem_filter.mp ha).2
    have hbk : key b = some k := by simpa using (List.mem_filter.mp hb).2
    have hab : agreeOn key a b = false :=
      List.rel_of_pairwise_cons hpair (List.mem_cons_self ..)
    exact absurd (agreeOn_iff.mpr ⟨k, hak, hbk⟩) (by simp [hab])

/-- A value of a unique key that is taken is taken once. -/
lemma length_filter_eq_one [DecidableEq κ] {t : Table S} {name : String} {key : ρ → Option κ}
    (hkey : (name, agreeOn key) ∈ S.uniques) {r : ρ} (hr : r ∈ t.rows) {k : κ}
    (hk : key r = some k) : (t.rows.filter fun r => key r = some k).length = 1 := by
  have hmem : r ∈ t.rows.filter fun r => key r = some k := by simp [hr, hk]
  have hpos := List.length_pos_of_mem hmem
  have hle := length_filter_le_one hkey (t := t) k
  omega

end Table

end Lib
