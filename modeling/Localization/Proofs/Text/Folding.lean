import Localization.Proofs.Text.Casing

/-! # Lower-case forms in ASCII

The lower-case form of a text may be in ASCII though the text is not: the Kelvin sign is lowered to
the letter k. It is the only such character. So an ASCII word is the lower-case form of the texts
that it is spelled like up to the case of ASCII letters and to Kelvin signs.
-/
namespace Localization.Text

def kelvinSign : Char := '\u212a'

def IsNarrow (c : Char) : Prop := c.toNat < 128 ∨ c = kelvinSign

def plainLetter (c : Char) : Char := if c = kelvinSign then 'k' else c

theorem plainLetter_of_ascii {c : Char} (ascii : c.toNat < 128) : plainLetter c = c := by
  refine if_neg ?_
  rintro rfl
  exact absurd ascii (by decide)

theorem plainLetter_eq {c d : Char} (same : plainLetter c = d) (other : d ≠ 'k') : c = d := by
  rw [plainLetter] at same
  split at same
  · exact absurd same.symm other
  · exact same

theorem map_plainLetter {cs : List Char} (none : kelvinSign ∉ cs) : cs.map plainLetter = cs := by
  refine (List.map_congr_left fun c inside => ?_).trans (List.map_id cs)
  exact if_neg fun same : c = kelvinSign => none (same ▸ inside)

def CaseRow.staysWide (row : CaseRow) : Bool :=
  decide (128 ≤ row.first + row.offset) &&
    (decide (row.last + row.offset < 0xD800) ||
      (decide (0xE000 ≤ row.first + row.offset) && decide (row.last + row.offset < 0x110000)))

theorem CaseRow.wide_of_contains {row : CaseRow} {c : Char} (listed : row ∈ lowerRows)
    (contains : row.contains c.toNat = true) (other : c ≠ kelvinSign) :
    128 ≤ (Char.ofNat (c.toNat + row.offset).toNat).toNat := by
  have rows : (lowerRows.all fun row => row.staysWide ||
      (decide (row.first = kelvinSign.toNat) && decide (row.last = kelvinSign.toNat))) = true := by
    decide +kernel
  simp only [CaseRow.contains, Bool.and_eq_true, decide_eq_true_eq] at contains
  obtain ⟨⟨first, last⟩, -⟩ := contains
  rcases Bool.or_eq_true_iff.mp (List.all_eq_true.mp rows row listed) with wide | single
  · simp only [staysWide, Bool.and_eq_true, Bool.or_eq_true, decide_eq_true_eq] at wide
    rw [toNat_ofNat (by rw [Nat.isValidChar]; omega)]
    omega
  · simp only [Bool.and_eq_true, decide_eq_true_eq] at single
    have same : c.toNat = kelvinSign.toNat := by omega
    refine absurd ?_ other
    rw [← Char.ofNat_toNat c, same, Char.ofNat_toNat]

theorem narrow_of_mapByRows {c : Char}
    (ascii : ∀ d ∈ mapByRows lowerRows lowerExpansions c, d.toNat < 128) : IsNarrow c := by
  unfold mapByRows at ascii
  split at ascii
  · next row found =>
    refine .inr (Decidable.byContradiction fun other => ?_)
    have contains := List.find?_some found
    have wide := CaseRow.wide_of_contains (List.mem_of_find?_eq_some found) contains other
    exact absurd (ascii _ (List.mem_singleton_self _)) (Nat.not_lt.mpr wide)
  · split at ascii
    · next points found =>
      have marks : (lowerExpansions.all fun entry =>
          (entry.2.map Char.ofNat).any fun d => decide (128 ≤ d.toNat)) = true := by decide +kernel
      obtain ⟨before, after, list, -⟩ := List.lookup_eq_some_iff.mp found
      have marked := List.all_eq_true.mp marks (c.toNat, points) (by rw [list]; simp)
      obtain ⟨d, inside, wide⟩ := List.any_eq_true.mp marked
      exact absurd (ascii d inside) (Nat.not_lt.mpr (of_decide_eq_true wide))
    · exact .inl (ascii c (List.mem_singleton_self c))

theorem lowerFrom_of_narrow (before : List Char) {cs : List Char} (h : ∀ c ∈ cs, IsNarrow c) :
    lowerFrom before cs = (cs.map Char.toLower).map plainLetter := by
  induction cs generalizing before with
  | nil => rfl
  | cons c rest ih =>
    have others := ih (c :: before) fun d inside => h d (List.mem_cons_of_mem c inside)
    rw [lowerFrom, others, List.map_cons, List.map_cons]
    rcases h c List.mem_cons_self with ascii | rfl
    · rw [if_pos ascii, plainLetter_of_ascii (toLower_of_ascii ascii).1]
      rfl
    · have mapped : mapByRows lowerRows lowerExpansions kelvinSign = ['k'] := by decide +kernel
      rw [if_neg (by decide), if_neg (by decide), mapped]
      rfl

theorem narrow_of_lowerFrom {before cs : List Char}
    (ascii : ∀ d ∈ lowerFrom before cs, d.toNat < 128) : ∀ c ∈ cs, IsNarrow c := by
  induction cs generalizing before with
  | nil => exact fun c inside => by cases inside
  | cons c rest ih =>
    rw [lowerFrom] at ascii
    refine List.forall_mem_cons.mpr ⟨?_, ih fun d inside => ascii d (List.mem_append_right _ inside)⟩
    have here := fun d inside => ascii d (List.mem_append_left _ inside)
    by_cases low : c.toNat < 128
    · exact .inl low
    rw [if_neg low] at here
    split at here
    · have sigma := here _ (List.mem_singleton_self _)
      unfold lowerSigma at sigma
      split at sigma <;> exact absurd sigma (by decide)
    · exact narrow_of_mapByRows here

theorem narrow_of_plainLetter {c : Char} (ascii : (plainLetter c.toLower).toNat < 128) :
    IsNarrow c := by
  by_cases low : c.toNat < 128
  · exact .inl low
  refine .inr (Decidable.byContradiction fun other => low ?_)
  rwa [toLower_of_not_ascii low, plainLetter, if_neg other] at ascii

theorem lower_eq_iff_of_ascii {word : List Char} (ascii : ∀ c ∈ word, c.toNat < 128)
    {cs : List Char} : lower cs = word ↔ (cs.map Char.toLower).map plainLetter = word := by
  constructor
  · rintro rfl
    exact (lowerFrom_of_narrow [] (narrow_of_lowerFrom ascii)).symm
  · rintro rfl
    refine lowerFrom_of_narrow [] fun c inside => narrow_of_plainLetter (ascii _ ?_)
    exact List.mem_map_of_mem (List.mem_map_of_mem inside)

end Localization.Text
