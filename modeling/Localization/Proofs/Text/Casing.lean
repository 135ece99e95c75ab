import Localization.Text.Casing

/-! # Lower case of ASCII words

An ASCII character is lowered by itself, whatever stands around it, so the lower-case form of
an ASCII word has the same length and does not change when it is lowered again. No character
becomes a dash or an underscore by being lowered.
-/
namespace Localization.Text

theorem ascii_forall {P : Char → Prop} (h : ∀ n < 128, P (Char.ofNat n)) {c : Char}
    (ascii : c.toNat < 128) : P c := by
  have holds := h c.toNat ascii
  rwa [Char.ofNat_toNat] at holds

theorem toNat_lt_of_isAlphanum {c : Char} (h : c.isAlphanum = true) : c.toNat < 128 := by
  have below {last : Char} (le : c.val ≤ last.val) (ascii : last.toNat < 128) : c.toNat < 128 :=
    Nat.lt_of_le_of_lt (UInt32.le_iff_toNat_le.mp le) ascii
  rcases Bool.or_eq_true_iff.mp h with letter | digit
  · rcases Bool.or_eq_true_iff.mp letter with upper | lower
    · exact @below 'Z' (of_decide_eq_true upper).2 (by decide)
    · exact @below 'z' (of_decide_eq_true (Bool.and_eq_true_iff.mp lower).2) (by decide)
  · exact @below '9' (of_decide_eq_true (Bool.and_eq_true_iff.mp digit).2) (by decide)

theorem lowerFrom_of_ascii (before : List Char) {cs : List Char} (h : ∀ c ∈ cs, c.toNat < 128) :
    lowerFrom before cs = cs.map Char.toLower := by
  induction cs generalizing before with
  | nil => rfl
  | cons c rest ih =>
    have here : c.toNat < 0x80 := h c List.mem_cons_self
    have others := ih (c :: before) fun d inside => h d (List.mem_cons_of_mem c inside)
    rw [lowerFrom, if_pos here, others]
    rfl

theorem lower_of_ascii {cs : List Char} (h : ∀ c ∈ cs, c.toNat < 128) :
    lower cs = cs.map Char.toLower :=
  lowerFrom_of_ascii [] h

theorem toLower_of_ascii {c : Char} (ascii : c.toNat < 128) :
    c.toLower.toNat < 128 ∧ c.toLower.toLower = c.toLower :=
  ascii_forall (P := fun c => c.toLower.toNat < 128 ∧ c.toLower.toLower = c.toLower)
    (by decide +kernel) ascii

theorem toLower_of_not_ascii {c : Char} (h : ¬ c.toNat < 128) : c.toLower = c := by
  refine dif_neg ?_
  rintro ⟨-, le⟩
  have below : c.toNat ≤ 'Z'.toNat := UInt32.le_iff_toNat_le.mp le
  exact h (Nat.lt_of_le_of_lt below (by decide))

theorem lower_map_toLower {cs : List Char} (h : ∀ c ∈ cs, c.toNat < 128) :
    lower (cs.map Char.toLower) = cs.map Char.toLower := by
  rw [lower_of_ascii, List.map_map]
  · exact List.map_congr_left fun c inside => (toLower_of_ascii (h c inside)).2
  · intro c inside
    obtain ⟨d, there, rfl⟩ := List.mem_map.mp inside
    exact (toLower_of_ascii (h d there)).1

theorem toNat_ofNat {n : Nat} (valid : n.isValidChar) : (Char.ofNat n).toNat = n := by
  have char : Char.ofNat n = Char.ofNatAux n valid := dif_pos valid
  rw [char]
  rfl

theorem toNat_of_ofNat_eq {n : Nat} {c : Char} (h : Char.ofNat n = c) (nonzero : c ≠ '\x00') :
    n = c.toNat := by
  subst h
  by_cases valid : n.isValidChar
  · exact (toNat_ofNat valid).symm
  · exact absurd (dif_neg valid) nonzero

def isUnreached (n : Nat) : Bool :=
  (lowerRows.all fun row => !row.contains ((n : Int) - row.offset).toNat) &&
    lowerExpansions.all fun entry => !entry.2.contains n

theorem eq_of_mem_mapByRows {mark c : Char} (nonzero : mark ≠ '\x00')
    (unreached : isUnreached mark.toNat = true)
    (h : mark ∈ mapByRows lowerRows lowerExpansions c) : mark = c := by
  obtain ⟨rows, expansions⟩ := Bool.and_eq_true_iff.mp unreached
  unfold mapByRows at h
  split at h
  · next row found =>
    have reached := toNat_of_ofNat_eq (List.mem_singleton.mp h).symm nonzero
    have contains := List.find?_some found
    have apart := List.all_eq_true.mp rows row (List.mem_of_find?_eq_some found)
    have same : ((mark.toNat : Int) - row.offset).toNat = c.toNat := by
      have positive : 0 < mark.toNat := by
        refine Nat.pos_of_ne_zero fun zero => nonzero ?_
        rw [← Char.ofNat_toNat mark, zero]
      omega
    rw [same, contains] at apart
    cases apart
  · split at h
    · next points found =>
      obtain ⟨n, inside, reached⟩ := List.mem_map.mp h
      obtain ⟨before, after, list, -⟩ := List.lookup_eq_some_iff.mp found
      have apart := List.all_eq_true.mp expansions (c.toNat, points) (by rw [list]; simp)
      rw [← toNat_of_ofNat_eq reached nonzero, List.contains_iff_mem.mpr inside] at apart
      cases apart
    · exact List.mem_singleton.mp h

theorem toLower_eq_separator {c : Char} (ascii : c.toNat < 128) :
    c.toLower = '-' ∨ c.toLower = '_' → c.toLower = c :=
  ascii_forall (P := fun c => c.toLower = '-' ∨ c.toLower = '_' → c.toLower = c)
    (by decide +kernel) ascii

theorem mem_of_mem_lowerFrom {mark : Char} (separator : mark = '-' ∨ mark = '_')
    {before cs : List Char} (h : mark ∈ lowerFrom before cs) : mark ∈ cs := by
  induction cs generalizing before with
  | nil => cases h
  | cons c rest ih =>
    unfold lowerFrom at h
    rcases List.mem_append.mp h with here | later
    · refine List.mem_cons.mpr (.inl ?_)
      split at here
      · next ascii =>
        obtain rfl := List.mem_singleton.mp here
        exact toLower_eq_separator ascii separator
      · split at here
        · have sigma := List.mem_singleton.mp here
          unfold lowerSigma at sigma
          rcases separator with rfl | rfl <;> split at sigma <;> exact absurd sigma (by decide)
        · exact eq_of_mem_mapByRows (by rcases separator with rfl | rfl <;> decide)
            (by rcases separator with rfl | rfl <;> decide +kernel) here
    · exact List.mem_cons_of_mem c (ih later)

/-- A dash or an underscore in a lower-case form is one of the text itself. -/
theorem mem_of_mem_lower {mark : Char} (separator : mark = '-' ∨ mark = '_') {cs : List Char}
    (h : mark ∈ lower cs) : mark ∈ cs :=
  mem_of_mem_lowerFrom separator h

end Localization.Text
