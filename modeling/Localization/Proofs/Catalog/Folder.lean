import Localization.Catalog.Loader
import Localization.Proofs.Locale.Code
import Localization.Proofs.Since

/-! # What a folder holds for a locale

The files of a locale are those whose name, without the extension and after its last point, is
the code. Their names are taken in ascending order. The catalog of the locale is merged from the
mappings that the files hold, unless there are no files or one of them cannot be read.
-/
namespace Localization

open Text

namespace Locale

theorem point_not_mem {cs : List Char} (h : isAccepted cs = true) : '.' ∉ cs := by
  have apart {code : List Char} (h : WellFormed code) : '.' ∉ code := fun inside =>
    absurd (isAlphanum_of_isCode (isCode_iff.mpr h) inside (by decide) (by decide)) (by decide)
  rcases isAccepted_iff.mp h with code | ⟨code, wellFormed, rfl⟩
  · exact apart code
  · rw [List.mem_append, List.mem_singleton, not_or]
    exact ⟨apart wellFormed, by decide⟩

end Locale

namespace Catalog

theorem insertSorted_perm (s : String) (texts : List String) :
    (insertSorted s texts).Perm (s :: texts) := by
  induction texts with
  | nil => exact .refl _
  | cons t rest ih =>
    rw [insertSorted]
    split
    · exact (ih.cons t).trans (.swap s t rest)
    · exact .refl _

theorem sortTexts_perm (texts : List String) : (sortTexts texts).Perm texts := by
  induction texts with
  | nil => exact .refl _
  | cons t rest ih => exact (insertSorted_perm t _).trans (ih.cons t)

theorem insertSorted_sorted (s : String) {texts : List String} (h : texts.Pairwise (· ≤ ·)) :
    (insertSorted s texts).Pairwise (· ≤ ·) := by
  induction texts with
  | nil => exact List.pairwise_singleton ..
  | cons t rest ih =>
    obtain ⟨first, others⟩ := List.pairwise_cons.mp h
    rw [insertSorted]
    split
    · next less =>
      refine List.pairwise_cons.mpr ⟨?_, ih others⟩
      intro other inside
      rcases List.mem_cons.mp ((insertSorted_perm s rest).mem_iff.mp inside) with rfl | later
      · exact (String.le_total t other).resolve_right fun le => String.not_lt.mpr le less
      · exact first other later
    · next least =>
      have le : s ≤ t := String.not_lt.mp least
      refine List.pairwise_cons.mpr ⟨?_, h⟩
      intro other inside
      rcases List.mem_cons.mp inside with rfl | later
      · exact le
      · exact String.le_trans le (first other later)

theorem sortTexts_sorted (texts : List String) : (sortTexts texts).Pairwise (· ≤ ·) := by
  induction texts with
  | nil => exact .nil
  | cons t rest ih => exact insertSorted_sorted t ih

/-- A file belongs to a locale when its name has the extension and what comes before it is, after
its last point, the code of the locale, which is an accepted one. -/
def BelongsTo (name locale : String) : Prop :=
  extension <:+ name.toList ∧ Locale.accepts locale = true ∧
    (stem name.toList = locale.toList ∨ ∃ front, stem name.toList = front ++ '.' :: locale.toList)

theorem localeOfFile?_eq_some {name locale : String} :
    localeOfFile? name = some locale ↔ BelongsTo name locale := by
  obtain ⟨last, found, plain, place⟩ := getLast?_splitAt '.' (stem name.toList)
  simp only [localeOfFile?, found, Option.getD_some]
  constructor
  · intro h
    split at h
    · next named =>
      split at h
      · next accepted =>
        cases h
        rw [BelongsTo, Locale.accepts, String.toList_ofList]
        exact ⟨List.isSuffixOf_iff_suffix.mp named, accepted, place⟩
      · cases h
    · cases h
  · rintro ⟨named, accepted, spelled⟩
    have apart : '.' ∉ locale.toList := Locale.point_not_mem accepted
    -- The last point is the same one in both readings of the name.
    have same : last = locale.toList := by
      rcases place with whole | ⟨front, split⟩ <;> rcases spelled with other | ⟨front', split'⟩
      · exact whole.symm.trans other
      · rw [whole] at split'
        exact absurd (split' ▸ List.mem_append_right _ List.mem_cons_self) plain
      · rw [other] at split
        exact absurd (split ▸ List.mem_append_right _ List.mem_cons_self) apart
      · have reversed := congrArg List.reverse (split.symm.trans split')
        rw [List.reverse_append, List.reverse_append, List.reverse_cons, List.reverse_cons,
          List.append_assoc, List.append_assoc] at reversed
        have ends := append_cons_inj reversed (mt List.mem_reverse.mp plain)
          (mt List.mem_reverse.mp apart)
        exact List.reverse_inj.mp ends.1
    rw [if_pos (List.isSuffixOf_iff_suffix.mpr named), same, String.ofList_toList]
    exact if_pos accepted

instance (name locale : String) : Decidable (BelongsTo name locale) :=
  decidable_of_iff _ localeOfFile?_eq_some

theorem stem_append_extension {cs : List Char} (some : cs ≠ []) : stem (cs ++ extension) = cs := by
  have longer : ¬ (cs ++ extension).length ≤ extension.length := by
    have := List.length_pos_iff.mpr some
    rw [List.length_append]
    omega
  rw [stem, if_neg longer, List.length_append, Nat.add_sub_cancel, List.take_left]

theorem belongsTo_of_code {code : String} (accepted : Locale.accepts code = true) :
    BelongsTo (code ++ ".yml") code := by
  have some : code.toList ≠ [] := by
    intro empty
    rw [Locale.accepts, empty] at accepted
    revert accepted
    decide
  refine ⟨?_, accepted, .inl ?_⟩
  · rw [String.toList_append]
    exact List.suffix_append ..
  · rw [String.toList_append]
    exact stem_append_extension some

theorem filesOf_perm (files : Files) (locale : String) :
    (filesOf files locale).Perm (files.keys.filter fun name => BelongsTo name locale) := by
  refine (sortTexts_perm _).trans (.of_eq ?_)
  refine List.filter_congr fun name _ => ?_
  rw [Bool.eq_iff_iff, beq_iff_eq, decide_eq_true_eq, localeOfFile?_eq_some]

theorem mem_filesOf {files : Files} {name locale : String} :
    name ∈ filesOf files locale ↔ name ∈ files.keys ∧ BelongsTo name locale := by
  rw [(filesOf_perm files locale).mem_iff, List.mem_filter, decide_eq_true_eq]

theorem filesOf_sorted (files : Files) (locale : String) :
    (filesOf files locale).Pairwise (· ≤ ·) := sortTexts_sorted _

theorem foldl_once (seen found : List String) (distinct : seen.Nodup) :
    (found.foldl (fun seen l => if seen.contains l then seen else l :: seen) seen).Nodup ∧
      ∀ l, l ∈ found.foldl (fun seen l => if seen.contains l then seen else l :: seen) seen ↔
        l ∈ seen ∨ l ∈ found := by
  induction found generalizing seen with
  | nil => simpa using distinct
  | cons first rest ih =>
    rw [List.foldl_cons]
    split
    · next known =>
      have inside := List.contains_iff_mem.mp known
      obtain ⟨nodup, members⟩ := ih seen distinct
      refine ⟨nodup, fun l => (members l).trans ?_⟩
      rw [List.mem_cons]
      exact ⟨fun h => h.imp_right .inr,
        fun h => h.elim .inl fun h => h.elim (fun same => .inl (same ▸ inside)) .inr⟩
    · next fresh =>
      have apart : first ∉ seen := fun inside => fresh (List.contains_iff_mem.mpr inside)
      obtain ⟨nodup, members⟩ := ih (first :: seen) (List.nodup_cons.mpr ⟨apart, distinct⟩)
      refine ⟨nodup, fun l => (members l).trans ?_⟩
      rw [List.mem_cons, List.mem_cons]
      exact or_assoc.trans or_left_comm

theorem mem_localesOf {files : Files} {locale : String} :
    locale ∈ localesOf files ↔ ∃ name ∈ files.keys, BelongsTo name locale := by
  rw [localesOf, (sortTexts_perm _).mem_iff, (foldl_once [] _ .nil).2, List.mem_filterMap]
  simp only [List.not_mem_nil, false_or, localeOfFile?_eq_some]

theorem localesOf_ascending (files : Files) : (localesOf files).Pairwise (· < ·) := by
  have distinct : (localesOf files).Nodup :=
    (sortTexts_perm _).nodup_iff.mpr (foldl_once [] _ .nil).1
  refine (List.pairwise_and_iff.mpr ⟨sortTexts_sorted _, distinct⟩).imp ?_
  rintro first second ⟨le, differ⟩
  refine Decidable.byContradiction fun not_lt => differ ?_
  exact String.le_antisymm le (String.not_lt.mp not_lt)

theorem value_mergeFile (path : String) (catalog : Entries) (v : Value) :
    (mergeFile path catalog v).value = merge catalog (entriesOf (some v)) := by
  cases v <;> rfl

theorem exists_mapM {ε α β : Type} {f : α → Except ε β} {xs : List α}
    (each : ∀ x ∈ xs, ∃ y, f x = .ok y) : ∃ ys, xs.mapM f = .ok ys := by
  induction xs with
  | nil => exact ⟨[], rfl⟩
  | cons x rest ih =>
    obtain ⟨⟨y, first⟩, later⟩ := List.forall_mem_cons.mp each
    obtain ⟨ys, others⟩ := ih later
    exact ⟨y :: ys, by rw [List.mapM_cons, first, others]; rfl⟩

variable [Stack]

def readIn (folder : String) (files : Files) (name : String) : Except Failure Value :=
  readFile (pathIn folder name) ((files.get? name).getD [])

theorem outcome_readFileLogged (path : String) (octets : List UInt8) :
    (readFileLogged path octets).outcome = readFile path octets := by
  rw [readFileLogged]
  cases readFile path octets with
  | ok v => rfl
  | error failure => cases failure <;> rfl

theorem outcome_mergeFiles (folder : String) (files : Files) (catalog : Entries)
    (names : List String) :
    (mergeFiles folder files catalog names).outcome =
      (names.mapM (readIn folder files)).map fun values =>
        (values.filterMap Value.entries?).foldl merge catalog := by
  induction names generalizing catalog with
  | nil => rfl
  | cons name rest ih =>
    have read : (readFileLogged (pathIn folder name) ((files.get? name).getD [])).outcome =
        readIn folder files name := outcome_readFileLogged ..
    rw [mergeFiles, Attempt.outcome_bind, read, List.mapM_cons]
    cases readIn folder files name with
    | error failure => rfl
    | ok v =>
      simp only [Except.bind, Attempt.outcome_bind, Attempt.outcome_liftM, value_mergeFile, ih]
      -- What is no mapping has no entries to merge.
      cases rest.mapM (readIn folder files) with
      | error failure => rfl
      | ok values => cases v <;> rfl

theorem outcome_readLocale (folder : String) (files : Files) (locale : String) :
    (readLocale folder files locale).outcome =
      if filesOf files locale = [] then .error (.noFilesFor locale folder)
      else ((filesOf files locale).mapM (readIn folder files)).map fun values =>
        (values.filterMap Value.entries?).foldl merge [] := by
  rw [readLocale]
  cases names : filesOf files locale with
  | nil => rfl
  | cons name rest =>
    rw [if_neg (List.cons_ne_nil name rest), ← outcome_mergeFiles, List.isEmpty_cons,
      if_neg Bool.false_ne_true, Attempt.outcome_bind]
    cases (mergeFiles folder files [] (name :: rest)).outcome <;> rfl

def Readable (folder : String) (files : Files) : Prop :=
  ∀ name ∈ files.keys, (∃ locale, BelongsTo name locale) → ∃ v, readIn folder files name = .ok v

theorem Readable.readLocale {folder : String} {files : Files} (h : Readable folder files)
    {locale : String} (named : locale ∈ localesOf files) :
    ∃ catalog, (readLocale folder files locale).outcome = .ok catalog := by
  obtain ⟨name, inside, belongs⟩ := mem_localesOf.mp named
  have some : filesOf files locale ≠ [] :=
    List.ne_nil_of_mem (mem_filesOf.mpr ⟨inside, belongs⟩)
  have each : ∀ name ∈ filesOf files locale, ∃ v, readIn folder files name = .ok v := by
    intro name inside
    obtain ⟨there, belongs⟩ := mem_filesOf.mp inside
    exact h name there ⟨locale, belongs⟩
  obtain ⟨values, read⟩ := exists_mapM each
  exact ⟨_, by rw [outcome_readLocale, if_neg some, read]; rfl⟩

end Catalog

end Localization
