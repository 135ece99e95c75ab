import Localization.Markup.Rich
import Localization.Proofs.Markup.Scan

/-! # What a segmenter remembers

Each text in the cache of a segmenter is kept with its own segments. So however a segmenter
was used before, a text that is not too long gets the segments of the definition.
-/
namespace Localization

namespace Cache

variable {κ α : Type} {P : κ → α → Prop} {cache : Cache κ α}

/-- What holds of every entry. -/
def All (P : κ → α → Prop) (cache : Cache κ α) : Prop := ∀ entry ∈ cache.entries, P entry.1 entry.2

theorem all_of_entries_nil (none : cache.entries = []) : cache.All P := by
  intro entry inside
  rw [none] at inside
  cases inside

variable [BEq κ]

theorem All.renew (h : cache.All P) {key : κ} {value : α} (new : P key value) :
    (cache.renew key value).All P := by
  intro entry inside
  rcases List.mem_append.mp inside with old | last
  · exact h entry (List.mem_filter.mp old).1
  · rw [List.mem_singleton.mp last]
    exact new

theorem All.put (h : cache.All P) {key : κ} {value : α} (new : P key value) :
    (cache.put key value).All P := by
  intro entry inside
  exact h.renew new entry (List.mem_of_mem_drop inside)

theorem All.peek? [LawfulBEq κ] (h : cache.All P) {key : κ} {value : α}
    (found : cache.peek? key = some value) : P key value := by
  obtain ⟨before, after, parts, -⟩ := List.lookup_eq_some_iff.mp found
  refine h (key, value) ?_
  rw [parts]
  exact List.mem_append_right _ List.mem_cons_self

end Cache

namespace Markup

/-- What a caller does with a segmenter. -/
inductive Use where
  | segment (cs : List Char)
  | hasSlots (cs : List Char)
  | render (renderers : Renderers) (cs : List Char)
  | clear

namespace Segmenter

/-- The segmenter after a use. -/
def use (s : Segmenter) : Use → Segmenter
  | .segment cs => (s.segment cs).value.2
  | .hasSlots cs => (s.hasSlots cs).value.2
  | .render renderers cs => (s.render renderers cs).value.2
  | .clear => s.clear

/-- The segmenter after several uses. -/
def afterUses (s : Segmenter) (uses : List Use) : Segmenter := uses.foldl use s

/-- A text that is not too long is remembered, or it is scanned anew, and it is not remembered when
its scan fails. -/
theorem segment_cases (s : Segmenter) {cs : List Char} (fits : isTooLong cs = false) :
    (∃ parsed, s.cache.peek? cs = some parsed ∧
      (s.segment cs).value = (.ok parsed, { s with cache := s.cache.renew cs parsed })) ∨
    (∃ segments, (scanSegments cs).outcome = .ok segments ∧
      (s.segment cs).value = (.ok ⟨s.next, segments⟩,
        ⟨s.cache.put cs ⟨s.next, segments⟩, s.next + 1⟩)) ∨
    ∃ failure, (scanSegments cs).outcome = .error failure ∧
      (s.segment cs).value = (.error failure, s) := by
  rw [Segmenter.segment, if_neg (Bool.eq_false_iff.mp fits), Cache.get]
  cases found : s.cache.peek? cs with
  | some parsed => exact .inl ⟨parsed, rfl, rfl⟩
  | none =>
    right
    simp only [Traced.value_bind]
    cases scan : Traced.value (scanSegments cs).run with
    | ok segments => exact .inl ⟨segments, scan, rfl⟩
    | error failure => exact .inr ⟨failure, scan, rfl⟩

theorem segment_tooLong (s : Segmenter) {cs : List Char} (long : isTooLong cs = true) :
    (s.segment cs).value = (.ok ⟨s.next, [.text cs]⟩, { s with next := s.next + 1 }) := by
  rw [Segmenter.segment, if_pos long]
  rfl

def OfScans (P : List Char → Parsed → Prop) : Prop :=
  ∀ cs number segments, isTooLong cs = false → (scanSegments cs).outcome = .ok segments →
    P cs ⟨number, segments⟩

section

variable {P : List Char → Parsed → Prop} (scans : OfScans P)
include scans

/-- What new scans satisfy, whatever is remembered satisfies, and so what is given back. -/
theorem all_segment {s : Segmenter} (h : s.cache.All P) (cs : List Char) :
    (s.segment cs).value.2.cache.All P ∧
      ∀ parsed, isTooLong cs = false → (s.segment cs).value.1 = .ok parsed → P cs parsed := by
  cases long : isTooLong cs with
  | true =>
    rw [segment_tooLong s long]
    exact ⟨h, fun _ short => nomatch short⟩
  | false =>
    rcases segment_cases s long with ⟨parsed, found, same⟩ | ⟨segments, scan, same⟩ |
      ⟨failure, scan, same⟩ <;> rw [same]
    · have held := h.peek? found
      refine ⟨h.renew held, fun other _ given => ?_⟩
      cases given
      exact held
    · have held := scans cs s.next segments long scan
      refine ⟨h.put held, fun other _ given => ?_⟩
      cases given
      exact held
    · exact ⟨h, fun _ _ given => nomatch given⟩

theorem all_use {s : Segmenter} (h : s.cache.All P) (u : Use) : (s.use u).cache.All P := by
  cases u with
  | segment cs => exact (all_segment scans h cs).1
  | hasSlots cs =>
    rw [Segmenter.use, hasSlots]
    split
    · exact h
    · exact (all_segment scans h cs).1
  | render renderers cs => exact (all_segment scans h cs).1
  | clear => exact Cache.all_of_entries_nil rfl

theorem all_afterUses (capacity : Nat) (uses : List Use) :
    ((fresh capacity).afterUses uses).cache.All P := by
  suffices run : ∀ {s : Segmenter}, s.cache.All P → (s.afterUses uses).cache.All P from
    run (Cache.all_of_entries_nil rfl)
  induction uses with
  | nil => exact id
  | cons u rest ih => exact fun h => ih (all_use scans h u)

end

def Faithful (s : Segmenter) : Prop :=
  s.cache.All fun cs parsed => (plainSegments cs).outcome = .ok parsed.segments

theorem ofScans_plainSegments :
    OfScans fun cs parsed => (plainSegments cs).outcome = .ok parsed.segments := by
  intro cs number segments _ scan
  rwa [scanSegments_eq cs (Nat.le_refl _)] at scan

theorem faithful_afterUses (capacity : Nat) (uses : List Use) :
    ((fresh capacity).afterUses uses).Faithful :=
  all_afterUses ofScans_plainSegments capacity uses

def segmentsOf (cs : List Char) : Except Failure (List Segment) :=
  if isTooLong cs then .ok [.text cs] else (plainSegments cs).outcome

theorem segmentsOf_of_le {cs : List Char} (short : cs.length ≤ maxTextLength) :
    segmentsOf cs = (plainSegments cs).outcome :=
  if_neg (Bool.not_eq_true _ ▸ decide_eq_false (Nat.not_lt.mpr short))

theorem Faithful.segments {s : Segmenter} (h : s.Faithful) (cs : List Char) :
    (s.segment cs).value.1.map Parsed.segments = segmentsOf cs := by
  rw [segmentsOf]
  split
  · next long =>
    rw [segment_tooLong s long]
    rfl
  · next short =>
    have plain : scanSegments cs = plainSegments cs := scanSegments_eq cs (Nat.le_refl _)
    rw [← plain]
    rcases segment_cases s (Bool.not_eq_true _ ▸ short) with ⟨parsed, found, same⟩ |
      ⟨segments, scan, same⟩ | ⟨failure, scan, same⟩ <;> rw [same]
    · rw [plain]
      exact (h.peek? found).symm
    · exact scan.symm
    · exact scan.symm

theorem segments_segment (capacity : Nat) (uses : List Use) (cs : List Char) :
    (((fresh capacity).afterUses uses).segment cs).value.1.map Parsed.segments = segmentsOf cs :=
  (faithful_afterUses capacity uses).segments cs

/-- An unclosed tag, a slot that its nearest closing tag ends, and a tag of another name in it. -/
def crossedTags : List Char := "<i><B x='1'>1<a>2</b></a>".toList

end Segmenter

end Markup

end Localization
