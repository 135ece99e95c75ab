import Localization.Proofs.Markup.Segmenter

/-! # Remembering changes no result

Each text that a segmenter remembers is not too long and stands with the segments of its own
scan. So whatever a segmenter is used for and whatever it remembers, every use gives what it
gives without a cache. A text that is too long leaves what is remembered as it is.
-/
namespace Localization.Markup

def scanned (cs : List Char) : Except Failure (List Segment) :=
  if Segmenter.isTooLong cs then .ok [.text cs] else (scanSegments cs).outcome

/-- What a use gives back. -/
inductive Reply where
  | segments (outcome : Except Failure (List Segment))
  | slots (outcome : Except Failure Bool)
  | text (outcome : Except Failure (List Char))
  | cleared

/-- What a use gives back without a cache. -/
def Use.plainReply : Use → Reply
  | .segment cs => .segments (scanned cs)
  | .hasSlots cs => .slots ((scanned cs).map fun segments => segments.any Segment.isSlot)
  | .render renderers cs => .text ((scanned cs).bind (renderSegments renderers))
  | .clear => .cleared

namespace Segmenter

def reply (s : Segmenter) : Use → Reply
  | .segment cs => .segments ((s.segment cs).value.1.map Parsed.segments)
  | .hasSlots cs => .slots (s.hasSlots cs).value.1
  | .render renderers cs => .text (s.render renderers cs).value.1
  | .clear => .cleared

/-- What several uses give back, in order. -/
def replies (s : Segmenter) : List Use → List Reply
  | [] => []
  | u :: rest => s.reply u :: (s.use u).replies rest

/-- Every text that is remembered is not too long and stands with its own scan. -/
def Exact (s : Segmenter) : Prop :=
  s.cache.All fun cs parsed =>
    cs.length ≤ maxTextLength ∧ (scanSegments cs).outcome = .ok parsed.segments

theorem isTooLong_eq_false {cs : List Char} :
    isTooLong cs = false ↔ cs.length ≤ maxTextLength := by
  rw [isTooLong, decide_eq_false_iff_not, Nat.not_lt]

theorem ofScans_exact :
    OfScans fun cs parsed =>
      cs.length ≤ maxTextLength ∧ (scanSegments cs).outcome = .ok parsed.segments :=
  fun _ _ _ short scan => ⟨isTooLong_eq_false.mp short, scan⟩

theorem segmentsOf_eq_scanned (cs : List Char) : segmentsOf cs = scanned cs := by
  rw [segmentsOf, scanned, scanSegments_eq cs (Nat.le_refl _)]
  rfl

theorem Exact.segments {s : Segmenter} (h : s.Exact) (cs : List Char) :
    (s.segment cs).value.1.map Parsed.segments = scanned cs := by
  have faithful : s.Faithful := by
    intro entry inside
    rw [plainSegments, ← scanSegments_eq entry.1 (Nat.le_refl _)]
    exact (h entry inside).2
  rw [faithful.segments, segmentsOf_eq_scanned]

theorem Exact.reply {s : Segmenter} (h : s.Exact) (u : Use) : s.reply u = u.plainReply := by
  cases u with
  | segment cs => rw [Segmenter.reply, h.segments, Use.plainReply]
  | hasSlots cs =>
    have slots : (s.hasSlots cs).value.1 =
        (scanned cs).map fun segments => segments.any Segment.isSlot := by
      rw [← h.segments, hasSlots]
      split
      · next long =>
        -- A text that is too long is one plain text, which is no slot.
        rw [segment_tooLong s long]
        rfl
      · rw [Traced.value_bind]
        cases given : (s.segment cs).value.1 <;> simp [given, Except.map]
    rw [Segmenter.reply, slots, Use.plainReply]
  | render renderers cs =>
    have text : (s.render renderers cs).value.1 = (scanned cs).bind (renderSegments renderers) := by
      rw [← h.segments]
      cases given : (s.segment cs).value.1 <;> simp [render, given, Except.map, Except.bind]
    rw [Segmenter.reply, text, Use.plainReply]
  | clear => rfl

theorem Exact.replies {s : Segmenter} (h : s.Exact) (uses : List Use) :
    s.replies uses = uses.map Use.plainReply := by
  induction uses generalizing s with
  | nil => rfl
  | cons u rest ih => rw [Segmenter.replies, List.map_cons, h.reply, ih (all_use ofScans_exact h u)]

theorem use_tooLong (s : Segmenter) {cs : List Char} (long : maxTextLength < cs.length)
    (renderers : Renderers) :
    (s.use (.segment cs)).cache = s.cache ∧ s.use (.hasSlots cs) = s ∧
      (s.use (.render renderers cs)).cache = s.cache := by
  have tooLong : isTooLong cs = true := decide_eq_true long
  have kept : (s.segment cs).value.2.cache = s.cache := by
    rw [segment, if_pos tooLong]
    rfl
  refine ⟨kept, ?_, kept⟩
  rw [use, hasSlots, if_pos tooLong]
  rfl

/-- Whatever is asked of a segmenter, each use gives back what it gives without a cache. After any
uses each text that is remembered is not too long and stands with its own scan, and a text that
is too long leaves what is remembered as it is. -/
theorem caching_is_invisible (capacity : Nat) (uses : List Use) :
    (fresh capacity).replies uses = uses.map Use.plainReply ∧
      ((fresh capacity).afterUses uses).Exact ∧
      ∀ cs renderers, maxTextLength < cs.length →
        (((fresh capacity).afterUses uses).use (.segment cs)).cache =
            ((fresh capacity).afterUses uses).cache ∧
          ((fresh capacity).afterUses uses).use (.hasSlots cs) =
            (fresh capacity).afterUses uses ∧
          (((fresh capacity).afterUses uses).use (.render renderers cs)).cache =
            ((fresh capacity).afterUses uses).cache := by
  have new : (fresh capacity).Exact := Cache.all_of_entries_nil rfl
  refine ⟨new.replies uses, all_afterUses ofScans_exact capacity uses, ?_⟩
  intro cs renderers long
  exact use_tooLong _ long renderers

/-- The empty text has no segments, and it is remembered and forgotten like any other. -/
def emptyAndCrossed : List Use := [.segment [], .segment [], .hasSlots crossedTags, .segment []]

def manyBrackets : List Char := List.replicate 10001 '<'

theorem emptyAndCrossed_plain :
    maxTextLength < manyBrackets.length ∧
      (fresh 1).replies emptyAndCrossed =
        [.segments (.ok []), .segments (.ok []), .slots (.ok true), .segments (.ok [])] ∧
      (((fresh 1).afterUses emptyAndCrossed).use (.segment manyBrackets)).cache =
        ((fresh 1).afterUses emptyAndCrossed).cache := by
  have long : maxTextLength < manyBrackets.length := by
    rw [manyBrackets, List.length_replicate, maxTextLength]
    decide
  obtain ⟨replies, -, kept⟩ := caching_is_invisible 1 emptyAndCrossed
  exact ⟨long, replies.trans rfl, (kept manyBrackets [] long).1⟩

end Segmenter

end Localization.Markup
