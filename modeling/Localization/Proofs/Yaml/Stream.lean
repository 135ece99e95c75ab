import Localization.Proofs.Yaml.Tokens

/-! # The tokens of a text come from it

Each step of the lexer keeps its place in the text and adds only tokens that the text gives cause
for, or it fails as the text gives cause for. A token that begins a flow collection, an item or an
entry is paid for with the character that it is read from. So it is with all steps together.
-/
namespace Localization.Yaml

variable {text : List Char}

def weigh (tokens : List Token) : Nat := (tokens.map Token.weight).sum

theorem weigh_cons (t : Token) (tokens : List Token) :
    weigh (t :: tokens) = t.weight + weigh tokens := List.sum_cons

theorem weigh_perm {tokens others : List Token} (h : tokens.Perm others) :
    weigh tokens = weigh others := (h.map Token.weight).sum_nat

structure IsRead [Stack] (text : List Char) (out : List Token × Option Fault) : Prop where
  tokens : ∀ t ∈ out.1, t.IsFrom text
  fault : ∀ fault ∈ out.2, fault.Cause text
  paid : weigh out.1 ≤ text.countP isOpener

namespace Lexer

variable {l : Lexer} {credit : Nat}

/-- A lexer that stands in a text and has read tokens of it. The openers that it has passed pay for
the tokens, and some of them are left. -/
structure IsFrom (text : List Char) (credit : Nat) (l : Lexer) : Prop where
  cursor : l.cursor.IsIn text
  tokens : ∀ t ∈ l.tokens, t.IsFrom text
  paid : weigh l.tokens + l.cursor.rest.countP isOpener + credit ≤ text.countP isOpener

theorem IsFrom.same (h : l.IsFrom text credit) {after : Lexer} (cursor : after.cursor = l.cursor)
    (tokens : after.tokens = l.tokens) : after.IsFrom text credit := by
  obtain ⟨isIn, each, paid⟩ := h
  rw [← cursor] at isIn paid
  rw [← tokens] at each paid
  exact ⟨isIn, each, paid⟩

theorem IsFrom.adds {t : Token} (h : l.IsFrom text (credit + t.weight)) (fits : t.IsFrom text)
    {after : Lexer} (cursor : after.cursor = l.cursor)
    (tokens : after.tokens.Perm (t :: l.tokens)) : after.IsFrom text credit := by
  refine ⟨cursor ▸ h.cursor, fun other inside => ?_, ?_⟩
  · rcases List.mem_cons.mp (tokens.subset inside) with rfl | before
    · exact fits
    · exact h.tokens other before
  · have paid := h.paid
    rw [weigh_perm tokens, weigh_cons, cursor]
    omega

theorem IsFrom.emit {t : Token} (h : l.IsFrom text (credit + t.weight)) (fits : t.IsFrom text) :
    (l.emit t).IsFrom text credit := h.adds fits rfl (.refl _)

theorem IsFrom.insert {t : Token} (h : l.IsFrom text (credit + t.weight)) (number : Nat)
    (fits : t.IsFrom text) : (l.insert number t).IsFrom text credit := by
  refine h.adds fits rfl (List.perm_middle.trans ?_)
  rw [List.take_append_drop]

theorem IsFrom.moveTo (h : l.IsFrom text credit) {c : Cursor} (isIn : c.IsIn l.cursor.rest) :
    (l.moveTo c).IsFrom text credit := by
  have fewer : c.rest.countP isOpener ≤ l.cursor.rest.countP isOpener :=
    List.IsSuffix.sublist isIn |>.countP_le
  have paid := h.paid
  refine ⟨isIn.trans h.cursor, h.tokens, ?_⟩
  show weigh l.tokens + c.rest.countP isOpener + credit ≤ _
  omega

theorem isIn_rest (c : Cursor) : c.IsIn c.rest := List.suffix_refl _

theorem IsFrom.step (h : l.IsFrom text credit) : (l.moveTo l.cursor.step).IsFrom text credit :=
  h.moveTo (isIn_rest _).step

theorem IsFrom.pass (h : l.IsFrom text credit) {ch : Char} (next : l.cursor.peek = some ch)
    (opener : isOpener ch = true) : (l.moveTo l.cursor.step).IsFrom text (credit + 1) := by
  obtain ⟨rest, same⟩ := List.head?_eq_some_iff.mp next
  refine ⟨h.cursor.step, h.tokens, ?_⟩
  have paid := h.paid
  rw [same, List.countP_cons_of_pos opener] at paid
  show weigh l.tokens + l.cursor.step.rest.countP isOpener + (credit + 1) ≤ _
  rw [Cursor.rest_step, same, List.tail_cons]
  omega

theorem IsFrom.skipBlanks (h : l.IsFrom text credit) (fuel : Nat) :
    (Lexer.skipBlanks fuel l).IsFrom text credit := by
  induction fuel generalizing l with
  | zero => exact h
  | succ fuel ih =>
    have blanks := ((isIn_rest l.cursor).skip (· == ' ')).skipComment
    rw [Lexer.skipBlanks]
    split
    · exact ih ((h.moveTo blanks.takeBreak).same rfl rfl)
    · exact h.moveTo blanks

theorem IsFrom.unwindTo (h : l.IsFrom text credit) (column : Int) (fuel : Nat) :
    (Lexer.unwindTo column fuel l).IsFrom text credit := by
  induction fuel generalizing l with
  | zero => exact h
  | succ fuel ih =>
    rw [Lexer.unwindTo]
    split
    · split
      · have closed : (l.emit .blockEnd).IsFrom text credit := h.emit trivial
        exact ih (closed.same rfl rfl)
      · exact h
    · exact h

theorem IsFrom.unwind (h : l.IsFrom text credit) (column : Int) :
    (l.unwind column).IsFrom text credit := by
  rw [Lexer.unwind]
  split
  · exact h
  · exact h.unwindTo column _

theorem IsFrom.openBlock (h : l.IsFrom text credit) (column : Int) (number : Nat) {t : Token}
    (fits : t.IsFrom text) (light : t.weight = 0) :
    (l.openBlock column number t).IsFrom text credit := by
  rw [Lexer.openBlock]
  split
  · have opened : (l.insert number t).IsFrom text credit := IsFrom.insert (light ▸ h) number fits
    exact opened.same rfl rfl
  · exact h

theorem IsFrom.openOutside (h : l.IsFrom text credit) (column : Int) (number : Nat) {t : Token}
    (fits : t.IsFrom text) (light : t.weight = 0) :
    (if l.flow == 0 then l.openBlock column number t else l).IsFrom text credit := by
  split
  · exact h.openBlock column number fits light
  · exact h

theorem moveTo_openOutside (l : Lexer) (c : Cursor) (column : Int) (number : Nat) (t : Token) :
    (if (l.moveTo c).flow == 0 then (l.moveTo c).openBlock column number t else l.moveTo c) =
      (if l.flow == 0 then l.openBlock column number t else l).moveTo c := by
  show (if l.flow == 0 then _ else _) = _
  split
  · rw [Lexer.openBlock, Lexer.openBlock]
    show (if l.indent < column then _ else _) = _
    split <;> rfl
  · rfl

theorem cursor_openOutside (l : Lexer) (column : Int) (number : Nat) (t : Token) :
    (if l.flow == 0 then l.openBlock column number t else l).cursor = l.cursor := by
  split
  · rw [Lexer.openBlock]
    split <;> rfl
  · rfl

end Lexer

namespace Lexer

variable [Stack] {l : Lexer}

abbrev Goes (text : List Char) : Except Fault Lexer → Prop := Yields text (IsFrom text 0)

abbrev Stays (text : List Char) (l : Lexer) : Except Fault Lexer → Prop :=
  Yields text fun after => after.IsFrom text 0 ∧ after.cursor = l.cursor

theorem IsFrom.dropStale (h : l.IsFrom text 0) : Goes text l.dropStale := by
  rw [Lexer.dropStale]
  split
  · exact yields_malformed
  · exact .ok (h.same rfl rfl)

theorem IsFrom.dropKey (h : l.IsFrom text 0) : Stays text l l.dropKey := by
  rw [Lexer.dropKey]
  split
  · split
    · exact yields_malformed
    · exact .ok ⟨h.same rfl rfl, rfl⟩
  · exact .ok ⟨h, rfl⟩

theorem IsFrom.saveKey (h : l.IsFrom text 0) : Stays text l l.saveKey := by
  rw [Lexer.saveKey]
  split
  · exact h.dropKey.bind fun after ⟨h, same⟩ => .ok ⟨h.same rfl rfl, same⟩
  · exact .ok ⟨h, rfl⟩

theorem IsFrom.puts {c : Cursor} {credit : Nat} (h : (l.moveTo c).IsFrom text credit) {t : Token}
    (weight : t.weight = credit) (fits : t.IsFrom text) {after : Lexer}
    (same : after.tokens = l.tokens) : Goes text (pure ((after.emit t).moveTo c)) := by
  have owed : (l.moveTo c).IsFrom text (0 + t.weight) := by rwa [weight, Nat.zero_add]
  refine .ok (owed.adds fits rfl ?_)
  show (t :: after.tokens).Perm (t :: l.tokens)
  rw [same]

theorem IsFrom.finishStream (h : l.IsFrom text 0) : Goes text l.finishStream := by
  refine (h.unwind (-1)).dropKey.bind fun l ⟨h, _⟩ => ?_
  have last : IsFrom text 0 { l with keyAllowed := false, keys := [] } := h.same rfl rfl
  exact .ok (last.emit trivial)

theorem IsFrom.givesToken (h : l.IsFrom text 0) {read : Except Fault (Token × Cursor)}
    (gives : GivesToken l.cursor.rest read) {change : Lexer}
    (same : change.tokens = l.tokens) :
    Goes text (read >>= fun r => pure ((change.emit r.1).moveTo r.2)) := by
  refine (gives.of_suffix h.cursor).bind ?_
  rintro ⟨token, c⟩ ⟨fits, light, isIn⟩
  exact (h.moveTo isIn).puts light (fits.of_suffix h.cursor) same

theorem IsFrom.lexDirective (h : l.IsFrom text 0) : Goes text l.lexDirective :=
  (h.unwind (-1)).dropKey.bind fun _ ⟨h, _⟩ => h.givesToken (readDirective_gives (isIn_rest _)) rfl

theorem IsFrom.lexMarker (h : l.IsFrom text 0) {t : Token} (fits : t.IsFrom text)
    (light : t.weight = 0) : Goes text (l.lexMarker t) := by
  refine (h.unwind (-1)).dropKey.bind fun l ⟨h, _⟩ => ?_
  exact (h.moveTo ((isIn_rest _).advance 3)).puts light fits rfl

theorem IsFrom.lexFlowStart (h : l.IsFrom text 0) {ch : Char} (next : l.cursor.peek = some ch)
    (opener : isOpener ch = true) {t : Token} (fits : t.IsFrom text) (heavy : t.weight = 1) :
    Goes text (l.lexFlowStart t) := by
  refine h.saveKey.bind fun after ⟨h, same⟩ => ?_
  have passed := h.pass (same ▸ next) opener
  exact passed.puts heavy fits rfl

theorem IsFrom.lexFlowEnd (h : l.IsFrom text 0) {t : Token} (fits : t.IsFrom text)
    (light : t.weight = 0) : Goes text (l.lexFlowEnd t) :=
  h.dropKey.bind fun _ ⟨h, _⟩ => h.step.puts light fits rfl

theorem IsFrom.lexFlowEntry (h : l.IsFrom text 0) : Goes text l.lexFlowEntry :=
  h.dropKey.bind fun _ ⟨h, _⟩ => h.step.puts rfl (by trivial) rfl

/-- A mark begins a part of a block, and the block itself where it is the first one. -/
theorem IsFrom.beginsPart (h : l.IsFrom text 0) {mark : Char} (next : l.cursor.peek = some mark)
    (opener : isOpener mark = true) (allowed : Lexer → Bool) (block part : Token)
    (fits : block.IsFrom text ∧ part.IsFrom text) (light : block.weight = 0)
    (heavy : part.weight = 1) :
    Goes text (do
      let after ← (if l.flow == 0 then l.openBlock l.column l.count block else l).dropKey
      pure (({ after with keyAllowed := allowed after }.emit part).moveTo after.cursor.step)) := by
  refine (h.openOutside _ _ fits.1 light).dropKey.bind fun after ⟨h, same⟩ => ?_
  rw [cursor_openOutside] at same
  exact (h.pass (same ▸ next) opener).puts heavy fits.2 rfl

theorem IsFrom.lexBlockEntry (h : l.IsFrom text 0) (next : l.cursor.peek = some '-') :
    Goes text l.lexBlockEntry := by
  rw [Lexer.lexBlockEntry]
  dsimp only
  split
  · exact yields_malformed
  · exact h.beginsPart next rfl (fun _ => true) .blockSequence .blockEntry ⟨trivial, trivial⟩ rfl rfl

theorem IsFrom.lexKey (h : l.IsFrom text 0) (next : l.cursor.peek = some '?') :
    Goes text l.lexKey := by
  rw [Lexer.lexKey]
  dsimp only
  split
  · exact yields_malformed
  · exact h.beginsPart next rfl (·.flow == 0) .blockMapping .key ⟨trivial, trivial⟩ rfl rfl

theorem IsFrom.lexValue (h : l.IsFrom text 0) (next : l.cursor.peek = some ':') :
    Goes text l.lexValue := by
  rw [Lexer.lexValue]
  split
  · next key found =>
    -- The colon pays for the key that it makes.
    let settled : Lexer := { l with keys := l.keys.filter (·.1 != l.flow) }
    have passed : IsFrom text 1 (settled.moveTo l.cursor.step) := (h.pass next rfl).same rfl rfl
    have keyed : ((settled.insert key.number .key).moveTo l.cursor.step).IsFrom text 0 :=
      IsFrom.insert (l := settled.moveTo l.cursor.step) passed key.number trivial
    have opened := keyed.openOutside key.column key.number (t := .blockMapping) trivial rfl
    rw [moveTo_openOutside] at opened
    dsimp only
    rw [cursor_openOutside]
    exact opened.puts rfl (by trivial) rfl
  · dsimp only
    split
    · exact yields_malformed
    · have opened := h.openOutside l.column l.count (t := .blockMapping) trivial rfl
      refine Yields.bind (IsFrom.dropKey (opened.same rfl rfl)) fun l ⟨h, _⟩ => ?_
      exact h.step.puts rfl (by trivial) rfl

theorem IsFrom.lexWord (h : l.IsFrom text 0) {ch : Char} (next : l.cursor.peek = some ch)
    {read : Cursor → Except Fault (Token × Cursor)}
    (gives : ∀ c : Cursor, ch ∈ c.rest → GivesToken c.rest (read c)) :
    Goes text (l.lexWord read) := by
  refine h.saveKey.bind fun after ⟨h, same⟩ => h.givesToken (gives after.cursor ?_) rfl
  rw [same]
  exact (isIn_rest _).mem next

theorem IsFrom.lexBlockText (h : l.IsFrom text 0) (folded : Bool) :
    Goes text (l.lexBlockText folded) :=
  h.dropKey.bind fun l ⟨h, _⟩ => h.givesToken (readBlock_gives (isIn_rest _) folded l.indent) rfl

theorem IsFrom.lexPlain (h : l.IsFrom text 0) : Goes text l.lexPlain := by
  refine h.saveKey.bind fun l ⟨h, _⟩ => ?_
  obtain ⟨fits, light, isIn⟩ := readPlain_gives (isIn_rest l.cursor) (l.flow != 0) l.indent
  exact (h.moveTo isIn).puts light (fits.of_suffix h.cursor) rfl

theorem readAnchor_gives {c : Cursor} (h : c.IsIn text) {token : List Char → Token}
    (fits : ∀ name, (token name).IsFrom text) (light : ∀ name, (token name).weight = 0) :
    GivesToken text (do
      let (name, c) ← readAnchor c
      pure (token name, c)) := by
  refine (readAnchor_goes h).bind ?_
  rintro ⟨name, after⟩ isIn
  exact .ok ⟨fits name, light name, isIn⟩

theorem IsFrom.lexAt (h : l.IsFrom text 0) {ch : Char} (next : l.cursor.peek = some ch) :
    Goes text (l.lexAt ch) := by
  have begins {mark : Char} (same : (ch == mark) = true) : l.cursor.peek = some mark :=
    beq_iff_eq.mp same ▸ next
  have indicated {mark : Char} {more : Bool} (both : (ch == mark && more) = true) :
      l.cursor.peek = some mark := begins (Bool.and_eq_true_iff.mp both).1
  rw [Lexer.lexAt]
  -- One line for each kind of token, in the order in which they are tried.
  refine .ite (fun _ => h.lexDirective) fun _ => ?_
  refine .ite (fun _ => h.lexMarker trivial rfl) fun _ => ?_
  refine .ite (fun _ => h.lexMarker trivial rfl) fun _ => ?_
  refine .ite (fun mark => h.lexFlowStart (begins mark) rfl trivial rfl) fun _ => ?_
  refine .ite (fun mark => h.lexFlowStart (begins mark) rfl trivial rfl) fun _ => ?_
  refine .ite (fun _ => h.lexFlowEnd trivial rfl) fun _ => ?_
  refine .ite (fun _ => h.lexFlowEnd trivial rfl) fun _ => ?_
  refine .ite (fun _ => h.lexFlowEntry) fun _ => ?_
  refine .ite (fun mark => h.lexBlockEntry (indicated mark)) fun _ => ?_
  refine .ite (fun mark => h.lexKey (indicated mark)) fun _ => ?_
  refine .ite (fun mark => h.lexValue (indicated mark)) fun _ => ?_
  refine .ite (fun mark => h.lexWord (begins mark) fun c star =>
    readAnchor_gives (isIn_rest c) (fun _ => star) fun _ => rfl) fun _ => ?_
  refine .ite (fun mark => h.lexWord (begins mark) fun c _ =>
    readAnchor_gives (isIn_rest c) (fun _ => trivial) fun _ => rfl) fun _ => ?_
  refine .ite (fun mark => h.lexWord (begins mark) fun c bang => readTag_gives (isIn_rest c) bang)
    fun _ => ?_
  refine .ite (fun _ => h.lexBlockText false) fun _ => ?_
  refine .ite (fun _ => h.lexBlockText true) fun _ => ?_
  refine .ite (fun mark => h.lexWord (begins mark) fun c _ => readQuoted_gives (isIn_rest c) false)
    fun _ => ?_
  refine .ite (fun mark => h.lexWord (begins mark) fun c _ => readQuoted_gives (isIn_rest c) true)
    fun _ => ?_
  exact .ite (fun _ => h.lexPlain) fun _ => yields_malformed

theorem IsFrom.next (h : l.IsFrom text 0) : Goes text l.next := by
  refine (h.skipBlanks _).dropStale.bind fun l h => ?_
  have unwound := h.unwind l.column
  dsimp only
  split
  · exact unwound.finishStream
  · next found => exact unwound.lexAt found

theorem IsFrom.isRead (h : l.IsFrom text 0) {last : Option Fault}
    (cause : ∀ fault ∈ last, fault.Cause text) : IsRead text (l.tokens.reverse, last) where
  tokens t inside := h.tokens t (List.mem_reverse.mp inside)
  fault := cause
  paid := by
    have paid := h.paid
    rw [weigh_perm (List.reverse_perm l.tokens)]
    omega

theorem IsFrom.run (h : l.IsFrom text 0) (fuel : Nat) :
    IsRead text (Lexer.run fuel l) := by
  induction fuel generalizing l with
  | zero => exact h.isRead nofun
  | succ fuel ih =>
    have step := h.next
    rw [Lexer.run]
    split
    · next fault failed =>
      rw [failed] at step
      refine h.isRead ?_
      rintro _ ⟨⟩
      exact step
    · next after went =>
      rw [went] at step
      split
      · exact IsFrom.isRead step nofun
      · exact ih step

end Lexer

end Localization.Yaml
