import OpaqueId.Text.Joining

/-! # Display width: how many columns a line takes

    A character takes no column, one or two (`charWidth`; one Khmer sign
    takes three), unless it joins the text behind it or a variation selector
    asks for another form.  `Measure` holds what is known of the measured end
    of a line, and `Measure.extend` puts a character in front of it.  Main
    statement: `lineWidth_eq_length`, a line of control characters, ASCII and
    blanks takes one column for each character. -/

namespace OpaqueId.Text

/-- What a variation selector asks of the character in front of it. -/
inductive Selector where
  | emoji
  | text
  /-- a quotation mark of full width -/
  | fullWidth
deriving DecidableEq

/-- The request of a variation selector. -/
def Selector.ofChar? (c : Char) : Option Selector :=
  if c = '\ufe0f' then some .emoji
  else if c = '\ufe0e' then some .text
  else if c = '\ufe01' then some .fullWidth
  else none

/-- Variation selectors that no character has taken up yet. -/
structure Selectors where
  emoji : Bool
  text : Bool
  fullWidth : Bool
deriving DecidableEq

namespace Selectors

/-- No selector waits. -/
def none : Selectors := ⟨false, false, false⟩

/-- One more selector in front; an emoji selector behind it is lost, the
    others go on waiting. -/
def add (waiting : Selectors) : Selector → Selectors
  | .emoji => { waiting with emoji := true }
  | .text => { waiting with emoji := false, text := true }
  | .fullWidth => { waiting with emoji := false, fullWidth := true }

end Selectors

theorem Selector.ofChar?_of_le {c : Char} (hc : c.toNat ≤ 0xA0) : ofChar? c = none := by
  unfold ofChar?
  rw [if_neg (by rintro rfl; exact absurd hc (by decide)),
    if_neg (by rintro rfl; exact absurd hc (by decide)),
    if_neg (by rintro rfl; exact absurd hc (by decide))]

/-- The columns of a character on its own; control characters take one. -/
def charWidth (c : Char) : Nat :=
  if c.toNat ≤ 0xA0 then 1
  else if c = '\u17d8' then 3
  else if c = '\u17a4' then 2
  else if inRanges zeroWidth c then 0
  else if inRanges wide c then 2
  else 1

/-- The measured end of a line. -/
structure Measure where
  /-- the columns that it takes -/
  columns : Int
  /-- what it begins with -/
  sequel : Sequel
  /-- the variation selectors in front of that -/
  selectors : Selectors

namespace Measure

/-- The empty end of a line. -/
def empty : Measure := ⟨0, .other, .none⟩

/-- What the end of the line begins with once no character has taken up its
    variation selectors; they separate all but letters. -/
def sequelBehind (m : Measure) : Sequel :=
  if m.selectors = .none || m.sequel.isLetter then m.sequel else .other

/-- A variation selector in front.  Selectors pile up on letters; elsewhere
    the last one counts, and only an emoji selector in front of a joined
    emoji leaves the joiner in force. -/
def select (m : Measure) (s : Selector) : Measure :=
  let sequel := m.sequelBehind
  if sequel.isLetter then ⟨m.columns, sequel, m.selectors.add s⟩
  else ⟨m.columns, if s == .emoji && sequel.isAttached then sequel else .other, .add .none s⟩

/-- A character in front that takes up a variation selector: the columns it
    adds, and what the line begins with then. -/
def selected? (m : Measure) (c : Char) : Option (Int × Sequel) :=
  if m.selectors.emoji && inRanges emojiVariation c then
    some (if m.sequel.isAttached then 0 else 2, .emoji)
  else if m.selectors.text && inRanges emojiPresentation c && inRanges emojiVariation c
      && !inRanges enclosedIdeograph c then
    some (1, .other)
  else if m.selectors.fullWidth && inRanges quotationMark c then some (2, .other)
  else none

/-- A character in front that joins what is behind it; control characters
    join nothing. -/
def joined? (m : Measure) (c : Char) : Option (Int × Sequel) :=
  if c.toNat ≤ 0xA0 then none else m.sequelBehind.join? c

/-- A character in front.  It takes up a selector, or else joins what is
    behind it, or else starts a sign of its own. -/
def extend (c : Char) (m : Measure) : Measure :=
  match Selector.ofChar? c with
  | some s => m.select s
  | none =>
    match (m.selected? c).or (m.joined? c) with
    | some (columns, sequel) => ⟨m.columns + columns, sequel, .none⟩
    | none => ⟨m.columns + charWidth c, .ofChar c, .none⟩

/-- Up to the blank that allows no break, a character takes one column and
    joins nothing, unless a selector waits for it. -/
theorem extend_of_le {c : Char} {m : Measure} (hc : c.toNat ≤ 0xA0)
    (hm : m.selectors = .none) : m.extend c = ⟨m.columns + 1, .ofChar c, .none⟩ := by
  unfold extend selected? joined? charWidth
  rw [Selector.ofChar?_of_le hc, hm, if_pos hc, if_pos hc]
  rfl

end Measure

/-- The columns of a line. -/
def lineWidth (line : List Char) : Nat := (line.foldr Measure.extend .empty).columns.toNat

/-- A line of characters up to the blank that allows no break is as wide as
    it is long. -/
theorem lineWidth_eq_length {line : List Char} (hline : ∀ c ∈ line, c.toNat ≤ 0xA0) :
    lineWidth line = line.length := by
  have measured : (line.foldr Measure.extend .empty).columns = line.length
      ∧ (line.foldr Measure.extend .empty).selectors = .none := by
    induction line with
    | nil => exact ⟨rfl, rfl⟩
    | cons c rest ih =>
      obtain ⟨hcolumns, hselectors⟩ := ih fun d hd => hline d (List.mem_cons_of_mem c hd)
      rw [List.foldr_cons, Measure.extend_of_le (hline c List.mem_cons_self) hselectors]
      exact ⟨by rw [hcolumns, List.length_cons, Int.natCast_add, Int.natCast_one], rfl⟩
  unfold lineWidth
  rw [measured.1, Int.toNat_natCast]

end OpaqueId.Text
