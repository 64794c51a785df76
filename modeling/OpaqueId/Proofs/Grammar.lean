import Mathlib.Data.List.Basic
import Mathlib.Data.Set.List
import OpaqueId.Scheme

/-! # Grammar: which texts are templates

    A text is a template if it can be divided into a stem, a dot, the letter of
    a generator, one or more letters of classes and at most one `k`
    (`Template.Parts.Spell`).

    The division is unique, whatever the stem looks like (`Parts.Spell.unique`).
    What follows the last dot is determined by the text (`AfterLastDot.unique`),
    and so is what is left of it without a check mark (`Leaves.unique`); and
    neither a dot nor a `k` can be the letter of a class, so the parts have
    their mask behind the last dot and their classes in front of the check mark
    (`Parts.Spell.afterLastDot`). -/

namespace OpaqueId

/-! ## The last dot -/

/-- The mask is what follows the last dot of the text. -/
def AfterLastDot (text mask : List Char) : Prop :=
  ∃ stem, text = stem ++ '.' :: mask ∧ '.' ∉ mask

/-- There is nothing else behind the last dot. -/
theorem AfterLastDot.unique {text mask mask' : List Char} (h : AfterLastDot text mask)
    (h' : AfterLastDot text mask') : mask = mask' := by
  obtain ⟨stem, rfl, hmask⟩ := h
  obtain ⟨stem', heq, hmask'⟩ := h'
  -- a longer stem would have to hold the other dot
  rcases List.append_eq_append_iff.mp heq with ⟨mid, -, hmid⟩ | ⟨mid, -, hmid⟩
  · cases mid with
    | nil => exact (List.cons.inj hmid).2
    | cons c mid =>
        obtain ⟨-, hrest⟩ := List.cons.inj hmid
        exact absurd (by rw [hrest]; simp) hmask
  · cases mid with
    | nil => exact (List.cons.inj hmid).2.symm
    | cons c mid =>
        obtain ⟨-, hrest⟩ := List.cons.inj hmid
        exact absurd (by rw [hrest]; simp) hmask'

theorem AfterLastDot.mem {text mask : List Char} (h : AfterLastDot text mask) : '.' ∈ text := by
  obtain ⟨stem, rfl, -⟩ := h
  exact List.mem_append_right _ (List.mem_cons_self ..)

/-! ## The check mark -/

/-- How a template asks for a check symbol, or does not. -/
def checkMark (checked : Bool) : List Char := if checked then ['k'] else []

/-- What is left of a text without the `k` at its end; a text that does not end
    in `k` is left as it is. -/
def Leaves (text classes : List Char) : Prop :=
  text = classes ++ ['k'] ∨ text = classes ∧ text.getLast? ≠ some 'k'

/-- A check mark is taken off in one way only. -/
theorem Leaves.unique {text classes classes' : List Char} (h : Leaves text classes)
    (h' : Leaves text classes') : classes = classes' := by
  rcases h with rfl | ⟨rfl, hlast⟩
  · rcases h' with heq | ⟨-, hlast⟩
    · exact List.append_cancel_right heq
    · exact absurd List.getLast?_concat hlast
  · rcases h' with rfl | ⟨rfl, -⟩
    · exact absurd List.getLast?_concat hlast
    · rfl

/-- Classes without a `k` are what is left of themselves with or without a check
    mark. -/
theorem leaves_append_checkMark {classes : List Char} (h : 'k' ∉ classes) (checked : Bool) :
    Leaves (classes ++ checkMark checked) classes := by
  cases checked with
  | true => exact Or.inl rfl
  | false =>
      refine Or.inr ⟨List.append_nil classes, fun hlast => h ?_⟩
      rw [checkMark, if_neg Bool.false_ne_true, List.append_nil] at hlast
      exact List.mem_of_getLast? hlast

/-! ## The letters -/

/-- The letters of the generators. -/
def Generator.letters : List Char := ['r', 's', 'z']

/-- The letters of the classes. -/
def SymbolClass.letters : List Char := ['e', 'd']

/-- Every letter stands for a generator. -/
theorem Generator.mem_letters_iff (c : Char) :
    c ∈ letters ↔ ∃ g : Generator, g.toChar = c := by
  constructor
  · intro h
    simp only [letters, List.mem_cons, List.not_mem_nil, or_false] at h
    rcases h with rfl | rfl | rfl
    · exact ⟨.random, rfl⟩
    · exact ⟨.sequential, rfl⟩
    · exact ⟨.extensible, rfl⟩
  · rintro ⟨g, rfl⟩
    cases g <;> decide

/-- Every letter stands for a class. -/
theorem SymbolClass.mem_letters_iff (c : Char) :
    c ∈ letters ↔ ∃ k : SymbolClass, k.toChar = c := by
  constructor
  · intro h
    simp only [letters, List.mem_cons, List.not_mem_nil, or_false] at h
    rcases h with rfl | rfl
    · exact ⟨.extended, rfl⟩
    · exact ⟨.decimal, rfl⟩
  · rintro ⟨k, rfl⟩
    cases k <;> decide

theorem Generator.ofChar?_eq_none_iff (c : Char) : ofChar? c = none ↔ c ∉ letters := by
  rw [Option.eq_none_iff_forall_ne_some, mem_letters_iff, not_exists]
  refine forall_congr' fun g => ?_
  rw [Ne, ofChar?_eq_some_iff, eq_comm]

theorem SymbolClass.ofChar?_eq_none_iff (c : Char) : ofChar? c = none ↔ c ∉ letters := by
  rw [Option.eq_none_iff_forall_ne_some, mem_letters_iff, not_exists]
  refine forall_congr' fun k => ?_
  rw [Ne, ofChar?_eq_some_iff, eq_comm]

theorem Generator.toChar_injective : Function.Injective Generator.toChar := by
  intro g h hsame
  cases g <;> cases h <;> first | rfl | exact absurd hsame (by decide)

theorem SymbolClass.toChar_injective : Function.Injective SymbolClass.toChar := by
  intro k l hsame
  cases k <;> cases l <;> first | rfl | exact absurd hsame (by decide)

/-- Letters of classes are the letters of a list of classes. -/
theorem SymbolClass.exists_map_toChar_iff (text : List Char) :
    (∃ mask : List SymbolClass, mask.map toChar = text) ↔ ∀ c ∈ text, c ∈ letters := by
  simp only [mem_letters_iff]
  exact Set.ext_iff.mp (Set.range_list_map toChar) text

namespace Template

/-- A mask is written with the letters of classes. -/
theorem classText_mem (t : Template) : ∀ c ∈ t.classText, c ∈ SymbolClass.letters :=
  (SymbolClass.exists_map_toChar_iff t.classText).mp ⟨t.mask, rfl⟩

/-! ## Parts -/

/-- The parts of a text in the form of a template, as they are written. -/
structure Parts where
  stem : List Char
  generator : Char
  classes : List Char
  mark : List Char
deriving DecidableEq

/-- The parts follow the grammar, and written one after the other they are the
    text. -/
structure Parts.Spell (p : Parts) (text : List Char) : Prop where
  text_eq : text = p.stem ++ '.' :: p.generator :: p.classes ++ p.mark
  generator_mem : p.generator ∈ Generator.letters
  classes_ne_nil : p.classes ≠ []
  classes_mem : ∀ c ∈ p.classes, c ∈ SymbolClass.letters
  mark_eq : p.mark = [] ∨ p.mark = ['k']

/-- The parts with which a template is written. -/
def parts (t : Template) : Parts :=
  ⟨t.stem.toList, t.generator.toChar, t.classText, checkMark t.checked⟩

/-- A template is written part by part. -/
theorem toList_render (t : Template) :
    t.render.toList =
      t.parts.stem ++ '.' :: t.parts.generator :: t.parts.classes ++ t.parts.mark := by
  rw [render, String.toList_ofList]
  rfl

/-- A template spells a text if it has a class and is written so. -/
theorem spell_parts_iff (t : Template) (text : List Char) :
    t.parts.Spell text ↔ t.mask ≠ [] ∧ text = t.render.toList := by
  have hclasses : t.parts.classes ≠ [] ↔ t.mask ≠ [] := by
    rw [Ne, Ne, parts, classText, List.map_eq_nil_iff]
  constructor
  · intro h
    exact ⟨hclasses.mp h.classes_ne_nil, h.text_eq.trans t.toList_render.symm⟩
  · rintro ⟨hmask, htext⟩
    refine ⟨htext.trans t.toList_render, (Generator.mem_letters_iff _).mpr ⟨_, rfl⟩,
      hclasses.mpr hmask, t.classText_mem, ?_⟩
    cases hchecked : t.checked with
    | true => exact Or.inr (by rw [parts, hchecked]; rfl)
    | false => exact Or.inl (by rw [parts, hchecked]; rfl)

/-- The mark of spelled parts is one that a template can have. -/
theorem Parts.Spell.exists_checkMark {p : Parts} {text : List Char} (h : p.Spell text) :
    ∃ checked, checkMark checked = p.mark := by
  rcases h.mark_eq with hmark | hmark
  · exact ⟨false, hmark.symm⟩
  · exact ⟨true, hmark.symm⟩

/-- Parts that follow the grammar are those of a template. -/
theorem Parts.Spell.exists_template {p : Parts} {text : List Char} (h : p.Spell text) :
    ∃ t : Template, t.parts = p := by
  obtain ⟨g, hg⟩ := (Generator.mem_letters_iff _).mp h.generator_mem
  obtain ⟨mask, hmask⟩ := (SymbolClass.exists_map_toChar_iff _).mpr h.classes_mem
  obtain ⟨checked, hchecked⟩ := h.exists_checkMark
  refine ⟨⟨String.ofList p.stem, g, mask, checked⟩, ?_⟩
  simp only [parts, classText, String.toList_ofList, hg, hmask, hchecked]

/-- The parts of a text are what the reader looks for: the mask behind the last
    dot, a letter, and the rest without its check mark. -/
theorem Parts.Spell.afterLastDot {p : Parts} {text : List Char} (h : p.Spell text) :
    AfterLastDot text (p.generator :: (p.classes ++ p.mark)) ∧
      Leaves (p.classes ++ p.mark) p.classes := by
  have hk : 'k' ∉ p.classes := fun hmem => absurd (h.classes_mem _ hmem) (by decide)
  have hdot : '.' ∉ p.classes := fun hmem => absurd (h.classes_mem _ hmem) (by decide)
  have hgenerator : '.' ≠ p.generator := by
    intro heq
    exact absurd h.generator_mem (by rw [← heq]; decide)
  obtain ⟨checked, hmark⟩ := h.exists_checkMark
  rw [← hmark]
  constructor
  · refine ⟨p.stem, by rw [h.text_eq, hmark]; simp, ?_⟩
    have hdot' : '.' ∉ checkMark checked := by cases checked <;> decide
    simp [hgenerator, hdot, hdot']
  · exact leaves_append_checkMark hk checked

/-- A text has one division into parts. -/
theorem Parts.Spell.unique {p q : Parts} {text : List Char} (hp : p.Spell text)
    (hq : q.Spell text) : p = q := by
  obtain ⟨hmask, hclasses⟩ := hp.afterLastDot
  obtain ⟨hmask', hclasses'⟩ := hq.afterLastDot
  obtain ⟨hgenerator, hrest⟩ := List.cons.inj (hmask.unique hmask')
  rw [hrest] at hclasses
  have hsame := hclasses.unique hclasses'
  have hmark : p.mark = q.mark := by
    rw [hsame] at hrest
    exact List.append_cancel_left hrest
  have htext := hp.text_eq.symm.trans hq.text_eq
  rw [hgenerator, hsame, hmark] at htext
  have hstem : p.stem = q.stem := by simpa using htext
  cases p
  cases q
  simp_all

/-- Templates with the same parts are the same. -/
theorem parts_injective {t u : Template} (h : t.parts = u.parts) : t = u := by
  obtain ⟨hstem, hgenerator, hclasses, hmark⟩ := Parts.mk.inj h
  have hchecked : t.checked = u.checked := by
    cases ht : t.checked <;> cases hu : u.checked <;> simp_all [checkMark]
  have hstem' := String.toList_injective hstem
  have hgenerator' := Generator.toChar_injective hgenerator
  have hmask := List.map_injective_iff.mpr SymbolClass.toChar_injective hclasses
  cases t
  cases u
  simp_all

end Template

end OpaqueId
