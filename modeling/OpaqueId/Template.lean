/-! # Templates: the text form of an identifier scheme

    A template reads `<stem>.<generator><classes>[k]`.  The stem is any text
    and may hold dots itself, so the last dot divides; the generator is one
    of `r`, `s`, `z`; the mask is one or more of the classes `e` and `d`;
    a trailing `k` asks for a check symbol.

    `Template.parse` reads the text and names the first thing missing, and
    `Template.render` writes it.  Main statement: `mask_ne_nil_of_parse`, a
    template that was read has a class to show for it. -/

namespace OpaqueId

/-- How the sequence values of a template are handed out. -/
inductive Generator where
  /-- written `r`: as many identifiers as the mask holds; the caller picks values -/
  | random
  /-- written `s`: as many identifiers as the mask holds, in order -/
  | sequential
  /-- written `z`: in order, growing to the left once the mask is full -/
  | extensible
deriving DecidableEq

namespace Generator

def toChar : Generator → Char
  | .random => 'r'
  | .sequential => 's'
  | .extensible => 'z'

def ofChar? (c : Char) : Option Generator :=
  if c = 'r' then some .random
  else if c = 's' then some .sequential
  else if c = 'z' then some .extensible
  else none

/-- Whether identifiers may be longer than the mask. -/
def isExtensible : Generator → Bool
  | .extensible => true
  | _ => false

def name : Generator → String
  | .random => "random"
  | .sequential => "sequential"
  | .extensible => "sequential-extensible"

theorem ofChar?_eq_some_iff (c : Char) (g : Generator) :
    ofChar? c = some g ↔ c = g.toChar := by
  unfold ofChar?
  constructor
  · intro h
    split at h
    · cases h; assumption
    · split at h
      · cases h; assumption
      · split at h
        · cases h; assumption
        · cases h
  · rintro rfl
    cases g <;> rfl

end Generator

/-- The characters that one position of a mask allows. -/
inductive SymbolClass where
  /-- written `e`: any symbol of the alphabet -/
  | extended
  /-- written `d`: a decimal digit -/
  | decimal
deriving DecidableEq

namespace SymbolClass

def toChar : SymbolClass → Char
  | .extended => 'e'
  | .decimal => 'd'

def ofChar? (c : Char) : Option SymbolClass :=
  if c = 'e' then some .extended
  else if c = 'd' then some .decimal
  else none

theorem ofChar?_eq_some_iff (c : Char) (k : SymbolClass) :
    ofChar? c = some k ↔ c = k.toChar := by
  unfold ofChar?
  constructor
  · intro h
    split at h
    · cases h; assumption
    · split at h
      · cases h; assumption
      · cases h
  · rintro rfl
    cases k <;> rfl

end SymbolClass

/-- The parts of a template.  One that was read from a text has a non-empty
    mask (`Template.mask_ne_nil_of_parse`). -/
structure Template where
  stem : String
  generator : Generator
  mask : List SymbolClass
  checked : Bool
deriving DecidableEq

/-- Divides a text at its last dot, which belongs to neither part. -/
def splitAtLastDot (text : List Char) : Option (List Char × List Char) :=
  let step (c : Char) : List Char ⊕ List Char × List Char → List Char ⊕ List Char × List Char
    | .inl tail => if c = '.' then .inr ([], tail) else .inl (c :: tail)
    | .inr (front, tail) => .inr (c :: front, tail)
  match text.foldr step (.inl []) with
  | .inl _ => none
  | .inr parts => some parts

/-- Takes one trailing `k` off a text and says whether there was one. -/
def stripCheckMark (text : List Char) : List Char × Bool :=
  if text.getLast? = some 'k' then (text.dropLast, true) else (text, false)

namespace Template

/-- Why a text is no template. -/
inductive Fault where
  | noDot
  | noGenerator
  | unknownGenerator (character : Char)
  | noClass
  | unknownClass (character : Char)
deriving DecidableEq

/-- The wording of a fault. -/
def Fault.reason : Fault → String
  | .noDot => "missing '.' between prefix and mask"
  | .noGenerator => "missing generator"
  | .unknownGenerator c => "unknown generator '" ++ String.singleton c ++ "'"
  | .noClass => "mask needs at least one character class"
  | .unknownClass c => "unknown character class '" ++ String.singleton c ++ "'"

/-- Reads one class, or refuses its character. -/
def readClass (c : Char) : Except Fault SymbolClass :=
  match SymbolClass.ofChar? c with
  | some k => .ok k
  | none => .error (.unknownClass c)

/-- Reads what follows the last dot, given what stands before it. -/
def parseMask (stem : List Char) : (mask : List Char) → Except Fault Template
  | [] => .error .noGenerator
  | g :: rest =>
    match Generator.ofChar? g with
    | none => .error (.unknownGenerator g)
    | some generator =>
      match stripCheckMark rest with
      | ([], _) => .error .noClass
      | (classes, checked) =>
        match classes.mapM readClass with
        | .error fault => .error fault
        | .ok mask => .ok ⟨String.ofList stem, generator, mask, checked⟩

/-- Reads a template.  Faults are looked for from the left, except that the
    mask must have a class before any of its characters is read as one. -/
def parse (text : String) : Except Fault Template :=
  match splitAtLastDot text.toList with
  | none => .error .noDot
  | some (stem, mask) => parseMask stem mask

/-- The classes of the mask as letters. -/
def classText (t : Template) : List Char := t.mask.map SymbolClass.toChar

/-- Writes a template. -/
def render (t : Template) : String :=
  String.ofList (t.stem.toList ++ '.' :: t.generator.toChar :: t.classText
    ++ (if t.checked then ['k'] else []))

/-- Reading a list of classes keeps its length. -/
theorem length_of_mapM_readClass {classes : List Char} {mask : List SymbolClass}
    (h : classes.mapM readClass = .ok mask) : mask.length = classes.length := by
  induction classes generalizing mask with
  | nil =>
      rw [List.mapM_nil] at h
      cases h
      rfl
  | cons c rest ih =>
      rw [List.mapM_cons] at h
      cases hc : readClass c with
      | error e => rw [hc] at h; cases h
      | ok k =>
          rw [hc] at h
          cases hr : rest.mapM readClass with
          | error e => rw [hr] at h; cases h
          | ok ks =>
              rw [hr] at h
              cases h
              simp [ih hr]

/-- The mask of a template that was read is not empty. -/
theorem mask_ne_nil_of_parse {text : String} {t : Template} (h : parse text = .ok t) :
    t.mask ≠ [] := by
  unfold parse at h
  split at h
  · cases h
  · rename_i stem mask _
    unfold parseMask at h
    split at h
    · cases h
    · split at h
      · cases h
      · split at h
        · cases h
        · rename_i classes _ hne _
          split at h
          · cases h
          · rename_i ks hks
            cases h
            intro hnil
            have hlen := length_of_mapM_readClass hks
            simp only at hnil
            rw [hnil] at hlen
            exact hne (List.eq_nil_of_length_eq_zero hlen.symm)

end Template

end OpaqueId
