import NameOwners.Dns.Name

/-!
DNS names as text. When a name is written, every label ends in a dot, and the bytes of a label that
are no letters, digits, underscores, inner hyphens or a leading star are escaped with a backslash,
by themselves if they are visible and by three octal digits otherwise. When a name is read, the
final dot may be missing, and labels are restricted to the characters of host and service names,
with the star as first character; a dot inside a label has to be escaped. A name that was given
without the final dot is relative, and absolute otherwise; both have the same labels.

A label that begins with `xn--` is encoded: it is written in the letters that it is decoded to, if
it can be decoded. How labels are decoded is a parameter (`Name.textWith`). A name without encoded
labels has the same text for all of them, which is `Name.text` (`Name.textWith_eq_text`).
-/

namespace NameOwners.Dns

/-! ### Writing -/

def isAlphanumeric (b : UInt8) : Bool :=
  (48 ≤ b && b ≤ 57) || (65 ≤ b && b ≤ 90) || (97 ≤ b && b ≤ 122)

/-- Whether a byte of a label is written as it is: a hyphen unless it comes first, a star only if
it does. -/
def isPlain (first : Bool) (b : UInt8) : Bool :=
  isAlphanumeric b || b = 95 || (b = 45 && !first) || (b = 42 && first)

def byteChar (b : UInt8) : Char :=
  Char.ofNat b.toNat

def octalDigit (n : Nat) : Char :=
  Char.ofNat (48 + n % 8)

def byteChars (first : Bool) (b : UInt8) : List Char :=
  if isPlain first b then [byteChar b]
  else if 0x20 < b ∧ b < 0x7f then ['\\', byteChar b]
  else ['\\', octalDigit (b.toNat / 64), octalDigit (b.toNat / 8), octalDigit b.toNat]

def labelChars : Label → List Char
  | [] => []
  | b :: bs => byteChars true b ++ bs.flatMap (byteChars false)

/-- How a sequence of labels is written, each with a dot at its end; without labels it is a dot. -/
def labelsCharsBy (write : Label → List Char) : List Label → List Char
  | [] => ['.']
  | l :: ls => (l :: ls).flatMap fun l => write l ++ ['.']

def labelsChars (ls : List Label) : List Char :=
  labelsCharsBy labelChars ls

/-- The text of a name without encoded labels, with a dot at its end. -/
def Name.text (n : Name) : String :=
  String.ofList (labelsChars n.labels)

/-! ### Encoded labels -/

def isEncoded (l : Label) : Bool :=
  [120, 110, 45, 45].isPrefixOf l

/-- How a label is written if encoded ones are decoded by `decode`, as far as it can. -/
def labelCharsWith (decode : Label → Option (List Char)) (l : Label) : List Char :=
  if isEncoded l then (decode l).getD (labelChars l) else labelChars l

def Name.textWith (decode : Label → Option (List Char)) (n : Name) : String :=
  String.ofList (labelsCharsBy (labelCharsWith decode) n.labels)

theorem labelsCharsBy_congr {write write' : Label → List Char} {ls : List Label}
    (h : ∀ l ∈ ls, write l = write' l) : labelsCharsBy write ls = labelsCharsBy write' ls := by
  cases ls with
  | nil => rfl
  | cons l ls =>
    have hlabels : (l :: ls).map (fun l => write l ++ ['.']) =
        (l :: ls).map fun l => write' l ++ ['.'] :=
      List.map_congr_left fun l hl => by rw [h l hl]
    rw [labelsCharsBy, labelsCharsBy, List.flatMap_def, List.flatMap_def, hlabels]

/-- Nothing is decoded in a name without encoded labels. -/
theorem Name.textWith_eq_text {n : Name} (h : ∀ l ∈ n.labels, isEncoded l = false)
    (decode : Label → Option (List Char)) : n.textWith decode = n.text := by
  have hwritten : ∀ l ∈ n.labels, labelCharsWith decode l = labelChars l := by
    intro l hl
    rw [labelCharsWith, h l hl]
    rfl
  rw [textWith, labelsCharsBy_congr hwritten]
  rfl

/-! ### Reading -/

def octalValue? (c : Char) : Option Nat :=
  if '0' ≤ c ∧ c ≤ '7' then some (c.toNat - 48) else none

/-- The last label, unless nothing was read of it. The characters come last to first. -/
def lastLabel (current : List Char) : List (List Char) :=
  if current.isEmpty then [] else [current.reverse]

/-- The labels of a text, where `current` holds what was read of the current one, last to first. A
dot ends a label that must not be empty. A digit after a backslash begins an escape of three octal
digits; an escape that is cut off at the end is dropped. -/
def splitLabels (current : List Char) : List Char → Option (List (List Char))
  | [] => some (lastLabel current)
  | '.' :: cs =>
    if current.isEmpty then none else (splitLabels [] cs).map (current.reverse :: ·)
  | '\\' :: cs =>
    match cs with
    | [] => some (lastLabel current)
    | a :: cs =>
      if '0' ≤ a ∧ a ≤ '9' then
        match octalValue? a, cs with
        | none, _ => none
        | some _, [] => some (lastLabel current)
        | some _, [b] => (octalValue? b).map fun _ => lastLabel current
        | some a, b :: c :: cs =>
          match octalValue? b, octalValue? c with
          | some b, some c => splitLabels (Char.ofNat (a * 64 + b * 8 + c) :: current) cs
          | _, _ => none
      else splitLabels (a :: current) cs
  | c :: cs => splitLabels (c :: current) cs

/-- Whether a character may stand in a label that is read: a letter, digit, underscore or escaped
dot anywhere, a star at the beginning and a hyphen after it. -/
def isLabelChar (first : Bool) (c : Char) : Bool :=
  c.isAlphanum || c = '_' || c = '.' || (c = '*' && first) || (c = '-' && !first)

def label? : List Char → Option Label
  | [] => none
  | c :: cs =>
    if isLabelChar true c && cs.all (isLabelChar false) then
      some ((c :: cs).map fun c => c.toNat.toUInt8)
    else none

/-- The name that a text stands for. The empty text and a single dot are the root. -/
def Name.read? (text : String) : Option Name :=
  if text = "." then some Name.root
  else do
    let labels ← splitLabels [] text.toList
    Name.ofLabels? (← labels.mapM label?)

/-! ### Absolute and relative names -/

/-- A name as it was given: absolute if it was given up to the root, with a dot at its end, and
relative otherwise. -/
structure GivenName extends Name where
  isAbsolute : Bool
deriving DecidableEq

namespace GivenName

/-- The text of a name as it was given. Of the relative names only the root ends in a dot. -/
def text (n : GivenName) : String :=
  if n.isAbsolute || n.labels.isEmpty then n.toName.text
  else String.ofList (labelsChars n.labels).dropLast

/-- The name that a text stands for, absolute if the text ends in a dot. -/
def read? (text : String) : Option GivenName :=
  (Name.read? text).map fun name => ⟨name, text.toList.getLast? = some '.'⟩

def lower (n : GivenName) : GivenName :=
  ⟨n.toName.lower, n.isAbsolute⟩

def absolute (n : GivenName) : GivenName :=
  ⟨n.toName, true⟩

/-- The text that a name is looked up under, whatever the case of its letters and however it was
given. -/
def query (n : GivenName) : String :=
  n.lower.absolute.text

/-- The text that a name is looked up under if encoded labels are decoded by `decode`. -/
def queryWith (decode : Label → Option (List Char)) (n : GivenName) : String :=
  n.toName.lower.textWith decode

theorem query_eq (n : GivenName) : n.query = n.toName.lower.text := rfl

theorem queryWith_eq_query {n : GivenName} (h : ∀ l ∈ n.lower.labels, isEncoded l = false)
    (decode : Label → Option (List Char)) : n.queryWith decode = n.query :=
  Name.textWith_eq_text h decode

end GivenName

end NameOwners.Dns
