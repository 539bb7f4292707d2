import NameOwners.Proofs.Json.Written
import NameOwners.Proofs.Text.Reading

/-!
The grammar of JSON texts, apart from any reader: blanks around every part, strings
with all their escapes, numbers of any size, and arrays and objects nested to any
depth (`IsText`). A text need not stand for a value that a reader gives: an escape may
be half a surrogate pair, and a number may be out of range. A string that is asked for
has to spell its characters (`IsStringText`).

What may follow a value decides where the value ends (`Ends`): a number goes on as long
as there are digits. So a reader is said to take a text for a value (`Reads`) if it does
so whatever blanks stand before it, and whatever follows that may end a value.
-/

namespace NameOwners.Json

open Reader (isSpace peek)
open Text (lead listed join_eq_listed)

/-! ### Parts with blanks around them -/

structure Blanks where
  chars : List Char
  isSpace_of_mem : ∀ c ∈ chars, isSpace c = true

def Blanks.none : Blanks := ⟨[], nofun⟩

theorem Blanks.dropWhile_append (b : Blanks) (cs : List Char) :
    (b.chars ++ cs).dropWhile isSpace = cs.dropWhile isSpace :=
  List.dropWhile_append_of_pos b.isSpace_of_mem

structure Padded where
  before : Blanks
  core : List Char
  after : Blanks

namespace Padded

def chars (p : Padded) : List Char :=
  p.before.chars ++ (p.core ++ p.after.chars)

def plain (core : List Char) : Padded := ⟨.none, core, .none⟩

@[simp] theorem chars_plain (core : List Char) : (plain core).chars = core := by
  simp [chars, plain, Blanks.none]

end Padded

structure Entry where
  key : Padded
  value : Padded

def Entry.chars (e : Entry) : List Char :=
  e.key.chars ++ ':' :: e.value.chars

def arrayText (gap : Blanks) (elements : List Padded) : List Char :=
  '[' :: (gap.chars ++ (Text.join ',' (elements.map Padded.chars) ++ [']']))

def objectText (gap : Blanks) (entries : List Entry) : List Char :=
  '{' :: (gap.chars ++ (Text.join ',' (entries.map Entry.chars) ++ ['}']))

/-! ### Texts of values -/

def IsHexNumber (c₁ c₂ c₃ c₄ : Char) (n : Nat) : Prop :=
  (∀ c ∈ [c₁, c₂, c₃, c₄], Text.isDigit 16 c = true) ∧ Text.digitsValue 16 [c₁, c₂, c₃, c₄] = n

inductive IsStringBody : List Char → Prop
  | nil : IsStringBody []
  | plain {c : Char} {cs : List Char} (hquote : c ≠ '"') (hslash : c ≠ '\\')
      (hcontrol : ¬c.toNat < 0x20) (hcs : IsStringBody cs) : IsStringBody (c :: cs)
  | short {c : Char} {cs : List Char} (hc : c ∈ ['"', '\\', '/', 'b', 'f', 'n', 'r', 't'])
      (hcs : IsStringBody cs) : IsStringBody ('\\' :: c :: cs)
  | numeric {c₁ c₂ c₃ c₄ : Char} {cs : List Char}
      {n : Nat} (hn : IsHexNumber c₁ c₂ c₃ c₄ n) (hcs : IsStringBody cs) :
      IsStringBody ('\\' :: 'u' :: c₁ :: c₂ :: c₃ :: c₄ :: cs)

/-- The characters that the text between the quotes of a string stands for. A character
that is not among the first 0x10000 may be escaped as a pair of surrogates. -/
inductive Spells : List Char → List Char → Prop
  | nil : Spells [] []
  | plain {c : Char} {cs ds : List Char} (hquote : c ≠ '"') (hslash : c ≠ '\\')
      (hcontrol : ¬c.toNat < 0x20) (hcs : Spells cs ds) : Spells (c :: cs) (c :: ds)
  | short {c d : Char} {cs ds : List Char}
      (hc : (c, d) ∈ [('"', '"'), ('\\', '\\'), ('/', '/'), ('b', '\x08'), ('f', '\x0c'),
        ('n', '\n'), ('r', '\r'), ('t', '\t')])
      (hcs : Spells cs ds) : Spells ('\\' :: c :: cs) (d :: ds)
  | numeric {c₁ c₂ c₃ c₄ : Char} {n : Nat} {cs ds : List Char}
      (hn : IsHexNumber c₁ c₂ c₃ c₄ n) (hchar : n < 0xd800 ∨ 0xdfff < n) (hcs : Spells cs ds) :
      Spells ('\\' :: 'u' :: c₁ :: c₂ :: c₃ :: c₄ :: cs) (Char.ofNat n :: ds)
  | pair {c₁ c₂ c₃ c₄ d₁ d₂ d₃ d₄ : Char} {n m : Nat} {cs ds : List Char}
      (hn : IsHexNumber c₁ c₂ c₃ c₄ n) (hleading : 0xd800 ≤ n ∧ n ≤ 0xdbff)
      (hm : IsHexNumber d₁ d₂ d₃ d₄ m) (htrailing : 0xdc00 ≤ m ∧ m ≤ 0xdfff)
      (hcs : Spells cs ds) :
      Spells ('\\' :: 'u' :: c₁ :: c₂ :: c₃ :: c₄ :: '\\' :: 'u' :: d₁ :: d₂ :: d₃ :: d₄ :: cs)
        (Char.ofNat (0x10000 + (n - 0xd800) * 0x400 + (m - 0xdc00)) :: ds)

def IsStringText (s : String) (cs : List Char) : Prop :=
  ∃ body, cs = '"' :: (body ++ ['"']) ∧ Spells body s.toList

def IsDigits (cs : List Char) : Prop :=
  cs ≠ [] ∧ ∀ c ∈ cs, Scan.isDigit c = true

inductive IsFraction : List Char → Prop
  | absent : IsFraction []
  | point {ds : List Char} (hds : IsDigits ds) : IsFraction ('.' :: ds)

inductive IsExponent : List Char → Prop
  | absent : IsExponent []
  | mark {c : Char} {sign ds : List Char} (hc : c = 'e' ∨ c = 'E')
      (hsign : sign ∈ [[], ['+'], ['-']]) (hds : IsDigits ds) : IsExponent (c :: (sign ++ ds))

/-- A number. Its whole part begins with a zero only if that is all of it. -/
inductive IsNumber : List Char → Prop
  | intro {sign whole fraction exponent : List Char} (hsign : sign ∈ [[], ['-']])
      (hwhole : IsDigits whole) (hzero : whole.head? = some '0' → whole = ['0'])
      (hfraction : IsFraction fraction) (hexponent : IsExponent exponent) :
      IsNumber (sign ++ (whole ++ (fraction ++ exponent)))

/-- The text of a value, without the blanks around it. -/
inductive IsText : List Char → Prop
  | null : IsText ['n', 'u', 'l', 'l']
  | true : IsText ['t', 'r', 'u', 'e']
  | false : IsText ['f', 'a', 'l', 's', 'e']
  | number {cs : List Char} (hcs : IsNumber cs) : IsText cs
  | string {body : List Char} (hbody : IsStringBody body) : IsText ('"' :: (body ++ ['"']))
  | array (gap : Blanks) {elements : List Padded} (helements : ∀ e ∈ elements, IsText e.core) :
      IsText (arrayText gap elements)
  | object (gap : Blanks) {entries : List Entry}
      (hkeys : ∀ e ∈ entries, ∃ body, IsStringBody body ∧ e.key.core = '"' :: (body ++ ['"']))
      (hvalues : ∀ e ∈ entries, IsText e.value.core) : IsText (objectText gap entries)

/-! ### Digits -/

theorem ne_of_isDigit {c d : Char} (hd : Scan.isDigit d = true) (hc : Scan.isDigit c = false) :
    d ≠ c := by
  rintro rfl
  exact absurd hd (by simp [hc])

theorem isSpace_of_isDigit {d : Char} (hd : Scan.isDigit d = true) : isSpace d = false := by
  simp [isSpace, ne_of_isDigit hd (c := ' ') (by decide), ne_of_isDigit hd (c := '\t') (by decide),
    ne_of_isDigit hd (c := '\n') (by decide), ne_of_isDigit hd (c := '\r') (by decide)]

theorem dropWhile_digits {ds : List Char} (hds : IsDigits ds) {rest : List Char}
    (hrest : ∀ c ∈ rest.head?, Scan.isDigit c = false) :
    (ds ++ rest).dropWhile Scan.isDigit = rest :=
  Text.dropWhile_append_of_stop hds.2 hrest

theorem head?_digits {ds : List Char} (hds : IsDigits ds) (rest : List Char) :
    ∃ d, (ds ++ rest).head? = some d ∧ Scan.isDigit d = true := by
  obtain ⟨d, more, rfl⟩ := List.exists_cons_of_ne_nil hds.1
  exact ⟨d, rfl, hds.2 d List.mem_cons_self⟩

theorem IsHexNumber.hexNumber_eq {c₁ c₂ c₃ c₄ : Char} {n : Nat} (h : IsHexNumber c₁ c₂ c₃ c₄ n)
    (rest : List Char) : Scan.hexNumber (c₁ :: c₂ :: c₃ :: c₄ :: rest) = .ok n := by
  obtain ⟨hdigits, rfl⟩ := h
  have hvalue (c : Char) (hc : c ∈ [c₁, c₂, c₃, c₄]) : ∃ v, Text.digitValue? 16 c = some v :=
    Option.isSome_iff_exists.1 (hdigits c hc)
  obtain ⟨v₁, h₁⟩ := hvalue c₁ (by simp)
  obtain ⟨v₂, h₂⟩ := hvalue c₂ (by simp)
  obtain ⟨v₃, h₃⟩ := hvalue c₃ (by simp)
  obtain ⟨v₄, h₄⟩ := hvalue c₄ (by simp)
  simp [Scan.hexNumber, Text.digitsValue, h₁, h₂, h₃, h₄]

/-- A number without a zero before its digits does not look like one with a zero. -/
theorem not_leading_zero {d : Char} {ds rest : List Char}
    (hzero : (d :: ds).head? = some '0' → d :: ds = ['0'])
    (hrest : ∀ c ∈ rest.head?, Scan.isDigit c = false) :
    ¬(d = '0' ∧ (ds ++ rest).head?.any Scan.isDigit = true) := by
  rintro ⟨rfl, hany⟩
  obtain rfl := (List.cons.inj (hzero rfl)).2
  obtain ⟨c, hc, hdigit⟩ := (Option.any_eq_true _ _).1 hany
  exact absurd hdigit (by simp [hrest c hc])

/-! ### What stands before and after a value -/

/-- The beginning of a value: neither a blank nor the end of an array. -/
def Starts (cs : List Char) : Prop :=
  ∃ c ∈ cs.head?, isSpace c = false ∧ c ≠ ']'

/-- What may follow a value: nothing, a blank, or the comma or bracket after it. -/
def Ends (rest : List Char) : Prop :=
  ∀ c ∈ rest.head?, isSpace c = true ∨ c = ',' ∨ c = ']' ∨ c = '}'

theorem ends_nil : Ends [] := nofun

theorem ends_cons {c : Char} (hc : c = ',' ∨ c = ']' ∨ c = '}') (cs : List Char) :
    Ends (c :: cs) := by
  rintro _ ⟨⟩
  exact .inr hc

theorem Ends.blanks {rest : List Char} (h : Ends rest) (b : Blanks) : Ends (b.chars ++ rest) := by
  cases hb : b.chars with
  | nil => exact h
  | cons c cs =>
      rintro _ ⟨⟩
      exact .inl (b.isSpace_of_mem c (hb ▸ List.mem_cons_self))

/-- What ends a value cannot be taken for a part of a number. -/
theorem Ends.not_number {rest : List Char} (h : Ends rest) :
    ∀ c ∈ rest.head?, Scan.isDigit c = false ∧ c ≠ '.' ∧ c ≠ 'e' ∧ c ≠ 'E' := by
  intro c hc
  rcases h c hc with hspace | rfl | rfl | rfl
  · simp only [isSpace, Bool.or_eq_true, decide_eq_true_eq] at hspace
    rcases hspace with ((rfl | rfl) | rfl) | rfl
    · decide
    · decide
    · decide
    · decide
  · decide
  · decide
  · decide

theorem Starts.dropWhile_append {cs : List Char} (h : Starts cs) (rest : List Char) :
    (cs ++ rest).dropWhile isSpace = cs ++ rest := by
  obtain ⟨c, hc, hspace, -⟩ := h
  cases cs with
  | nil => cases hc
  | cons d cs =>
      obtain rfl := Option.some.inj hc
      exact List.dropWhile_cons_of_neg (by simp [hspace])

/-! ### Parts with commas between them -/

theorem arrayText_append (gap : Blanks) (elements : List Padded) (rest : List Char) :
    arrayText gap elements ++ rest =
      '[' :: (gap.chars ++ (listed ',' true (elements.map Padded.chars) ++ ']' :: rest)) := by
  simp [arrayText, join_eq_listed]

theorem objectText_append (gap : Blanks) (entries : List Entry) (rest : List Char) :
    objectText gap entries ++ rest =
      '{' :: (gap.chars ++ (listed ',' true (entries.map Entry.chars) ++ '}' :: rest)) := by
  simp [objectText, join_eq_listed]

/-- After the first part comes a comma or the closing bracket. -/
theorem ends_listed (parts : List (List Char)) {rest : List Char} (h : Ends rest) :
    Ends (listed ',' false parts ++ rest) := by
  cases parts with
  | nil => exact h
  | cons cs parts => exact ends_cons (.inl rfl) _

/-! ### Reading a part -/

namespace Reader

variable {α β : Type}

theorem bind_congr_left {x : Reader α} {cs cs' : List Char} (h : x cs = x cs')
    (f : α → Reader β) : (x >>= f) cs = (x >>= f) cs' := by
  change (x cs >>= fun p => f p.1 p.2) = (x cs' >>= fun p => f p.1 p.2)
  rw [h]

theorem bind_of_eq_ok {x : Reader α} {cs rest : List Char} {a : α} (h : x cs = .ok (a, rest))
    (f : α → Reader β) : (x >>= f) cs = f a rest := by
  change (x cs >>= fun p => f p.1 p.2) = _
  rw [h]
  rfl

/-- What looks for the next character does not see blanks before it. -/
theorem peek_bind_blanks (f : Option Char → Reader α) (b : Blanks) (cs : List Char) :
    (peek >>= f) (b.chars ++ cs) = (peek >>= f) cs := by
  rw [peek_bind, peek_bind, b.dropWhile_append]

theorem colon_blanks (b : Blanks) (rest : List Char) :
    colon (b.chars ++ ':' :: rest) = .ok ((), rest) :=
  peek_bind_blanks _ b _

/-- A reader takes a text for a value, whatever blanks stand before it and whatever
comes after its end. -/
structure Reads (r : Reader α) (core : List Char) (a : α) : Prop where
  starts : Starts core
  eq_ok : ∀ (before : Blanks) {rest : List Char}, Ends rest →
    r (before.chars ++ (core ++ rest)) = .ok (a, rest)

theorem Reads.padded {r : Reader α} {p : Padded} {a : α} (h : Reads r p.core a)
    {rest : List Char} (hrest : Ends rest) :
    r (p.chars ++ rest) = .ok (a, p.after.chars ++ rest) := by
  rw [Padded.chars, List.append_assoc, List.append_assoc]
  exact h.eq_ok p.before (hrest.blanks p.after)

end Reader

end NameOwners.Json
