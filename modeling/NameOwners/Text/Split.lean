/-!
Splitting a text at every occurrence of a character. The parts put together again give the text
(`join_splitAt`), and no part contains the separator.
-/

namespace NameOwners.Text

def splitFrom (separator : Char) (current : List Char) : List Char → List (List Char)
  | [] => [current.reverse]
  | c :: cs =>
    if c = separator then current.reverse :: splitFrom separator [] cs
    else splitFrom separator (c :: current) cs

def splitAt (separator : Char) (cs : List Char) : List (List Char) :=
  splitFrom separator [] cs

def join (separator : Char) : List (List Char) → List Char
  | [] => []
  | [cs] => cs
  | cs :: ds :: rest => cs ++ separator :: join separator (ds :: rest)

theorem splitFrom_ne_nil (separator : Char) (cs : List Char) :
    ∀ current, splitFrom separator current cs ≠ [] := by
  induction cs with
  | nil => simp [splitFrom]
  | cons c cs ih =>
    intro current
    unfold splitFrom
    split
    · simp
    · exact ih _

theorem join_cons {separator : Char} {part : List Char} {parts : List (List Char)}
    (h : parts ≠ []) :
    join separator (part :: parts) = part ++ separator :: join separator parts := by
  cases parts with
  | nil => exact absurd rfl h
  | cons => rfl

theorem join_splitFrom (separator : Char) (cs : List Char) :
    ∀ current, join separator (splitFrom separator current cs) = current.reverse ++ cs := by
  induction cs with
  | nil => simp [splitFrom, join]
  | cons c cs ih =>
    intro current
    unfold splitFrom
    split
    · rename_i h
      rw [join_cons (splitFrom_ne_nil separator cs []), ih, h]
      rfl
    · rw [ih]
      simp

theorem join_splitAt (separator : Char) (cs : List Char) :
    join separator (splitAt separator cs) = cs := by
  simp [splitAt, join_splitFrom]

end NameOwners.Text
