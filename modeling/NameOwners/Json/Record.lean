import NameOwners.Json.Error

/-!
Taking JSON values apart. A record is an object with the right keys, or an array with the values of
its fields in order; other keys do not matter. Of the fields that are there the first with a wrong
value is reported, and only then the first that is missing.
-/

namespace NameOwners.Json

variable {α β : Type}

def asString : Json → Except Mismatch String
  | string s => .ok s
  | v => .error (.invalidType v.found "a string")

def asSingle (record key : String) (decode : Json → Except Mismatch α) :
    Json → Except Mismatch α
  | object entries =>
    match Dictionary.find? key entries with
    | some v => decode v
    | none => .error (.missingField key)
  | array [] => .error (.invalidLength 0 (record ++ " with 1 element"))
  | array [v] => decode v
  | array (v :: vs) => do
    let _ ← decode v
    .error (.invalidLength (vs.length + 1) "fewer elements in array")
  | v => .error (.invalidType v.found record)

/-- A record with two fields, the first of which has the smaller key. -/
def asPair (record key₁ key₂ : String) (decode₁ : Json → Except Mismatch α)
    (decode₂ : Json → Except Mismatch β) : Json → Except Mismatch (α × β)
  | object entries => do
    let a ← (Dictionary.find? key₁ entries).mapM decode₁
    let b ← (Dictionary.find? key₂ entries).mapM decode₂
    match a, b with
    | some a, some b => .ok (a, b)
    | none, _ => .error (.missingField key₁)
    | _, none => .error (.missingField key₂)
  | array [] => .error (.invalidLength 0 (record ++ " with 2 elements"))
  | array [v] => do
    let _ ← decode₁ v
    .error (.invalidLength 1 (record ++ " with 2 elements"))
  | array [v, w] => do
    let a ← decode₁ v
    let b ← decode₂ w
    .ok (a, b)
  | array (v :: w :: vs) => do
    let _ ← decode₁ v
    let _ ← decode₂ w
    .error (.invalidLength (vs.length + 2) "fewer elements in array")
  | v => .error (.invalidType v.found record)

end NameOwners.Json
