import Mathlib

/-! JSON documents as trees, and the objects that keep rows under their numbers in decimal. -/

namespace Secupload.Library

inductive Json
  | null
  | bool (b : Bool)
  | int (n : ℤ)
  | str (s : String)
  | obj (fields : List (String × Json))

namespace Json

def field? : Json → String → Option Json
  | obj fields, name => fields.lookup name
  | _, _ => none

def bool? : Json → Option Bool
  | bool b => some b
  | _ => none

def int? : Json → Option ℤ
  | int n => some n
  | _ => none

def str? : Json → Option String
  | str s => some s
  | _ => none

def ofOption : Option ℤ → Json
  | none => null
  | some n => int n

-- a number that may be null, or missing
def option? (j : Json) (name : String) : Option (Option ℤ) :=
  match j.field? name with
  | none | some null => some none
  | some (int n) => some (some n)
  | some _ => none

lemma option?_ofOption {j : Json} {name : String} {n : Option ℤ} (h : j.field? name = some (ofOption n)) :
    j.option? name = some n := by
  rw [option?, h]
  cases n <;> rfl

section Keyed

variable {α : Type}

def keyed (number : α → ℤ) (entry : α → Json) (rows : List α) : Json :=
  obj (rows.map fun r => (toString (number r), entry r))

def keyed? (row : ℤ → Json → Option α) : Json → Option (List α)
  | obj fields => fields.mapM fun field => do row (← field.1.toInt?) field.2
  | _ => none

lemma toInt?_toString (n : ℤ) : (toString n).toInt? = some n := Int.toInt?_repr n

lemma keyed?_keyed {number : α → ℤ} {entry : α → Json} {row : ℤ → Json → Option α} {rows : List α}
    (h : ∀ r ∈ rows, row (number r) (entry r) = some r) :
    keyed? row (keyed number entry rows) = some rows := by
  rw [keyed, keyed?]
  induction rows with
  | nil => rfl
  | cons r rows ih =>
    have hrest := ih fun s hs => h s (List.mem_cons_of_mem r hs)
    rw [List.map_cons, List.mapM_cons, hrest, toInt?_toString]
    simp only [Option.bind_eq_bind, Option.bind_some, h r List.mem_cons_self]
    rfl

end Keyed

end Json

end Secupload.Library
