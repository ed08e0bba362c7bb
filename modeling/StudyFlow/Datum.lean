import StudyFlow.Number.Shortest

/-!
Untyped data: what a settings section may hold besides the fields that are known. A record keeps one
value per key, sorted by key.
-/

namespace StudyFlow

/-- A value without a type of its own. -/
inductive Datum where
  | null
  | bool (value : Bool)
  | int (value : Int)
  | float (value : Binary64)
  | text (value : String)
  | list (items : List Datum)
  | record (fields : List (String × Datum))
  deriving Inhabited

/-- Puts a value under a key; a key that is there already gets the new value. -/
def Datum.insertField (key : String) (value : Datum) : List (String × Datum) → List (String × Datum)
  | [] => [(key, value)]
  | (k, v) :: rest =>
    if k == key then (key, value) :: rest
    else if key < k then (key, value) :: (k, v) :: rest
    else (k, v) :: Datum.insertField key value rest

/-- Further settings: values by key, sorted by key. -/
abbrev Extras := List (String × Datum)

end StudyFlow
