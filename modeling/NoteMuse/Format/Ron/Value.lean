/-!
Values as RON writes them: records in parentheses, tuples too, and optional values as `Some(…)` or
`None`.
-/

namespace NoteMuse.Format.Ron

inductive Value where
  | truth (b : Bool)
  | natural (n : Nat)
  | text (s : String)
  | none
  | some (v : Value)
  | list (vs : List Value)
  | tuple (vs : List Value)
  | record (fields : List (String × Value))

end NoteMuse.Format.Ron
