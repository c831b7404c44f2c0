import RemoteSigning.Number.Shortest

/-!
# JSON values

Integers are unbounded and kept apart from numbers with a fraction or an exponent. An object is the list of its members
in the order of their names' first appearance; writing a name again replaces the value.

- `get?_put`: the member written last is the one that is found.
-/

namespace RemoteSigning

/-- A JSON value. -/
inductive Json where
  | null
  | bool (b : Bool)
  | int (n : Int)
  | float (x : Binary64)
  | text (t : Text)
  | array (items : List Json)
  | object (members : List (Text × Json))
  deriving Repr, Inhabited

namespace Json

/-- The kind of a value, as it is named in messages. -/
def kindName : Json → String
  | .null => "NoneType"
  | .bool _ => "bool"
  | .int _ => "int"
  | .float _ => "float"
  | .text _ => "str"
  | .array _ => "list"
  | .object _ => "dict"

/-- The members with one more: a name that is there gets the new value in its old place. -/
def put (members : List (Text × Json)) (name : Text) (v : Json) : List (Text × Json) :=
  match members with
  | [] => [(name, v)]
  | (n, w) :: rest => if n = name then (n, v) :: rest else (n, w) :: put rest name v

def get? (members : List (Text × Json)) (name : Text) : Option Json :=
  (members.find? (·.1 = name)).map (·.2)

theorem get?_put (members : List (Text × Json)) (name other : Text) (v : Json) :
    get? (put members name v) other = if other = name then some v else get? members other := by
  induction members with
  | nil => by_cases h : name = other <;> simp [put, get?, h, eq_comm]
  | cons m rest ih =>
    obtain ⟨n, w⟩ := m
    by_cases hn : n = name
    · subst hn
      by_cases h : n = other
      · simp [put, get?, h]
      · simp [put, get?, h, Ne.symm h]
    · by_cases h : n = other
      · subst h; simp [put, get?, hn]
      · have skip : ∀ r, get? ((n, w) :: r) other = get? r other := fun r => by simp [get?, h]
        rw [put, if_neg hn, skip, skip, ih]

end Json

end RemoteSigning
