import Till.Limits

/-!
# Operators

The person at the till. Name and taxpayer number carry no blanks at their ends and are not empty.
-/

namespace Till

structure Operator where
  name : String
  inn : Option String
  name_ok : Limits.operatorName name = .ok name
  inn_ok : ∀ i ∈ inn, Text.trim i = i ∧ i ≠ ""

namespace Limits

theorem operatorName_trim {name n : String} (h : operatorName name = .ok n) :
    operatorName n = .ok n := by
  unfold operatorName at h
  split at h
  · cases h
  · rename_i hb
    cases h
    simp only [Text.isBlankText] at hb
    simp [operatorName, Text.isBlankText, Text.trim_trim, hb]

end Limits

namespace Operator

/-- The number without blanks around it, if anything is left. -/
def cleanInn (inn : Option String) : Option String :=
  (inn.map Text.trim).filter (· ≠ "")

theorem cleanInn_ok {inn : Option String} : ∀ i ∈ cleanInn inn, Text.trim i = i ∧ i ≠ "" := by
  intro i hi
  cases inn with
  | none => simp [cleanInn] at hi
  | some s =>
    simp only [cleanInn, Option.map_some, Option.filter] at hi
    split at hi
    · rename_i hs
      cases hi
      exact ⟨Text.trim_trim s, by simpa using hs⟩
    · cases hi

def make (name : String) (inn : Option String) : Checked Operator :=
  match h : Limits.operatorName name with
  | .error e => .error e
  | .ok n => .ok ⟨n, cleanInn inn, Limits.operatorName_trim h, cleanInn_ok⟩

def ofJson (v : Json) : Checked Operator := do
  let fs ← v.objectFor "operator"
  let name ← Json.requiredString fs "name" "operator.name"
  let inn ← Json.optionalString fs "inn" "operator.inn"
  make name inn

def fields (o : Operator) : List (String × Json) :=
  ("name", .string o.name) :: (o.inn.map fun i => ("inn", .string i)).toList

def toJson (o : Operator) : Json :=
  .object (Entries.ofList o.fields)

end Operator
end Till
