import Till.Proofs.Json.Record
import Till.Token

/-!
# Tokens name values

Each value of a closed set is read back from its token, and a token names no other value. Main
statement: a JSON value is read as `a` just if it is the token of `a` (`Token.cast_eq_some_iff`).
-/

namespace Till

class LawfulToken (α : Type) [Token α] : Prop where
  ofToken_token : ∀ a : α, Token.ofToken (Token.token a) = .ok a

instance : LawfulToken Tax where
  ofToken_token a := by cases a <;> rfl

instance : LawfulToken PaymentType where
  ofToken_token a := by cases a <;> rfl

instance : LawfulToken MeasureUnit where
  ofToken_token a := by cases a <;> rfl

namespace Token
variable {α : Type} [Token α]

theorem token_of_ofToken {s : String} {a : α} (h : ofToken s = .ok a) : token a = s := by
  unfold ofToken at h
  split at h
  · rename_i b hb
    cases h
    simpa using List.find?_some hb
  · cases h

variable [LawfulToken α]

theorem ofToken_eq_ok_iff {s : String} {a : α} : ofToken s = .ok a ↔ s = token a := by
  constructor
  · exact fun h => (token_of_ofToken h).symm
  · rintro rfl
    exact LawfulToken.ofToken_token a

theorem token_injective {a b : α} (h : token a = token b) : a = b :=
  Except.ok.inj ((LawfulToken.ofToken_token a).symm.trans (ofToken_eq_ok_iff.2 h))

theorem mem_all (a : α) : a ∈ (all : List α) := by
  have h := LawfulToken.ofToken_token a
  unfold ofToken at h
  split at h
  · rename_i b hb
    cases h
    exact List.mem_of_find?_eq_some hb
  · cases h

theorem token_mem_tokens (a : α) : token a ∈ tokens α :=
  List.mem_map_of_mem (mem_all a)

theorem cast_eq_some_iff {v : Json} {nullable : Bool} {a : α} :
    cast v nullable = .ok (some a) ↔ v = .string (token a) := by
  constructor
  · intro h
    unfold cast at h
    split at h
    · rename_i s
      cases hs : (ofToken s : Checked α) with
      | error e => rw [hs] at h; cases h
      | ok b =>
        rw [hs] at h
        cases h
        rw [token_of_ofToken hs]
    · split at h <;> cases h
    · cases h
  · rintro rfl
    rw [cast, LawfulToken.ofToken_token]
    rfl

omit [LawfulToken α] in
theorem cast_eq_none_iff {v : Json} :
    (cast v true : Checked (Option α)) = .ok none ↔ v = .null := by
  constructor
  · intro h
    unfold cast at h
    split at h
    · rename_i s
      cases hs : (ofToken s : Checked α) <;> rw [hs] at h <;> cases h
    · rfl
    · cases h
  · rintro rfl
    rfl

end Token

/-- A token of the set. -/
def IsToken (α : Type) [Token α] : Json → Prop :=
  Json.IsText (· ∈ Token.tokens α)

section
variable {α : Type} [Token α] [LawfulToken α]

theorem isToken_iff {v : Json} : IsToken α v ↔ ∃ a : α, v = .string (Token.token a) := by
  constructor
  · rintro ⟨s, rfl, hs⟩
    obtain ⟨a, -, rfl⟩ := List.mem_map.1 hs
    exact ⟨a, rfl⟩
  · rintro ⟨a, rfl⟩
    exact ⟨Token.token a, rfl, Token.token_mem_tokens a⟩

theorem isToken_toJson (a : α) : IsToken α (Token.toJson a) :=
  isToken_iff.2 ⟨a, rfl⟩

end
end Till
