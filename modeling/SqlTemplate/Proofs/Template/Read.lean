/-
What a successful reading of a template went through: the text was prepared, it is one statement, and its
tokens gave the parameters.
-/
import SqlTemplate.Analysis

namespace SqlTemplate

theorem bind_eq_ok {ε α β : Type} {x : Except ε α} {f : α → Except ε β} {b : β} :
    (x >>= f) = .ok b ↔ ∃ a, x = .ok a ∧ f a = .ok b := by
  constructor
  · intro h
    cases x with
    | error e => cases h
    | ok a => exact ⟨a, rfl, h⟩
  · rintro ⟨a, rfl, h⟩
    exact h

theorem bind_eq_error {ε α β : Type} {x : Except ε α} {f : α → Except ε β} {e : ε} :
    (x >>= f) = .error e ↔ x = .error e ∨ ∃ a, x = .ok a ∧ f a = .error e := by
  constructor
  · intro h
    cases x with
    | error e' => cases h; exact .inl rfl
    | ok a => exact .inr ⟨a, rfl, h⟩
  · rintro (rfl | ⟨a, rfl, h⟩)
    · rfl
    · exact h

theorem eq_ok_of_toOption {α : Type} {x : Except Error α} {a : α} (h : x.toOption = some a) : x = .ok a := by
  cases x with
  | error e => cases h
  | ok b => cases h; rfl

theorem exists_eq_ok {α : Type} {x : Except Error α} (h : x.toOption.isSome = true) : ∃ a, x = .ok a := by
  cases x with
  | error e => cases h
  | ok a => exact ⟨a, rfl⟩

/-- A result that is known by what a function makes of it. -/
theorem exists_of_toOption_map {α β : Type} {x : Except Error α} {f : α → β} {b : β} (h : x.toOption.map f = some b) :
    ∃ a, x = .ok a ∧ f a = b := by
  cases x with
  | error e => cases h
  | ok a => exact ⟨a, rfl, Option.some.inj h⟩

namespace Template

theorem parse_eq_ok {c : Config} {template : String} {p : Parsed} (h : parse c template = .ok p) :
    p.normalized = prepare c template ∧ parseSingle c (prepare c template).text = .ok p.statement := by
  obtain ⟨s, hs, h⟩ := bind_eq_ok.1 h
  cases h
  exact ⟨rfl, hs⟩

/-- A text that is a statement has tokens. -/
theorem tokenize_of_parseSingle {c : Config} {text : String} {st : Statement} (h : parseSingle c text = .ok st) :
    ∃ tokens, Lexer.tokenize c.dialect text = .ok tokens := by
  obtain ⟨ss, hs, -⟩ := bind_eq_ok.1 h
  obtain ⟨ts, ht, -⟩ := bind_eq_ok.1 hs
  cases hl : Lexer.tokenize c.dialect text with
  | ok tokens => exact ⟨tokens, rfl⟩
  | error e =>
    rw [solidTokens, hl] at ht
    cases e <;> cases ht

/-- The parameters of a template are those of the tokens of its prepared text. -/
theorem parameters_eq_ok {c : Config} {template : String} {ps : List Parameter} (h : parameters c template = .ok ps) :
    ∃ tokens, Lexer.tokenize c.dialect (prepare c template).text = .ok tokens ∧
      ps = Parameter.resolve tokens (prepare c template).origins := by
  obtain ⟨p, hp, h⟩ := bind_eq_ok.1 h
  obtain ⟨tokens, ht, h⟩ := bind_eq_ok.1 h
  cases h
  obtain ⟨hn, -⟩ := parse_eq_ok hp
  rw [hn] at ht ⊢
  exact ⟨tokens, ht, rfl⟩

end Template

end SqlTemplate
