/-
A session: requests about one template that changes on the way. A merge that succeeds puts its
result in the template's place; nothing else changes it.
-/
import SqlTemplate.Answer

namespace SqlTemplate

structure Session where
  config : Config
  template : String

namespace Session

/-- The session after an answer. -/
def advance (s : Session) : Except Error Answer → Session
  | .ok (.merged text) => { s with template := text }
  | _ => s

/-- The answer to a request, and the session after it. -/
def step (s : Session) (r : Request) : Except Error Answer × Session :=
  let a := r.answer s.config s.template
  (a, s.advance a)

end Session

end SqlTemplate
