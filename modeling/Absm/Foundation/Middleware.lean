/-! Middlewares around an application, and what a stack of them lets through. -/

namespace Absm

/-- How serving a request ended, the state that it left and the records that it made. -/
structure Served (Resp ε σ ρ : Type) where
  /-- The response, or the exception that came out instead. -/
  outcome : Except ε Resp
  /-- The state afterwards. -/
  state : σ
  /-- The records, in order. -/
  records : List ρ

/-- An application serves requests. -/
abbrev Application (Req Resp ε σ ρ : Type) := Req → σ → Served Resp ε σ ρ

/-- A middleware makes an application out of the one that it is put around. -/
abbrev Middleware (Req Resp ε σ ρ : Type) :=
  Application Req Resp ε σ ρ → Application Req Resp ε σ ρ

variable {Req Resp ε σ ρ : Type}

namespace Served

/-- The same with a changed response. -/
def mapResponse (change : Resp → Resp) (served : Served Resp ε σ ρ) : Served Resp ε σ ρ :=
  -- An exception is handed on as it is.
  { served with outcome := served.outcome.map change }

@[simp] theorem mapResponse_records (change : Resp → Resp) (served : Served Resp ε σ ρ) :
    (served.mapResponse change).records = served.records := rfl

/-- Changes one after the other are one change. -/
theorem mapResponse_mapResponse (first second : Resp → Resp) (served : Served Resp ε σ ρ) :
    (served.mapResponse first).mapResponse second = served.mapResponse (second ∘ first) := by
  -- An exception goes through both.
  rcases served with ⟨_ | _, _, _⟩ <;> rfl

/-- Changing nothing. -/
theorem mapResponse_id (served : Served Resp ε σ ρ) : served.mapResponse id = served := by
  -- Whether it is a response or an exception, nothing changes.
  rcases served with ⟨_ | _, _, _⟩ <;> rfl

end Served

/-- Add a middleware, which goes around those that were added before. -/
def addMiddleware (added : Middleware Req Resp ε σ ρ) (stack : List (Middleware Req Resp ε σ ρ)) :
    List (Middleware Req Resp ε σ ρ) :=
  -- The last one that is added is at the head, and so outermost.
  added :: stack

/-- An application with a stack of middlewares around it, of which the first is outermost. -/
def wrapped (stack : List (Middleware Req Resp ε σ ρ)) (app : Application Req Resp ε σ ρ) :
    Application Req Resp ε σ ρ :=
  -- The head of the stack is applied last.
  stack.foldr (fun middleware inner => middleware inner) app

/-- A middleware that hands a request on: it lets the application inside serve it, and changes the
response at most. -/
def HandsOn (middleware : Middleware Req Resp ε σ ρ) (request : Req) : Prop :=
  -- State and records are those of the layers inside.
  ∃ change : Resp → Resp, ∀ app state, middleware app request state = (app request state).mapResponse change

/-- A middleware that answers a request itself, without the application inside and without a record. -/
def AnswersItself (middleware : Middleware Req Resp ε σ ρ) (request : Req) : Prop :=
  -- The layers inside are not called.
  ∃ answer : Resp, ∀ app state, middleware app request state = ⟨.ok answer, state, []⟩

/-- The middlewares of two stacks, one inside the other. -/
theorem wrapped_append (outer inner : List (Middleware Req Resp ε σ ρ)) (app : Application Req Resp ε σ ρ) :
    wrapped (outer ++ inner) app = wrapped outer (wrapped inner app) :=
  -- Folding the whole is folding the parts one after the other.
  List.foldr_append

/-- A stack whose middlewares all hand a request on hands it on. -/
theorem HandsOn.wrapped {stack : List (Middleware Req Resp ε σ ρ)} {request : Req}
    (each : ∀ middleware ∈ stack, HandsOn middleware request) : HandsOn (wrapped stack) request := by
  -- The outermost change comes last.
  induction stack with
  | nil => exact ⟨id, fun app state => (Served.mapResponse_id _).symm⟩
  | cons middleware stack ih =>
    obtain ⟨inside, handsOn⟩ := ih fun other member => each other (List.mem_cons_of_mem _ member)
    obtain ⟨outside, outermost⟩ := each middleware (List.mem_cons_self ..)
    refine ⟨outside ∘ inside, fun app state => ?_⟩
    show middleware (Absm.wrapped stack app) request state = _
    rw [outermost, handsOn, Served.mapResponse_mapResponse]

/-- A request that reaches a middleware which answers it goes no further inside. -/
theorem AnswersItself.wrapped {outer inner : List (Middleware Req Resp ε σ ρ)}
    {middleware : Middleware Req Resp ε σ ρ} {request : Req}
    (each : ∀ other ∈ outer, HandsOn other request) (answers : AnswersItself middleware request) :
    AnswersItself (wrapped (outer ++ middleware :: inner)) request := by
  -- The answer is the same whatever is inside, and those outside change the response at most.
  obtain ⟨change, handsOn⟩ := HandsOn.wrapped each
  obtain ⟨answer, answered⟩ := answers
  refine ⟨change answer, fun app state => ?_⟩
  rw [wrapped_append, handsOn]
  show (middleware (Absm.wrapped inner app) request state).mapResponse change = _
  rw [answered]
  rfl

end Absm
