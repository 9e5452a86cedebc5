import CallGuard.Policy.Authorizer
import CallGuard.Schema.Redactor

/-! Declarations that have been checked, and what is derived from them. -/
namespace CallGuard

/-- Which messages of a method to redact. -/
structure Redaction where
  request : Option String
  response : Option String
  deriving DecidableEq, Repr

namespace Redactor

/-- The message's name, if its values can have something to remove. -/
def planned (r : Redactor) (message : String) : Option String :=
  if r.needs message then some message else none

/-- What to redact of a method's messages, if there is anything. -/
def redactionOf (r : Redactor) (d : MethodInfo) : Option Redaction :=
  if !d.usesSensitiveData then none
  else
    let request := if d.redactRequest then r.planned d.input else none
    let response := r.planned d.output
    if request.isNone && response.isNone then none else some ⟨request, response⟩

/-- The row of a method in the table of redactions. -/
def row? (r : Redactor) (d : MethodInfo) : Option (Method × Redaction) :=
  (r.redactionOf d).map (d.method, ·)

end Redactor

/-- Methods, each declared once, and the redactions of those that have one. -/
structure Registry where
  methods : List MethodInfo
  redactions : List (Method × Redaction)
  redactor : Redactor
  distinct : (methods.map (·.method)).Nodup
  tabulated : redactions = methods.filterMap redactor.row?
  deriving DecidableEq

namespace Registry

/-- Tables without an entry. -/
def ofRedactor (redactor : Redactor) : Registry := ⟨[], [], redactor, .nil, rfl⟩

def empty : Registry := ofRedactor ⟨[]⟩

/-- The tables with the entries of one method more. -/
def add (r : Registry) (d : MethodInfo) (fresh : d.method ∉ r.methods.map (·.method)) :
    Registry where
  methods := r.methods ++ [d]
  redactions := r.redactions ++ (r.redactor.row? d).toList
  redactor := r.redactor
  distinct := by
    rw [List.map_append, List.nodup_append]
    refine ⟨r.distinct, by simp, ?_⟩
    rintro m there n added rfl
    obtain rfl : m = d.method := by simpa using added
    exact fresh there
  tabulated := by
    rw [List.filterMap_append, ← r.tabulated]
    cases entry : r.redactor.row? d <;> simp [entry]

/-- Enters a method into the tables, if it is of declared messages and not there yet. -/
def enter (s : Schema) (r : Registry) (d : MethodInfo) : Except ConfigError Registry :=
  if !s.declares d.input then .error (.unknownMessage d.method d.input)
  else if !s.declares d.output then .error (.unknownMessage d.method d.output)
  else if known : d.method ∈ r.methods.map (·.method) then .error (.duplicateMethod d.method)
  else .ok (r.add d known)

/-- The tables of all methods, in one pass, once the messages are found to be in order. -/
def ofSchema (s : Schema) : Except ConfigError Registry := do
  s.fault?.elim (.ok ()) .error
  s.methods.foldlM (enter s) (ofRedactor (.compile s.messages))

def info? (r : Registry) (m : Method) : Option MethodInfo := r.methods.find? (·.method == m)

def access? (r : Registry) (m : Method) : Option Access := (r.info? m).bind (·.access)

def redaction? (r : Registry) (m : Method) : Option Redaction :=
  (r.redactions.find? (·.1 == m)).map (·.2)

end Registry

/-- Takes the access that methods declare for themselves, in place of what was known of any. -/
def Authorizer.withRegistry (a : Authorizer) (r : Registry) : Authorizer :=
  { a with metadata := r.methods.filterMap fun d => d.access.map fun access => (d.method, access) }

end CallGuard
