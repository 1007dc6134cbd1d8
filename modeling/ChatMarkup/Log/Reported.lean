import ChatMarkup.Log.Record

namespace ChatMarkup

/-- A result, with the records made on the way in an ambient context and the context left. -/
structure Reported (α : Type) where
  result : Except Fault α
  log : Fields → List Record := fun _ => []
  after : Fields → Fields := id

namespace Reported

variable {α β : Type}

def ofExcept (result : Except Fault α) : Reported α := { result }

def emit (record : Record) : Reported Unit where
  result := .ok ()
  log context := [record.within context]

def bind (first : Reported α) (next : α → Reported β) : Reported β :=
  match first.result with
  | .ok value => {
      result := (next value).result
      log := fun context => first.log context ++ (next value).log (first.after context)
      after := fun context => (next value).after (first.after context) }
  | .error fault => { result := .error fault, log := first.log, after := first.after }

instance : Monad Reported where
  pure value := { result := .ok value }
  bind := bind

def raise (record : Record) (fault : Fault) : Reported α := do
  emit record
  ofExcept (.error fault)

/-- Binds context for every record made inside, and takes it back in the end, failed or not. -/
def within (entries : Fields) (body : Reported α) : Reported α where
  result := body.result
  log context := body.log (entries ++ context)

@[simp] theorem result_pure (value : α) : (pure value : Reported α).result = .ok value := rfl

@[simp] theorem result_ofExcept (result : Except Fault α) : (ofExcept result).result = result := rfl

@[simp] theorem result_emit (record : Record) : (emit record).result = .ok () := rfl

@[simp] theorem result_raise (record : Record) (fault : Fault) :
    (raise record fault : Reported α).result = .error fault := rfl

@[simp] theorem result_within (entries : Fields) (body : Reported α) :
    (body.within entries).result = body.result := rfl

@[simp] theorem result_bind (first : Reported α) (next : α → Reported β) :
    (first >>= next).result = first.result >>= fun value => (next value).result := by
  change (bind first next).result = _
  unfold bind
  cases first.result <;> rfl

theorem bind_of_ok {first : Reported α} {value : α} (done : first.result = .ok value)
    (next : α → Reported β) (context : Fields) :
    (first >>= next).log context = first.log context ++ (next value).log (first.after context) ∧
      (first >>= next).after context = (next value).after (first.after context) := by
  change (bind first next).log context = _ ∧ (bind first next).after context = _
  simp [bind, done]

theorem bind_of_error {first : Reported α} {fault : Fault} (failed : first.result = .error fault)
    (next : α → Reported β) (context : Fields) :
    (first >>= next).log context = first.log context ∧
      (first >>= next).after context = first.after context := by
  change (bind first next).log context = _ ∧ (bind first next).after context = _
  simp [bind, failed]

end Reported

end ChatMarkup
