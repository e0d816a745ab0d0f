import RouterLayer.Failure
import RouterLayer.Text.Split

set_option autoImplicit false

namespace RouterLayer

namespace Log

structure Level where
  number : Int
  deriving DecidableEq, Repr

namespace Level

def debug : Level := ⟨10⟩

def info : Level := ⟨20⟩

def warning : Level := ⟨30⟩

def error : Level := ⟨40⟩

def critical : Level := ⟨50⟩

/-- A level between the common ones is known by its number. -/
def name (l : Level) : Text :=
  match l.number with
  | 0 => "NOTSET"
  | 10 => "DEBUG"
  | 20 => "INFO"
  | 30 => "WARNING"
  | 40 => "ERROR"
  | 50 => "CRITICAL"
  | number => "Level " ++ toString number

def common : List Level := [debug, info, warning, error, critical]

def ofName? (s : Text) : Option Level := common.find? (·.name = s)

end Level

structure Record where
  level : Level
  logger : Text
  message : Text
  deriving DecidableEq, Repr

def rootLogger : Text := "routergen.gen"

def loggerName (name : Option Text) : Text :=
  match name with
  | none => rootLogger
  | some s =>
    if s = rootLogger then rootLogger
    else rootLogger ++ "." ++ Text.afterLast '.' s

inductive Part
  | document | visibility | routers | policy | run
  deriving DecidableEq, Repr

def Part.logger (p : Part) : Text :=
  loggerName <| some <|
    match p with
    | .document => "loader"
    | .visibility => "schema_parser"
    | .routers => "context_builder"
    | .policy => "policy"
    | .run => "codegen"

def record (level : Level) (part : Part) (message : Text) : Record :=
  ⟨level, part.logger, message⟩

end Log

structure Logged (α : Type) where
  records : List Log.Record
  outcome : Except Failure α

namespace Logged

variable {α β : Type}

def pure (a : α) : Logged α := ⟨[], .ok a⟩

def fail (e : Failure) : Logged α := ⟨[], .error e⟩

def note (r : Log.Record) : Logged Unit := ⟨[r], .ok ()⟩

def ofExcept (outcome : Except Failure α) : Logged α := ⟨[], outcome⟩

/-- What follows a failure is neither done nor logged. -/
def bind (x : Logged α) (f : α → Logged β) : Logged β :=
  match x.outcome with
  | .error e => ⟨x.records, .error e⟩
  | .ok a => ⟨x.records ++ (f a).records, (f a).outcome⟩

instance : Monad Logged where
  pure := Logged.pure
  bind := Logged.bind

def forList {γ : Type} (f : γ → Logged α) : List γ → Logged (List α)
  | [] => pure []
  | x :: xs => (f x).bind fun a => (forList f xs).bind fun as => pure (a :: as)

@[simp] theorem outcome_pure (a : α) : (Logged.pure a).outcome = .ok a := rfl

@[simp] theorem outcome_fail (e : Failure) : (Logged.fail e : Logged α).outcome = .error e := rfl

theorem outcome_bind (x : Logged α) (f : α → Logged β) :
    (x.bind f).outcome = x.outcome.bind fun a => (f a).outcome := by
  unfold bind Except.bind
  split <;> simp_all

end Logged

end RouterLayer
