import Mathlib.Data.List.Forall2
import Mathlib.Logic.Function.Basic

/-! Settings of a database connection that last as long as the transaction, or the savepoint,
they are made in. The frame of the innermost savepoint comes first. -/

set_option autoImplicit false

namespace LocalSettings

inductive Scoping where
  | savepoint
  | rollbackTo
  | release
  deriving DecidableEq

section Frames

variable {Frame Other : Type}

/-- A savepoint starts from the values in force; going back to it drops what was set since,
releasing it keeps that. Where there is none, neither does anything. -/
def nest : Scoping → List Frame → List Frame
  | .savepoint, current :: outer => current :: current :: outer
  | .rollbackTo, _ :: saved :: outer => saved :: outer
  | .release, current :: _ :: outer => current :: outer
  | _, frames => frames

theorem nest_alike {alike : Frame → Other → Prop} {frames : List Frame} {others : List Other}
    (same : List.Forall₂ alike frames others) (scoping : Scoping) :
    List.Forall₂ alike (nest scoping frames) (nest scoping others) := by
  cases same with
  | nil => cases scoping <;> exact .nil
  | cons here outer =>
      cases scoping with
      | savepoint => exact .cons here (.cons here outer)
      | rollbackTo =>
          cases outer with
          | nil => exact .cons here .nil
          | cons saved rest => exact .cons saved rest
      | release =>
          cases outer with
          | nil => exact .cons here .nil
          | cons _ rest => exact .cons here rest

end Frames

variable {Name : Type}

/-- The names ever set on the connection, and the values of the open transaction. -/
structure Connection (Name : Type) where
  known : Name → Bool
  frames : List (Name → Option String)

namespace Connection

/-- A connection just opened. -/
def fresh : Connection Name := ⟨fun _ => false, []⟩

variable (connection : Connection Name)

/-- `current_setting(name, true)`: once its scope is over, a name that was ever set reads as
the empty text. -/
def setting (name : Name) : Option String :=
  (connection.frames.head?.bind fun values => values name).or
    (if connection.known name then some "" else none)

/-- The first statement opens the transaction. -/
def opened : Connection Name := { connection with frames := [fun _ => none] }

/-- What COMMIT and ROLLBACK leave. -/
def ended : Connection Name := { connection with frames := [] }

def nested (scoping : Scoping) : Connection Name :=
  { connection with frames := nest scoping connection.frames }

/-- `set_config(name, text, true)`. -/
def setLocal [DecidableEq Name] (name : Name) (text : String) : Connection Name where
  known := Function.update connection.known name true
  frames := connection.frames.modifyHead fun values => Function.update values name (some text)

end Connection

end LocalSettings
