import Gleaner.Page

/-!
# Language models

A model answers a conversation with text. Nothing is asked of the text; readers look for what
they need in it.
-/

set_option autoImplicit false

namespace Gleaner

inductive Role where
  | system
  | user
  | assistant
  /-- A role that only the model's host knows. -/
  | custom (name : String)
  deriving DecidableEq, Repr

namespace Role

def name : Role → String
  | .system => "system"
  | .user => "user"
  | .assistant => "assistant"
  | .custom name => name

end Role

structure Message where
  role : Role
  content : String
  deriving DecidableEq, Repr

structure Completion where
  messages : List Message
  /-- A model other than the usual one. -/
  model : Option String := none
  temperature : Number := .float 0
  maxTokens : Option Nat := none
  /-- Further fields for the model's host. -/
  extra : Fields := []

structure Usage where
  prompt : Number := .int 0
  completion : Number := .int 0
  total : Number := .int 0

structure Reply where
  content : String
  model : String
  usage : Usage := {}
  finish : String := "stop"

structure Model (σ : Type) where
  name : String
  defaultModel : String
  complete : Completion → Action σ Reply
  /-- Whether the model can be reached. -/
  healthy : Action σ Bool

end Gleaner
