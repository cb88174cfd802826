import RowTree.Error
import RowTree.Text.Split

/-!
# Names

Models, steps and fields bear code names: an ASCII letter or an underscore and
at least one more letter, digit or underscore. A model may be named within an
application, with a point between the two names.
-/

namespace RowTree.Schema

open Text

def isNameStart (c : Char) : Bool := c.isAlpha || c == '_'

def isNamePart (c : Char) : Bool := c.isAlphanum || c == '_'

def isCodeName (name : String) : Bool :=
  match name.toList with
  | first :: second :: rest => isNameStart first && (second :: rest).all isNamePart
  | _ => false

def checkName (model name : String) : Except Error Unit :=
  if isCodeName name then .ok () else .error (.of (.definition model (.badName name)))

structure ModelName where
  app : Option String
  model : String
  deriving DecidableEq

namespace ModelName

def ofText (text : String) : Except Error ModelName :=
  match cut (· == '.') text.toList with
  | (app, some model) => do
    checkName text (String.ofList app)
    checkName text (String.ofList model)
    .ok ⟨some (String.ofList app), String.ofList model⟩
  | (_, none) => do
    checkName text text
    .ok ⟨none, text⟩

def text (name : ModelName) : String :=
  match name.app with
  | some app => app ++ "." ++ name.model
  | none => name.model

end ModelName

end RowTree.Schema
