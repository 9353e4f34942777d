import Transceiver.Letter
import Transceiver.ModelId

/-!
# Who a Radio Is

The manufacturer, name and number by which a radio presents itself.
-/

namespace Transceiver

/-- A maker of radios. -/
inductive Manufacturer where
  | yaesu
  /-- No hardware at all, for trials. -/
  | dummy
  deriving DecidableEq, Repr, Inhabited

namespace Manufacturer

/-- Every manufacturer. -/
def all : List Manufacturer := [yaesu, dummy]

/-- The name of a manufacturer. -/
def name : Manufacturer → String
  | yaesu => "Yaesu"
  | dummy => "Dummy"

/-- The name in lower case, as `parse` looks for it. -/
def lowerName : Manufacturer → String
  | yaesu => "yaesu"
  | dummy => "dummy"

/-- A text that names no manufacturer. -/
structure ParseError where
  /-- The text as it was given. -/
  text : String
  deriving DecidableEq, Repr

/-- The wording of a failure to read a manufacturer. -/
def ParseError.message (e : ParseError) : String :=
  s!"unknown manufacturer: '{e.text}'. Expected: yaesu, dummy"

/-- Reads the name of a manufacturer in any letter case. -/
def parse (text : String) : Except ParseError Manufacturer :=
  let lower := Letter.lowerCase text
  match all.find? fun maker => maker.lowerName == lower with
  | some maker => .ok maker
  | none => .error ⟨text⟩

end Manufacturer

/-- How a radio presents itself. -/
structure RigInfo where
  manufacturer : Manufacturer
  modelName : String
  modelId : ModelId
  deriving DecidableEq, Repr

end Transceiver
