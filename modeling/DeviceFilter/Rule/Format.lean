import DeviceFilter.Json.Reader
import DeviceFilter.Rule.Basic

/-!
Rule lists as JSON: a list of records of which only the verdict is required.
-/
set_option autoImplicit false

namespace DeviceFilter

open Json

/-- A number of a rule, anything that fits 64 signed bits; null is the same as no number. -/
def ruleNumber : Reader (Option Int) :=
  Reader.optional (Reader.integer .signed64 "i64")

def DeviceRule.format : RecordFormat DeviceRule where
  name := "struct DeviceRule"
  default := { allow := false }
  fields :=
    [ { name := "allow", required := true
        read := fun _ => do let b ← Reader.boolean; return fun r => { r with allow := b } },
      { name := "type", required := false
        read := fun _ => do
          let t ← Reader.string "a string"
          return fun r => { r with type := t } },
      { name := "major", required := false
        read := fun _ => do let n ← ruleNumber; return fun r => { r with major := n } },
      { name := "minor", required := false
        read := fun _ => do let n ← ruleNumber; return fun r => { r with minor := n } },
      { name := "access", required := false
        read := fun _ => do
          let a ← Reader.string "a string"
          return fun r => { r with access := a } } ]

def DeviceRule.parseList (text : String) : Except Json.Error (List DeviceRule) :=
  Json.parse (fun levels => Reader.list levels DeviceRule.format.read) text

end DeviceFilter
