import Docblock.Http.Service
import Docblock.Json.Printer

/-! Requests and responses as JSON records, for exchange over a pipe. -/

set_option autoImplicit false

namespace Docblock.Http

def textField (record : Json) (name : String) : Text :=
  match record.field? name with
  | some (.text value) => value
  | _ => []

/-- The body of a request record: the text of the field `raw`, or else the value of the field `json`. -/
def bodyOf (record : Json) : ByteArray :=
  let text :=
    match record.field? "raw", record.field? "json" with
    | some (.text raw), _ => raw
    | _, some value => value.print
    | _, none => []
  (String.ofList text).toUTF8

def Request.ofJson (record : Json) : Request where
  method := textField record "method"
  target := textField record "path"
  body := bodyOf record

-- The record of a response: its status, and its payload in the field `body` or `text`.
def Response.toJson (response : Response) : Json :=
  .record [("status", .int response.status),
    match response.payload with
    | .json value => ("body", value)
    | .text value => ("text", .str value)]

end Docblock.Http
