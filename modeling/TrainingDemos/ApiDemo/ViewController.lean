import TrainingDemos.ByteText
import TrainingDemos.ApiDemo.DataModel

namespace TrainingDemos.ApiDemo
set_option autoImplicit true

/-- What the clients use of Foundation. -/
structure Foundation where
  /-- Without a value for bytes that are no JSON text. -/
  parse : Bytes → Option JSON
  parse_empty : parse [] = none
  decoder : MemberReading Double
  serialization : MemberReading Double
  /-- `NSNumber.stringValue`. -/
  stringValue : Double → String
  /-- `NSDecimalNumber(string:).doubleValue`, unless that is not a number. -/
  decimal : String → Option Double

/-- How a request ends. -/
structure Response where
  data : Option Bytes
  statusCode : Option Int
  error : Bool

variable (F : Foundation)

/-- `JSONSerialization.jsonObject(with:)` without `.fragmentsAllowed`. -/
def Foundation.jsonObject (data : Bytes) : Option JSON := (F.parse data).filter JsonTree.isContainer

/-- `JSONDecoder().decode(RData.self, from:)`. -/
def Foundation.decodeRData (data : Bytes) : Option RData :=
  (F.parse data).bind (RData.decode F.decoder)

/-- `as? Double`: a boolean is a number, too. -/
def asDouble : JSON → Option Double
  | .number d => some d
  | .bool b => some (if b then .one else .zero)
  | _ => none

/-- The completion handlers of the three clients on `arrDetail`; a result `none` is a trap. -/
def callAPIThroughURLSession (arrDetail : List LocationDetail) (response : Response) :
    Option (List LocationDetail) :=
  match response.data with
  | none => some arrDetail
  | some data =>
    match F.decodeRData data with
    | none => some arrDetail
    | some json =>
      let d1 := LocationDetail.init
      let d1 := { d1 with name := json.location.name }
      let d1 := { d1 with country := json.location.country }
      let d1 := { d1 with region := json.location.region }
      let d1 := { d1 with temp := json.current.temp_c }
      some (arrDetail ++ [d1])

/-- `as!` traps for the top level, the name and the country. -/
def callAPIThorughURLSessionWithJSONObject (arrDetail : List LocationDetail)
    (response : Response) : Option (List LocationDetail) :=
  match response.data with
  | none => some arrDetail
  | some data =>
    match F.jsonObject data with
    | none => some arrDetail
    | some json => do
      let parsedData ← json.asObject
      match (F.serialization.member parsedData "location").bind JsonTree.asObject with
      | none => some arrDetail
      | some results =>
        match (F.serialization.member parsedData "current").bind JsonTree.asObject with
        | none => some arrDetail
        | some currentVal =>
          let d1 := LocationDetail.init
          let name ← (F.serialization.member results "name").bind JsonTree.asString
          let d1 := { d1 with name := name }
          let country ← (F.serialization.member results "country").bind JsonTree.asString
          let d1 := { d1 with country := country }
          let region := (F.serialization.member results "region").bind JsonTree.asString
          let d1 := { d1 with region := region.getD "" }
          let temp_c := (F.serialization.member currentVal "temp_c").bind asDouble
          let d1 := { d1 with temp := temp_c.getD .zero }
          some (arrDetail ++ [d1])

namespace SwiftyJSON

/-- `json[key]`: null unless the value is a dictionary with the key. -/
def subscript (json : JSON) (key : String) : JSON :=
  match json with
  | .object members => (F.serialization.member members key).getD .null
  | _ => .null

def stringValue : JSON → String
  | .string s => s
  | .number n => F.stringValue n
  | .bool b => if b then "true" else "false"
  | _ => ""

def doubleValue : JSON → Double
  | .string s => (F.decimal s).getD .zero
  | .number n => n
  | .bool b => if b then .one else .zero
  | _ => .zero

end SwiftyJSON

/-- `validate()` accepts the status codes of success; every content type is acceptable. -/
def validated (response : Response) : Bool :=
  !response.error && response.statusCode.all fun code => decide (200 ≤ code ∧ code < 300)

/-- `DataResponseSerializer`: empty data is accepted for the status codes 204 and 205 only. -/
def serialized (response : Response) : Option Bytes :=
  match response.data.filter fun data => !data.isEmpty with
  | some data => some data
  | none =>
    if response.statusCode = some 204 ∨ response.statusCode = some 205 then some [] else none

def afResult (response : Response) : Option Bytes :=
  if validated response then serialized response else none

def getDataAlamofire (arrDetail : List LocationDetail) (response : Response) :
    Option (List LocationDetail) :=
  match afResult response with
  | none => some arrDetail
  | some value =>
    match F.jsonObject value with
    | none => some arrDetail
    | some json =>
      let location := SwiftyJSON.subscript F json "location"
      let current := SwiftyJSON.subscript F json "current"
      let d1 := LocationDetail.init
      let d1 := { d1 with
        name := SwiftyJSON.stringValue F (SwiftyJSON.subscript F location "name") }
      let d1 := { d1 with
        country := SwiftyJSON.stringValue F (SwiftyJSON.subscript F location "country") }
      let d1 := { d1 with
        region := SwiftyJSON.stringValue F (SwiftyJSON.subscript F location "region") }
      let d1 := { d1 with
        temp := SwiftyJSON.doubleValue F (SwiftyJSON.subscript F current "temp_c") }
      some (arrDetail ++ [d1])

end TrainingDemos.ApiDemo
