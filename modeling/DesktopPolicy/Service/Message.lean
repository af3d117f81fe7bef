-- Messages: requests to the service, and its responses.
import DesktopPolicy.Gate
import DesktopPolicy.Json.Reader

namespace DesktopPolicy

/-- What the framework that hands the requests on makes of their bodies. Its versions differ. -/
structure Framework where
  /-- A body of no type is read as JSON. -/
  guessesJson : Bool := false
  /-- A body that is null is none. -/
  dropsNull : Bool := false
  deriving DecidableEq, Repr

/-- A request. Who asks is told by the layer in front of the service. -/
structure Request where
  method : String
  /-- Path and query, with percent signs. -/
  address : String
  credential : Credential
  body : List UInt8 := []
  /-- Empty when no type is told. -/
  contentType : String := "application/json"
  framework : Framework := {}

inductive Content where
  | nothing
  | value (v : Value)
  | issues (issues : List Schema.Issue)

structure Response where
  status : Nat
  content : Content := .nothing
  location : Option String := none

namespace Response

def found (v : Value) : Response := ⟨200, .value v, none⟩

def detail (status : Nat) (reason : String) : Response :=
  ⟨status, .value (.map [(.text "detail", .text reason)]), none⟩

/-- What is wrong with the body of a request. -/
def unprocessable (issues : List Schema.Issue) : Response :=
  ⟨422, .issues (issues.map (Schema.Issue.within (.field "body"))), none⟩

def failure : Response := ⟨500, .nothing, none⟩

/-- The response to one who got no answer. -/
def ofHalt : Halt → Response
  | .denied denial => detail denial.status denial.detail
  | .failed _ => failure

end Response

/-! ## Bodies -/

namespace Value

/-- Entries with such keys are left out of a response. -/
def isHiddenKey : Value → Bool
  | text name => "_sa".toList.isPrefixOf name.toList
  | bytes content => (Text.utf8 "_sa").isPrefixOf content
  | _ => false

mutual

/-- A response can show the value: each number in it is one, and has bounds, and all bytes are text. -/
def isShowable : Value → Bool
  | float x => x.isFinite
  | bytes content => (Text.ofUtf8? content).isSome
  | list items => areShowable items
  | map entries => showsEntries entries
  | _ => true

def areShowable : List Value → Bool
  | [] => true
  | item :: items => item.isShowable && areShowable items

/-- A response can show the entries that are not left out. -/
def showsEntries : List (Value × Value) → Bool
  | [] => true
  | (key, v) :: entries => (key.isHiddenKey || key.isShowable && v.isShowable) && showsEntries entries

end

end Value

inductive Body where
  | absent
  | json (v : Value)
  | other (content : List UInt8)

namespace Body

def plainType (contentType : String) : String :=
  let kind := Text.trim (contentType.toList.takeWhile (· != ';'))
  String.ofList (kind.map Char.toLower)

/-- The type says that the content is JSON. -/
def isJsonType (contentType : String) : Bool :=
  match (plainType contentType).toList.splitOn '/' with
  | [main, sub] =>
    main == "application".toList && (sub == "json".toList || "+json".toList.isSuffixOf sub)
  | _ => false

/-- The text without the mark of the byte order at its start. -/
def withoutMark (text : String) : String :=
  match text.toList with
  | '\uFEFF' :: rest => String.ofList rest
  | _ => text

def isJson (request : Request) : Bool :=
  if request.contentType.isEmpty then request.framework.guessesJson
  else isJsonType request.contentType

/-- The response to a body that breaks its reader. -/
def unread : Response := .detail 400 "There was an error parsing the body"

/-- The body in a text of JSON. -/
def ofText (framework : Framework) (text : String) : Except Response Body :=
  match Json.read text with
  | .ok v => .ok (if framework.dropsNull && v.isNull then .absent else .json v)
  | .error .tooLong => .error unread
  | .error fault => .error (.unprocessable [⟨.notJson, [.index (fault.position text)]⟩])

/-- The body of a request, or the response to a body that cannot be read. -/
def ofRequest (request : Request) : Except Response Body :=
  if request.body.isEmpty then .ok .absent
  else if !isJson request then .ok (.other request.body)
  else
    match Text.ofUtf8? request.body with
    | none => .error unread
    | some text => ofText request.framework (withoutMark text)

theorem withoutMark_of_head? {text : String} (h : text.toList.head? ≠ some '\uFEFF') :
    withoutMark text = text := by
  unfold withoutMark
  split
  · rename_i rest htext
    rw [htext] at h
    exact absurd rfl h
  · rfl

theorem isJson_of_isJsonType {request : Request} (h : isJsonType request.contentType = true) :
    isJson request = true := by
  have htyped : request.contentType.isEmpty = false := by
    rw [Bool.eq_false_iff]
    intro hempty
    rw [String.isEmpty_iff.mp hempty] at h
    exact absurd h (by decide)
  rw [isJson, htyped, h]
  rfl

/-- A text that is sent as JSON is read as such. -/
theorem ofRequest_of_utf8 {request : Request} {text : String}
    (hbody : request.body = Text.utf8 text) (hne : text ≠ "")
    (hhead : text.toList.head? ≠ some '\uFEFF') (hjson : isJson request = true) :
    ofRequest request = ofText request.framework text := by
  have hfilled : request.body.isEmpty = false := by
    rw [Bool.eq_false_iff, Ne, List.isEmpty_iff, hbody, Text.utf8_eq_nil_iff]
    exact hne
  rw [ofRequest, hfilled, hjson, hbody, Text.ofUtf8?_utf8]
  simp [withoutMark_of_head? hhead]

/-- The fields of a body that has to be a map. -/
def fields : Body → Schema.Checked Schema.Fields
  | absent => Schema.reject .missing
  | json (.map entries) => .ok entries
  | _ => Schema.reject .notObject

/-- The whole body as a value. -/
def whole : Body → Value
  | absent => .null
  | json v => v
  | other content => .bytes content

/-- What an issue with the body is about: a field that is there, or else the whole body. -/
def subject (body : Body) (issue : Schema.Issue) : Value :=
  match body, issue.path with
  | json (.map entries), [.field name] => (lookup entries (.text name)).getD (.map entries)
  | body, _ => body.whole

/-- The response to a body with issues. It shows what they are about; where that cannot be shown, the
service fails. -/
def refusal (body : Body) (issues : List Schema.Issue) : Response :=
  if issues.all fun issue => (body.subject issue).isShowable then .unprocessable issues
  else .failure

theorem status_refusal (body : Body) (issues : List Schema.Issue) :
    (body.refusal issues).status =
      if issues.all fun issue => (body.subject issue).isShowable then 422 else 500 := by
  unfold refusal
  split <;> rfl

end Body

end DesktopPolicy
