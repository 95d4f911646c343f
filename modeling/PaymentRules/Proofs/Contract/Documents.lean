import PaymentRules.Contract.ErrorResponse
import PaymentRules.Contract.Request
import PaymentRules.Proofs.Json.Fields
import PaymentRules.Proofs.Json.Shape

/-!
# The documents of the contract

Instruments, client actions, error responses and requests are read back from the documents they are
written to. Fields without a value come back without one, whether they were left out or written as
`null`. The context of a client action is tried as an address, as a link and as descriptions; no
document of one of them is a document of another.

## Main definitions

* `PaymentInstrument.carried` and the like — what is carried along in the pages of a value

## Main results

* `Uuid.ofText?_toText` — an identifier survives its hyphenated form
* `ClientAction.Context.ofJson?_toJson` — the context of a client action comes back as it was
* `PaymentInstrument.ofJson?_toJson` and the like — so does every value of the contract
* `PaymentInstrument.allScalars_toJson` and the like — all that is not plain in the document of a
  value was carried along
-/

namespace PaymentRules

namespace Uuid

theorem digit?_digitChar (digit : Fin 16) : digit? (digitChar digit) = some digit := by
  revert digit
  decide

/-- Five groups of the right lengths are run together again. -/
theorem ungroup?_append {a b c d e : List Char} (ha : a.length = 8) (hb : b.length = 4)
    (hc : c.length = 4) (hd : d.length = 4) :
    ungroup? (a ++ '-' :: b ++ '-' :: c ++ '-' :: d ++ '-' :: e) =
      some (a ++ b ++ c ++ d ++ e) := by
  rw [ungroup?, if_pos (by simp [List.getElem?_append, ha, hb, hc, hd])]
  simp (disch := omega) [List.drop_append, List.drop_eq_nil_of_le, ha, hb, hc, hd]

/-- A stretch of a list and what stands behind it. -/
theorem take_drop_append (cs : List Char) (start count : Nat) :
    (cs.drop start).take count ++ cs.drop (start + count) = cs.drop start := by
  rw [← List.drop_drop, List.take_append_drop]

/-- The digits of an identifier are found in its text. -/
theorem plainDigits?_toText (id : Uuid) :
    plainDigits? id.toText.toList = some (id.digits.map digitChar) := by
  have length : (id.digits.map digitChar).length = 32 := by rw [List.length_map, id.length_eq]
  simp only [toText, String.toList_ofList]
  generalize id.digits.map digitChar = cs at length ⊢
  have joined : cs.take 8 ++ (cs.drop 8).take 4 ++ (cs.drop 12).take 4 ++ (cs.drop 16).take 4 ++
      cs.drop 20 = cs := by
    rw [List.append_assoc, take_drop_append cs 16 4, List.append_assoc, take_drop_append cs 12 4,
      List.append_assoc, take_drop_append cs 8 4, List.take_append_drop]
  rw [plainDigits?, if_neg (by simp [length]), if_pos (by simp [length]),
    ungroup?_append (by simp [length]) (by simp [length]) (by simp [length]) (by simp [length]),
    joined]

/-- An identifier survives its hyphenated form. -/
theorem ofText?_toText (id : Uuid) : ofText? id.toText = some id := by
  have digits : (id.digits.map digitChar).mapM digit? = some id.digits :=
    mapM_map_eq_some fun digit _ => digit?_digitChar digit
  simp [ofText?, plainDigits?_toText, digits, id.length_eq]

end Uuid

section Carried

/-- What is carried along in the pages of a description. -/
def Description.carried (description : Description) : List Carried :=
  description.pages.flatMap (·.members)

/-- What is carried along in the descriptions of a context. -/
def ClientAction.Context.carried : ClientAction.Context → List Carried
  | .descriptions list => list.flatMap Description.carried
  | _ => []

/-- What is carried along in the descriptions of an action. -/
def ClientAction.carried (action : ClientAction) : List Carried :=
  action.context.toList.flatMap Context.carried ++
    (action.redirectPidl.getD []).flatMap Description.carried

/-- What is carried along in the action of an instrument. -/
def PaymentInstrument.carried (instrument : PaymentInstrument) : List Carried :=
  instrument.clientAction.toList.flatMap ClientAction.carried

/-- What is carried along in the action of a response. -/
def ErrorResponse.carried (response : ErrorResponse) : List Carried :=
  response.clientAction.toList.flatMap ClientAction.carried

/-- What is carried along in the instrument of a request. -/
def ServiceErrorRequest.carried (request : ServiceErrorRequest) : List Carried :=
  request.paymentInstrument.toList.flatMap PaymentInstrument.carried

end Carried

section Values

/-! A condition that plain values meet holds of a whole document as soon as it holds of what is
carried along in it. -/

variable {meets : Json → Bool} (admits : Json.AdmitsPlain meets)

include admits

theorem TextMap.allScalars_toJson (map : TextMap) : map.toJson.allScalars meets := by
  rw [toJson, Json.allScalars_object, List.forall_mem_map]
  exact fun pair _ => admits.allScalars_string pair.2

theorem Page.allScalars_toJson {page : Page}
    (given : ∀ part ∈ page.members, part.value.allScalars meets) :
    page.toJson.allScalars meets := by
  simpa [toJson, admits.allScalars_string] using given

theorem Description.allScalars_toJson {description : Description}
    (given : ∀ part ∈ description.carried, part.value.allScalars meets) :
    description.toJson.allScalars meets := by
  have pages : ∀ page ∈ description.pages, page.toJson.allScalars meets := fun page mem =>
    Page.allScalars_toJson admits fun part listed =>
      given part (List.mem_flatMap.2 ⟨page, mem, listed⟩)
  simpa [toJson, TextMap.allScalars_toJson admits] using pages

theorem Description.allScalars_listToJson {list : List Description}
    (given : ∀ part ∈ list.flatMap Description.carried, part.value.allScalars meets) :
    (Description.listToJson list).allScalars meets := by
  have each : ∀ description ∈ list, description.toJson.allScalars meets := fun description mem =>
    Description.allScalars_toJson admits fun part listed =>
      given part (List.mem_flatMap.2 ⟨description, mem, listed⟩)
  simpa [listToJson] using each

theorem ServiceLink.allScalars_toJson (link : ServiceLink) : link.toJson.allScalars meets := by
  simp [toJson, admits.allScalars_string, TextMap.allScalars_toJson admits]

theorem ClientAction.Context.allScalars_toJson {context : ClientAction.Context}
    (given : ∀ part ∈ context.carried, part.value.allScalars meets) :
    context.toJson.allScalars meets := by
  cases context with
  | url address => exact admits.allScalars_string address
  | link target => exact ServiceLink.allScalars_toJson admits target
  | descriptions list => exact Description.allScalars_listToJson admits given

theorem ClientAction.allScalars_toJson {action : ClientAction}
    (given : ∀ part ∈ action.carried, part.value.allScalars meets) :
    action.toJson.allScalars meets := by
  have context : ∀ context ∈ action.context, context.toJson.allScalars meets :=
    fun context present => Context.allScalars_toJson admits fun part mem =>
      given part (List.mem_append_left _
        (List.mem_flatMap.2 ⟨context, Option.mem_toList.2 present, mem⟩))
  have pidl : ∀ list ∈ action.redirectPidl, (Description.listToJson list).allScalars meets :=
    fun list present => Description.allScalars_listToJson admits fun part mem =>
      given part (List.mem_append_right _ (by simpa [Option.mem_def.1 present] using mem))
  simpa [toJson, Json.allScalars_ofFields, admits.allScalars_string] using ⟨context, pidl⟩

theorem PaymentMethod.allScalars_toJson (method : PaymentMethod) :
    method.toJson.allScalars meets := by
  simp [toJson, Json.allScalars_ofFields, admits.allScalars_string]

theorem InstrumentDetails.allScalars_toJson (details : InstrumentDetails) :
    details.toJson.allScalars meets := by
  simp [toJson, Json.allScalars_ofFields, admits.allScalars_string, admits.allScalars_bool]

theorem PaymentInstrument.allScalars_toJson {instrument : PaymentInstrument}
    (given : ∀ part ∈ instrument.carried, part.value.allScalars meets) :
    instrument.toJson.allScalars meets := by
  have action : ∀ action ∈ instrument.clientAction, action.toJson.allScalars meets :=
    fun action present => ClientAction.allScalars_toJson admits fun part mem =>
      given part (List.mem_flatMap.2 ⟨action, Option.mem_toList.2 present, mem⟩)
  simpa [toJson, Json.allScalars_ofFields, admits.allScalars_string,
    PaymentMethod.allScalars_toJson admits, InstrumentDetails.allScalars_toJson admits] using action

theorem ErrorDetail.allScalars_toJson (detail : ErrorDetail) : detail.toJson.allScalars meets := by
  simp [toJson, Json.allScalars_ofFields, admits.allScalars_string]

theorem ErrorResponse.allScalars_toJson {response : ErrorResponse}
    (given : ∀ part ∈ response.carried, part.value.allScalars meets) :
    response.toJson.allScalars meets := by
  have action : ∀ action ∈ response.clientAction, action.toJson.allScalars meets :=
    fun action present => ClientAction.allScalars_toJson admits fun part mem =>
      given part (List.mem_flatMap.2 ⟨action, Option.mem_toList.2 present, mem⟩)
  simpa [toJson, Json.allScalars_ofFields, admits.allScalars_string,
    ErrorDetail.allScalars_toJson admits] using action

theorem ClientActionRequest.allScalars_toJson (request : ClientActionRequest) :
    request.toJson.allScalars meets := by
  simp [toJson, Uuid.toJson, admits.allScalars_string, admits.allScalars_bool,
    admits.allScalars_orNull]

theorem ServiceErrorRequest.allScalars_toJson {request : ServiceErrorRequest}
    (given : ∀ part ∈ request.carried, part.value.allScalars meets) :
    request.toJson.allScalars meets := by
  have instrument : ∀ instrument ∈ request.paymentInstrument, instrument.toJson.allScalars meets :=
    fun instrument present => PaymentInstrument.allScalars_toJson admits fun part mem =>
      given part (List.mem_flatMap.2 ⟨instrument, Option.mem_toList.2 present, mem⟩)
  simp [toJson, Uuid.toJson, admits.allScalars_string, admits.allScalars_bool,
    admits.allScalars_orNull, admits.allScalars_orNull instrument]

end Values

section Reading

theorem Page.ofJson?_toJson (page : Page) : Page.ofJson? page.toJson = some page := by
  have members : Json.list? Carried.ofJson? (.array (page.members.map (·.value))) =
      some page.members :=
    Json.list?_array fun part _ => part.ofJson?_value
  rw [ofJson?, toJson, Json.record?_object (by rfl) (by decide)]
  simp [members]

theorem Description.ofJson?_toJson (description : Description) :
    Description.ofJson? description.toJson = some description := by
  have identity : Json.textMap? description.identity.toJson = some description.identity :=
    Json.textMap?_object description.identity
  have pages : Json.list? Page.ofJson? (.array (description.pages.map Page.toJson)) =
      some description.pages :=
    Json.list?_array fun page _ => page.ofJson?_toJson
  rw [ofJson?, toJson, Json.record?_object (by rfl) (by decide)]
  simp [identity, pages]

theorem Description.listOfJson?_listToJson (list : List Description) :
    Description.listOfJson? (Description.listToJson list) = some list :=
  Json.list?_array fun description _ => description.ofJson?_toJson

theorem ServiceLink.ofJson?_toJson (link : ServiceLink) :
    ServiceLink.ofJson? link.toJson = some link := by
  have parameters : Json.textMap? link.parameters.toJson = some link.parameters :=
    Json.textMap?_object link.parameters
  rw [ofJson?, toJson, Json.record?_object (by rfl) (by decide)]
  simp [parameters]

/-- Descriptions are no link: a link in the form of an array starts with a text. -/
theorem ServiceLink.ofJson?_listToJson (list : List Description) :
    ServiceLink.ofJson? (Description.listToJson list) = none := by
  match list with
  | [] => rfl
  | [_] => rfl
  | [_, _] => rfl
  | _ :: _ :: _ :: _ => simp [ofJson?, Description.listToJson, Json.record?]

/-- Descriptions can be read, since what is carried along in them is tidy. -/
theorem Description.isReadable_listToJson (list : List Description) :
    (Description.listToJson list).isReadable :=
  Description.allScalars_listToJson ⟨rfl, fun _ => rfl, fun _ => rfl⟩ fun part _ =>
    Json.isReadable_of_tidy part.tidy

/-- The context of an action comes back as it was: its document is none of a context that is tried
before it. -/
theorem ClientAction.Context.ofJson?_toJson (context : ClientAction.Context) :
    Context.ofJson? context.toJson = some context := by
  cases context with
  | url address => rfl
  | link target =>
    have readable : target.toJson.isReadable :=
      ServiceLink.allScalars_toJson ⟨rfl, fun _ => rfl, fun _ => rfl⟩ target
    have noText : target.toJson.text? = none := rfl
    simp [ofJson?, toJson, readable, noText, target.ofJson?_toJson]
  | descriptions list =>
    have noText : (Description.listToJson list).text? = none := rfl
    simp [ofJson?, toJson, Description.isReadable_listToJson, noText,
      ServiceLink.ofJson?_listToJson, Description.listOfJson?_listToJson]

/-- No descriptions at all are still descriptions. -/
example : ClientAction.Context.ofJson? (.array []) = some (.descriptions []) := by rfl

theorem ClientAction.word?_kind (kind : ClientAction.Kind) :
    Json.word? (.string (Named.name kind)) = some kind := by
  cases kind <;> rfl

theorem ClientAction.ofJson?_toJson (action : ClientAction) :
    ClientAction.ofJson? action.toJson = some action := by
  have context : Json.optional Context.ofJson? (action.context.map Context.toJson) =
      some action.context :=
    Json.optional_map rfl fun context _ => context.ofJson?_toJson
  have pidl : Json.optional Description.listOfJson?
      (action.redirectPidl.map Description.listToJson) = some action.redirectPidl :=
    Json.optional_map rfl fun list _ => Description.listOfJson?_listToJson list
  rw [ofJson?, toJson, Json.record?_ofFields (by rfl) (by decide)]
  simp [word?_kind, context, pidl]

theorem PaymentMethod.ofJson?_toJson (method : PaymentMethod) :
    PaymentMethod.ofJson? method.toJson = some method := by
  rw [ofJson?, toJson, Json.record?_ofFields (by rfl) (by decide)]
  simp

theorem InstrumentDetails.ofJson?_toJson (details : InstrumentDetails) :
    InstrumentDetails.ofJson? details.toJson = some details := by
  rw [ofJson?, toJson, Json.record?_ofFields (by rfl) (by decide)]
  simp

theorem PaymentInstrument.ofJson?_toJson (instrument : PaymentInstrument) :
    PaymentInstrument.ofJson? instrument.toJson = some instrument := by
  have action : Json.optional ClientAction.ofJson?
      (instrument.clientAction.map ClientAction.toJson) = some instrument.clientAction :=
    Json.optional_map rfl fun action _ => action.ofJson?_toJson
  rw [ofJson?, toJson, Json.record?_ofFields (by rfl) (by decide)]
  simp [PaymentMethod.ofJson?_toJson, InstrumentDetails.ofJson?_toJson, action]

theorem ErrorDetail.ofJson?_toJson (detail : ErrorDetail) :
    ErrorDetail.ofJson? detail.toJson = some detail := by
  rw [ofJson?, toJson, Json.record?_ofFields (by rfl) (by decide)]
  simp

theorem ErrorResponse.ofJson?_toJson (response : ErrorResponse) :
    ErrorResponse.ofJson? response.toJson = some response := by
  -- without details there is no field for them, and a missing field means no details
  have details : Json.orDefault [] (Json.list? ErrorDetail.ofJson?)
      (if response.details.isEmpty then none
        else some (.array (response.details.map ErrorDetail.toJson))) = some response.details := by
    split
    · rename_i absent
      rw [Json.orDefault_none, List.isEmpty_iff.1 absent]
    · exact Json.list?_array fun detail _ => detail.ofJson?_toJson
  have action : Json.optional ClientAction.ofJson?
      (response.clientAction.map ClientAction.toJson) = some response.clientAction :=
    Json.optional_map rfl fun action _ => action.ofJson?_toJson
  rw [ofJson?, toJson, Json.record?_ofFields (by rfl) (by decide)]
  simp [-List.isEmpty_iff, details, action]

theorem Uuid.ofJson?_toJson (id : Uuid) : Uuid.ofJson? id.toJson = some id :=
  id.ofText?_toText

/-- A request keeps its identifier. The fresh one is for a document that has none. -/
theorem ClientActionRequest.ofJson?_toJson (fresh : Uuid) (request : ClientActionRequest) :
    ClientActionRequest.ofJson? fresh request.toJson = some request := by
  rw [ofJson?, toJson, Json.record?_object (by rfl) (by decide)]
  simp [Uuid.ofJson?_toJson]

theorem ServiceErrorRequest.ofJson?_toJson (fresh : Uuid) (request : ServiceErrorRequest) :
    ServiceErrorRequest.ofJson? fresh request.toJson = some request := by
  have instrument : Json.optional PaymentInstrument.ofJson?
      (some (.orNull PaymentInstrument.toJson request.paymentInstrument)) =
      some request.paymentInstrument :=
    Json.optional_orNull rfl fun instrument _ => instrument.ofJson?_toJson
  rw [ofJson?, toJson, Json.record?_object (by rfl) (by decide)]
  simp [Uuid.ofJson?_toJson, instrument]

end Reading

end PaymentRules
