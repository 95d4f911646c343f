import PaymentRules.Json.Decode
import PaymentRules.Json.Reader
import PaymentRules.Sheet.Delimiter
import PaymentRules.Text.Letters

/-!
# Settings

Where the rule files lie, how they are delimited, and which partners show a redirect within their
own page. A settings file is a record whose fields may all be missing.
-/

namespace PaymentRules

/-- The settings of an engine. -/
structure Settings where
  clientActionPath : String
  serviceErrorPath : String
  delimiter : Char
  inlinePartners : List String
  deriving DecidableEq, Repr

/-- The partners that show a redirect within their own page, unless the settings name others. -/
def defaultInlinePartners : List String :=
  ["amcweb", "appsource", "azure", "azuresignup", "azureibiza", "bing", "cart", "commercialstores",
   "onedrive", "payin", "setupoffice", "oxowebdirect", "webblends_inline", "webpay",
   "northstarweb"]

/-- The inline partners that may keep the frame of a redirect page without its members. -/
def memberClearingPartners : List String :=
  ["webblends_inline", "webpay", "oxowebdirect"]

/-- Whether a partner is in a list, in any case. -/
def isPartnerIn (partners : List String) (partner : String) : Bool :=
  partners.any fun member => Text.sameLetters member partner

namespace Settings

/-- The settings where no file says otherwise. -/
def default : Settings where
  clientActionPath := "config/ClientActionConfig.csv"
  serviceErrorPath := "config/PIServiceErrorConfig.csv"
  delimiter := ','
  inlinePartners := defaultInlinePartners

instance : Inhabited Settings := ⟨default⟩

/-- Whether a partner shows a redirect within its own page. -/
def isInlinePartner (settings : Settings) (partner : String) : Bool :=
  isPartnerIn settings.inlinePartners partner

/-- The delimiter of the rule files, which has to be an ASCII character. -/
def fileDelimiter (settings : Settings) : Except LoadError Delimiter :=
  Delimiter.ofChar settings.delimiter

/-- A text of one character. -/
def character? (json : Json) : Option Char := do
  match (← json.text?).toList with
  | [c] => some c
  | _ => none

/-- The document of the settings. -/
def toJson (settings : Settings) : Json :=
  .object [("clientActionConfig", .string settings.clientActionPath),
    ("serviceErrorConfig", .string settings.serviceErrorPath),
    ("delimiter", .string settings.delimiter.toString),
    ("inlinePartners", .array (settings.inlinePartners.map .string))]

/-- The settings that a document is. -/
def ofJson? (json : Json) : Option Settings := do
  match ← json.record? ["clientActionConfig", "serviceErrorConfig", "delimiter",
    "inlinePartners"] with
  | [clientActionPath, serviceErrorPath, delimiter, inlinePartners] =>
    return {
      clientActionPath := ← Json.orDefault default.clientActionPath Json.text? clientActionPath
      serviceErrorPath := ← Json.orDefault default.serviceErrorPath Json.text? serviceErrorPath
      delimiter := ← Json.orDefault default.delimiter character? delimiter
      inlinePartners := ←
        Json.orDefault default.inlinePartners (Json.list? Json.text?) inlinePartners }
  | _ => none

/-- The settings in a text. -/
def ofText (text : String) : Except LoadError Settings :=
  match Json.read? text >>= ofJson? with
  | some settings => .ok settings
  | none => .error .malformedSettings

/-- The settings in the bytes of a file. -/
def ofBytes (bytes : ByteArray) : Except LoadError Settings :=
  match String.fromUTF8? bytes with
  | some text => ofText text
  | none => .error .unreadable

end Settings

end PaymentRules
