import PaymentRules.LoadError
import PaymentRules.Text.Pieces

/-!
# Named constants

A cell may name a value by `Class.Field` instead of spelling it out. The classes and their fields
are fixed. A cell with exactly one point is such a name and has to be known; any other cell stands
for itself.

## Main definitions

* `Constant.lookup?` — the value of a field of a class
* `Constant.resolve` — the value that a cell stands for
-/

namespace PaymentRules.Constant

/-- The description of a bank account check by transfer, for ACH debits. -/
def achPicvChallenge : String := "ach_picv"

/-- The description of a bank account check by transfer, for SEPA debits. -/
def sepaPicvChallenge : String := "sepa_picv"

/-- The description from which a payment method is chosen anew. -/
def paymentMethodDescription : String := "paymentMethod"

/-- Every class with its fields and their values. -/
def classes : List (String × List (String × String)) :=
  [("PaymentMethodType",
    [("AlipayBillingAgreement", "alipay_billing_agreement"),
     ("CreditCardVisa", "visa"),
     ("CreditCardMasterCard", "mc"),
     ("CreditCardAmericanExpress", "amex"),
     ("CreditCardDiscover", "discover"),
     ("UnionPay", "unionpay"),
     ("UnionPayCreditCard", "unionpay_creditcard"),
     ("UnionPayDebitCard", "unionpay_debitcard"),
     ("IdealBillingAgreement", "ideal_billing_agreement"),
     ("Kakaopay", "kakaopay"),
     ("PayPal", "paypal"),
     ("Ach", "ach"),
     ("Sepa", "sepa"),
     ("Klarna", "klarna"),
     ("LegacyInvoice", "legacy_invoice"),
     ("Check", "check"),
     ("InvoiceBasicVirtual", "invoice_basic"),
     ("InvoiceCheckVirtual", "invoice_check"),
     ("AlipayVirtual", "alipay"),
     ("Venmo", "venmo"),
     ("Upi", "upi"),
     ("UpiCommercial", "upi_commercial")]),
   ("PaymentInstrumentPendingOnTypes",
    [("Sms", "sms"),
     ("Redirect", "redirect"),
     ("Notification", "notification"),
     ("Picv", "picv"),
     ("AgreementUpdate", "agreementUpdate"),
     ("ThreeDSChallenge", "3ds_challenge")]),
   ("PartnerName",
    [("Xbox", "xbox"),
     ("Wallet", "wallet"),
     ("Cart", "cart"),
     ("Bing", "bing"),
     ("OXODIME", "oxodime"),
     ("OXOWebDirect", "oxowebdirect"),
     ("Webblends", "webblends"),
     ("WebblendsInline", "webblends_inline"),
     ("CommercialStores", "commercialstores"),
     ("WebPay", "webpay"),
     ("AmcWeb", "amcweb"),
     ("Azure", "azure"),
     ("AzureIbiza", "azureibiza"),
     ("AzureSignup", "azuresignup"),
     ("OneDrive", "onedrive"),
     ("AppSource", "appsource"),
     ("Payin", "payin"),
     ("SetupOffice", "setupoffice"),
     ("NorthStarWeb", "northstarweb"),
     ("OfficeOobe", "officeoobe"),
     ("OXOOobe", "oxooobe"),
     ("DefaultPartnerName", "default")]),
   ("RequestType", [("AddPI", "addPI"), ("GetPI", "getPI")]),
   ("PidlResourceDescriptionType",
    [("Cc3DSRedirectStaticPidl", "cc3DSRedirectPidl"),
     ("PaypalRedirectStaticPidl", "paypalredirectpidl"),
     ("PaypalRetryStaticPidl", "paypalRetryStatic"),
     ("IdealBillingAgreementRedirectStaticPidl", "idealredirectpidl"),
     ("GenericRedirectStaticPidl", "genericredirectpidl"),
     ("GenericPollingStaticPidl", "genericPollingStatic"),
     ("Sms", "sms"),
     ("AchPicVStatic", "achPicvStatic"),
     ("AchPicVChallenge", achPicvChallenge),
     ("SepaPicVStatic", "sepaPicvStatic"),
     ("SepaPicVChallenge", sepaPicvChallenge),
     ("PaypalUpdateAgreementChallenge", "paypalUpdateAgreementChallenge"),
     ("PaymentMethod", paymentMethodDescription),
     ("VenmoRedirectStaticPidl", "venmoredirectpidl"),
     ("VenmoRetryStaticPidl", "venmoRetryStatic")]),
   ("PXServiceErrorCodes",
    [("ValidationFailed", "ValidationFailed"),
     ("InvalidPhoneValue", "InvalidPhoneValue"),
     ("InvalidPaymentInstrumentInfo", "InvalidPaymentInstrumentInfo"),
     ("InvalidCvv", "InvalidCvv"),
     ("InvalidExpiryDate", "InvalidExpiryDate"),
     ("ExpiredCard", "ExpiredCard"),
     ("TooManyOperations", "TooManyOperations"),
     ("AccountNotFound", "AccountNotFound")])]

/-- The value of a field of a class, if both are known. -/
def lookup? (cls field : String) : Option String := do
  let fields ← classes.lookup cls
  fields.lookup field

/-- What a cell refers to: a class and a field when it has exactly one point, else nothing. -/
def reference? (cell : String) : Option (String × String) :=
  match Text.splitAt '.' cell with
  | [cls, field] => some (cls, field)
  | _ => none

/-- The value that a cell on the given line stands for. -/
def resolve (cell : String) (line : Nat) : Except LoadError String :=
  match reference? cell with
  | none => .ok cell
  | some (cls, field) =>
    match lookup? cls field with
    | some value => .ok value
    | none => .error (.unknownConstant cell line)

/-- Only an unknown reference is refused, and it is refused by its own name. -/
theorem resolve_eq_error_iff {cell : String} {line : Nat} {e : LoadError} :
    resolve cell line = .error e ↔
      e = .unknownConstant cell line ∧ ∃ r, reference? cell = some r ∧ lookup? r.1 r.2 = none := by
  unfold resolve
  split
  · rename_i h
    simp [h]
  · rename_i cls field h
    cases hv : lookup? cls field <;> simp [h, hv, eq_comm]

end PaymentRules.Constant
