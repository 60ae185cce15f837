/-!
# Feature keys and the ports behind them

The closed taxonomy of runtime features, in the order every loop visits it, and
the composition slots that back each of them.
-/

namespace FormspecWeb.Policy

inductive RuntimeFeatureKey where
  | respondentPlace
  | status
  | documentPresentation
  | fileUpload
  | crossIssuerHistory
  | offlineSubmit
  | payment
  | embed
  | screener
  | preparerFiling
  | trustedReviewer
  | bringYourOwnAssistant
  | safeAddress
  | duressAware
  | multiParty
  | recordLifecycle
deriving DecidableEq

def runtimeFeatureKeys : List RuntimeFeatureKey :=
  [.respondentPlace, .status, .documentPresentation, .fileUpload, .crossIssuerHistory,
    .offlineSubmit, .payment, .embed, .screener, .preparerFiling, .trustedReviewer,
    .bringYourOwnAssistant, .safeAddress, .duressAware, .multiParty, .recordLifecycle]

def RuntimeFeatureKey.name : RuntimeFeatureKey → String
  | .respondentPlace => "respondentPlace"
  | .status => "status"
  | .documentPresentation => "documentPresentation"
  | .fileUpload => "fileUpload"
  | .crossIssuerHistory => "crossIssuerHistory"
  | .offlineSubmit => "offlineSubmit"
  | .payment => "payment"
  | .embed => "embed"
  | .screener => "screener"
  | .preparerFiling => "preparerFiling"
  | .trustedReviewer => "trustedReviewer"
  | .bringYourOwnAssistant => "bringYourOwnAssistant"
  | .safeAddress => "safeAddress"
  | .duressAware => "duressAware"
  | .multiParty => "multiParty"
  | .recordLifecycle => "recordLifecycle"

def isRuntimeFeatureKey (value : String) : Bool := runtimeFeatureKeys.any (·.name == value)

theorem mem_runtimeFeatureKeys (key : RuntimeFeatureKey) : key ∈ runtimeFeatureKeys := by
  cases key <;> decide

inductive CompositionPortName where
  | respondentPlaceSource
  | statusReader
  | attachmentStore
  | respondentHistorySource
  | offlineSubmitQueue
  | paymentRailAdapter
  | embedTransport
  | screenerDocumentSource
  | safeAddressDirectory
  | draftStore
  | identityProvider
  | submitTransport
  | lifecycleActionClient
deriving DecidableEq

def CompositionPortName.name : CompositionPortName → String
  | .respondentPlaceSource => "respondentPlaceSource"
  | .statusReader => "statusReader"
  | .attachmentStore => "attachmentStore"
  | .respondentHistorySource => "respondentHistorySource"
  | .offlineSubmitQueue => "offlineSubmitQueue"
  | .paymentRailAdapter => "paymentRailAdapter"
  | .embedTransport => "embedTransport"
  | .screenerDocumentSource => "screenerDocumentSource"
  | .safeAddressDirectory => "safeAddressDirectory"
  | .draftStore => "draftStore"
  | .identityProvider => "identityProvider"
  | .submitTransport => "submitTransport"
  | .lifecycleActionClient => "lifecycleActionClient"

/-- `FEATURE_PORT_MAP`, each entry as a list. -/
def featurePortNames : RuntimeFeatureKey → List CompositionPortName
  | .respondentPlace => [.respondentPlaceSource]
  | .status => [.statusReader]
  | .documentPresentation => [.respondentPlaceSource]
  | .fileUpload => [.attachmentStore]
  | .crossIssuerHistory => [.respondentHistorySource]
  | .offlineSubmit => [.offlineSubmitQueue]
  | .payment => [.paymentRailAdapter]
  | .embed => [.embedTransport]
  | .screener => [.screenerDocumentSource]
  | .preparerFiling => []
  | .trustedReviewer => []
  | .bringYourOwnAssistant => []
  | .safeAddress => [.safeAddressDirectory]
  | .duressAware => []
  | .multiParty => [.draftStore, .identityProvider, .submitTransport]
  | .recordLifecycle => [.lifecycleActionClient]

end FormspecWeb.Policy
