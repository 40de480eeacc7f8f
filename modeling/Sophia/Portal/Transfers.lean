import Mathlib.Algebra.GroupWithZero.Nat
import Sophia.Lib.Fallible
import Sophia.Protocol.Portal

/-! The portals of each kind: one pending record per transfer, decided by policy. -/
namespace Sophia.Portal

open Std Sophia.Protocol

inductive PortalCommand where
  | promptClipboardTransfer (transfer : PortalTransfer)
  | handoffClipboard (transfer : PortalTransferId)
  | failSelection (transfer : PortalTransferId)
  | promptDragAndDropTransfer (transfer : PortalTransfer)
  | handoffDragAndDrop (transfer : PortalTransferId)
  | cancelDragAndDrop (transfer : PortalTransferId)
  | promptFileHandoff (transfer : PortalTransfer)
  | handoffFile (transfer : PortalTransferId)
  | cancelFileHandoff (transfer : PortalTransferId)
  | promptScreenCapture (transfer : PortalTransfer)
  | handoffScreenCapture (transfer : PortalTransferId)
  | cancelScreenCapture (transfer : PortalTransferId)
  | promptUriOpen (transfer : PortalTransfer)
  | handoffUriOpen (transfer : PortalTransferId)
  | cancelUriOpen (transfer : PortalTransferId)
  | promptNotification (transfer : PortalTransfer)
  | deliverNotification (transfer : PortalTransferId)
  | dropNotification (transfer : PortalTransferId)
  deriving DecidableEq, Repr

inductive PortalError where
  | invalidTransfer
  | invalidNamespace
  | unsupportedTarget
  | missingTransferType
  | tooManyTransferTypes
  | invalidSuggestedName
  | unsupportedCaptureMimeType
  | invalidUri
  | unsupportedUriScheme
  | invalidNotificationText
  | tooManyNotificationActions
  | unknownTransfer
  | notPending
  deriving DecidableEq, Repr

def maxDragAndDropTypes : ℕ := 16
def maxFileHandoffTypes : ℕ := 32
def maxSuggestedFileNameLen : ℕ := 255
def maxUriLen : ℕ := 2048
def maxNotificationSummaryLen : ℕ := 128
def maxNotificationBodyLen : ℕ := 1024
def maxNotificationActions : ℕ := 4
def maxNotificationActionLen : ℕ := 64

/-- What distinguishes the portals: their requests and the commands they answer with. -/
structure PortalFamily (ρ : Type) where
  validate : ρ → Except PortalError Unit
  transfer : ρ → PortalTransfer
  prompt : PortalTransfer → PortalCommand
  handoff : PortalTransferId → PortalCommand
  cancel : PortalTransferId → PortalCommand

structure TransferPortal {ρ : Type} (family : PortalFamily ρ) where
  transfers : ExtTreeMap PortalTransferId PortalTransfer

namespace TransferPortal

variable {ρ : Type} {family : PortalFamily ρ}

def new : TransferPortal family := ⟨∅⟩

def request (portal : TransferPortal family) (request : ρ) :
    Except PortalError (PortalCommand × TransferPortal family) := do
  family.validate request
  let transfer := family.transfer request
  return (family.prompt transfer, ⟨portal.transfers.insert transfer.transfer transfer⟩)

def pendingTransfer (portal : TransferPortal family) (transfer : PortalTransferId) :
    Except PortalError PortalTransfer :=
  match portal.transfers[transfer]? with
  | none => .error .unknownTransfer
  | some state => if state.decision ≠ .pending then .error .notPending else .ok state

/-- Record a decision about a transfer that is in the table. -/
def decide (portal : TransferPortal family) (transfer : PortalTransferId) (state : PortalTransfer)
    (decision : PortalDecision) : TransferPortal family :=
  ⟨portal.transfers.insert transfer { state with decision }⟩

def deny (portal : TransferPortal family) (transfer : PortalTransferId) :
    Except PortalError (PortalCommand × TransferPortal family) := do
  let state ← portal.pendingTransfer transfer
  return (family.cancel transfer, portal.decide transfer state .denied)

def approveGeneration (portal : TransferPortal family) (transfer : PortalTransferId)
    (generation : UInt64) : Except PortalError (PortalCommand × TransferPortal family) := do
  let state ← portal.pendingTransfer transfer
  if state.generation ≠ generation then
    return (family.cancel transfer, portal.decide transfer state .revoked)
  else return (family.handoff transfer, portal.decide transfer state .allowed)

/-- Whether a change of owner in the source namespace takes back the transfer. -/
def outdated (sourceNamespace : NamespaceId) (generation : UInt64) (state : PortalTransfer) :
    Bool :=
  state.sourceNamespace = sourceNamespace ∧ state.decision = .pending ∧
    state.generation ≠ generation

def sourceOwnerChanged (portal : TransferPortal family) (sourceNamespace : NamespaceId)
    (generation : UInt64) : List PortalCommand × TransferPortal family :=
  let changed := (portal.transfers.toList.map Prod.snd).filter
    (outdated sourceNamespace generation)
  (changed.map fun state => family.cancel state.transfer,
    ⟨portal.transfers.map fun _ state =>
      if outdated sourceNamespace generation state then { state with decision := .revoked }
      else state⟩)

end TransferPortal

section Validation

/-- The checks every portal makes first. -/
def validateEndpoints (transfer : PortalTransferId) (source target : NamespaceId) :
    Except PortalError Unit :=
  if !transfer.isValid then .error .invalidTransfer
  else if !source.isValid || !target.isValid then .error .invalidNamespace
  else .ok ()

def isControl (c : Char) : Bool := c.toNat ≤ 0x1f || (0x7f ≤ c.toNat && c.toNat ≤ 0x9f)

def isWhitespace (c : Char) : Bool :=
  (0x9 ≤ c.toNat && c.toNat ≤ 0xd) || (0x2000 ≤ c.toNat && c.toNat ≤ 0x200a) ||
    [0x20, 0x85, 0xa0, 0x1680, 0x2028, 0x2029, 0x202f, 0x205f, 0x3000].contains c.toNat

end Validation

section Clipboard

inductive ClipboardTarget where
  | atom (target : String)
  | mime (target : String)
  deriving DecidableEq, Repr

def ClipboardTarget.asStr : ClipboardTarget → String
  | .atom target => target
  | .mime target => target

def ClipboardTarget.isText (target : ClipboardTarget) : Bool :=
  let text := target.asStr
  let lower := text.map Char.toLower
  text = "UTF8_STRING" || text = "TEXT" || text = "STRING" || lower = "text/plain" ||
    lower.startsWith "text/plain;" || lower.startsWith "text/"

structure ClipboardTransferRequest where
  transfer : PortalTransferId
  sourceNamespace : NamespaceId
  targetNamespace : NamespaceId
  target : ClipboardTarget
  byteSize : UInt64
  generation : UInt64
  deriving DecidableEq, Repr

def validateRequest (request : ClipboardTransferRequest) : Except PortalError Unit := do
  validateEndpoints request.transfer request.sourceNamespace request.targetNamespace
  if request.target.asStr ≠ "TARGETS" ∧ !request.target.isText then .error .unsupportedTarget
  else .ok ()

def clipboardFamily : PortalFamily ClipboardTransferRequest where
  validate := validateRequest
  transfer request :=
    { transfer := request.transfer
      sourceNamespace := request.sourceNamespace
      targetNamespace := request.targetNamespace
      kind := .clipboard
      mimeType := some request.target.asStr
      byteSize := request.byteSize
      decision := .pending
      generation := request.generation }
  prompt := .promptClipboardTransfer
  handoff := .handoffClipboard
  cancel := .failSelection

abbrev ClipboardPortal := TransferPortal clipboardFamily

def ClipboardPortal.requestImport (portal : ClipboardPortal) (request : ClipboardTransferRequest) :
    Except PortalError (PortalCommand × ClipboardPortal) :=
  TransferPortal.request portal request

end Clipboard

section DragAndDrop

structure DragAndDropTransferRequest where
  transfer : PortalTransferId
  sourceNamespace : NamespaceId
  targetNamespace : NamespaceId
  offeredTypes : List String
  byteSize : UInt64
  generation : UInt64
  deriving DecidableEq, Repr

/-- The offered types a drop or a file handoff may carry. -/
def validateOfferedTypes (offeredTypes : List String) (limit : ℕ) : Except PortalError Unit :=
  if offeredTypes.isEmpty || offeredTypes.any String.isEmpty then .error .missingTransferType
  else if limit < offeredTypes.length then .error .tooManyTransferTypes
  else .ok ()

def validateDragAndDropRequest (request : DragAndDropTransferRequest) :
    Except PortalError Unit := do
  validateEndpoints request.transfer request.sourceNamespace request.targetNamespace
  validateOfferedTypes request.offeredTypes maxDragAndDropTypes

def dragAndDropFamily : PortalFamily DragAndDropTransferRequest where
  validate := validateDragAndDropRequest
  transfer request :=
    { transfer := request.transfer
      sourceNamespace := request.sourceNamespace
      targetNamespace := request.targetNamespace
      kind := .dragAndDrop
      mimeType := request.offeredTypes.head?
      byteSize := request.byteSize
      decision := .pending
      generation := request.generation }
  prompt := .promptDragAndDropTransfer
  handoff := .handoffDragAndDrop
  cancel := .cancelDragAndDrop

abbrev DragAndDropPortal := TransferPortal dragAndDropFamily

end DragAndDrop

section FileHandoff

inductive FileHandoffMode where
  | «open»
  | save
  deriving DecidableEq, Repr

structure FileHandoffRequest where
  transfer : PortalTransferId
  sourceNamespace : NamespaceId
  targetNamespace : NamespaceId
  mode : FileHandoffMode
  offeredTypes : List String
  suggestedName : Option String
  byteSize : UInt64
  generation : UInt64
  deriving DecidableEq, Repr

def validSuggestedFileName (name : String) : Bool :=
  !name.isEmpty && name.utf8ByteSize ≤ maxSuggestedFileNameLen && !name.toList.contains '/' &&
    !name.toList.contains '\\' && name ≠ "." && name ≠ ".."

def validateFileHandoffRequest (request : FileHandoffRequest) : Except PortalError Unit := do
  validateEndpoints request.transfer request.sourceNamespace request.targetNamespace
  validateOfferedTypes request.offeredTypes maxFileHandoffTypes
  if request.suggestedName.any fun name => !validSuggestedFileName name then
    .error .invalidSuggestedName
  else .ok ()

/-- The hint names the first offered type; validation leaves no empty list. -/
def fileHandoffTypeHint (request : FileHandoffRequest) : String :=
  let mode := match request.mode with
    | .open => "open"
    | .save => "save"
  mode ++ ":" ++ request.offeredTypes.head?.getD ""

def fileHandoffFamily : PortalFamily FileHandoffRequest where
  validate := validateFileHandoffRequest
  transfer request :=
    { transfer := request.transfer
      sourceNamespace := request.sourceNamespace
      targetNamespace := request.targetNamespace
      kind := .fileHandoff
      mimeType := some (fileHandoffTypeHint request)
      byteSize := request.byteSize
      decision := .pending
      generation := request.generation }
  prompt := .promptFileHandoff
  handoff := .handoffFile
  cancel := .cancelFileHandoff

abbrev FileHandoffPortal := TransferPortal fileHandoffFamily

end FileHandoff

section ScreenCapture

inductive ScreenCaptureMode where
  | screenshot
  | screenRecording
  deriving DecidableEq, Repr

inductive ScreenCaptureScope where
  | desktop
  | output
  | surface
  deriving DecidableEq, Repr

structure ScreenCaptureRequest where
  transfer : PortalTransferId
  sourceNamespace : NamespaceId
  targetNamespace : NamespaceId
  mode : ScreenCaptureMode
  scope : ScreenCaptureScope
  mimeType : String
  byteSize : UInt64
  generation : UInt64
  deriving DecidableEq, Repr

def supportedScreenCaptureMime (mode : ScreenCaptureMode) (mimeType : String) : Bool :=
  match mode with
  | .screenshot => mimeType = "image/png" || mimeType = "image/jpeg"
  | .screenRecording => mimeType = "video/webm" || mimeType = "video/mp4"

def validateScreenCaptureRequest (request : ScreenCaptureRequest) : Except PortalError Unit := do
  validateEndpoints request.transfer request.sourceNamespace request.targetNamespace
  if !supportedScreenCaptureMime request.mode request.mimeType then
    .error .unsupportedCaptureMimeType
  else .ok ()

def screenCaptureTypeHint (request : ScreenCaptureRequest) : String :=
  let mode := match request.mode with
    | .screenshot => "screenshot"
    | .screenRecording => "screen-recording"
  let scope := match request.scope with
    | .desktop => "desktop"
    | .output => "output"
    | .surface => "surface"
  mode ++ ":" ++ scope ++ ":" ++ request.mimeType

def screenCaptureFamily : PortalFamily ScreenCaptureRequest where
  validate := validateScreenCaptureRequest
  transfer request :=
    { transfer := request.transfer
      sourceNamespace := request.sourceNamespace
      targetNamespace := request.targetNamespace
      kind := match request.mode with
        | .screenshot => .screenCapture
        | .screenRecording => .screenRecording
      mimeType := some (screenCaptureTypeHint request)
      byteSize := request.byteSize
      decision := .pending
      generation := request.generation }
  prompt := .promptScreenCapture
  handoff := .handoffScreenCapture
  cancel := .cancelScreenCapture

abbrev ScreenCapturePortal := TransferPortal screenCaptureFamily

end ScreenCapture

section UriOpen

structure UriOpenRequest where
  transfer : PortalTransferId
  sourceNamespace : NamespaceId
  targetNamespace : NamespaceId
  uri : String
  generation : UInt64
  deriving DecidableEq, Repr

def uriScheme (uri : String) : Option String :=
  let scheme := uri.toList.takeWhile (· ≠ ':')
  if !uri.toList.contains ':' then none
  else if scheme.isEmpty || !scheme.all (fun c => c.isAlphanum || c = '+' || c = '-' || c = '.')
  then none
  else some (String.ofList scheme)

def supportedUriScheme (scheme : String) : Bool :=
  scheme = "http" || scheme = "https" || scheme = "mailto" || scheme = "tel"

def validateUriOpenRequest (request : UriOpenRequest) : Except PortalError Unit := do
  validateEndpoints request.transfer request.sourceNamespace request.targetNamespace
  if request.uri.isEmpty || maxUriLen < request.uri.utf8ByteSize ||
      request.uri.toList.any (fun c => isControl c || isWhitespace c) then
    .error .invalidUri
  else match uriScheme request.uri with
    | none => .error .invalidUri
    | some scheme => if !supportedUriScheme scheme then .error .unsupportedUriScheme else .ok ()

def uriOpenTypeHint (uri : String) : String := "uri-open:" ++ (uriScheme uri).getD "unknown"

def uriOpenFamily : PortalFamily UriOpenRequest where
  validate := validateUriOpenRequest
  transfer request :=
    { transfer := request.transfer
      sourceNamespace := request.sourceNamespace
      targetNamespace := request.targetNamespace
      kind := .uriOpen
      mimeType := some (uriOpenTypeHint request.uri)
      byteSize := UInt64.ofNat request.uri.utf8ByteSize
      decision := .pending
      generation := request.generation }
  prompt := .promptUriOpen
  handoff := .handoffUriOpen
  cancel := .cancelUriOpen

abbrev UriOpenPortal := TransferPortal uriOpenFamily

end UriOpen

section Notification

inductive NotificationUrgency where
  | low
  | normal
  | critical
  deriving DecidableEq, Repr

structure NotificationRequest where
  transfer : PortalTransferId
  sourceNamespace : NamespaceId
  targetNamespace : NamespaceId
  summary : String
  body : Option String
  urgency : NotificationUrgency
  actions : List String
  generation : UInt64
  deriving DecidableEq, Repr

def validNotificationText (text : String) (maxLen : ℕ) : Bool :=
  !text.isEmpty && text.utf8ByteSize ≤ maxLen && !text.toList.any isControl

def validateNotificationRequest (request : NotificationRequest) : Except PortalError Unit := do
  validateEndpoints request.transfer request.sourceNamespace request.targetNamespace
  if !validNotificationText request.summary maxNotificationSummaryLen ||
      request.body.any (fun body => !validNotificationText body maxNotificationBodyLen) ||
      request.actions.any (fun action => !validNotificationText action maxNotificationActionLen) then
    .error .invalidNotificationText
  else if maxNotificationActions < request.actions.length then .error .tooManyNotificationActions
  else .ok ()

def notificationByteSize (request : NotificationRequest) : UInt64 :=
  let bodyLen := request.body.elim 0 String.utf8ByteSize
  let actionsLen := (request.actions.map String.utf8ByteSize).sum
  UInt64.ofNat (request.summary.utf8ByteSize + bodyLen + actionsLen)

def notificationTypeHint (urgency : NotificationUrgency) : String :=
  let urgency := match urgency with
    | .low => "low"
    | .normal => "normal"
    | .critical => "critical"
  "notification:" ++ urgency

def notificationFamily : PortalFamily NotificationRequest where
  validate := validateNotificationRequest
  transfer request :=
    { transfer := request.transfer
      sourceNamespace := request.sourceNamespace
      targetNamespace := request.targetNamespace
      kind := .notification
      mimeType := some (notificationTypeHint request.urgency)
      byteSize := notificationByteSize request
      decision := .pending
      generation := request.generation }
  prompt := .promptNotification
  handoff := .deliverNotification
  cancel := .dropNotification

abbrev NotificationPortal := TransferPortal notificationFamily

end Notification
end Sophia.Portal
