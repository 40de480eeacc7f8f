import Sophia.Authority.Runtime

/-! Granted clipboard transfers: asking the source owner and handing its bytes over. -/
namespace Sophia.Authority

open Std Sophia.Protocol Sophia.Portal

namespace XAuthorityRuntime

def setPendingClipboardByteOrder (runtime : XAuthorityRuntime) (transfer : PortalTransferId)
    (byteOrder : XByteOrder) : XAuthorityRuntime :=
  match runtime.pendingClipboard[transfer]? with
  | none => runtime
  | some pending =>
    { runtime with
      pendingClipboard := runtime.pendingClipboard.insert transfer { pending with byteOrder } }

/-- The grant is active and was given for the transfer that is pending. -/
def grantCovers (grant : PortalGrant) (pending : PendingClipboardSelection) : Bool :=
  grant.state = .active ∧ grant.sourceGeneration = pending.portalRequest.request.generation ∧
    grant.sourceNamespace = pending.portalRequest.request.sourceNamespace ∧
    grant.targetNamespace = pending.portalRequest.request.targetNamespace

/-- A proxy id below every client's allocation range, while there are any left. -/
def nextProxyRaw (runtime : XAuthorityRuntime) : Option UInt32 :=
  if 0x10000 + runtime.nextClipboardProxy.toNat < 0x200000 then
    some (0x10000 + runtime.nextClipboardProxy)
  else none

def beginClipboardSourceRequest (runtime : XAuthorityRuntime) (grant : PortalGrant) :
    Except ClipboardSelectionExecutionError (ClipboardSelectionProxy × XAuthorityRuntime) :=
  match runtime.pendingClipboard[grant.transfer]? with
  | none => .error .unknownTransfer
  | some pending =>
    if !grantCovers grant pending then .error .staleOwnerGeneration
    else match runtime.selections.currentOwnerForSelection pending.portalRequest.failure.selection
      with
      | none => .error .staleOwnerGeneration
      | some record =>
        if record.generation ≠ grant.sourceGeneration then .error .staleOwnerGeneration
        else match record.owner, runtime.nextProxyRaw with
          | none, _ => .error .staleOwnerGeneration
          | some _, none => .error .executorFailure
          | some owner, some raw =>
            let proxy : ClipboardSelectionProxy :=
              { transfer := grant.transfer
                namespaceId := grant.sourceNamespace
                owner
                requestor := .new raw.toUInt64 1
                selection := pending.portalRequest.failure.selection
                target := pending.portalRequest.failure.target
                property := pending.portalRequest.failure.target
                time := pending.portalRequest.failure.time }
            .ok (proxy,
              { runtime with
                nextClipboardProxy := runtime.nextClipboardProxy + 1
                clipboardProxies := runtime.clipboardProxies.insert proxy.requestor proxy })

/-- What the source owner wrote for a proxy, taken out of the property table. -/
def capturedPayload (proxy : ClipboardSelectionProxy) (property : UInt32)
    (properties : XPropertyTable) :
    Except ClipboardSelectionExecutionError ClipboardSourcePayload × XPropertyTable :=
  if property = xAtomNone ∨ property ≠ proxy.property then
    (.error .executorFailure, properties.removeWindow proxy.namespaceId proxy.requestor)
  else match properties.get proxy.namespaceId proxy.requestor property with
    | none => (.error .executorFailure, properties)
    | some record =>
      (if maxClipboardTextHandoffBytes < record.bytes.length then .error .payloadTooLarge
        else .ok { transfer := proxy.transfer, bytes := record.bytes },
        properties.removeWindow proxy.namespaceId proxy.requestor)

def captureClipboardSourcePayload (runtime : XAuthorityRuntime) (requestor : XResourceId)
    (property : UInt32) (properties : XPropertyTable) :
    (Except ClipboardSelectionExecutionError ClipboardSourcePayload × XPropertyTable) ×
      XAuthorityRuntime :=
  match runtime.clipboardProxies[requestor]? with
  | none => ((.error .unknownTransfer, properties), runtime)
  | some proxy =>
    (capturedPayload proxy property properties,
      { runtime with clipboardProxies := runtime.clipboardProxies.erase requestor })

def discardClipboardProxies (runtime : XAuthorityRuntime) (transfer : PortalTransferId) :
    List (NamespaceId × XResourceId) × XAuthorityRuntime :=
  (((runtime.clipboardProxies.toList.map Prod.snd).filter (·.transfer = transfer)).map fun proxy =>
      (proxy.namespaceId, proxy.requestor),
    { runtime with
      clipboardProxies := runtime.clipboardProxies.filter fun _ proxy => proxy.transfer ≠ transfer })

def XByteOrder.u32Bytes (order : XByteOrder) (value : UInt32) : List UInt8 :=
  let bytes := [value.toUInt8, (value >>> 8).toUInt8, (value >>> 16).toUInt8, (value >>> 24).toUInt8]
  match order with
  | .littleEndian => bytes
  | .bigEndian => bytes.reverse

/-- The atoms of the offered targets, interned one after the other. -/
def targetAtoms (order : XByteOrder) :
    List String → XAtomTable → Option (List UInt8) × XAtomTable
  | [], atoms => (some [], atoms)
  | name :: names, atoms => match atoms.intern name false with
    | .error _ => (none, atoms)
    -- Interning without the only-if-exists flag always names an atom.
    | .ok (none, atoms) => (none, atoms)
    | .ok (some atom, atoms) =>
      let rest := targetAtoms order names atoms
      (rest.1.map (XByteOrder.u32Bytes order atom ++ ·), rest.2)

/-- The property a conversion writes, a refusal that is notified, or an error of its own. -/
inductive ConvertedValue where
  | value (propertyType : UInt32) (format : UInt8) (bytes : List UInt8)
  | refused (error : ClipboardSelectionExecutionError)
  | broken (error : ClipboardSelectionExecutionError)

def convertedValue (pending : PendingClipboardSelection) (payload : List UInt8)
    (atoms : XAtomTable) : ConvertedValue × XAtomTable :=
  let target := pending.portalRequest.request.target.asStr
  if target = "TARGETS" then
    match targetAtoms pending.byteOrder ["TARGETS", "UTF8_STRING", "text/plain;charset=utf-8"]
      atoms with
    | (none, atoms) => (.broken .property, atoms)
    | (some bytes, atoms) => (.value xAtomAtom 32 bytes, atoms)
  else if target = "UTF8_STRING" ∨ target = "text/plain" ∨ target = "text/plain;charset=utf-8" then
    if !ByteArray.validateUTF8 ⟨payload.toArray⟩ then (.refused .invalidUtf8, atoms)
    else (.value pending.portalRequest.failure.target 8 payload, atoms)
  else (.refused .unsupportedTarget, atoms)

abbrev Execution :=
  Except ClipboardSelectionExecutionError ClipboardSelectionExecutionOutcome ×
    XAtomTable × XPropertyTable

/-- Write the converted value on the requestor's window and report it. -/
def installValue (pending : PendingClipboardSelection) (transfer : PortalTransferId)
    (properties : XPropertyTable) : ConvertedValue × XAtomTable → Execution
  | (.broken error, atoms) => (.error error, atoms, properties)
  | (.refused error, atoms) =>
    (.ok (.failed error pending.portalRequest.failure.refusal), atoms, properties)
  | (.value propertyType format bytes, atoms) =>
    let failure := pending.portalRequest.failure
    match properties.applyChange pending.namespaceId
      { mode := .replace, window := failure.requestor, property := pending.portalRequest.property,
        propertyType, format, bytes } with
    | .error _ => (.ok (.failed .property failure.refusal), atoms, properties)
    | .ok (_, properties) =>
      (.ok (.handoff
        { transfer
          property :=
            { requestor := failure.requestor, property := pending.portalRequest.property,
              target := failure.target, bytes }
          notify := { failure.refusal with property := pending.portalRequest.property } }),
        atoms, properties)

def executePending (selections : XSelectionMonitor) (pending : PendingClipboardSelection)
    (transfer : PortalTransferId) (grant : PortalGrant) (payload : List UInt8)
    (atoms : XAtomTable) (properties : XPropertyTable) : Execution :=
  let failure := pending.portalRequest.failure
  let fail error : Execution := (.ok (.failed error failure.refusal), atoms, properties)
  if grant.transfer ≠ transfer ∨ !grantCovers grant pending then fail .staleOwnerGeneration
  else match selections.currentOwnerForSelection failure.selection with
    | none => fail .staleOwnerGeneration
    | some owner =>
      if owner.generation ≠ pending.portalRequest.request.generation then
        fail .staleOwnerGeneration
      else if pending.portalRequest.property = xAtomNone then fail .missingProperty
      else if maxClipboardTextHandoffBytes < payload.length then fail .payloadTooLarge
      else if atoms.name failure.selection ≠ some "PRIMARY" ∧
          atoms.name failure.selection ≠ some "CLIPBOARD" then fail .unsupportedTarget
      else installValue pending transfer properties (convertedValue pending payload atoms)

def executeClipboardPayload (runtime : XAuthorityRuntime) (transfer : PortalTransferId)
    (grant : PortalGrant) (payload : List UInt8) (atoms : XAtomTable)
    (properties : XPropertyTable) : Execution × XAuthorityRuntime :=
  match runtime.pendingClipboard[transfer]? with
  | none => ((.error .unknownTransfer, atoms, properties), runtime)
  | some pending =>
    (executePending runtime.selections pending transfer grant payload atoms properties,
      { runtime with pendingClipboard := runtime.pendingClipboard.erase transfer })

def failClipboardTransfer (runtime : XAuthorityRuntime) (transfer : PortalTransferId)
    (error : ClipboardSelectionExecutionError) :
    Except ClipboardSelectionExecutionError
      (ClipboardSelectionExecutionOutcome × XAuthorityRuntime) :=
  match runtime.pendingClipboard[transfer]? with
  | none => .error .unknownTransfer
  | some pending =>
    .ok (.failed error pending.portalRequest.failure.refusal,
      { runtime with pendingClipboard := runtime.pendingClipboard.erase transfer })

end XAuthorityRuntime

/-- One call into the runtime; the frontend's own tables come with the call. -/
inductive RuntimeOp where
  | apply (request : XAuthorityRequestPacket)
  | finishDrawingUpdate (update : XDrawingUpdate)
  | configureWindowGeometry (ns : NamespaceId) (window : XResourceId) (x y : Option Int16)
      (width height : Option UInt16)
  | mapNamespaceWindows (ns : NamespaceId)
  | destroyWindow (ns : NamespaceId) (window : XResourceId)
  | createResource (kind : XAuthorityRuntime.AuxiliaryKind) (ns : NamespaceId) (id : XResourceId)
      (generation : UInt64)
  | freeResource (kind : XAuthorityRuntime.AuxiliaryKind) (ns : NamespaceId) (id : XResourceId)
  | dropResource (id : XResourceId)
  | setPendingClipboardByteOrder (transfer : PortalTransferId) (byteOrder : XByteOrder)
  | beginClipboardSourceRequest (grant : PortalGrant)
  | captureClipboardSourcePayload (requestor : XResourceId) (property : UInt32)
      (properties : XPropertyTable)
  | discardClipboardProxies (transfer : PortalTransferId)
  | executeClipboardPayload (transfer : PortalTransferId) (grant : PortalGrant)
      (payload : List UInt8) (atoms : XAtomTable) (properties : XPropertyTable)
  | failClipboardTransfer (transfer : PortalTransferId) (error : ClipboardSelectionExecutionError)

namespace XAuthorityRuntime

def step (runtime : XAuthorityRuntime) : RuntimeOp → XAuthorityRuntime
  | .apply request => (runtime.apply request).2
  | .finishDrawingUpdate update => (runtime.answer (runtime.finishDrawingUpdate update)).2
  | .configureWindowGeometry ns window x y width height =>
    (runtime.configureWindowGeometry ns window x y width height).toOption.getD runtime
  | .mapNamespaceWindows ns => (runtime.mapNamespaceWindows ns).2
  | .destroyWindow ns window =>
    ((runtime.destroyWindow ns window).toOption.map Prod.snd).getD runtime
  | .createResource kind ns id generation =>
    (createResource kind runtime ns id generation).toOption.getD runtime
  | .freeResource kind ns id => (freeResource kind runtime ns id).toOption.getD runtime
  | .dropResource id => runtime.dropResource id
  | .setPendingClipboardByteOrder transfer byteOrder =>
    runtime.setPendingClipboardByteOrder transfer byteOrder
  | .beginClipboardSourceRequest grant =>
    ((runtime.beginClipboardSourceRequest grant).toOption.map Prod.snd).getD runtime
  | .captureClipboardSourcePayload requestor property properties =>
    (runtime.captureClipboardSourcePayload requestor property properties).2
  | .discardClipboardProxies transfer => (runtime.discardClipboardProxies transfer).2
  | .executeClipboardPayload transfer grant payload atoms properties =>
    (runtime.executeClipboardPayload transfer grant payload atoms properties).2
  | .failClipboardTransfer transfer error =>
    ((runtime.failClipboardTransfer transfer error).toOption.map Prod.snd).getD runtime

/-- The runtime after a sequence of calls from the start. -/
def after (ops : List RuntimeOp) : XAuthorityRuntime := Run.exec step new ops

end XAuthorityRuntime
end Sophia.Authority
