import Sophia.Ipc.Portal
import Sophia.Ipc.Wm

/-! What is written is read back, and what is read was written so. -/
namespace Sophia.Ipc

open Sophia.Protocol

/-- Every message that encodes decodes to itself; a broker response must answer for its own
transfer. -/
theorem ipc_round_trip (frame : List UInt8) :
    (∀ hello, encodeWmHelloFrame hello = .ok frame → decodeWmHelloFrame frame = .ok hello) ∧
    (∀ descriptor, encodeWmSessionDescriptorFrame descriptor = .ok frame →
      decodeWmSessionDescriptorFrame frame = .ok descriptor) ∧
    (∀ request, encodeWmRequestFrame request = .ok frame →
      decodeWmRequestFrame frame = .ok request) ∧
    (∀ response, encodeWmResponseFrame response = .ok frame →
      decodeWmResponseFrame frame = .ok response) ∧
    (∀ packet, encodeBrokerHealthFrame packet = .ok frame →
      decodeBrokerHealthFrame frame = .ok packet) ∧
    (∀ packet, encodePortalBrokerRequestFrame packet = .ok frame →
      decodePortalBrokerRequestFrame frame = .ok packet) ∧
    (∀ packet, Correlated packet → encodePortalBrokerResponseFrame packet = .ok frame →
      decodePortalBrokerResponseFrame frame = .ok packet) ∧
    (∀ transfer payload, encodePortalClipboardPayloadFrame transfer payload = .ok frame →
      decodePortalClipboardPayloadFrame frame = .ok (transfer, payload)) := by
  refine ⟨?_, ?_, ?_, ?_, ?_, ?_, ?_, ?_⟩
  · exact fun hello h => decodeWmHelloFrame_encode h
  · exact fun descriptor h => decodeWmSessionDescriptorFrame_encode h
  · exact fun request h => decodeWmRequestFrame_encode h
  · exact fun response h => decodeWmResponseFrame_eq_ok.mpr h
  · exact fun packet h => decodeBrokerHealthFrame_eq_ok.mpr h
  · exact fun packet h => decodePortalBrokerRequestFrame_eq_ok.mpr h
  · exact fun packet hsame h => decodePortalBrokerResponseFrame_eq_ok.mpr ⟨hsame, h⟩
  · exact fun transfer payload h => decodePortalClipboardPayloadFrame_eq_ok.mpr h

/-- The frame of a hello with one binding. -/
def helloFrame : List UInt8 :=
  [0x53, 0x4f, 0x50, 0x48, 1, 0, 9, 0, 0, 0, 0, 0, 0, 0, 0, 0, 30, 0, 0, 0, 0, 0, 0, 0,
    2, 0, 7, 0, 0, 0, 0, 0, 0, 0, 1, 0, 0, 0, 5, 0, 0, 0, 0, 0, 0, 0, 36, 0, 0, 0, 8, 0, 0, 0]

theorem ipc_round_trip_hello :
    encodeWmHelloFrame ⟨2, ⟨7⟩, [⟨⟨5⟩, 36, ⟨8⟩⟩]⟩ = .ok helloFrame ∧
      decodeWmHelloFrame helloFrame = .ok ⟨2, ⟨7⟩, [⟨⟨5⟩, 36, ⟨8⟩⟩]⟩ := by
  have hencode : encodeWmHelloFrame ⟨2, ⟨7⟩, [⟨⟨5⟩, 36, ⟨8⟩⟩]⟩ = .ok helloFrame := by
    decide +kernel
  exact ⟨hencode, (ipc_round_trip helloFrame).1 _ hencode⟩

/-- Every frame that is accepted is the one the message it means is written as. -/
theorem ipc_decoding_canonical (frame : List UInt8) :
    (∀ response, decodeWmResponseFrame frame = .ok response →
      encodeWmResponseFrame response = .ok frame) ∧
    (∀ packet, decodePortalBrokerRequestFrame frame = .ok packet →
      encodePortalBrokerRequestFrame packet = .ok frame) ∧
    (∀ packet, decodePortalBrokerResponseFrame frame = .ok packet →
      encodePortalBrokerResponseFrame packet = .ok frame) ∧
    (∀ transfer payload, decodePortalClipboardPayloadFrame frame = .ok (transfer, payload) →
      encodePortalClipboardPayloadFrame transfer payload = .ok frame) ∧
    (∀ packet, decodeBrokerHealthFrame frame = .ok packet →
      encodeBrokerHealthFrame packet = .ok frame) := by
  refine ⟨?_, ?_, ?_, ?_, ?_⟩
  · exact fun response h => decodeWmResponseFrame_eq_ok.mp h
  · exact fun packet h => decodePortalBrokerRequestFrame_eq_ok.mp h
  · exact fun packet h => (decodePortalBrokerResponseFrame_eq_ok.mp h).2
  · exact fun transfer payload h => decodePortalClipboardPayloadFrame_eq_ok.mp h
  · exact fun packet h => decodeBrokerHealthFrame_eq_ok.mp h

/-- The frame of a denied transfer. -/
def deniedFrame : List UInt8 :=
  [0x53, 0x4f, 0x50, 0x48, 1, 0, 7, 0, 3, 0, 0, 0, 0, 0, 0, 0, 1, 0, 0, 0, 0, 0, 0, 0, 1]

theorem ipc_decoding_canonical_denied :
    decodePortalBrokerResponseFrame deniedFrame = .ok ⟨⟨3⟩, .denied⟩ ∧
      encodePortalBrokerResponseFrame ⟨⟨3⟩, .denied⟩ = .ok deniedFrame := by
  have hdecode : decodePortalBrokerResponseFrame deniedFrame = .ok ⟨⟨3⟩, .denied⟩ := by
    decide +kernel
  exact ⟨hdecode, (ipc_decoding_canonical deniedFrame).2.2.1 _ hdecode⟩

end Sophia.Ipc
