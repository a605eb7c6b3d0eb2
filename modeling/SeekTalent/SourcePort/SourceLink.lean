import SeekTalent.Foundation.Machine
import SeekTalent.SourcePort.FrameAuthenticity

/-!
# Two honest endpoints over two byte channels

A main and a sidecar endpoint of one Liepin source session.  Each writes the frames it encodes to a
lossless first-in first-out channel of bytes, and the other is fed what is in the channel, any
number of bytes at a time.
-/

namespace SeekTalent.SourcePort

open Foundation

/-- A frame of the session. -/
abbrev SourceFrame := EncodedFrame LiepinSourcePayload

/-- The endpoints, the bytes each has written that were not delivered yet, the frames each has
encoded and the envelopes each has accepted. -/
structure SourceLink where
  endpoint : EndpointRole → LiepinSourceSession
  wire : EndpointRole → Bytes
  encoded : EndpointRole → List SourceFrame
  accepted : EndpointRole → List LiepinSourceEnvelope

/-- A call of one of the `encode_*` methods, or a delivery of the next bytes to an endpoint. -/
inductive SourceLinkEvent where
  | encode (role : EndpointRole) (call : EncodeCall)
  | deliver (role : EndpointRole) (count : Nat)

namespace SourceLink

/-- Both endpoints of a session. -/
def create (adapter : LiepinSourceAdapter) (sessionId : String) (protocolMinor : Int)
    (mainToSidecarKey sidecarToMainKey : Bytes) : Except String SourceLink := do
  let main ← FrameSession.create (liepinSourceContract adapter) .main sessionId protocolMinor
    mainToSidecarKey sidecarToMainKey
  let sidecar ← FrameSession.create (liepinSourceContract adapter) .sidecar sessionId protocolMinor
    mainToSidecarKey sidecarToMainKey
  return {
    endpoint := fun role => if role = .main then main else sidecar
    wire := fun _ => []
    encoded := fun _ => []
    accepted := fun _ => [] }

variable (rt : WireRuntime) (adapter : LiepinSourceAdapter)

/-- One event. -/
def step (w : SourceLink) : SourceLinkEvent → SourceLink
  | .encode role call =>
    match (w.endpoint role).encodeCall rt adapter call with
    | (.error _, after) => { w with endpoint := Function.update w.endpoint role after }
    | (.ok frame, after) => { w with
        endpoint := Function.update w.endpoint role after
        wire := Function.update w.wire role (w.wire role ++ frame.frame)
        encoded := Function.update w.encoded role (w.encoded role ++ [frame]) }
  | .deliver role count =>
    let outcome := (w.endpoint role).feed rt (liepinSourceContract adapter)
      ((w.wire role.peer).take count)
    { w with
      endpoint := Function.update w.endpoint role outcome.session
      wire := Function.update w.wire role.peer ((w.wire role.peer).drop count)
      accepted := Function.update w.accepted role
        (w.accepted role ++ outcome.accepted.map Prod.fst) }

/-- The frames that are on their way to an endpoint. -/
def inFlight (w : SourceLink) (role : EndpointRole) : List SourceFrame :=
  (w.encoded role.peer).drop (w.accepted role).length

end SourceLink

end SeekTalent.SourcePort
