import Meshcore.OffAir
import Meshcore.PathReturns

/-!
# What the host is told of others

Some events tell the host what a peer, a channel or an advertiser says. Anybody can send a frame;
but a node tells its host of none of these things unless the packet proves it: the code at its front
fits the rest of it under a secret that the host has offered for the sender, or under the secret of
a channel with its hash, or the advert carries a good signature. What is told is what was decrypted,
or what the advert says, together with what the node itself adds: its clock, and what it heard on
air. Requests never make a node tell its host any such thing.

The host answers anew each time it is asked. So what is offered, what fits and what is added is what
the host answered while the packet was handled: a stretch of its answers, in which values are read.

## Main definitions

* `Event.isTestimony` — the events that tell what others say
* `Span`, `Span.Reads` — a stretch of the host's answers, and what is read in it
* `Unlocked` — a code that fits, and what was decrypted
* `Speaks`, `Conveys` — the events of a packet that was opened with the secret of a peer or of a
  channel
* `Attested` — the events that a packet proves

## Main results

* `Moves.bind_reads` — what follows may rely on what was read
* `testimony_attested` — every testimony is attested by the packet
-/

set_option synthInstance.maxSize 10000

namespace Meshcore

/-- The host is told what a peer, a channel or an advertiser says. Acknowledgements, traces, control
and raw data name nobody, and an anonymous request names a key that anybody may have made up. -/
def Event.isTestimony : Event → Bool
  | .message _ | .binaryRequest _ | .telemetry .. | .binaryResponse .. | .peerPath _ => true
  | .peerPathPublish .. | .peerSeenUpdate .. | .advert _ | .channelData _ => true
  | .meshOnPeerDataRecv .. | .meshOnPeerPathRecv .. | .meshOnAdvertRecv .. => true
  | .meshOnGroupDataRecv .. => true
  | _ => false

/-- A stretch of the host's answers, from one number up to another, while the clock stands. -/
structure Span where
  first : ℕ
  last : ℕ
  clock : Option ℕ

/-- A value that is read in this stretch. -/
def Span.Reads {α : Type} (span : Span) (ctx : Ctx) (m : M α) (a : α) : Prop :=
  ∃ v : World, span.first ≤ v.tick ∧ (m ctx v).2.tick ≤ span.last ∧ v.millisOverride = span.clock ∧
    (m ctx v).1 = a

/-- The code at the front of these bytes fits the rest under the secret, and the rest is decrypted
with it. The host computes the code in its answer `n`, and decrypts from then on. -/
structure Unlocked (ctx : Ctx) (n : ℕ) (secret : Buf publicKeySize) (bytes data : List UInt8) :
    Prop where
  fits : ∃ mac,
    (ctx.hooks n).hmacSha256 cipherMacSize secret (bytes.drop cipherMacSize) = some mac ∧
    mac.bytes = bytes.take cipherMacSize
  decrypted : ∃ v : World, v.tick = n + 1 ∧
    (utilsDecrypt secret (bytes.drop cipherMacSize) ctx v).1 = data
  nonempty : data ≠ []

/-- The answer that a peer gives: the plaintext of a response, or the extra of a path. -/
inductive Replies (type : UInt8) (data : List UInt8) : List UInt8 → Prop where
  | response (htype : type = payloadTypeResponse) : Replies type data data
  | extra {r : PathReturn} (htype : type = payloadTypePath) (hr : parsePathReturn data = some r)
      (hextra : r.extraType = payloadTypeResponse) : Replies type data r.extra

/-- The flags of a plaintext say where its text begins: behind the prefix of the signer, or at
once. -/
def TextAt (data : List UInt8) (off : ℕ) : Prop :=
  (data.getD 4 0 >>> 2 = txtTypeSignedPlain ∧ off = 9) ∨
  (data.getD 4 0 >>> 2 = txtTypePlain ∧ off = 5)

/-- What the host is told of a peer whose secret has opened a packet. Times are those of the
node. -/
inductive Speaks (span : Span) (got : Packet) (sender : PeerIdentity) (secret : Buf publicKeySize)
    (data : List UInt8) (ctx : Ctx) : Event → Prop where
  | text {off : ℕ} (htype : got.getPayloadType = payloadTypeTxtMsg) (hoff : TextAt data off) :
    Speaks span got sender secret data ctx <| .message
      { type := .receiveNode
        route := messageRouteFromPacket got
        target := sender.publicKey.slice 0 4
        senderName := printString nodeNameMaxLen sender.name.bytes
        payload := (cString (data.drop off)).take maxMessageTxLen
        senderTimestamp := if data.length ≥ 4 then wordAt data else 0
        rxSnr := got.getSnr }
  | request (htype : got.getPayloadType = payloadTypeReq) :
    Speaks span got sender secret data ctx <| .binaryRequest
      { route := messageRouteFromPacket got
        keyPrefix := keyPrefixOf sender.publicKey
        tag := if data.length ≥ 4 then wordAt data else 0
        publicKey := sender.publicKey
        pathLen := got.pathLenField
        path := pathBuf (packetPathCopy got)
        payload := data.drop 4
        rxSnrQ4 := got.snrQ4 }
  | telemetry {answer : List UInt8} {timestamp : UInt32}
      (htime : span.Reads ctx timestampNowSeconds timestamp)
      (h : Replies got.getPayloadType data answer) : Speaks span got sender secret data ctx
        (.telemetry (keyPrefixOf sender.publicKey) timestamp (wordAt answer) (answer.drop 4))
  | binary {answer : List UInt8} {timestamp : UInt32}
      (htime : span.Reads ctx timestampNowSeconds timestamp)
      (h : Replies got.getPayloadType data answer) : Speaks span got sender secret data ctx
        (.binaryResponse (keyPrefixOf sender.publicKey) timestamp (wordAt answer) (answer.drop 4))
  | path {r : PathReturn} {decoded : ℕ × UInt8} {isChat : Bool} {timestamp : UInt32}
      (htype : got.getPayloadType = payloadTypePath) (hr : parsePathReturn data = some r)
      (hdecoded : pathLenDecode r.pathLen = some decoded)
      (hrole : span.Reads ctx (localRoleIs .chat) isChat)
      (htime : span.Reads ctx timestampNowSeconds timestamp) :
    Speaks span got sender secret data ctx <| .peerPath
      { tag := 0
        keyPrefix := keyPrefixOf sender.publicKey
        timestamp
        lastSeenSnr := got.snrQ4
        pathHashSize := decoded.2
        outPath := r.path.take decoded.1
        outPathSnr := (pathSnrs isChat got r.extraType r.extra).1
        returnPathSnr := (pathSnrs isChat got r.extraType r.extra).2 }
  | discovered {r : PathReturn} {decoded : ℕ × UInt8} {timestamp : UInt32}
      (htype : got.getPayloadType = payloadTypePath) (hr : parsePathReturn data = some r)
      (hdecoded : pathLenDecode r.pathLen = some decoded)
      (hextra : r.extraType = payloadTypeResponse)
      (htime : span.Reads ctx timestampNowSeconds timestamp) :
    Speaks span got sender secret data ctx <| .peerPathPublish
      { tag := wordAt r.extra
        keyPrefix := keyPrefixOf sender.publicKey
        timestamp
        lastSeenSnr := got.snrQ4
        pathHashSize := decoded.2
        outPath := r.path.take decoded.1
        outPathSnr := []
        returnPathSnr := [] } true
  | seen : Speaks span got sender secret data ctx (.peerSeenUpdate sender.publicKey got.snrQ4)
  | handed : Speaks span got sender secret data ctx
      (.meshOnPeerDataRecv got got.getPayloadType sender secret data)
  | handedPath {r : PathReturn} (htype : got.getPayloadType = payloadTypePath)
      (hr : parsePathReturn data = some r) : Speaks span got sender secret data ctx
        (.meshOnPeerPathRecv got sender secret r.path r.pathLen r.extraType r.extra)

/-- What the host is told of a channel whose secret has opened a packet. -/
inductive Conveys (got : Packet) (channel : GroupChannel) (data : List UInt8) : Event → Prop where
  | text (htype : got.getPayloadType = payloadTypeGrpTxt) :
    Conveys got channel data <| .message
      { type := .receiveChannel
        route := messageRouteFromPacket got
        target := channel.secret.slice 0 4
        senderName := (splitChannelText (cString (data.drop 5))).1
        payload := (splitChannelText (cString (data.drop 5))).2.take maxMessageTxLen
        senderTimestamp := wordAt data
        rxSnr := got.getSnr }
  | data (htype : got.getPayloadType = payloadTypeGrpData) :
    Conveys got channel data <| .channelData
      { channelHash := channel.hash
        path := packetPathCopy got
        dataType := UInt16.ofNat (leNat (data.take 2))
        payload := (data.drop 3).take (data.getD 2 0).toNat
        rxSnrQ4 := got.snrQ4 }
  | handed : Conveys got channel data (.meshOnGroupDataRecv got got.getPayloadType channel data)

/-- What a packet proves, with what the host answers in this stretch. -/
inductive Attested (span : Span) (got : Packet) (ctx : Ctx) : Event → Prop where
  | peer {n cursor next : ℕ} {secret : Buf publicKeySize} {sender : PeerIdentity}
      {data : List UInt8} {e : Event}
      (hoffered : span.Reads ctx
        (hook fun h => h.peerNextSharedSecretByHash (got.payload.get 1) cursor)
        (some (next, secret, sender)))
      (hfirst : span.first ≤ n) (hlast : n < span.last)
      (hunlocked : Unlocked ctx n secret (got.payload.slice 2 (got.payloadLen - 2)) data)
      (hspeaks : Speaks span got sender secret data ctx e) : Attested span got ctx e
  | channel {n : ℕ} {channels : List GroupChannel} {channel : GroupChannel} {data : List UInt8}
      {e : Event}
      (hsearched :
        span.Reads ctx (hook fun h => h.channelSearchByHash (got.payload.get 0)) channels)
      (hknown : channel ∈ channels) (hfirst : span.first ≤ n) (hlast : n < span.last)
      (hunlocked : Unlocked ctx n channel.secret (got.payload.slice 1 (got.payloadLen - 1)) data)
      (hconveys : Conveys got channel data e) : Attested span got ctx e
  | advert {e : Event} (hsigned : Verified ctx got) (hannounces : Announces got e) :
    Attested span got ctx e

/-- The new events are no testimony. -/
abbrev Reticent : Ctx → World → World → Prop := Adds fun e => e.isTestimony = false

/-- The new testimony is all of this kind, if it is given in this stretch. -/
structure Testifies (span : Span) (P : Ctx → Event → Prop) (ctx : Ctx) (w w' : World) : Prop where
  events : span.first ≤ w.tick → w'.tick ≤ span.last → w.millisOverride = span.clock →
    ∃ new, w'.events = w.events ++ new ∧ ∀ e ∈ new, e.isTestimony = true → P ctx e
  clock : w'.millisOverride = w.millisOverride
  tick_le : w.tick ≤ w'.tick

section

variable {span : Span} {P Q : Ctx → Event → Prop} {α β : Type}

instance : Composes (Testifies span P) where
  refl _ w :=
    ⟨fun _ _ _ => ⟨[], (List.append_nil w.events).symm, List.forall_mem_nil _⟩, rfl, le_rfl⟩
  trans _ _ _ _ h h' := by
    refine ⟨fun hfirst hlast hclock => ?_, h'.clock.trans h.clock, h.tick_le.trans h'.tick_le⟩
    obtain ⟨new, hevents, hnew⟩ := h.events hfirst (h'.tick_le.trans hlast) hclock
    obtain ⟨new', hevents', hnew'⟩ :=
      h'.events (hfirst.trans h.tick_le) hlast (h.clock.trans hclock)
    refine ⟨new ++ new', by rw [hevents', hevents, List.append_assoc], fun e he => ?_⟩
    exact (List.mem_append.mp he).elim (hnew e) (hnew' e)

instance (priority := low) Moves.testifies (m : M α) [hm : Moves Reticent m] :
    Moves (Testifies span P) m where
  moves ctx w := by
    obtain ⟨⟨new, hevents, hall⟩, hclock, htick⟩ := hm.moves ctx w
    refine ⟨fun _ _ _ => ⟨new, hevents, fun e he h => absurd h ?_⟩, hclock, htick⟩
    rw [hall e he]
    exact Bool.false_ne_true

theorem Moves.attest {e : Event} (h : ∀ ctx, P ctx e) : Moves (Testifies span P) (emit e) where
  moves ctx _ :=
    ⟨fun _ _ _ => ⟨[e], rfl, List.forall_mem_singleton.mpr fun _ => h ctx⟩, rfl, le_rfl⟩

theorem Moves.reticent {e : Event} (h : e.isTestimony = false) : Moves Reticent (emit e) :=
  Moves.addsEmit h

theorem Moves.testifies_mono {m : M α} (hm : Moves (Testifies span P) m)
    (h : ∀ ctx e, P ctx e → Q ctx e) : Moves (Testifies span Q) m where
  moves ctx w := by
    obtain ⟨hevents, hclock, htick⟩ := hm.moves ctx w
    refine ⟨fun hfirst hlast hspan => ?_, hclock, htick⟩
    obtain ⟨new, hnew, hall⟩ := hevents hfirst hlast hspan
    exact ⟨new, hnew, fun e he ht => h ctx e (hall e he ht)⟩

/-- What follows may rely on what was read. -/
theorem Moves.bind_reads {m : M α} {f : α → M β} [hm : Moves Reticent m]
    (hf : ∀ a, Moves (Testifies span fun ctx e => span.Reads ctx m a → P ctx e) (f a)) :
    Moves (Testifies span P) (m >>= f) where
  moves ctx w := by
    obtain ⟨⟨new, hevents, hall⟩, hclock, htick⟩ := hm.moves ctx w
    have hrest := (hf (m ctx w).1).moves ctx (m ctx w).2
    rw [Prog.run_bind]
    refine ⟨fun hfirst hlast hspan => ?_, hrest.clock.trans hclock, htick.trans hrest.tick_le⟩
    have hread : span.Reads ctx m (m ctx w).1 := ⟨w, hfirst, hrest.tick_le.trans hlast, hspan, rfl⟩
    obtain ⟨new', hevents', hall'⟩ := hrest.events (hfirst.trans htick) hlast (hclock.trans hspan)
    refine ⟨new ++ new', by rw [hevents', hevents, List.append_assoc], fun e he ht => ?_⟩
    rcases List.mem_append.mp he with he | he
    · exact absurd ht (by rw [hall e he]; exact Bool.false_ne_true)
    · exact hall' e he ht hread

end

/-! ### Peers -/

instance (ackCrc : UInt32) : Moves Reticent (expectedAckHandle ackCrc) := by
  have hemit := fun target attempt => Moves.reticent (e := .messageAck target attempt) rfl
  unfold expectedAckHandle
  infer_instance

section

variable {span : Span} {got : Packet} {sender : PeerIdentity} {secret : Buf publicKeySize}
  {data : List UInt8}

theorem onPeerText_speaks (htype : got.getPayloadType = payloadTypeTxtMsg) :
    Moves (Testifies span (Speaks span got sender secret data))
      (onPeerText sender secret got (if data.length ≥ 4 then wordAt data else 0) data) := by
  have hpublish : ∀ {off : ℕ}, TextAt data off → ∀ flags,
      Moves (Testifies span (Speaks span got sender secret data)) (publishText sender secret got
        (if data.length ≥ 4 then wordAt data else 0) flags data off) := by
    intro off hoff flags
    have htext : Moves (Testifies span (Speaks span got sender secret data))
        (textMessagePublish sender got (if data.length ≥ 4 then wordAt data else 0)
          (cString (data.drop off))) := by
      have hemit := @Moves.attest span _ _ fun ctx =>
        @Speaks.text span got sender secret data ctx off htype hoff
      unfold textMessagePublish
      infer_instance
    unfold publishText
    infer_instance
  unfold onPeerText
  dsimp only
  split
  · rename_i hsigned
    have h9 := fun flags => hpublish (.inl ⟨hsigned, rfl⟩) flags
    infer_instance
  · split
    · rename_i hplain
      exact hpublish (.inr ⟨hplain, rfl⟩) _
    · infer_instance

theorem binaryRequestPublish_speaks (htype : got.getPayloadType = payloadTypeReq) :
    Moves (Testifies span (Speaks span got sender secret data)) (binaryRequestPublish sender got
      (if data.length ≥ 4 then wordAt data else 0) (data.drop 4)) := by
  have hemit := @Moves.attest span _ _ fun ctx =>
    @Speaks.request span got sender secret data ctx htype
  unfold binaryRequestPublish
  infer_instance

theorem onPeerReq_speaks (htype : got.getPayloadType = payloadTypeReq) :
    Moves (Testifies span (Speaks span got sender secret data))
      (onPeerReq sender secret got (if data.length ≥ 4 then wordAt data else 0) data) := by
  have hpublish := @binaryRequestPublish_speaks span got sender secret data htype
  unfold onPeerReq
  infer_instance

theorem onPeerResponse_speaks {answer : List UInt8} (h : Replies got.getPayloadType data answer) :
    Moves (Testifies span (Speaks span got sender secret data)) (onPeerResponse sender answer) := by
  unfold onPeerResponse
  refine Moves.bind_reads fun timestamp => ?_
  have htelemetry :
      Moves (Testifies span fun ctx e => span.Reads ctx timestampNowSeconds timestamp →
      Speaks span got sender secret data ctx e)
        (pendingTelemetryHandle sender.publicKey timestamp answer) := by
    have hemit := @Moves.attest span (fun ctx e => span.Reads ctx timestampNowSeconds timestamp →
      Speaks span got sender secret data ctx e) _ fun ctx htime => .telemetry htime h
    unfold pendingTelemetryHandle
    infer_instance
  have hbinary : Moves (Testifies span fun ctx e => span.Reads ctx timestampNowSeconds timestamp →
      Speaks span got sender secret data ctx e)
        (pendingBinaryHandle sender.publicKey timestamp answer) := by
    have hemit := @Moves.attest span (fun ctx e => span.Reads ctx timestampNowSeconds timestamp →
      Speaks span got sender secret data ctx e) _ fun ctx htime => .binary htime h
    unfold pendingBinaryHandle
    infer_instance
  infer_instance

/-- A packet that a peer's secret has opened. -/
theorem onPeerDataRecv_speaks : Moves (Testifies span (Speaks span got sender secret data))
    (onPeerDataRecv got got.getPayloadType sender secret data) := by
  have hhanded := @Moves.attest span _ _ fun ctx => @Speaks.handed span got sender secret data ctx
  have hseen : Moves (Testifies span (Speaks span got sender secret data))
      (peerSeenUpdate sender.publicKey got.snrQ4) := Moves.attest fun _ => .seen
  have hinternal : Moves (Testifies span (Speaks span got sender secret data))
      (onPeerDataRecvInternal got got.getPayloadType sender secret data) := by
    unfold onPeerDataRecvInternal
    refine @Moves.bind _ _ _ _ _ _ _ _ inferInstance fun isChat => ?_
    refine @Moves.bind _ _ _ _ _ _ _ _ ?_ fun _ => hseen
    split
    · rename_i hcond
      exact onPeerText_speaks hcond.2.1
    · split
      · rename_i hcond
        exact onPeerReq_speaks hcond.1
      · split
        · rename_i hcond
          exact onPeerResponse_speaks (.response hcond.1)
        · infer_instance
  unfold onPeerDataRecv whenInitialized
  infer_instance

variable {r : PathReturn}

/-- The answer to a path discovery. -/
theorem pendingDiscoveryHandle_speaks (htype : got.getPayloadType = payloadTypePath)
    (hr : parsePathReturn data = some r) :
    Moves (Testifies span (Speaks span got sender secret data))
      (pendingDiscoveryHandle sender.publicKey got r.path r.pathLen r.extraType r.extra) := by
  unfold pendingDiscoveryHandle
  refine @Moves.bind _ _ _ _ _ _ _ _ inferInstance fun c => ?_
  dsimp only
  split
  · infer_instance
  rename_i hpending
  obtain ⟨-, hextra⟩ := not_or.mp hpending
  obtain ⟨hextra, -⟩ := not_or.mp hextra
  cases hdecoded : pathLenDecode r.pathLen with
  | none => dsimp only [Option.elim_none]; infer_instance
  | some decoded =>
    dsimp only [Option.elim_some]
    split
    · infer_instance
    split
    · infer_instance
    rename_i htag
    rw [not_not.mp htag]
    refine Moves.bind_reads fun timestamp => ?_
    have hemit := @Moves.attest span (fun ctx e => span.Reads ctx timestampNowSeconds timestamp →
      Speaks span got sender secret data ctx e) _ fun ctx htime =>
        .discovered htype hr hdecoded (not_not.mp hextra) htime
    infer_instance

theorem peerPathPublish_speaks (htype : got.getPayloadType = payloadTypePath)
    (hr : parsePathReturn data = some r) :
    Moves (Testifies span (Speaks span got sender secret data))
      (peerPathPublish got sender r.path r.pathLen r.extraType r.extra) := by
  unfold peerPathPublish
  cases hdecoded : pathLenDecode r.pathLen with
  | none => dsimp only [Option.elim_none]; infer_instance
  | some decoded =>
    dsimp only [Option.elim_some]
    refine Moves.bind_reads fun isChat => Moves.bind_reads fun timestamp => ?_
    exact Moves.attest fun ctx htime hrole => .path htype hr hdecoded hrole htime

/-- A path that a peer's secret has opened. -/
theorem onPeerPathRecv_speaks (htype : got.getPayloadType = payloadTypePath)
    (hr : parsePathReturn data = some r) :
    Moves (Testifies span (Speaks span got sender secret data))
      (onPeerPathRecv got sender secret r.path r.pathLen r.extraType r.extra) := by
  have hhanded := @Moves.attest span _ _ fun ctx =>
    @Speaks.handedPath span got sender secret data ctx r htype hr
  have hdiscovered := @pendingDiscoveryHandle_speaks span got sender secret data r htype hr
  have hpublish := @peerPathPublish_speaks span got sender secret data r htype hr
  have hresponse : ∀ isChat : Bool, Moves (Testifies span (Speaks span got sender secret data))
      (if isChat ∧ r.extraType = payloadTypeResponse ∧ r.extra.length ≥ 4 then
        onPeerResponse sender r.extra else pure ()) := fun isChat => by
    split
    · rename_i hcond
      exact onPeerResponse_speaks (.extra htype hr hcond.2.1)
    · infer_instance
  unfold onPeerPathRecv
  infer_instance

theorem onRecvPath_speaks (htype : got.getPayloadType = payloadTypePath)
    (hr : parsePathReturn data = some r) (srcHash : UInt8) :
    Moves (Testifies span (Speaks span got sender secret data))
      (onRecvPath got srcHash sender secret r) := by
  have hpath := @onPeerPathRecv_speaks span got sender secret data r htype hr
  unfold onRecvPath
  infer_instance

end

/-! ### What proves nothing -/

instance (packet : Packet) (ackCrc : UInt32) : Moves Reticent (onAckRecv packet ackCrc) := by
  have hemit := Moves.reticent (e := .meshOnAckRecv packet ackCrc) rfl
  unfold onAckRecv whenInitialized
  infer_instance

instance (tag : UInt32) (flags : UInt8) (snrs : Buf maxPathLen) (snrCount hashBytes : UInt8)
    (snr : Int8) : Moves Reticent (pendingTraceHandle tag flags snrs snrCount hashBytes snr) := by
  have hemit := fun state out back timestamp =>
    Moves.reticent (e := .tracePath state tag out back snr timestamp) rfl
  unfold pendingTraceHandle
  infer_instance

instance (packet : Packet) (tag authCode : UInt32) (flags : UInt8) (snrs : Buf maxPathLen)
    (hashes : List UInt8) : Moves Reticent (onTraceRecv packet tag authCode flags snrs hashes) := by
  have hemit := Moves.reticent (e := .meshOnTraceRecv packet tag authCode flags snrs hashes) rfl
  unfold onTraceRecv whenInitialized
  infer_instance

instance (packet : Packet) : Moves Reticent (onControlDataRecv packet) := by
  have hemit := Moves.reticent (e := .meshOnControlDataRecv packet) rfl
  have hcontrol := fun event => Moves.reticent (e := .controlData event) rfl
  have hnode := fun event => Moves.reticent (e := .nodeDiscover event) rfl
  unfold onControlDataRecv whenInitialized handleControlDiscoverRequest nodeDiscoverPublish
    controlDataPublish
  infer_instance

instance (packet : Packet) : Moves Reticent (onRawDataRecv packet) := by
  have hemit := Moves.reticent (e := .meshOnRawDataRecv packet) rfl
  have hraw := fun event => Moves.reticent (e := .rawData event) rfl
  unfold onRawDataRecv whenInitialized rawDataPublish
  infer_instance

instance (packet : Packet) : Moves Silent (meshForwardMultipartDirect packet) := by
  unfold meshForwardMultipartDirect; infer_instance

instance (packet : Packet) : Moves Reticent (onRecvTrace packet) := by
  unfold onRecvTrace forwardTrace; infer_instance

instance (packet : Packet) : Moves Reticent (onRecvDirectHop packet) := by
  unfold onRecvDirectHop; infer_instance

instance (packet : Packet) : Moves Reticent (onRecvAck packet) := by
  unfold onRecvAck; infer_instance

instance (packet : Packet) : Moves Reticent (onRecvAnon packet) := by
  have hemit := fun secret sender data =>
    Moves.reticent (e := .meshOnAnonDataRecv packet secret sender data) rfl
  unfold onRecvAnon
  infer_instance

instance (packet : Packet) : Moves Reticent (onRecvRawCustom packet) := by
  unfold onRecvRawCustom; infer_instance

instance (packet : Packet) : Moves Reticent (onRecvMultipart packet) := by
  unfold onRecvMultipart; infer_instance

/-! ### What a packet proves -/

section

variable {span : Span} {ctx : Ctx}

/-- What is decrypted has passed the check. -/
theorem Span.Reads.unlocked {secret : Buf publicKeySize} {bytes data : List UInt8}
    (h : span.Reads ctx (utilsMacThenDecrypt secret bytes) data) (hlong : data.length ≠ 0) :
    ∃ n, span.first ≤ n ∧ n < span.last ∧ Unlocked ctx n secret bytes data := by
  obtain ⟨v, hfirst, hlast, -, hdata⟩ := h
  have hne : data ≠ [] := fun hnil => hlong (congrArg List.length hnil)
  rw [utilsMacThenDecrypt] at hdata hlast
  split at hdata
  case isTrue => exact absurd hdata.symm hne
  rename_i hbytes
  rw [if_neg hbytes] at hlast
  simp only [hook, Prog.run_bind] at hdata hlast
  cases hmac : (ctx.hooks v.tick).hmacSha256 cipherMacSize secret (bytes.drop cipherMacSize) with
  | none =>
    rw [hmac] at hdata
    exact absurd hdata.symm hne
  | some mac =>
    rw [hmac] at hdata hlast
    dsimp only [Option.elim_some] at hdata hlast
    split at hdata
    case isTrue => exact absurd hdata.symm hne
    rename_i hfits
    rw [if_neg hfits] at hlast
    have hlater : Mute ctx { v with tick := v.tick + 1 }
        (utilsDecrypt secret (bytes.drop cipherMacSize) ctx { v with tick := v.tick + 1 }).2 :=
      Moves.moves ctx _
    exact ⟨v.tick, hfirst, (Nat.lt_of_succ_le hlater.2.2.2.2.2).trans_le hlast,
      ⟨mac, hmac, not_not.mp hfits⟩, ⟨_, rfl, hdata⟩, hne⟩

/-- The candidates for the sender are asked for their secrets one after the other. -/
theorem tryPeers_attested (got : Packet) (n cursor : ℕ) : Moves (Testifies span (Attested span got))
    (tryPeers got (got.payload.get 1) (got.payload.slice 2 (got.payloadLen - 2)) n cursor) := by
  induction n generalizing cursor with
  | zero => unfold tryPeers; infer_instance
  | succ n ih =>
    unfold tryPeers
    refine Moves.bind_reads fun candidate => ?_
    cases candidate with
    | none => dsimp only [Option.elim_none]; infer_instance
    | some candidate =>
      obtain ⟨next, secret, sender⟩ := candidate
      dsimp only [Option.elim_some]
      refine Moves.bind_reads fun data => ?_
      have hnext := Moves.testifies_mono (ih (next + 1)) fun ctx e h
        (_ : span.Reads ctx (utilsMacThenDecrypt secret
          (got.payload.slice 2 (got.payloadLen - 2))) data)
        (_ : span.Reads ctx (hook fun h => h.peerNextSharedSecretByHash (got.payload.get 1) cursor)
          (some (next, secret, sender))) => h
      split
      · exact hnext
      rename_i hlong
      have hproves : ∀ {α : Type} {m : M α},
          Moves (Testifies span (Speaks span got sender secret data)) m →
          Moves (Testifies span fun ctx e =>
            span.Reads ctx (utilsMacThenDecrypt secret
              (got.payload.slice 2 (got.payloadLen - 2))) data →
            span.Reads ctx (hook fun h => h.peerNextSharedSecretByHash (got.payload.get 1) cursor)
              (some (next, secret, sender)) → Attested span got ctx e) m :=
        fun hm => Moves.testifies_mono hm fun ctx e hspeaks hdecrypted hoffered => by
          obtain ⟨k, hfirst, hlast, hunlocked⟩ := hdecrypted.unlocked hlong
          exact .peer hoffered hfirst hlast hunlocked hspeaks
      split
      · rename_i htype
        cases hr : parsePathReturn data with
        | none => exact hnext
        | some r =>
          have hpath := hproves (@onRecvPath_speaks span got sender secret data r htype hr
            (got.payload.get 1))
          dsimp only [Option.elim_some]
          infer_instance
      · have hdata := hproves (@onPeerDataRecv_speaks span got sender secret data)
        infer_instance

/-- A channel that the host knows. -/
theorem onGroupDataRecv_conveys (got : Packet) (channel : GroupChannel) (data : List UInt8) :
    Moves (Testifies span fun _ => Conveys got channel data)
      (onGroupDataRecv got got.getPayloadType channel data) := by
  have hhanded := @Moves.attest span _ _ fun _ => @Conveys.handed got channel data
  unfold onGroupDataRecv whenInitialized
  refine @Moves.bind _ _ _ _ _ _ _ _ inferInstance fun initialized => ?_
  split
  · exact hhanded
  refine @Moves.bind _ _ _ _ _ _ _ _ inferInstance fun isChat => ?_
  split
  · infer_instance
  split
  · rename_i hcond
    have htext : Moves (Testifies span fun _ => Conveys got channel data)
        (channelTextPublish channel got (wordAt data) (cString (data.drop 5))) := by
      have hemit := @Moves.attest span _ _ fun _ => @Conveys.text got channel data hcond.1
      unfold channelTextPublish
      infer_instance
    dsimp only
    infer_instance
  · split
    · rename_i hcond
      have hemit := @Moves.attest span _ _ fun _ => @Conveys.data got channel data hcond.1
      unfold channelDataPublish
      infer_instance
    · infer_instance

/-- The channels that the host has found are tried one after the other. -/
theorem tryChannels_attested (got : Packet) {found channels : List GroupChannel}
    (hknown : ∀ channel ∈ channels, channel ∈ found) :
    Moves (Testifies span fun ctx e =>
        span.Reads ctx (hook fun h => h.channelSearchByHash (got.payload.get 0)) found →
          Attested span got ctx e)
      (tryChannels got (got.payload.slice 1 (got.payloadLen - 1)) channels) := by
  induction channels with
  | nil => unfold tryChannels; infer_instance
  | cons channel channels ih =>
    have hrest := ih fun channel' h => hknown channel' (List.mem_cons_of_mem _ h)
    unfold tryChannels
    refine Moves.bind_reads fun data => ?_
    split
    · exact Moves.testifies_mono hrest fun ctx e h _ => h
    · rename_i hlong
      have hall :
          Moves (Testifies span fun ctx e =>
            span.Reads ctx (utilsMacThenDecrypt channel.secret
              (got.payload.slice 1 (got.payloadLen - 1))) data →
            span.Reads ctx (hook fun h => h.channelSearchByHash (got.payload.get 0)) found →
              Attested span got ctx e)
          (onGroupDataRecv got got.getPayloadType channel data) :=
        Moves.testifies_mono (onGroupDataRecv_conveys got channel data)
          fun ctx e hconveys hdecrypted hsearched => by
            obtain ⟨k, hfirst, hlast, hunlocked⟩ := hdecrypted.unlocked hlong
            exact .channel hsearched (hknown channel List.mem_cons_self) hfirst hlast
              hunlocked hconveys
      infer_instance

end

instance (packet : Packet) (i : ℕ) : Returns (fun b => b = packet.payload.get i)
    (payloadByte packet i) :=
  ⟨fun _ _ => rfl⟩

instance (packet : Packet) (i n : ℕ) :
    Returns (fun bytes => bytes = packet.payload.slice i n) (payloadRead packet i n) :=
  ⟨fun _ _ => rfl⟩

section

variable (span : Span) (got : Packet)

instance : Moves (Testifies span (Attested span got)) (onRecvPeer got) := by
  unfold onRecvPeer
  refine @Moves.ite _ _ _ _ _ _ _ _ inferInstance ?_
  refine @Moves.bind _ _ _ _ _ _ _ _ inferInstance fun destHash => ?_
  refine Moves.bind_of_returns (P := fun b => b = got.payload.get 1) fun srcHash hsrc => ?_
  subst hsrc
  refine @Moves.ite _ _ _ _ _ _ _ _ inferInstance ?_
  refine @Moves.bind _ _ _ _ _ _ _ _ inferInstance fun seen => ?_
  refine @Moves.ite _ _ _ _ _ _ _ _ inferInstance ?_
  refine @Moves.bind _ _ _ _ _ _ _ _ inferInstance fun selfId => ?_
  refine @Moves.bind _ _ _ _ _ _ _ _ inferInstance fun ctx => ?_
  refine Moves.bind_of_returns (P := fun bytes => bytes = got.payload.slice 2 (got.payloadLen - 2))
    fun macAndData hbytes => ?_
  subst hbytes
  have htry := @tryPeers_attested span got ctx.peerLimit 0
  infer_instance

instance : Moves (Testifies span (Attested span got)) (onRecvGroup got) := by
  unfold onRecvGroup
  refine @Moves.ite _ _ _ _ _ _ _ _ inferInstance ?_
  refine Moves.bind_of_returns (P := fun b => b = got.payload.get 0) fun channelHash hhash => ?_
  subst hhash
  refine @Moves.ite _ _ _ _ _ _ _ _ inferInstance ?_
  refine @Moves.bind _ _ _ _ _ _ _ _ inferInstance fun seen => ?_
  refine @Moves.ite _ _ _ _ _ _ _ _ inferInstance ?_
  -- Of the channels that the host finds the first few are tried.
  have hsearch : ∀ f : List GroupChannel → M (Action × Packet),
      ((hook fun h => (h.channelSearchByHash (got.payload.get 0)).take channelSearchMaxMatches) >>=
        f) = (hook fun h => h.channelSearchByHash (got.payload.get 0)) >>=
          fun found => f (found.take channelSearchMaxMatches) := fun _ => rfl
  rw [hsearch]
  refine Moves.bind_reads fun found => ?_
  refine Moves.bind_of_returns (P := fun bytes => bytes = got.payload.slice 1 (got.payloadLen - 1))
    fun macAndData hbytes => ?_
  subst hbytes
  have htry := @tryChannels_attested span got found (found.take channelSearchMaxMatches)
    fun channel h => List.mem_of_mem_take h
  infer_instance

instance : Moves (Testifies span (Attested span got)) (onRecvAdvert got) where
  moves ctx w := by
    obtain ⟨w₁, hsilent, hrun | ⟨hsigned, hrun⟩⟩ := onRecvAdvert_cases got ctx w
    · rw [hrun]
      exact ⟨fun _ _ _ => ⟨[], by rw [hsilent.events, List.append_nil], List.forall_mem_nil _⟩,
        hsilent.clock, hsilent.tick_le⟩
    · rw [hrun]
      have hpass : Adds (Announces got) ctx w₁ (passAdvert got ctx w₁).2 := Moves.moves ctx w₁
      have hall : Adds (Announces got) ctx w (passAdvert got ctx w₁).2 :=
        Composes.trans ctx _ _ _ hsilent.adds hpass
      obtain ⟨new, hevents, hnew⟩ := hall.events
      exact ⟨fun _ _ _ => ⟨new, hevents, fun e he _ => .advert hsigned (hnew e he)⟩, hall.clock,
        hall.tick_le⟩

instance : Moves (Testifies span (Attested span got)) (onRecvPayload got) := by
  unfold onRecvPayload; infer_instance

instance : Moves (Testifies span (Attested span got)) (meshOnRecvPacket got) := by
  unfold meshOnRecvPacket onRecvRouted; infer_instance

end

/-! ### Requests -/

instance (type : RequestType) (errCode : ℤ) :
    Moves Reticent (requestLogTransientFailure type errCode) := by
  have hemit := Moves.reticent (e := .requestError type errCode) rfl
  unfold requestLogTransientFailure
  infer_instance

instance (type : RequestType) (packet : M (Option PacketId)) (send : PacketId → M Unit)
    [Moves Reticent packet] [∀ id, Moves Reticent (send id)] :
    Moves Reticent (withRequestPacket type packet send) := by
  unfold withRequestPacket; infer_instance

instance (type : RequestType) (execute : M Unit) [Moves Reticent execute] :
    Moves Reticent (withLocalIdentity type execute) := by
  unfold withLocalIdentity; infer_instance

instance (flood : Bool) : Moves Reticent (executeNodeAdvert flood) := by
  unfold executeNodeAdvert; infer_instance

instance (raw : List UInt8) : Moves Reticent (executeNodePeerAdvert raw) := by
  unfold executeNodePeerAdvert; infer_instance

instance (request : MessageSendToChannel) :
    Moves Reticent (executeMessageSendToChannel request) := by
  unfold executeMessageSendToChannel; infer_instance

instance (request : NodePayload) : Moves Reticent (executeNodeAnonData request) := by
  unfold executeNodeAnonData; infer_instance

instance (r : NodeBinaryResponse) : Moves Reticent (executeNodeBinaryResponse r) := by
  unfold executeNodeBinaryResponse; infer_instance

instance (filter : UInt8) (prefixOnly : Bool) (since tag : UInt32) :
    Moves Reticent (executeNodeDiscover filter prefixOnly since tag) := by
  unfold executeNodeDiscover; infer_instance

instance (request : ChannelData) : Moves Reticent (executeChannelData request) := by
  unfold executeChannelData; infer_instance

instance (request : RawData) : Moves Reticent (executeRawData request) := by
  unfold executeRawData; infer_instance

instance (payload : List UInt8) : Moves Reticent (executeControlData payload) := by
  unfold executeControlData; infer_instance

instance (request : MessageSendToNode) : Moves Reticent (executeMessageSendToNode request) := by
  unfold executeMessageSendToNode; infer_instance

instance (publicKey : Buf publicKeySize) (tag : UInt32) :
    Moves Reticent (executeNodeDiscoverPath publicKey tag) := by
  unfold executeNodeDiscoverPath; infer_instance

instance (request : NodeTracePath) (tag : UInt32) :
    Moves Reticent (executeNodeTracePath request tag) := by
  unfold executeNodeTracePath; infer_instance

instance (request : NodeTelemetry) (tag : UInt32) :
    Moves Reticent (executeNodeTelemetry request tag) := by
  unfold executeNodeTelemetry; infer_instance

instance (request : NodePayload) (tag : UInt32) :
    Moves Reticent (executeNodeBinary request tag) := by
  unfold executeNodeBinary; infer_instance

instance (nowMs : ℕ) (deadline : Option ℕ) : Moves Reticent (setTimer nowMs deadline) where
  moves _ _ :=
    ⟨⟨[deadline.elim .timerCancel .timerArm], rfl, by cases deadline <;> simp [Event.isTestimony]⟩,
      rfl, le_rfl⟩

instance (nowMs : ℕ) : Moves Reticent (timerSync nowMs) := by
  unfold timerSync runtimeNextDeadlineGet; infer_instance

instance : Moves Reticent timerSyncNow := by unfold timerSyncNow; infer_instance

instance (body : M ℤ) [Moves Reticent body] : Moves Reticent (whenReady body) := by
  unfold whenReady; infer_instance

instance (execute : M Unit) [Moves Reticent execute] :
    Moves Reticent (requestExecuteNow execute) := by
  unfold requestExecuteNow; infer_instance

instance {α : Type} (record : Option α) (execute : α → M ℤ) [∀ a, Moves Reticent (execute a)] :
    Moves Reticent (request record execute) := by
  unfold request; infer_instance

instance {α : Type} (record : Option α) (requestTag : Option UInt32)
    (execute : α → UInt32 → M Unit) [∀ a tag, Moves Reticent (execute a tag)] :
    Moves Reticent (requestWithTag record requestTag execute) := by
  unfold requestWithTag; infer_instance

/-- A request makes a node tell its host nothing of others. -/
theorem Op.reticent {op : Op} (hop : op.isRequest = true) : Moves Reticent op.run := by
  cases op with
  | init | deinit | timerFired | radioRxInject | radioTxDone => cases hop
  | nodeAdvertRequest => unfold Op.run Op.call meshcoreNodeAdvertRequest; infer_instance
  | nodePeerAdvertRequest => unfold Op.run Op.call meshcoreNodePeerAdvertRequest; infer_instance
  | messageSendToNode => unfold Op.run Op.call meshcoreMessageSendToNode; infer_instance
  | messageSendToChannel => unfold Op.run Op.call meshcoreMessageSendToChannel; infer_instance
  | channelDataSend => unfold Op.run Op.call meshcoreChannelDataSend; infer_instance
  | nodeDiscoverPathRequest => unfold Op.run Op.call meshcoreNodeDiscoverPathRequest; infer_instance
  | nodeTraceRequest => unfold Op.run Op.call meshcoreNodeTraceRequest; infer_instance
  | nodeTracePathRequest => unfold Op.run Op.call meshcoreNodeTracePathRequest; infer_instance
  | nodeTelemetryRequest => unfold Op.run Op.call meshcoreNodeTelemetryRequest; infer_instance
  | nodeBinaryRequestWithTag =>
    unfold Op.run Op.call meshcoreNodeBinaryRequestWithTag; infer_instance
  | nodeAnonDataSend => unfold Op.run Op.call meshcoreNodeAnonDataSend; infer_instance
  | nodeBinaryResponse => unfold Op.run Op.call meshcoreNodeBinaryResponse; infer_instance
  | nodeDiscoverRequest => unfold Op.run Op.call meshcoreNodeDiscoverRequest; infer_instance
  | rawDataSend => unfold Op.run Op.call meshcoreRawDataSend; infer_instance
  | controlDataSend => unfold Op.run Op.call meshcoreControlDataSend; infer_instance

/-- The host's answers while a packet is handled. -/
def recvSpan (got : Packet) (ctx : Ctx) (w : World) : Span :=
  ⟨w.tick, (meshOnRecvPacket got ctx w).2.tick, w.millisOverride⟩

/-- **No testimony without proof.** Whatever packet a node handles, in whatever state, and whatever
its host answers: what it tells its host of a peer, a channel or an advertiser is attested by the
packet, with what the host answered while it was handled. And no request makes it tell its host any
such thing. -/
theorem testimony_attested (ctx : Ctx) (w : World) :
    (∀ got, ∀ e ∈ newEvents got ctx w, e.isTestimony = true →
      Attested (recvSpan got ctx w) got ctx e) ∧
      ∀ op : Op, op.isRequest = true → ∀ e ∈ (op.next ctx w).events.drop w.events.length,
        e.isTestimony = false := by
  refine ⟨fun got => ?_, fun op hop => ?_⟩
  · have h : Testifies (recvSpan got ctx w) (Attested (recvSpan got ctx w) got) ctx w
      (meshOnRecvPacket got ctx w).2 := Moves.moves ctx w
    obtain ⟨new, hevents, hall⟩ := h.events le_rfl le_rfl rfl
    rw [newEvents, hevents, List.drop_left]
    exact hall
  · obtain ⟨new, hevents, hall⟩ := ((Op.reticent hop).moves ctx w).events
    have hnew : (op.next ctx w).events = w.events ++ new := hevents
    rw [hnew, List.drop_left]
    exact hall

/-- A path that a peer returns. -/
theorem testimony_attested_path : ∃ e ∈ newEvents pathReturnPacket .knowingPeer .boot,
    e.isTestimony = true ∧
      Attested (recvSpan pathReturnPacket .knowingPeer .boot) pathReturnPacket .knowingPeer e := by
  have htold : ∃ e ∈ newEvents pathReturnPacket .knowingPeer .boot, e.isTestimony = true := by
    decide +kernel
  obtain ⟨e, he, ht⟩ := htold
  exact ⟨e, he, ht, (testimony_attested .knowingPeer .boot).1 pathReturnPacket e he ht⟩

end Meshcore
