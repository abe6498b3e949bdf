import Meshcore.PathReturns

/-!
# Datagrams between peers

Texts, requests and responses for a peer travel as datagrams: the hashes of both ends in the clear,
and the data behind them, sealed with the secret that the two share. They take the stored path to
the peer, or are flooded.

## Main definitions

* `datagramBytes` — what a datagram carries
* `Hooks.Knows` — the host of a sender knows who it is, and can use what it knows of the way

## Main results

* `datagram_shipped` — a request that sends a datagram
-/

namespace Meshcore

/-- The hashes of both ends, and the sealed data. -/
def datagramBytes (c : Cipher) (secret : Buf publicKeySize) (destHash srcHash : UInt8)
    (data : List UInt8) : List UInt8 :=
  destHash :: srcHash :: c.sealed secret data

/-- The host knows who the node is, and what it knows of the way to the peer can be used. -/
structure Hooks.Knows (identity : NodeIdentity) (publicKey : Buf publicKeySize) (hooks : Hooks) :
    Prop where
  self : hooks.Is identity
  path : ¬hooks.PathUnusable publicKey

section

variable {c : Cipher} {ctx : Ctx} {w : World} {type : UInt8} {data : List UInt8}
  {secret publicKey : Buf publicKeySize} {identity : NodeIdentity}

/-- A datagram is made, and carries the data. -/
theorem meshCreateDatagram_made {held : List PacketId} (dest : Identity)
    (htype : type = payloadTypeTxtMsg ∨ type = payloadTypeReq ∨ type = payloadTypeResponse)
    (hfits : meshDatagramPlaintextFits data.length = true) (h : FromNow ctx w (Hooks.Ciphers c))
    (hpool : w.PoolIntact ctx held) (hfree : 0 < w.packetManager.getFreeCount) :
    ∃ id, (meshCreateDatagram type dest secret data ctx w).1 = some id ∧
      Made (Load type (datagramBytes c secret (Identity.shortHash dest)
        (Identity.shortHash w.selfId.identity) data)) ctx held w id
        (meshCreateDatagram type dest secret data ctx w).2 := by
  obtain ⟨id, hid⟩ := Option.isSome_iff_exists.mp
    (@dispatcherObtainNewPacket_isSome ctx w _ hpool.conserves hfree)
  have hself := selfId_dispatcherObtainNewPacket ctx w
  have hlater : w.tick ≤ (dispatcherObtainNewPacket ctx w).2.tick :=
    ((inferInstance : Moves Mute dispatcherObtainNewPacket).moves ctx w).2.2.2.2.2
  have hrun : meshCreateDatagram type dest secret data ctx w
      = fillEncrypted id type [Identity.shortHash dest, Identity.shortHash w.selfId.identity] secret
        data ctx (dispatcherObtainNewPacket ctx w).2 := by
    rw [meshCreateDatagram, if_neg (by simp [htype]), if_neg (by simp [hfits]), Prog.run_bind, hid,
      Option.elim_some, Prog.run_bind, Prog.run_gets, identityCopyHashTo_eq, identityCopyHashTo_eq,
      hself]
    rfl
  have hlen : data.length ≤ 167 := of_decide_eq_true hfits
  have hsealed : ([Identity.shortHash dest, Identity.shortHash w.selfId.identity] ++
      c.sealed secret data).length ≤ packetPayloadMaxLen := by
    rw [List.length_append, Cipher.length_sealed]
    show 2 + (2 + (data.length + 16 - 1) / 16 * 16) ≤ 184
    omega
  have hmade : madeType type = type := by rcases htype with rfl | rfl | rfl <;> decide
  obtain ⟨hsome, hload⟩ := @fillEncrypted_load c ctx (dispatcherObtainNewPacket ctx w).2 secret data
    type id _ (h.later hlater) hsealed
  rw [← hrun] at hsome hload
  rw [hmade] at hload
  exact ⟨id, hsome, .of_some hpool hsome hload⟩

/-- A request that notes something and sends a datagram. -/
theorem datagram_shipped {α : Type} {Q : Packet → Prop} (request : RequestType)
    (secret : Buf publicKeySize) (data : List UInt8) (register : M α) [hn : Moves Notes register]
    (send : PacketId → M Unit)
    (htype : type = payloadTypeTxtMsg ∨ type = payloadTypeReq ∨ type = payloadTypeResponse)
    (hfits : meshDatagramPlaintextFits data.length = true) (hroom : w.HasRoom ctx)
    (hc : FromNow ctx w (Hooks.Ciphers c))
    (hsend : ∀ w' id, w.tick ≤ w'.tick → w'.PoolIntact ctx [id] →
      Load type (datagramBytes c secret (Identity.shortHash publicKey)
        (Identity.shortHash w.selfId.identity) data) (w'.packetManager.packetBuf id) →
      Shipped Q w' (send id ctx w').2) :
    Shipped Q w (withRequestPacket request (meshCreateDatagram type publicKey secret data)
      (fun id => do
      let _ ← register
      send id) ctx w).2 := by
  obtain ⟨id, hid, hmade⟩ := @meshCreateDatagram_made c ctx w type data secret [] publicKey
    htype hfits hc hroom.pool hroom.free
  have hlater := ((inferInstance : Moves Mute (meshCreateDatagram type publicKey secret data)).moves
    ctx w).2.2.2.2.2
  rw [withRequestPacket_run hid]
  generalize (meshCreateDatagram type publicKey secret data ctx w).2 = w₁ at hmade hlater
  obtain ⟨hnotes, hafter⟩ := hn.moves ctx w₁
  rw [Prog.run_bind]
  generalize (register ctx w₁).2 = w₂ at hnotes hafter
  have hpool : w₂.PoolIntact ctx [id] := by
    rw [hnotes]
    exact ⟨hmade.pool.conserves, hmade.pool.poolSize, hmade.pool.reissued⟩
  have hunsent : Unsent ctx w₁ w₂ := by rw [hnotes]; rfl
  have hload := hmade.packet
  rw [show w₁.packetManager = w₂.packetManager by rw [hnotes]] at hload
  exact ((hsend _ _ (hlater.trans hafter) hpool hload).after hunsent).after hmade.unsent

/-- A request that notes something and sends a datagram to a peer. -/
theorem sendDatagram_shipped {α : Type} (request : RequestType) (secret : Buf publicKeySize)
    (data : List UInt8) (register : M α) [Moves Notes register] (delayMillis : UInt32)
    (htype : type = payloadTypeTxtMsg ∨ type = payloadTypeReq ∨ type = payloadTypeResponse)
    (hfits : meshDatagramPlaintextFits data.length = true) (hroom : w.HasRoom ctx)
    (hc : FromNow ctx w (Hooks.Ciphers c))
    (hpath : FromNow ctx w fun h => ¬h.PathUnusable publicKey) :
    Shipped (Sent type (datagramBytes c secret (Identity.shortHash publicKey)
        (Identity.shortHash w.selfId.identity) data)) w
      (withRequestPacket request (meshCreateDatagram type publicKey secret data) (fun id => do
        let _ ← register
        sendToPeer id publicKey delayMillis) ctx w).2 := by
  have htrace : type ≠ payloadTypeTrace := by rcases htype with rfl | rfl | rfl <;> decide
  exact datagram_shipped request secret data register _ htype hfits hroom hc
    fun _ _ hlater hpool hload =>
      sendToPeer_shipped publicKey delayMillis (hpath _ hlater) htrace hpool hload

/-- What such a request notes stays. -/
theorem datagram_correlation {α : Type} (request : RequestType) (secret : Buf publicKeySize)
    (data : List UInt8) (register : M α) [Moves Notes register] (send : PacketId → M Unit)
    [∀ id, Moves KeepsCorrelation (send id)]
    (htype : type = payloadTypeTxtMsg ∨ type = payloadTypeReq ∨ type = payloadTypeResponse)
    (hfits : meshDatagramPlaintextFits data.length = true) (hroom : w.HasRoom ctx)
    (hc : FromNow ctx w (Hooks.Ciphers c)) :
    ∃ w', Mute ctx w w' ∧
      (withRequestPacket request (meshCreateDatagram type publicKey secret data) (fun id => do
        let _ ← register
        send id) ctx w).2.correlation = (register ctx w').2.correlation := by
  obtain ⟨id, hid, -⟩ := @meshCreateDatagram_made c ctx w type data secret [] publicKey
    htype hfits hc hroom.pool hroom.free
  have hcreate := (inferInstance : Moves Mute (meshCreateDatagram type publicKey secret data)).moves
    ctx w
  have hrest : ∀ v, KeepsCorrelation ctx v (send id ctx v).2 := Moves.moves ctx
  refine ⟨_, hcreate, ?_⟩
  rw [withRequestPacket_run hid, Prog.run_bind]
  exact (hrest _).2.1

/-- With its identity brought up to date a request goes on as the node that the host says it is. -/
theorem withLocalIdentity_run (request : RequestType) (execute : M Unit)
    (hself : (ctx.hooks w.tick).Is identity) :
    withLocalIdentity request execute ctx w = execute ctx
      { w with selfId := ⟨identity.publicKey, identity.privateKey⟩, tick := w.tick + 1 } := by
  have hrc : (ctx.hooks w.tick).nodeIdentity.1 = 0 := congrArg Prod.fst hself
  have hkey : (ctx.hooks w.tick).nodeIdentity.2 = identity := congrArg Prod.snd hself
  rw [withLocalIdentity, Prog.run_bind_of (syncLocalIdentity_run hrc), hkey,
    if_neg (not_not.mpr rfl)]

end

end Meshcore
