import Meshcore.Adverts

/-!
# What the signature of an advert covers

A node verifies an advert before it tells its host of it and before it forwards it. What it verifies
is put together from the key, the time and at most 32 bytes of application data; what it publishes
and forwards is the packet. The two differ when the application data are longer, and a direct advert
that still has hops to go is forwarded without a look at the signature.

## Main definitions

* `Verified` — the signature check of a node succeeds on an advert
* `Packet.checkedBytes` — the bytes that the check was about, with the signature
* `GoesOn` — a payload that leaves the node: it is published or retransmitted

## Main results

* `goesOn_eq` — what goes on is the payload as it came
* `adverts_signed_iff`
-/

namespace Meshcore

/-! ### What is checked -/

/-- The public key in an advert. -/
def Packet.advertKey (packet : Packet) : Identity :=
  (Buf.zero _).store 0 (packet.payload.slice 0 publicKeySize)

/-- The four bytes of its time. -/
def Packet.advertTime (packet : Packet) : List UInt8 := packet.payload.slice publicKeySize 4

/-- Its signature. -/
def Packet.advertSignature (packet : Packet) : List UInt8 :=
  packet.payload.slice (publicKeySize + 4) 64

/-- The application data that a node looks at. -/
def Packet.advertData (packet : Packet) : List UInt8 :=
  packet.payload.slice (publicKeySize + 4 + 64)
    (min (packet.payloadLen - (publicKeySize + 4 + 64)) meshMaxAdvertDataSize)

/-- What the signature is checked against. -/
def Packet.advertMessage (packet : Packet) : List UInt8 :=
  packet.advertKey.bytes ++ packet.advertTime ++ packet.advertData

/-- The bytes that the check was about, with the signature. -/
def Packet.checkedBytes (packet : Packet) : List UInt8 :=
  packet.advertKey.bytes ++ packet.advertTime ++ packet.advertSignature ++ packet.advertData

/-- The signature check succeeds on this advert. -/
def Verified (ctx : Ctx) (packet : Packet) : Prop :=
  publicKeySize + 4 + 64 ≤ packet.payloadLen ∧
    ctx.ed25519Check packet.advertSignature packet.advertKey packet.advertMessage = true

instance (ctx : Ctx) (packet : Packet) : Decidable (Verified ctx packet) :=
  inferInstanceAs (Decidable (_ ∧ _))

/-- `verify` accepts one message per key and signature. -/
def Ctx.OneMessage (ctx : Ctx) : Prop :=
  ∀ signature key message message', ctx.ed25519Check signature key message = true →
    ctx.ed25519Check signature key message' = true → message = message'

/-- A signature is good under one key only. -/
def Ctx.OneKey (ctx : Ctx) : Prop :=
  ∀ signature key key' message message', ctx.ed25519Check signature key message = true →
    ctx.ed25519Check signature key' message' = true → key = key'

section

variable {packet packet' : Packet} {ctx : Ctx}

theorem bytes_advertKey (packet : Packet) :
    packet.advertKey.bytes = packet.payload.slice 0 publicKeySize := by
  have hlen : (packet.payload.slice 0 publicKeySize).length = publicKeySize :=
    Buf.length_slice_of_le _ (by decide)
  have hkey : packet.advertKey.slice 0 (packet.payload.slice 0 publicKeySize).length
      = packet.payload.slice 0 publicKeySize := Buf.slice_store_self _ (by rw [hlen, Nat.zero_add])
  rw [← hkey, hlen, Buf.slice_self]

/-- The checked bytes are the first of the payload, 132 at most. -/
theorem checkedBytes_eq (hlong : 100 ≤ packet.payloadLen) :
    packet.checkedBytes = packet.payload.slice 0 (min packet.payloadLen 132) := by
  have hsum : min packet.payloadLen 132
      = publicKeySize + (4 + (64 + min (packet.payloadLen - 100) 32)) := by
    show _ = 32 + (4 + (64 + _))
    omega
  rw [Packet.checkedBytes, bytes_advertKey, hsum, Buf.slice_add, Buf.slice_add, Buf.slice_add,
    Nat.zero_add, List.append_assoc, List.append_assoc]
  rfl

/-- They are the whole payload when it is not longer. -/
theorem payloadBytes_eq_checkedBytes_iff (henc : packet.Encodable)
    (hlong : 100 ≤ packet.payloadLen) :
    packet.payloadBytes = packet.checkedBytes ↔ packet.payloadLen ≤ 132 := by
  have hle := henc.payloadLen_le
  change packet.payloadLen ≤ 184 at hle
  rw [checkedBytes_eq hlong]
  constructor
  · intro h
    have hlen := congrArg List.length h
    rw [Packet.length_payloadBytes henc,
      Buf.length_slice_of_le _ (by show 0 + _ ≤ 184; omega)] at hlen
    omega
  · intro h
    rw [min_eq_left h]
    rfl

end

/-! ### Who is told -/

/-- The new events are all of this kind, the clock stays, and no answer of the host is taken
back. -/
structure Adds (P : Event → Prop) (_ : Ctx) (w w' : World) : Prop where
  events : ∃ new, w'.events = w.events ++ new ∧ ∀ e ∈ new, P e
  clock : w'.millisOverride = w.millisOverride
  tick_le : w.tick ≤ w'.tick

instance (P : Event → Prop) : Composes (Adds P) where
  refl _ w := ⟨⟨[], (List.append_nil w.events).symm, List.forall_mem_nil P⟩, rfl, le_rfl⟩
  trans _ _ _ _ h h' := by
    obtain ⟨new, hevents, hnew⟩ := h.events
    obtain ⟨new', hevents', hnew'⟩ := h'.events
    refine ⟨⟨new ++ new', by rw [hevents', hevents, List.append_assoc], ?_⟩,
      h'.clock.trans h.clock, h.tick_le.trans h'.tick_le⟩
    intro e he
    exact (List.mem_append.mp he).elim (hnew e) (hnew' e)

theorem Silent.adds {P : Event → Prop} {ctx : Ctx} {w w' : World} (h : Silent ctx w w') :
    Adds P ctx w w' :=
  ⟨⟨[], by rw [h.events, List.append_nil], List.forall_mem_nil P⟩, h.clock, h.tick_le⟩

instance (priority := low) Moves.addsOfSilent {P : Event → Prop} {α : Type} (m : M α)
    [hm : Moves Silent m] : Moves (Adds P) m := ⟨fun ctx w => (hm.moves ctx w).adds⟩

theorem Moves.addsEmit {P : Event → Prop} {e : Event} (h : P e) : Moves (Adds P) (emit e) where
  moves _ _ := ⟨⟨[e], rfl, List.forall_mem_singleton.mpr h⟩, rfl, le_rfl⟩

/-- What the advert says. Who it is about, when, and what that node is come out of the bytes that
were checked; the path is that of the packet, and the raw advert is a copy of it. -/
def Packet.announcement (packet : Packet) : AdvertEvent :=
  let parser := AdvertDataParser.init packet.advertData
  { name := if parser.hasName then printString nodeNameMaxLen parser.name else []
    role := roleFromAdvertType parser.getType
    publicKey := packet.advertKey
    isNew := true
    advertTimestamp := wordAt packet.advertTime
    position := if parser.hasLatLon then some (parser.lat, parser.lon) else none
    outPath := (pathLenDecode packet.pathLenField).map fun d => (d.2, packet.path.slice 0 d.1)
    rawAdvert := rawAdvertCopy packet }

/-- The host is told what the advert says, or, while the runtime is not initialised, the packet
itself is handed over with the fields that were checked. -/
inductive Announces (packet : Packet) : Event → Prop where
  | advert : Announces packet (.advert packet.announcement)
  | handed : Announces packet (.meshOnAdvertRecv packet packet.advertKey (wordAt packet.advertTime)
      packet.advertData)

instance (packet : Packet) : Moves (Adds (Announces packet))
    (advertPublish packet packet.advertKey (wordAt packet.advertTime)
      (.init packet.advertData)) := by
  rw [advertPublish]
  split
  · infer_instance
  · exact Moves.addsEmit .advert

instance (packet : Packet) : Moves (Adds (Announces packet))
    (onAdvertRecv packet packet.advertKey (wordAt packet.advertTime) packet.advertData) := by
  have hhanded := Moves.addsEmit (@Announces.handed packet)
  unfold onAdvertRecv whenInitialized
  infer_instance

section

variable {got : Packet} {ctx : Ctx} {w : World}

/-- What becomes of an advert that passes the check. -/
def passAdvert (got : Packet) : M (Action × Packet) := do
  handOver got
  onAdvertRecv got got.advertKey (wordAt got.advertTime) got.advertData
  meshRouteRecvPacket got

/-- An advert is released and nobody is told, or it passes the check. -/
theorem onRecvAdvert_cases (got : Packet) (ctx : Ctx) (w : World) :
    ∃ w₁, Silent ctx w w₁ ∧ (onRecvAdvert got ctx w = ((actionRelease, got), w₁) ∨
      Verified ctx got ∧ onRecvAdvert got ctx w = passAdvert got ctx w₁) := by
  rw [onRecvAdvert]
  dsimp only
  split
  · exact ⟨w, ⟨rfl, rfl, le_rfl⟩, .inl rfl⟩
  rename_i hshort
  have hlong : 100 ≤ got.payloadLen := Nat.le_of_not_lt hshort
  have hdata : publicKeySize + 4 + 64 + min (got.payloadLen - (publicKeySize + 4 + 64))
      meshMaxAdvertDataSize ≤ got.payloadLen := by
    show 100 + min (got.payloadLen - 100) 32 ≤ _
    omega
  rw [Prog.run_bind_of (payloadRead_run (by show 0 + 32 ≤ _; omega) ctx w),
    Prog.run_bind_of (payloadRead_run (by show 32 + 4 ≤ _; omega) ctx w), Prog.run_bind,
    Prog.run_gets]
  dsimp only
  split
  · exact ⟨w, ⟨rfl, rfl, le_rfl⟩, .inl rfl⟩
  rw [Prog.run_bind]
  refine ⟨(tablesHasSeen got ctx w).2,
    (inferInstance : Moves Silent (tablesHasSeen got)).moves ctx w, ?_⟩
  generalize (tablesHasSeen got ctx w).2 = w₁
  split
  · exact .inl rfl
  rw [Prog.run_bind_of (payloadRead_run hdata ctx w₁),
    Prog.run_bind_of (payloadRead_run (by show 32 + 4 + 64 ≤ _; omega) ctx w₁)]
  by_cases hok : Verified ctx got
  · have hverify : identityVerify got.advertKey got.advertSignature got.advertMessage ctx w₁
        = (true, w₁) := congrArg (·, w₁) hok.2
    exact .inr ⟨hok, Prog.run_bind_of hverify _⟩
  · have hverify : identityVerify got.advertKey got.advertSignature got.advertMessage ctx w₁
        = (false, w₁) := congrArg (·, w₁) (Bool.eq_false_iff.mpr fun h => hok ⟨hlong, h⟩)
    exact .inl (Prog.run_bind_of hverify _)

instance (got : Packet) : Moves (Adds (Announces got)) (passAdvert got) := by
  unfold passAdvert; infer_instance

instance (received : Packet) (sz n k : ℕ) (path : Buf maxPathLen) :
    Moves Silent (shiftPath received sz n k path) := by
  induction n generalizing k path with
  | zero => unfold shiftPath; infer_instance
  | succ n ih => unfold shiftPath; infer_instance

instance (packet : Packet) : Moves Silent (meshRemoveSelfFromPath packet) := by
  unfold meshRemoveSelfFromPath; infer_instance

instance (packet : Packet) (i n : ℕ) : Moves Silent (pathRead packet i n) := by
  unfold pathRead; infer_instance

set_option synthInstance.maxSize 10000 in
/-- Nobody is told of an advert that still has hops to go. -/
theorem onRecvDirectHop_silent (htype : got.getPayloadType = payloadTypeAdvert) :
    Moves Silent (onRecvDirectHop got) := by
  have hack : payloadTypeAdvert ≠ payloadTypeAck := by decide
  have hmultipart : payloadTypeAdvert ≠ payloadTypeMultipart := by decide
  unfold onRecvDirectHop
  simp only [htype, if_neg hack, if_neg hmultipart, if_neg fun h : _ ∧ _ => hack h.1]
  infer_instance

/-- What a node makes of an advert: it relays it on its way, or releases it, or checks it first. -/
theorem meshOnRecvPacket_advert_cases (htype : got.getPayloadType = payloadTypeAdvert) (ctx : Ctx)
    (w : World) :
    ((got.isRouteDirect = true ∧ 0 < got.getPathHashCount) ∧
        Silent ctx w (meshOnRecvPacket got ctx w).2) ∨
      ((meshOnRecvPacket got ctx w).1.1 = actionRelease ∧
        Silent ctx w (meshOnRecvPacket got ctx w).2) ∨
      Verified ctx got ∧ Adds (Announces got) ctx w (meshOnRecvPacket got ctx w).2 := by
  have hcontrol : got.getPayloadType ≠ payloadTypeControl := by rw [htype]; decide
  have htrace : got.getPayloadType ≠ payloadTypeTrace := by rw [htype]; decide
  have hpayload : onRecvPayload got = onRecvAdvert got := by
    rw [onRecvPayload, htype]
    rfl
  rw [meshOnRecvPacket, if_neg fun h => htrace h.2, if_neg fun h => hcontrol h.2.1, onRecvRouted]
  split
  · rename_i hhop
    exact .inl ⟨hhop, (onRecvDirectHop_silent htype).moves ctx w⟩
  rw [Prog.run_bind]
  have hasked := (inferInstance : Moves Silent (if got.isRouteFlood then
    hook fun h => h.filterRecvFloodPacket got else pure false : M Bool)).moves ctx w
  generalize (if got.isRouteFlood then
    hook fun h => h.filterRecvFloodPacket got else pure false : M Bool) ctx w = asked at hasked ⊢
  refine .inr ?_
  split
  · exact .inl ⟨rfl, hasked⟩
  rw [hpayload]
  obtain ⟨w₁, hsilent, hrun | ⟨hok, hrun⟩⟩ := onRecvAdvert_cases got ctx asked.2
  · rw [hrun]
    exact .inl ⟨rfl, Composes.trans ctx _ _ _ hasked hsilent⟩
  · rw [hrun]
    have hquiet : Silent ctx w w₁ := Composes.trans ctx _ _ _ hasked hsilent
    have hpass : Adds (Announces got) ctx w₁ (passAdvert got ctx w₁).2 := Moves.moves ctx w₁
    exact .inr ⟨hok, Composes.trans ctx _ _ _ hquiet.adds hpass⟩

/-! ### What goes on -/

/-- The events that a node gives off when it gets a packet. -/
def newEvents (got : Packet) (ctx : Ctx) (w : World) : List Event :=
  (meshOnRecvPacket got ctx w).2.events.drop w.events.length

/-- A payload that goes on from here: that of the raw advert that is published, that of the packet
that is handed to the host, or that of the packet that is retransmitted. -/
inductive GoesOn (got : Packet) (ctx : Ctx) (w : World) : List UInt8 → Prop where
  | published {e : AdvertEvent} {ok : Bool} {read : Packet} (h : .advert e ∈ newEvents got ctx w)
      (hread : Packet.init.readFrom e.rawAdvert = some (ok, read)) :
      GoesOn got ctx w read.payloadBytes
  | handed {packet key time data}
      (h : .meshOnAdvertRecv packet key time data ∈ newEvents got ctx w) :
      GoesOn got ctx w packet.payloadBytes
  | resent (h : (meshOnRecvPacket got ctx w).1.1 ≠ actionRelease) :
      GoesOn got ctx w (meshOnRecvPacket got ctx w).1.2.payloadBytes

/-- This node would be a relay of the packet. -/
def Packet.hasHops (packet : Packet) : Prop :=
  packet.isRouteDirect = true ∧ 0 < packet.getPathHashCount

theorem newEvents_of_silent (h : Silent ctx w (meshOnRecvPacket got ctx w).2) :
    newEvents got ctx w = [] := by
  rw [newEvents, h.events, List.drop_length]

theorem newEvents_of_adds {P : Event → Prop} (h : Adds P ctx w (meshOnRecvPacket got ctx w).2) :
    ∀ e ∈ newEvents got ctx w, P e := by
  obtain ⟨new, hnew, hall⟩ := h.events
  rw [newEvents, hnew, List.drop_left]
  exact hall

/-- The events about an advert come from one that passes the check. -/
theorem announces_of_mem (htype : got.getPayloadType = payloadTypeAdvert) {e : Event}
    (h : e ∈ newEvents got ctx w) : Verified ctx got ∧ Announces got e := by
  rcases meshOnRecvPacket_advert_cases htype ctx w with ⟨-, hsilent⟩ | ⟨-, hsilent⟩ | ⟨hok, hadds⟩
  · rw [newEvents_of_silent hsilent] at h
    exact absurd h List.not_mem_nil
  · rw [newEvents_of_silent hsilent] at h
    exact absurd h List.not_mem_nil
  · exact ⟨hok, newEvents_of_adds hadds e h⟩

/-- What goes on is the payload as it came. -/
theorem goesOn_eq (htype : got.getPayloadType = payloadTypeAdvert) (henc : got.Encodable)
    {bytes : List UInt8} (h : GoesOn got ctx w bytes) : bytes = got.payloadBytes := by
  cases h with
  | published h hread =>
    obtain ⟨hok, hannounces⟩ := announces_of_mem htype h
    cases hannounces with
    | advert =>
      have hlen : got.payloadBytes.length = got.payloadLen := Packet.length_payloadBytes henc
      have hlong : 100 ≤ got.payloadLen := hok.1
      obtain ⟨-, -, read, hread', hload⟩ := readFrom_rawAdvertCopy henc
        ⟨htype, rfl, hlen.symm, hlen.trans_le henc.payloadLen_le⟩ (by omega) Packet.init
      rw [Packet.announcement, hread'] at hread
      obtain ⟨-, rfl⟩ := Prod.mk.injEq .. ▸ Option.some.inj hread
      exact hload.payloadBytes_eq
  | handed h =>
    obtain ⟨-, hannounces⟩ := announces_of_mem htype h
    cases hannounces
    rfl
  | resent h =>
    have hsame := sameLoad_of_resent h
    rw [Packet.payloadBytes, hsame.payload, hsame.payloadLen]
    rfl

/-- What is no relay's goes on only when it passes the check. -/
theorem verified_of_goesOn (htype : got.getPayloadType = payloadTypeAdvert) {bytes : List UInt8}
    (h : GoesOn got ctx w bytes) (hhops : ¬got.hasHops) : Verified ctx got := by
  cases h with
  | published h => exact (announces_of_mem htype h).1
  | handed h => exact (announces_of_mem htype h).1
  | resent h =>
    rcases meshOnRecvPacket_advert_cases htype ctx w with ⟨hhop, -⟩ | ⟨hrelease, -⟩ | ⟨hok, -⟩
    · exact absurd hhop hhops
    · exact absurd hrelease h
    · exact hok

end

/-! ### One signature, one advert -/

section

variable {packet packet' : Packet} {ctx : Ctx}

/-- What is checked is determined by the key and the signature. -/
theorem checkedBytes_unique (hone : ctx.OneMessage) (hok : Verified ctx packet)
    (hok' : Verified ctx packet') (hkey : packet.advertKey = packet'.advertKey)
    (hsignature : packet.advertSignature = packet'.advertSignature) :
    packet.checkedBytes = packet'.checkedBytes := by
  have hmessage : packet.advertMessage = packet'.advertMessage := by
    have hok₂ := hok'.2
    rw [← hkey, ← hsignature] at hok₂
    exact hone _ _ _ _ hok.2 hok₂
  have htime : packet.advertTime.length = packet'.advertTime.length := by
    rw [Packet.advertTime, Packet.advertTime, Buf.length_slice, Buf.length_slice]
  rw [Packet.advertMessage, Packet.advertMessage, hkey, List.append_assoc, List.append_assoc]
    at hmessage
  obtain ⟨htimes, hdata⟩ := List.append_inj (List.append_cancel_left hmessage) htime
  rw [Packet.checkedBytes, Packet.checkedBytes, hkey, htimes, hsignature, hdata]

/-- The key stands first. -/
theorem advertKey_of_checkedBytes (h : packet.checkedBytes = packet'.checkedBytes) :
    packet.advertKey = packet'.advertKey := by
  rw [Packet.checkedBytes, Packet.checkedBytes, List.append_assoc, List.append_assoc,
    List.append_assoc, List.append_assoc] at h
  have hlen : packet.advertKey.bytes.length = packet'.advertKey.bytes.length := by
    rw [Buf.length_bytes, Buf.length_bytes]
  exact Buf.ext (List.append_inj h hlen).1

/-- The same advert with another byte after the first 132. -/
def Packet.tampered (packet : Packet) : Packet :=
  { packet with payload := packet.payload.set 132 (packet.payload.get 132 + 1) }

theorem slice_tampered {off len : ℕ} (h : off + len ≤ 132) :
    packet.tampered.payload.slice off len = packet.payload.slice off len :=
  Buf.slice_store_below _ (Nat.le_of_ble_eq_true rfl) h

/-- It passes the check as the first does. -/
theorem verified_tampered (hok : Verified ctx packet) :
    Verified ctx packet.tampered ∧ packet.tampered.advertKey = packet.advertKey ∧
      packet.tampered.advertSignature = packet.advertSignature := by
  have hkey : packet.tampered.advertKey = packet.advertKey := by
    rw [Packet.advertKey, slice_tampered (by decide)]
    rfl
  have htime : packet.tampered.advertTime = packet.advertTime := slice_tampered (by decide)
  have hsignature : packet.tampered.advertSignature = packet.advertSignature :=
    slice_tampered (by decide)
  have hdata : packet.tampered.advertData = packet.advertData :=
    slice_tampered (by show 100 + min (packet.payloadLen - 100) 32 ≤ 132; omega)
  refine ⟨⟨hok.1, ?_⟩, hkey, hsignature⟩
  rw [Packet.advertMessage, hkey, htime, hsignature, hdata]
  exact hok.2

theorem payloadBytes_tampered (hlong : 132 < packet.payloadLen) :
    packet.tampered.payloadBytes ≠ packet.payloadBytes := by
  have hone : 1 ≤ packet.payloadLen - 132 := Nat.le_sub_of_add_le' hlong
  have hnew : packet.tampered.payload.slice 132 1 = [packet.payload.get 132 + 1] :=
    Buf.slice_store_self _ (Nat.le_of_ble_eq_true rfl)
  have hold : packet.payload.slice 132 1 = [packet.payload.get 132] := by
    rw [Buf.slice_succ _ (by decide), Buf.slice_zero]
  intro h
  have hat := congrArg (fun bytes => (bytes.drop 132).take 1) h
  simp only [Packet.payloadBytes, Buf.drop_slice, Buf.take_slice, Nat.zero_add] at hat
  rw [show packet.tampered.payloadLen = packet.payloadLen from rfl, min_eq_left hone, hnew, hold]
    at hat
  have hbyte : packet.payload.get 132 + 1 = packet.payload.get 132 := (List.cons.inj hat).1
  have hnat := congrArg UInt8.toNat hbyte
  rw [UInt8.toNat_add] at hnat
  change ((packet.payload.get 132).toNat + 1) % 256 = _ at hnat
  omega

end

/-! ### The result -/

/-- **Signed adverts.** What a node publishes, hands over or retransmits of an advert is what passed
its signature check if and only if the payload has at most 132 bytes and, where the node is a relay
on the way of a direct packet, the signature happens to be good. Two such adverts that pass the
check under one signature are the same exactly when their keys are, and they are when a signature is
good under one key only; of an advert with more bytes there is another that passes. -/
theorem adverts_signed_iff (ctx : Ctx) :
    (∀ got w, got.getPayloadType = payloadTypeAdvert → got.Encodable →
      (∀ e ∈ newEvents got ctx w, Verified ctx got ∧ Announces got e) ∧
      ((∃ bytes, GoesOn got ctx w bytes) →
        ((∀ bytes, GoesOn got ctx w bytes → Verified ctx got ∧ bytes = got.checkedBytes) ↔
          got.payloadLen ≤ 132 ∧ (got.hasHops → Verified ctx got)))) ∧
    (ctx.OneMessage → ∀ got got', got.Encodable → got'.Encodable → Verified ctx got →
      Verified ctx got' → got.advertSignature = got'.advertSignature →
      got.payloadLen ≤ 132 → got'.payloadLen ≤ 132 →
      (got.payloadBytes = got'.payloadBytes ↔ got.advertKey = got'.advertKey) ∧
        (ctx.OneKey → got.payloadBytes = got'.payloadBytes)) ∧
    ∀ got, Verified ctx got → 132 < got.payloadLen →
      Verified ctx got.tampered ∧ got.tampered.advertKey = got.advertKey ∧
        got.tampered.advertSignature = got.advertSignature ∧
        got.tampered.payloadBytes ≠ got.payloadBytes := by
  refine ⟨?_, ?_, ?_⟩
  · intro got w htype henc
    refine ⟨fun e he => announces_of_mem htype he, ?_⟩
    rintro ⟨bytes₀, hgoes₀⟩
    constructor
    · intro h
      obtain ⟨hok, hbytes⟩ := h _ hgoes₀
      rw [goesOn_eq htype henc hgoes₀] at hbytes
      exact ⟨(payloadBytes_eq_checkedBytes_iff henc hok.1).mp hbytes, fun _ => hok⟩
    · rintro ⟨hlen, hhop⟩ bytes hgoes
      have hok : Verified ctx got := by
        by_cases hhops : got.hasHops
        · exact hhop hhops
        · exact verified_of_goesOn htype hgoes hhops
      rw [goesOn_eq htype henc hgoes]
      exact ⟨hok, (payloadBytes_eq_checkedBytes_iff henc hok.1).mpr hlen⟩
  · intro hone got got' henc henc' hok hok' hsignature hlen hlen'
    have hiff : got.payloadBytes = got'.payloadBytes ↔ got.advertKey = got'.advertKey := by
      rw [(payloadBytes_eq_checkedBytes_iff henc hok.1).mpr hlen,
        (payloadBytes_eq_checkedBytes_iff henc' hok'.1).mpr hlen']
      exact ⟨advertKey_of_checkedBytes, fun hkey =>
        checkedBytes_unique hone hok hok' hkey hsignature⟩
    exact ⟨hiff, fun hkey => hiff.mpr (hkey _ _ _ _ _ hok.2 (hsignature ▸ hok'.2))⟩
  · intro got hok hlong
    obtain ⟨hok', hkey, hsignature⟩ := verified_tampered hok
    exact ⟨hok', hkey, hsignature, payloadBytes_tampered hlong⟩

/-- A CHAT node that takes one message for signed. -/
def Ctx.knowing : Ctx :=
  { Ctx.forwarding with ed25519Check := fun _ _ message => message == advertPacket.advertMessage }

theorem adverts_signed_a :
    GoesOn advertPacket .knowing { World.boot with initialized := true } advertPacket.payloadBytes ∧
      (∀ bytes, GoesOn advertPacket .knowing { World.boot with initialized := true } bytes →
        Verified .knowing advertPacket ∧ bytes = advertPacket.checkedBytes) ∧
      ∀ got, got.Encodable → Verified .knowing got → got.payloadLen ≤ 132 →
        got.advertSignature = advertPacket.advertSignature →
        got.advertKey = advertPacket.advertKey → got.payloadBytes = advertPacket.payloadBytes := by
  have htype : advertPacket.getPayloadType = payloadTypeAdvert := by decide
  have henc : advertPacket.Encodable := ⟨by decide, by decide⟩
  have hok : Verified .knowing advertPacket := by decide +kernel
  have hone : Ctx.knowing.OneMessage := fun _ _ _ _ h h' =>
    (eq_of_beq h).trans (eq_of_beq h').symm
  have hhops : ¬advertPacket.hasHops := fun h => absurd h.1 (by decide)
  have hgoes : GoesOn advertPacket .knowing { World.boot with initialized := true }
      advertPacket.payloadBytes := by
    have hresent := @GoesOn.resent advertPacket .knowing { World.boot with initialized := true }
      (by decide +kernel)
    rwa [goesOn_eq htype henc hresent] at hresent
  obtain ⟨hall, hpair, -⟩ := adverts_signed_iff .knowing
  refine ⟨hgoes, ((hall _ _ htype henc).2 ⟨_, hgoes⟩).mpr ⟨by decide, fun h => absurd h hhops⟩, ?_⟩
  intro got henc' hok' hlen hsignature hkey
  exact (hpair hone got advertPacket henc' henc hok' hok hsignature hlen (by decide)).1.mpr hkey

/-- A flood with an advert of 133 bytes, and a direct advert on its way past this node. -/
theorem adverts_unsigned :
    (¬∀ bytes, GoesOn { advertPacket with payloadLen := 133 } .trusting
        { World.boot with initialized := true } bytes →
      bytes = { advertPacket with payloadLen := 133 }.checkedBytes) ∧
    ¬∀ bytes, GoesOn { advertPacket with header := 0x12, pathLen := 1 } .forwarding
        { World.boot with initialized := true } bytes →
      Verified .forwarding { advertPacket with header := 0x12, pathLen := 1 } := by
  constructor
  · intro h
    have hlen := congrArg List.length (h _ (.resent (by decide +kernel)))
    exact absurd hlen (by decide +kernel)
  · intro h
    exact absurd (h _ (.resent (by decide +kernel))) (by decide +kernel)

end Meshcore
